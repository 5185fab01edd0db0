import KeyCustody.Json.Number

namespace KeyCustody.Json

inductive Value where
  | null
  | bool (b : Bool)
  | number (n : Number)
  | text (s : String)
  | array (items : List Value)
  | object (members : List (String × Value))

instance : Inhabited Value := ⟨.null⟩

abbrev Members := List (String × Value)

/-- Puts a member at its place by name; an earlier one of that name is replaced. Names are ordered
by their characters, which is also the order of their UTF-8 octets. -/
def Members.insert (name : String) (value : Value) : Members → Members
  | [] => [(name, value)]
  | (first, held) :: rest =>
    if name = first then (name, value) :: rest
    else if name < first then (name, value) :: (first, held) :: rest
    else (first, held) :: Members.insert name value rest

def Members.names (members : Members) : List String :=
  members.map (·.1)

theorem Members.mem_names_insert (name other : String) (value : Value) (members : Members) :
    other ∈ (members.insert name value).names ↔ other = name ∨ other ∈ members.names := by
  induction members with
  | nil => simp [insert, names]
  | cons member rest ih =>
    obtain ⟨first, held⟩ := member
    simp only [names] at ih
    simp only [insert]
    split
    · next same => simp [names, same]
    · split
      · simp [names]
      · simp only [names, List.map_cons, List.mem_cons, ih]
        exact or_left_comm

theorem Members.lookup_insert (name : String) (value : Value) (members : Members) :
    (members.insert name value).lookup name = some value := by
  induction members with
  | nil => simp [insert]
  | cons member rest ih =>
    obtain ⟨first, held⟩ := member
    simp only [insert]
    split
    · simp
    · next different =>
      split
      · simp
      · simp [List.lookup_cons, beq_eq_false_iff_ne.mpr different, ih]

end KeyCustody.Json
