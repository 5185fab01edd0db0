import KeyCustody.Json.Record
import KeyCustody.Proofs.Json.Values

/-!
Objects with known members, beside the same objects read as values of any shape. Both readings go
through the text member by member, so what one member keeps in common the whole object keeps.
-/
namespace KeyCustody.Json

open Text

section Strings

theorem value_of_quote (levels : Nat) {input rest left : Bytes} {s : String}
    (opens : dropSpace input = '"'.toUInt8 :: left) (read : takeString left = .ok (s, rest)) :
    value levels input = .ok (.text s, rest) := by
  obtain ⟨inner, same⟩ := value_eq_valueWith levels
  rw [same, valueWith, opens]
  simp only
  rw [if_neg (by decide), if_neg (by decide), takeScalar_quote read]
  rfl

theorem text_ok {levels : Nat} {input rest : Bytes} {s : String}
    (read : text levels input = .ok (s, rest)) :
    ∃ left, dropSpace input = '"'.toUInt8 :: left ∧ takeString left = .ok (s, rest) := by
  unfold text at read
  split at read
  · cases read
  · next mark left begins =>
    split at read
    · next quote =>
      subst quote
      exact ⟨left, begins, read⟩
    · cases read

theorem value_of_text {levels : Nat} {input rest : Bytes} {s : String}
    (read : text levels input = .ok (s, rest)) : value levels input = .ok (.text s, rest) := by
  obtain ⟨left, opens, taken⟩ := text_ok read
  exact value_of_quote levels opens taken

def nullable : Option String → Value
  | some s => .text s
  | none => .null

theorem dropSpace_dropSpace (input : Bytes) : dropSpace (dropSpace input) = dropSpace input := by
  induction input with
  | nil => rfl
  | cons mark rest ih =>
    by_cases space : isSpace mark = true
    · rw [dropSpace, dropSpace, List.dropWhile_cons_of_pos space]
      exact ih
    · rw [Bool.not_eq_true] at space
      rw [dropSpace_mark space, dropSpace_mark space]

theorem value_of_optional {levels : Nat} {input rest : Bytes} {found : Option String}
    (read : optional text levels input = .ok (found, rest)) :
    value levels input = .ok (nullable found, rest) := by
  unfold optional at read
  simp only at read
  split at read
  · next null =>
    obtain ⟨left, taken, same⟩ := (bind_ok_iff _ _ _).mp read
    cases same
    obtain ⟨inner, same⟩ := value_eq_valueWith levels
    cases opens : dropSpace input with
    | nil =>
      rw [opens] at null
      cases null
    | cons mark behind =>
      rw [opens] at null taken
      obtain rfl : mark = 'n'.toUInt8 := Option.some.inj null
      rw [takeLiteral, if_pos rfl] at taken
      rw [same, valueWith, opens]
      simp only
      rw [if_neg (by decide), if_neg (by decide), takeScalar, if_pos rfl, taken]
      rfl
  · obtain ⟨⟨s, left⟩, taken, same⟩ := (bind_ok_iff _ _ _).mp read
    cases same
    obtain ⟨left, opens, string⟩ := text_ok taken
    rw [dropSpace_dropSpace] at opens
    exact value_of_quote levels opens string

theorem spells_textField (levels : Nat) (s : String) : Spells (text levels) (stringText s) s := by
  apply Spells.of_mark (by decide) (by decide) (by decide)
  intro input rest _ opens
  rw [text, opens]
  simp only
  rw [if_pos trivial]
  exact takeString_written s rest

theorem spells_optionalField (levels : Nat) (s : String) :
    Spells (optional text levels) (stringText s) (some s) := by
  apply Spells.of_mark (by decide) (by decide) (by decide)
  intro input rest stops opens
  have taken : text levels (dropSpace input) = .ok (s, rest) := by
    rw [text, dropSpace_dropSpace, opens]
    exact takeString_written s rest
  have notNull : ¬ (dropSpace input).head? = some 'n'.toUInt8 := by
    rw [opens, List.head?_cons]
    decide
  rw [optional]
  simp only
  rw [if_neg notNull, taken]
  rfl

end Strings

section SideBySide

variable {α β : Type}

/-- What two readings have in common before each member they have in common at the end. -/
theorem membersFrom_simulates {left : String → α → Bytes → Except Fault (α × Bytes)}
    {right : String → β → Bytes → Except Fault (β × Bytes)} {related : α → β → Prop}
    (steps : ∀ name a b input next rest, related a b → left name a input = .ok (next, rest) →
      ∃ other, right name b input = .ok (other, rest) ∧ related next other)
    {fuel : Nat} {first : Bool} {a final : α} {b : β} {input rest : Bytes} (begun : related a b)
    (read : membersFrom left fuel first a input = .ok (final, rest)) :
    ∃ other, membersFrom right fuel first b input = .ok (other, rest) ∧ related final other := by
  induction fuel generalizing first a b input with
  | zero => cases read
  | succ fuel ih =>
    obtain ⟨next, begins, after⟩ := (bind_ok_iff _ _ _).mp read
    cases next with
    | done left =>
      cases after
      refine ⟨b, ?_, begun⟩
      rw [membersFrom, begins]
      rfl
    | item left =>
      obtain ⟨⟨name, behind⟩, named, taken⟩ := (bind_ok_iff _ _ _).mp after
      obtain ⟨⟨next, behind⟩, stepped, others⟩ := (bind_ok_iff _ _ _).mp taken
      obtain ⟨other, same, stillRelated⟩ := steps _ _ _ _ _ _ begun stepped
      obtain ⟨last, done, lastRelated⟩ := ih stillRelated others
      refine ⟨last, ?_, lastRelated⟩
      rw [membersFrom, begins, ok_bind]
      simp only
      rw [named, ok_bind, same, ok_bind, done]

namespace Record

variable {r : Record α}

theorem reader_ok {levels : Nat} {input rest : Bytes} {a : α} (keeps : r.keep.isSome = true)
    (read : r.reader (levels + 1) input = .ok (a, rest)) :
    ∃ left seen, dropSpace input = '{'.toUInt8 :: left ∧
      members (r.readMember levels) ⟨r.blank, []⟩ left = .ok (⟨a, seen⟩, rest) ∧
      r.missing? seen = none := by
  have noList : r.keep.isNone = false := by
    rw [Option.isNone_eq_false_iff]
    exact keeps
  unfold reader at read
  split at read
  · cases read
  · next mark left begins =>
    split at read
    · next brace =>
      subst brace
      obtain ⟨⟨part, behind⟩, listed, rest⟩ := (bind_ok_iff _ _ _).mp read
      simp only at rest
      split at rest
      · cases rest
      · next complete =>
        cases rest
        exact ⟨left, part.seen, begins, listed, complete⟩
    · rw [noList] at read
      simp at read

/-- A record that keeps unknown members is an object for the other reader too. -/
theorem exists_object_of_reader {related : Partial α → Members → Prop} {levels : Nat}
    (steps : ∀ name part held input next rest, related part held →
      r.readMember levels name part input = .ok (next, rest) →
      ∃ other, keepMember (value levels) name held input = .ok (other, rest) ∧ related next other)
    (begun : related ⟨r.blank, []⟩ []) (keeps : r.keep.isSome = true) {input rest : Bytes} {a : α}
    (read : r.reader (levels + 1) input = .ok (a, rest)) :
    ∃ held seen, value (levels + 1) input = .ok (.object held, rest) ∧ related ⟨a, seen⟩ held ∧
      r.missing? seen = none := by
  obtain ⟨left, seen, opens, listed, complete⟩ := reader_ok keeps read
  obtain ⟨held, kept, stillRelated⟩ := membersFrom_simulates steps begun listed
  refine ⟨held, seen, ?_, stillRelated, complete⟩
  rw [value, valueWith, opens]
  simp only
  rw [if_neg (by decide), if_pos trivial, members, kept]
  rfl

end Record

end SideBySide

section Fields

variable {α β : Type} {r : Record α}

theorem Field.map_ok {name : String} {required : Bool} {read : Reader β} {set : β → α → α}
    {levels : Nat} {input rest : Bytes} {change : α → α}
    (taken : (Field.map name required read set).read levels input = .ok (change, rest)) :
    ∃ found, read levels input = .ok (found, rest) ∧ change = set found := by
  obtain ⟨⟨found, left⟩, here, same⟩ := (bind_ok_iff _ _ _).mp taken
  cases same
  exact ⟨found, here, rfl⟩

theorem Spells.map {name : String} {required : Bool} {read : Reader β} {set : β → α → α}
    {levels : Nat} {cs : List Char} {found : β} (spelled : Spells (read levels) cs found) :
    Spells ((Field.map name required read set).read levels) cs (set found) := by
  refine ⟨spelled.begins, ?_⟩
  intro gap rest isGap stops
  rw [Field.map]
  simp only
  rw [spelled.reads gap rest isGap stops]
  rfl

namespace Record

theorem field?_eq_none_iff (r : Record α) (name : String) :
    r.field? name = none ↔ name ∉ r.fields.map (·.name) := by
  rw [field?, List.find?_eq_none, List.mem_map]
  simp

theorem readMember_field {field : Field α} {name : String} (known : r.field? name = some field)
    {part : Partial α} (fresh : name ∉ part.seen) {levels : Nat} {gap cs : List Char}
    {set : α → α} (isGap : IsGap gap) (spelled : Spells (field.read levels) cs set) {rest : Bytes}
    (stops : Stops rest) :
    r.readMember levels name part (octets (':' :: (gap ++ cs)) ++ rest) =
      .ok (⟨set part.record, name :: part.seen⟩, rest) := by
  rw [readMember, known]
  simp only
  rw [if_neg fresh, takeColon_written, ok_bind, octets_append, List.append_assoc,
    spelled.reads gap rest isGap stops]
  rfl

theorem readMember_kept {keep : String → Value → α → α} (keeps : r.keep = some keep)
    {name : String} (unknown : r.field? name = none) (part : Partial α) {levels : Nat}
    {gap cs : List Char} {v : Value} (isGap : IsGap gap) (spelled : Spells (value levels) cs v)
    {rest : Bytes} (stops : Stops rest) :
    r.readMember levels name part (octets (':' :: (gap ++ cs)) ++ rest) =
      .ok (⟨keep name v part.record, part.seen⟩, rest) := by
  rw [readMember, unknown]
  simp only
  rw [takeColon_written, ok_bind, keeps]
  simp only
  rw [octets_append, List.append_assoc, spelled.reads gap rest isGap stops]
  rfl

/-- The written form of one member sets its field. -/
theorem reads_field {field : Field α} {name : String} (known : r.field? name = some field)
    {part : Partial α} (fresh : name ∉ part.seen) {levels : Nat} {gap cs : List Char}
    {set : α → α} (isGap : IsGap gap) (spelled : Spells (field.read levels) cs set) :
    Reads (r.readMember levels) [(name, gap ++ cs)] part ⟨set part.record, name :: part.seen⟩ :=
  .cons (fun _ stops => readMember_field known fresh isGap spelled stops) (.nil _)

/-- The written forms of unknown members go where the record keeps them. -/
theorem reads_kept {keep : String → Value → α → α} (keeps : r.keep = some keep) {levels : Nat}
    {gap : List Char} (isGap : IsGap gap) {write : Value → List Char} {ms : Members}
    (unknown : ∀ m ∈ ms, r.field? m.1 = none)
    (spelled : ∀ m ∈ ms, Spells (value levels) (write m.2) m.2) (record : α) (seen : List String) :
    Reads (r.readMember levels) (ms.map fun m => (m.1, gap ++ write m.2)) ⟨record, seen⟩
      ⟨ms.foldl (fun record m => keep m.1 m.2 record) record, seen⟩ := by
  induction ms generalizing record with
  | nil => exact .nil _
  | cons m ms ih =>
    have others := ih (fun other member => unknown other (List.mem_cons_of_mem m member))
      (fun other member => spelled other (List.mem_cons_of_mem m member)) (keep m.1 m.2 record)
    apply Reads.cons _ others
    intro rest stops
    exact readMember_kept keeps (unknown m List.mem_cons_self) ⟨record, seen⟩ isGap
      (spelled m List.mem_cons_self) stops

theorem spells_reader {levels : Nat} {gap closing : List Char} (isGap : IsGap gap)
    (isClosing : IsGap closing) {ms : List (String × List Char)} {a : α} {seen : List String}
    (reads : Reads (r.readMember levels) ms ⟨r.blank, []⟩ ⟨a, seen⟩)
    (complete : r.missing? seen = none) :
    Spells (r.reader (levels + 1))
      ('{' :: (joined gap true (ms.map memberText) ++ closing ++ ['}'])) a := by
  apply Spells.of_mark (by decide) (by decide) (by decide)
  intro input rest _ opens
  rw [reader, opens]
  simp only
  rw [if_pos trivial, readMembers, members_joined isGap isClosing reads, ok_bind]
  simp only
  rw [complete]

end Record

end Fields

end KeyCustody.Json
