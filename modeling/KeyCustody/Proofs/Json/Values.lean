import KeyCustody.Proofs.Json.ReadBack

/-!
Values of any shape. `Readable levels` are the values that the reader gives when it may open that
many lists and objects inside one another and every number is whole; each of them is read again
from both of its written forms.
-/
namespace KeyCustody.Json

open Text

/-- Every number in the value is a whole one of 64 bits, which is kept exactly. -/
inductive Value.IsWhole : Value → Prop where
  | null : IsWhole .null
  | bool (b : Bool) : IsWhole (.bool b)
  | text (s : String) : IsWhole (.text s)
  | integer (n : Int) : IsWhole (.number (.integer n))
  | array {vs : List Value} (items : ∀ v ∈ vs, IsWhole v) : IsWhole (.array vs)
  | object {ms : Members} (members : ∀ m ∈ ms, IsWhole m.2) : IsWhole (.object ms)

inductive Value.Readable : Nat → Value → Prop where
  | null (levels : Nat) : Readable levels .null
  | bool (levels : Nat) (b : Bool) : Readable levels (.bool b)
  | text (levels : Nat) (s : String) : Readable levels (.text s)
  | integer (levels : Nat) {n : Int} (fits : Fits n) : Readable levels (.number (.integer n))
  | array {levels : Nat} {vs : List Value} (items : ∀ v ∈ vs, Readable levels v) :
      Readable (levels + 1) (.array vs)
  | object {levels : Nat} {ms : Members} (sorted : ms.IsSorted)
      (members : ∀ m ∈ ms, Readable levels m.2) : Readable (levels + 1) (.object ms)

section Reading

variable {α : Type}

/-- A property of what has been read so far that each member keeps holds of the whole object. -/
theorem membersFrom_induction {member : String → α → Bytes → Except Fault (α × Bytes)}
    {holds : α → Prop}
    (keeps : ∀ name a input b rest, holds a → member name a input = .ok (b, rest) → holds b)
    {fuel : Nat} {first : Bool} {start final : α} {input rest : Bytes} (begun : holds start)
    (read : membersFrom member fuel first start input = .ok (final, rest)) : holds final := by
  induction fuel generalizing first start input with
  | zero => cases read
  | succ fuel ih =>
    obtain ⟨next, -, after⟩ := (bind_ok_iff _ _ _).mp read
    cases next with
    | done left =>
      cases after
      exact begun
    | item left =>
      obtain ⟨⟨name, behind⟩, -, taken⟩ := (bind_ok_iff _ _ _).mp after
      obtain ⟨⟨held, behind⟩, stepped, others⟩ := (bind_ok_iff _ _ _).mp taken
      exact ih (keeps _ _ _ _ _ begun stepped) others

theorem itemsFrom_forall {item : Bytes → Except Fault (α × Bytes)} {holds : α → Prop}
    (gives : ∀ input a rest, item input = .ok (a, rest) → holds a) {fuel : Nat} {first : Bool}
    {found values : List α} {input rest : Bytes} (begun : ∀ a ∈ found, holds a)
    (read : itemsFrom item fuel first found input = .ok (values, rest)) :
    ∀ a ∈ values, holds a := by
  induction fuel generalizing first found input with
  | zero => cases read
  | succ fuel ih =>
    obtain ⟨next, -, after⟩ := (bind_ok_iff _ _ _).mp read
    cases next with
    | done left =>
      cases after
      intro a member
      exact begun a (List.mem_reverse.mp member)
    | item left =>
      obtain ⟨⟨value, behind⟩, taken, others⟩ := (bind_ok_iff _ _ _).mp after
      apply ih _ others
      intro a member
      rcases List.mem_cons.mp member with rfl | earlier
      · exact gives _ _ _ taken
      · exact begun a earlier

theorem keepMember_ok {read : Bytes → Except Fault (Value × Bytes)} {name : String}
    {held next : Members} {input rest : Bytes}
    (kept : keepMember read name held input = .ok (next, rest)) :
    ∃ behind v, takeColon input = .ok behind ∧ read behind = .ok (v, rest) ∧
      next = held.insert name v := by
  obtain ⟨behind, colon, taken⟩ := (bind_ok_iff _ _ _).mp kept
  obtain ⟨⟨v, left⟩, value, same⟩ := (bind_ok_iff _ _ _).mp taken
  cases same
  exact ⟨behind, v, colon, value, rfl⟩

theorem valueWith_ok {inner : Option (Bytes → Except Fault (Value × Bytes))} {input rest : Bytes}
    {v : Value} (read : valueWith inner input = .ok (v, rest)) :
    (∃ found, IsScalar found ∧ v = found.value) ∨
      (∃ next left vs, inner = some next ∧ items next left = .ok (vs, rest) ∧ v = .array vs) ∨
      (∃ next left ms, inner = some next ∧ members (keepMember next) [] left = .ok (ms, rest) ∧
        v = .object ms) := by
  unfold valueWith at read
  split at read
  · cases read
  split at read
  · cases inner with
    | none => cases read
    | some next =>
      obtain ⟨⟨vs, left⟩, listed, same⟩ := (bind_ok_iff _ _ _).mp read
      cases same
      exact .inr (.inl ⟨next, _, vs, rfl, listed, rfl⟩)
  split at read
  · cases inner with
    | none => cases read
    | some next =>
      obtain ⟨⟨ms, left⟩, listed, same⟩ := (bind_ok_iff _ _ _).mp read
      cases same
      exact .inr (.inr ⟨next, _, ms, rfl, listed, rfl⟩)
  · obtain ⟨⟨found, left⟩, scalar, same⟩ := (bind_ok_iff _ _ _).mp read
    cases same
    exact .inl ⟨found, isScalar_of_takeScalar scalar, rfl⟩

theorem readable_scalar {found : Found} (scalar : IsScalar found) (whole : found.value.IsWhole)
    (levels : Nat) : found.value.Readable levels := by
  cases scalar with
  | null => exact .null levels
  | bool b => exact .bool levels b
  | text s => exact .text levels s
  | integer fits => exact .integer levels fits
  | fraction x => cases whole

/-- A value that is read nests no deeper than the reader may go, and has its members in order. -/
theorem readable_of_value {levels : Nat} {input rest : Bytes} {v : Value}
    (read : value levels input = .ok (v, rest)) (whole : v.IsWhole) : v.Readable levels := by
  induction levels generalizing input rest v with
  | zero =>
    rcases valueWith_ok read with ⟨found, scalar, rfl⟩ | ⟨_, _, _, none, -⟩ | ⟨_, _, _, none, -⟩
    · exact readable_scalar scalar whole 0
    · cases none
    · cases none
  | succ levels ih =>
    rcases valueWith_ok read with ⟨found, scalar, rfl⟩ | ⟨_, left, vs, same, listed, rfl⟩ |
      ⟨_, left, ms, same, listed, rfl⟩
    · exact readable_scalar scalar whole (levels + 1)
    · cases same
      cases whole with
      | array allWhole =>
        have gives : ∀ input v rest, value levels input = .ok (v, rest) →
            v.IsWhole → v.Readable levels := fun _ _ _ read => ih read
        have none : ∀ v ∈ ([] : List Value), v.IsWhole → v.Readable levels := by
          intro v member
          cases member
        have each := itemsFrom_forall gives none listed
        exact .array fun v member => each v member (allWhole v member)
    · cases same
      cases whole with
      | object allWhole =>
        have kept : ms.IsSorted ∧ ∀ m ∈ ms, m.2.IsWhole → m.2.Readable levels := by
          apply membersFrom_induction _ _ listed
          · rintro name held input next rest ⟨sorted, each⟩ step
            obtain ⟨behind, v, -, read, rfl⟩ := keepMember_ok step
            refine ⟨Members.isSorted_insert sorted name v, ?_⟩
            intro m member
            rcases Members.mem_of_mem_insert member with rfl | old
            · exact ih read
            · exact each m old
          · refine ⟨List.Pairwise.nil, ?_⟩
            intro m member
            cases member
        exact .object kept.1 fun m member => kept.2 m member (allWhole m member)

end Reading

section Writing

theorem value_eq_valueWith (levels : Nat) : ∃ inner, value levels = valueWith inner := by
  cases levels with
  | zero => exact ⟨_, rfl⟩
  | succ levels => exact ⟨_, rfl⟩

theorem spells_scalar {cs : List Char} {found : Found} (spelled : SpellsScalar cs found)
    (levels : Nat) : Spells (value levels) cs found.value := by
  obtain ⟨mark, more, begins, front, taken⟩ := spelled
  obtain ⟨inner, same⟩ := value_eq_valueWith levels
  refine ⟨⟨mark, more, begins, front.notSpace, front.notClosing⟩, ?_⟩
  intro gap rest isGap stops
  rw [same, begins, valueWith, dropSpace_gap isGap, List.cons_append, dropSpace_mark front.notSpace]
  simp only
  rw [if_neg front.notList, if_neg front.notObject, taken rest stops]
  rfl

theorem spells_array {levels : Nat} {gap closing : List Char} (isGap : IsGap gap)
    (isClosing : IsGap closing) {texts : List (List Char)} {vs : List Value}
    (spelled : List.Forall₂ (Spells (value levels)) texts vs) :
    Spells (value (levels + 1)) ('[' :: (joined gap true texts ++ closing ++ [']']))
      (.array vs) := by
  apply Spells.of_mark (by decide) (by decide) (by decide)
  intro input rest _ opens
  rw [value, valueWith, opens]
  simp only
  rw [if_pos trivial, items_joined isGap isClosing spelled]
  rfl

theorem spells_object {levels : Nat} {gap closing : List Char} (isGap : IsGap gap)
    (isClosing : IsGap closing) {ms : List (String × List Char)} {held : Members}
    (reads : Reads (keepMember (value levels)) ms [] held) :
    Spells (value (levels + 1)) ('{' :: (joined gap true (ms.map memberText) ++ closing ++ ['}']))
      (.object held) := by
  apply Spells.of_mark (by decide) (by decide) (by decide)
  intro input rest _ opens
  rw [value, valueWith, opens]
  simp only
  rw [if_neg (by decide), if_pos trivial, members_joined isGap isClosing reads]
  rfl

theorem takeColon_written (cs : List Char) (rest : Bytes) :
    takeColon (octets (':' :: cs) ++ rest) = .ok (octets cs ++ rest) := by
  rw [octets_ascii (by decide), List.cons_append, takeColon, dropSpace_mark (by decide)]
  exact if_pos rfl

theorem reads_members {levels : Nat} {gap : List Char} (isGap : IsGap gap)
    {write : Value → List Char} {ms : Members}
    (spelled : ∀ m ∈ ms, Spells (value levels) (write m.2) m.2) (held : Members) :
    Reads (keepMember (value levels)) (ms.map fun m => (m.1, gap ++ write m.2)) held
      (held.insertAll ms) := by
  induction ms generalizing held with
  | nil => exact .nil held
  | cons m ms ih =>
    have others := ih (fun other member => spelled other (List.mem_cons_of_mem m member))
      (held.insert m.1 m.2)
    apply Reads.cons _ others
    intro rest stops
    have taken := (spelled m List.mem_cons_self).reads gap rest isGap stops
    rw [keepMember, takeColon_written, ok_bind, octets_append, List.append_assoc, taken]
    rfl

theorem compactItems_eq_joined (first : Bool) (vs : List Value) :
    compactItems first vs = joined [] first (vs.map Value.compactChars) := by
  induction vs generalizing first with
  | nil => rfl
  | cons v vs ih => rw [compactItems, ih, List.map_cons, joined, List.append_nil]

theorem compactMembers_eq_joined (first : Bool) (ms : Members) :
    compactMembers first ms =
      joined [] first ((ms.map fun m => (m.1, [] ++ m.2.compactChars)).map memberText) := by
  induction ms generalizing first with
  | nil => rfl
  | cons m ms ih =>
    rw [compactMembers, ih, List.map_cons, List.map_cons, joined, memberText]
    simp only [List.append_assoc, List.nil_append, List.cons_append]

theorem prettyItems_eq_joined (level : Nat) (first : Bool) (vs : List Value) :
    prettyItems level first vs =
      joined (newLine level) first (vs.map (Value.prettyChars level)) := by
  induction vs generalizing first with
  | nil => rfl
  | cons v vs ih => rw [prettyItems, ih, List.map_cons, joined]

theorem prettyMembers_eq_joined (level : Nat) (first : Bool) (ms : Members) :
    prettyMembers level first ms =
      joined (newLine level) first
        ((ms.map fun m => (m.1, [' '] ++ m.2.prettyChars level)).map memberText) := by
  induction ms generalizing first with
  | nil => rfl
  | cons m ms ih =>
    rw [prettyMembers, ih, List.map_cons, List.map_cons, joined, memberText]
    simp only [List.append_assoc, List.nil_append, List.cons_append]

inductive IsObjectText (write : Value → List Char) (ms : Members) : List Char → Prop where
  | intro {gap inner closing : List Char} (isGap : IsGap gap) (isInner : IsGap inner)
      (isClosing : IsGap closing) :
      IsObjectText write ms ('{' ::
        (joined gap true ((ms.map fun m => (m.1, inner ++ write m.2)).map memberText) ++
          closing ++ ['}']))

theorem isObjectText_compact (ms : Members) :
    IsObjectText Value.compactChars ms (Value.object ms).compactChars := by
  rw [Value.compactChars, compactMembers_eq_joined, ← List.append_nil (joined _ _ _)]
  exact .intro isGap_nil isGap_nil isGap_nil

theorem isObjectText_pretty (level : Nat) (ms : Members) :
    IsObjectText (Value.prettyChars (level + 1)) ms ((Value.object ms).prettyChars level) := by
  cases ms with
  | nil => exact .intro isGap_nil isGap_nil isGap_nil
  | cons m ms =>
    rw [Value.prettyChars, prettyMembers_eq_joined]
    exact .intro (isGap_newLine (level + 1)) isGap_blank (isGap_newLine level)

/-- The members may stand in any order, and of one name the last counts. -/
theorem IsObjectText.spells {write : Value → List Char} {ms : Members} {cs : List Char}
    (text : IsObjectText write ms cs) {levels : Nat}
    (spelled : ∀ m ∈ ms, Spells (value levels) (write m.2) m.2) :
    Spells (value (levels + 1)) cs (.object (Members.insertAll [] ms)) := by
  cases text with
  | intro isGap isInner isClosing =>
    exact spells_object isGap isClosing (reads_members isInner spelled [])

theorem spells_listed {levels : Nat} {write : Value → List Char} {vs : List Value}
    (spelled : ∀ v ∈ vs, Spells (value levels) (write v) v) :
    List.Forall₂ (Spells (value levels)) (vs.map write) vs := by
  rw [List.forall₂_map_left_iff, List.forall₂_same]
  exact spelled

theorem spells_compact {levels : Nat} {v : Value} (readable : v.Readable levels) :
    Spells (value levels) v.compactChars v := by
  induction readable with
  | null levels => exact spells_scalar spells_null levels
  | bool levels b => exact spells_scalar (spells_bool b) levels
  | text levels s => exact spells_scalar (spells_text s) levels
  | integer levels fits => exact spells_scalar (spells_integer fits) levels
  | @array levels vs _ ih =>
    have shown := spells_array isGap_nil isGap_nil (spells_listed ih)
    rw [List.append_nil, ← compactItems_eq_joined] at shown
    exact shown
  | @object levels ms sorted _ ih =>
    have shown := (isObjectText_compact ms).spells ih
    rw [sorted.insertAll_nil] at shown
    exact shown

theorem spells_pretty {levels : Nat} {v : Value} (readable : v.Readable levels) (level : Nat) :
    Spells (value levels) (v.prettyChars level) v := by
  induction readable generalizing level with
  | null levels => exact spells_scalar spells_null levels
  | bool levels b => exact spells_scalar (spells_bool b) levels
  | text levels s => exact spells_scalar (spells_text s) levels
  | integer levels fits => exact spells_scalar (spells_integer fits) levels
  | @array levels vs _ ih =>
    cases vs with
    | nil => exact spells_array isGap_nil isGap_nil .nil
    | cons v vs =>
      have each := spells_listed fun v member => ih v member (level + 1)
      have shown := spells_array (isGap_newLine (level + 1)) (isGap_newLine level) each
      rw [← prettyItems_eq_joined] at shown
      exact shown
  | @object levels ms sorted _ ih =>
    have shown := (isObjectText_pretty level ms).spells fun m member => ih m member (level + 1)
    rw [sorted.insertAll_nil] at shown
    exact shown

theorem spells_prettyArray {levels : Nat} {written vs : List Value}
    (spelled : List.Forall₂ (fun v read => Spells (value levels) (v.prettyChars 1) read)
      written vs) : Spells (value (levels + 1)) ((Value.array written).prettyChars 0) (.array vs) := by
  cases spelled with
  | nil => exact spells_array isGap_nil isGap_nil .nil
  | @cons v read written vs first others =>
    have each := List.forall₂_map_left_iff.mpr (List.Forall₂.cons first others)
    have shown := spells_array (isGap_newLine 1) (isGap_newLine 0) each
    rw [← prettyItems_eq_joined] at shown
    exact shown

structure Writes (write : Value → List Char) : Prop where
  text : ∀ s, write (.text s) = stringText s
  spells : ∀ {levels v}, v.Readable levels → Spells (value levels) (write v) v

theorem writes_compact : Writes Value.compactChars where
  text := fun s => by rw [Value.compactChars]
  spells := spells_compact

theorem writes_pretty (level : Nat) : Writes (Value.prettyChars level) where
  text := fun s => by rw [Value.prettyChars]
  spells := fun readable => spells_pretty readable level

theorem decode_ok_iff {α : Type} (read : Reader α) (input : Bytes) (a : α) :
    decode read input = .ok a ↔
      ∃ rest, read greatestDepth input = .ok (a, rest) ∧ dropSpace rest = [] := by
  rw [decode, bind_ok_iff]
  constructor
  · rintro ⟨⟨found, rest⟩, taken, after⟩
    by_cases ends : dropSpace rest = []
    · simp only [if_pos ends] at after
      cases after
      exact ⟨rest, taken, ends⟩
    · simp only [if_neg ends] at after
      cases after
  · rintro ⟨rest, taken, ends⟩
    exact ⟨(a, rest), taken, if_pos ends⟩

/-- A text that spells a value holds that value, also with white space behind. -/
theorem decode_spelled_gap {α : Type} {read : Reader α} {cs gap : List Char} {a : α}
    (spelled : Spells (read greatestDepth) cs a) (isGap : IsGap gap) :
    decode read (Text.encode (String.ofList (cs ++ gap))) = .ok a := by
  have stops : Stops (octets gap ++ []) := stops_gap isGap stops_nil
  have taken := spelled.reads [] (octets gap ++ []) isGap_nil stops
  rw [octets_nil, List.nil_append, List.append_nil] at taken
  rw [decode_ok_iff, encode_ofList, octets_append]
  refine ⟨octets gap, taken, ?_⟩
  have blank := dropSpace_gap isGap []
  rw [List.append_nil] at blank
  exact blank

/-- A text that spells a value and nothing else holds that value. -/
theorem decode_spelled {α : Type} {read : Reader α} {cs : List Char} {a : α}
    (spelled : Spells (read greatestDepth) cs a) :
    decode read (Text.encode (String.ofList cs)) = .ok a := by
  have bare := decode_spelled_gap spelled isGap_nil
  rw [List.append_nil] at bare
  exact bare

end Writing

end KeyCustody.Json
