import KeyCustody.Proofs.Json.Presentation
import Mathlib.Data.List.Pairwise

namespace KeyCustody.Json

/-- Texts of one record. `known` are the names that it looks at: their members correspond, in any
order, by values that are the same; under other names either text may have any values. -/
inductive Rewritten (known : List String) : Bytes → Bytes → Prop where
  | objects {pairs order : List (String × Bytes × Bytes)} {es es' : List (String × Bytes)}
      {before before' left right behind behind' : Bytes}
      (same : ∀ m ∈ pairs, SameValue m.2.1 m.2.2) (moved : pairs.Perm order)
      (knownLeft : (es.filter fun e => e.1 ∈ known) = pairs.map fun m => (m.1, m.2.1))
      (knownRight : (es'.filter fun e => e.1 ∈ known) = order.map fun m => (m.1, m.2.2))
      (othersLeft : ∀ e ∈ es, e.1 ∉ known → IsJson e.2)
      (othersRight : ∀ e ∈ es', e.1 ∉ known → IsJson e.2)
      (isLeft : IsObject (fun e => IsNamed e.1 e.2) es left)
      (isRight : IsObject (fun e => IsNamed e.1 e.2) es' right) (spaces : IsSpaces before)
      (spaces' : IsSpaces before') (ends : IsSpaces behind) (ends' : IsSpaces behind') :
      Rewritten known (before ++ (left ++ behind)) (before' ++ (right ++ behind'))

variable {α β γ : Type}

namespace Field

def Commutes (field other : Field α) : Prop :=
  ∀ levels levels' input input' rest rest' set set',
    field.read levels input = .ok (set, rest) → other.read levels' input' = .ok (set', rest') →
    ∀ a, set (set' a) = set' (set a)

instance : Std.Symm (Commutes (α := α)) where
  symm _ _ commutes _ _ _ _ _ _ _ _ read read' a :=
    (commutes _ _ _ _ _ _ _ _ read' read a).symm

theorem commutes_map {name other : String} {required required' : Bool} {read : Reader β}
    {read' : Reader γ} {set : β → α → α} {set' : γ → α → α}
    (commute : ∀ v w a, set v (set' w a) = set' w (set v a)) :
    Commutes (Field.map name required read set) (Field.map other required' read' set') := by
  intro levels levels' input input' rest rest' change change' taken taken' a
  obtain ⟨v, -, rfl⟩ := map_ok taken
  obtain ⟨w, -, rfl⟩ := map_ok taken'
  exact commute v w a

theorem respects_map {name : String} {required : Bool} {read : Reader β} {set : β → α → α}
    (respects : Respects read) : Respects (Field.map name required read set).read := by
  intro levels left right same
  obtain ⟨found, readsLeft, readsRight⟩ := respects levels same
  exact ⟨found.map set, readsLeft.map, readsRight.map⟩

end Field

namespace Record

structure IsOrderly (r : Record α) : Prop where
  skips : r.keep = none
  respects : ∀ field ∈ r.fields, Respects field.read
  commute : r.fields.Pairwise Field.Commutes

variable {r : Record α}

def change (r : Record α) (levels : Nat) (e : String × Bytes) : Option (α → α) :=
  (r.field? e.1).bind fun field => (field.read levels e.2).toOption.map (·.1)

def put (r : Record α) (levels : Nat) (part : Partial α) (e : String × Bytes) :
    Option (Partial α) :=
  if e.1 ∈ part.seen then none
  else (r.change levels e).map fun set => ⟨set part.record, e.1 :: part.seen⟩

def names (r : Record α) : List String :=
  r.fields.map (·.name)

def step (r : Record α) (levels : Nat) (part : Partial α) (e : String × Bytes) :
    Option (Partial α) :=
  if e.1 ∈ r.names then r.put levels part e else some part

theorem exists_field {name : String} (known : name ∈ r.names) :
    ∃ field ∈ r.fields, field.name = name ∧ r.field? name = some field := by
  cases found : r.field? name with
  | none => exact absurd known ((field?_eq_none_iff r name).mp found)
  | some field =>
    have named : field.name = name := by simpa using List.find?_some found
    exact ⟨field, List.mem_of_find?_eq_some found, named, rfl⟩

theorem change_of_readsAs {levels : Nat} {e : String × Bytes} {field : Field α}
    (known : r.field? e.1 = some field) {found : Option (α → α)}
    (reads : ReadsAs (field.read levels) e.2 found) : r.change levels e = found := by
  have alone := reads.reads [] [] isSpaces_nil stops_nil
  rw [List.nil_append, List.append_nil] at alone
  rw [change, known, Option.bind_some, alone]
  cases found <;> rfl

/-- Texts of one value change the same. -/
theorem IsOrderly.change_eq (orderly : r.IsOrderly) {name : String} (known : name ∈ r.names)
    {left right : Bytes} (same : SameValue left right) (levels : Nat) :
    r.change levels (name, left) = r.change levels (name, right) := by
  obtain ⟨field, member, -, found⟩ := exists_field known
  obtain ⟨_, readsLeft, readsRight⟩ := orderly.respects field member levels same
  rw [change_of_readsAs found readsLeft, change_of_readsAs found readsRight]

theorem stepsAs_known {levels : Nat} {e : String × Bytes} {field : Field α}
    (known : r.field? e.1 = some field) {found : Option (α → α)}
    (reads : ReadsAs (field.read levels) e.2 found) :
    StepsAs (r.readMember levels e.1) e.2 (r.put levels · e) := by
  intro part gap behind rest spaces spacesBehind stops
  rw [readMember, known]
  simp only [put, change_of_readsAs known reads]
  by_cases seen : e.1 ∈ part.seen
  · rw [if_pos seen, if_pos seen]
    rfl
  · rw [if_neg seen, if_neg seen, takeColon_spaces spaces, ok_bind, toOption_bind,
      reads.reads behind rest spacesBehind stops]
    cases found <;> rfl

theorem stepsAs_unknown (skips : r.keep = none) {levels : Nat} {e : String × Bytes}
    (unknown : r.field? e.1 = none) (isJson : IsJson e.2) :
    StepsAs (r.readMember levels e.1) e.2 some := by
  intro part gap behind rest spaces spacesBehind stops
  rw [readMember, unknown]
  simp only
  rw [takeColon_spaces spaces, ok_bind, skips]
  simp only
  rw [skipValue_isJson spacesBehind isJson stops]
  rfl

/-- Members that have fields are read, and all others are skipped. -/
theorem stepsAs_readMember (skips : r.keep = none) {levels : Nat} {e : String × Bytes}
    (readable : ∀ field, r.field? e.1 = some field →
      ∃ found, ReadsAs (field.read levels) e.2 found)
    (skippable : e.1 ∉ r.names → IsJson e.2) :
    StepsAs (r.readMember levels e.1) e.2 (r.step levels · e) := by
  unfold step
  by_cases known : e.1 ∈ r.names
  · obtain ⟨field, -, -, found⟩ := exists_field known
    obtain ⟨_, reads⟩ := readable field found
    simp only [if_pos known]
    exact stepsAs_known found reads
  · simp only [if_neg known]
    exact stepsAs_unknown skips ((field?_eq_none_iff r e.1).mpr known) (skippable known)

/-- An object is read as what its members make, one after the other. -/
theorem reader_isObject {levels : Nat} {es : List (String × Bytes)} {text : Bytes}
    (isObject : IsObject (fun e => IsNamed e.1 e.2) es text)
    (steps : ∀ e ∈ es, StepsAs (r.readMember levels e.1) e.2 (r.step levels · e)) {gap : Bytes}
    (spaces : IsSpaces gap) (behind rest : Bytes) (a : α) :
    r.reader (levels + 1) (gap ++ (text ++ behind)) = .ok (a, rest) ↔
      (∃ seen, es.foldlM (r.step levels) ⟨r.blank, []⟩ = some ⟨a, seen⟩ ∧
        r.missing? seen = none) ∧ rest = behind := by
  cases isObject with
  | @braces inner separated =>
    have taken := members_separated separated steps ⟨r.blank, []⟩ behind
    rw [reader, dropSpace_spaces spaces, List.cons_append, dropSpace_mark (by decide)]
    simp only
    rw [if_pos trivial, readMembers, List.append_assoc, List.singleton_append,
      ← toOption_eq_some_iff, toOption_bind, taken]
    cases es.foldlM (r.step levels) ⟨r.blank, []⟩ with
    | none => simp
    | some part =>
      obtain ⟨made, seen⟩ := part
      simp only [Option.map_some, Option.bind_some, Option.some.injEq, Partial.mk.injEq]
      cases missing : r.missing? seen with
      | none =>
        simp only [Except.toOption, Option.some.injEq, Prod.mk.injEq]
        constructor
        · rintro ⟨rfl, rfl⟩
          exact ⟨⟨seen, ⟨rfl, rfl⟩, missing⟩, rfl⟩
        · rintro ⟨⟨_, ⟨rfl, rfl⟩, -⟩, rfl⟩
          exact ⟨rfl, rfl⟩
      | some name =>
        constructor
        · intro none
          cases none
        · rintro ⟨⟨_, ⟨rfl, rfl⟩, complete⟩, rfl⟩
          rw [missing] at complete
          cases complete

section Rearranging

structure Alike (left right : Partial α) : Prop where
  record : left.record = right.record
  seen : left.seen.Perm right.seen

theorem alike_equivalence : Equivalence (Alike (α := α)) where
  refl _ := ⟨rfl, .refl _⟩
  symm alike := ⟨alike.record.symm, alike.seen.symm⟩
  trans first second := ⟨first.record.trans second.record, first.seen.trans second.seen⟩

theorem missing?_perm {seen seen' : List String} (perm : seen.Perm seen') :
    r.missing? seen = r.missing? seen' := by
  have same : ∀ name, seen.contains name = seen'.contains name := by
    intro name
    rw [List.contains_eq_mem, List.contains_eq_mem]
    exact decide_eq_decide.mpr perm.mem_iff
  simp only [missing?, same]

theorem put_eq_some_iff {levels : Nat} {part next : Partial α} {e : String × Bytes} :
    r.put levels part e = some next ↔ e.1 ∉ part.seen ∧
      ∃ set, r.change levels e = some set ∧ next = ⟨set part.record, e.1 :: part.seen⟩ := by
  unfold put
  by_cases seen : e.1 ∈ part.seen
  · simp [seen]
  · rw [if_neg seen, Option.map_eq_some_iff]
    constructor
    · rintro ⟨set, changed, rfl⟩
      exact ⟨seen, set, changed, rfl⟩
    · rintro ⟨-, set, changed, rfl⟩
      exact ⟨set, changed, rfl⟩

theorem put_respects {levels : Nat} {part part' next : Partial α} {e : String × Bytes}
    (alike : Alike part part') (done : r.put levels part e = some next) :
    ∃ other, r.put levels part' e = some other ∧ Alike next other := by
  obtain ⟨fresh, set, changed, rfl⟩ := put_eq_some_iff.mp done
  have fresh' : e.1 ∉ part'.seen := fun seen => fresh (alike.seen.mem_iff.mpr seen)
  refine ⟨_, put_eq_some_iff.mpr ⟨fresh', set, changed, rfl⟩, ?_, alike.seen.cons e.1⟩
  exact congrArg set alike.record

theorem change_eq_some {levels : Nat} {e : String × Bytes} {set : α → α}
    (changed : r.change levels e = some set) :
    ∃ field ∈ r.fields, field.name = e.1 ∧ ∃ rest, field.read levels e.2 = .ok (set, rest) := by
  obtain ⟨field, found, read⟩ := Option.bind_eq_some_iff.mp changed
  obtain ⟨⟨_, rest⟩, taken, rfl⟩ := Option.map_eq_some_iff.mp read
  have named : field.name = e.1 := by simpa using List.find?_some found
  exact ⟨field, List.mem_of_find?_eq_some found, named, rest, toOption_eq_some_iff.mp taken⟩

theorem IsOrderly.put_swap (orderly : r.IsOrderly) {levels : Nat} {part next final : Partial α}
    {x y : String × Bytes} (first : r.put levels part x = some next)
    (second : r.put levels next y = some final) :
    ∃ middle other, r.put levels part y = some middle ∧ r.put levels middle x = some other ∧
      Alike final other := by
  obtain ⟨freshX, setX, changedX, rfl⟩ := put_eq_some_iff.mp first
  obtain ⟨freshY, setY, changedY, rfl⟩ := put_eq_some_iff.mp second
  obtain ⟨different, freshY⟩ := not_or.mp (fun or => freshY (List.mem_cons.mpr or))
  have freshX' : x.1 ∉ y.1 :: part.seen := by
    rw [List.mem_cons, not_or]
    exact ⟨Ne.symm different, freshX⟩
  obtain ⟨field, member, named, rest, read⟩ := change_eq_some changedX
  obtain ⟨other, member', named', rest', read'⟩ := change_eq_some changedY
  have apart : field ≠ other := by
    rintro rfl
    exact different (named'.symm.trans named)
  have commutes := orderly.commute.forall member member' apart
  refine ⟨_, _, put_eq_some_iff.mpr ⟨freshY, setY, changedY, rfl⟩,
    put_eq_some_iff.mpr ⟨freshX', setX, changedX, rfl⟩, ?_, .swap _ _ _⟩
  exact (commutes _ _ _ _ _ _ _ _ read read' part.record).symm

/-- Only members with fields count. -/
theorem foldlM_step (levels : Nat) (es : List (String × Bytes)) (part : Partial α) :
    es.foldlM (r.step levels) part =
      (es.filter fun e => e.1 ∈ r.names).foldlM (r.put levels) part := by
  induction es generalizing part with
  | nil => rfl
  | cons e es ih =>
    rw [List.foldlM_cons, step]
    by_cases known : e.1 ∈ r.names
    · rw [if_pos known, List.filter_cons_of_pos (by simpa using known), List.foldlM_cons]
      congr
      funext next
      exact ih next
    · rw [if_neg known, List.filter_cons_of_neg (by simpa using known)]
      exact ih part

theorem foldlM_put_congr {levels : Nat} {ms : List (String × Bytes × Bytes)}
    (same : ∀ m ∈ ms, r.change levels (m.1, m.2.1) = r.change levels (m.1, m.2.2))
    (part : Partial α) :
    (ms.map fun m => (m.1, m.2.1)).foldlM (r.put levels) part =
      (ms.map fun m => (m.1, m.2.2)).foldlM (r.put levels) part := by
  induction ms generalizing part with
  | nil => rfl
  | cons m ms ih =>
    have here : r.put levels part (m.1, m.2.1) = r.put levels part (m.1, m.2.2) := by
      rw [put, put, same m List.mem_cons_self]
    rw [List.map_cons, List.map_cons, List.foldlM_cons, List.foldlM_cons, here]
    congr
    funext next
    exact ih (fun other member => same other (List.mem_cons_of_mem m member)) next

theorem IsOrderly.foldlM_put_perm (orderly : r.IsOrderly) {levels : Nat}
    {es es' : List (String × Bytes)} (perm : es.Perm es') {part final : Partial α}
    (ran : es.foldlM (r.put levels) part = some final) :
    ∃ other, es'.foldlM (r.put levels) part = some other ∧ Alike final other := by
  have respects : ∀ a b e next, Alike a b → r.put levels a e = some next →
      ∃ other, r.put levels b e = some other ∧ Alike next other :=
    fun _ _ _ _ alike done => put_respects alike done
  have swaps : ∀ x y a next final, True → r.put levels a x = some next →
      r.put levels next y = some final → ∃ middle other, r.put levels a y = some middle ∧
        r.put levels middle x = some other ∧ Alike final other :=
    fun _ _ _ _ _ _ first second => orderly.put_swap first second
  exact foldlM_perm alike_equivalence (fun _ _ => id) respects swaps perm
    (List.pairwise_of_forall fun _ _ => trivial) (alike_equivalence.refl part) ran

/-- Members that are read if they are known, and are values at least if they are not. -/
theorem stepsAs_members (skips : r.keep = none) (levels : Nat) {es ms : List (String × Bytes)}
    (known : (es.filter fun e => e.1 ∈ r.names) = ms)
    (readable : ∀ m ∈ ms, ∀ field ∈ r.fields, ∃ found, ReadsAs (field.read levels) m.2 found)
    (others : ∀ e ∈ es, e.1 ∉ r.names → IsJson e.2) :
    ∀ e ∈ es, StepsAs (r.readMember levels e.1) e.2 (r.step levels · e) := by
  intro e member
  refine stepsAs_readMember skips (fun field found => ?_) (others e member)
  have isName : e.1 ∈ r.names := by
    by_contra unknown
    rw [(field?_eq_none_iff r e.1).mpr unknown] at found
    cases found
  have listed : e ∈ es.filter fun e => e.1 ∈ r.names :=
    List.mem_filter.mpr ⟨member, decide_eq_true isName⟩
  rw [known] at listed
  exact readable e listed field (List.mem_of_find?_eq_some found)

/-- The text of a record may be rewritten: if it is read, it is read as before. -/
theorem IsOrderly.decode_rewritten (orderly : r.IsOrderly) {left right : Bytes}
    (rewritten : Rewritten r.names left right) {a : α} (read : decode r.reader left = .ok a) :
    decode r.reader right = .ok a := by
  cases rewritten with
  | @objects pairs order es es' before before' left right behind behind' same moved knownLeft
      knownRight othersLeft othersRight isLeft isRight spaces spaces' ends ends' =>
    have sameInOrder : ∀ m ∈ order, SameValue m.2.1 m.2.2 := fun m member =>
      same m (moved.mem_iff.mpr member)
    have stepsLeft := stepsAs_members orderly.skips 126 knownLeft
      (by
        intro e member field isField
        obtain ⟨m, among, rfl⟩ := List.mem_map.mp member
        obtain ⟨found, reads, -⟩ := orderly.respects field isField 126 (same m among)
        exact ⟨found, reads⟩)
      othersLeft
    have stepsRight := stepsAs_members orderly.skips 126 knownRight
      (by
        intro e member field isField
        obtain ⟨m, among, rfl⟩ := List.mem_map.mp member
        obtain ⟨found, -, reads⟩ := orderly.respects field isField 126 (sameInOrder m among)
        exact ⟨found, reads⟩)
      othersRight
    have changes : ∀ m ∈ order, r.change 126 (m.1, m.2.1) = r.change 126 (m.1, m.2.2) := by
      intro m member
      have listed : (m.1, m.2.2) ∈ es'.filter fun e => e.1 ∈ r.names := by
        rw [knownRight]
        exact List.mem_map_of_mem member
      have isName : m.1 ∈ r.names := of_decide_eq_true (List.mem_filter.mp listed).2
      exact orderly.change_eq isName (sameInOrder m member) 126
    rw [decode_ok_iff] at read ⊢
    obtain ⟨rest, taken, -⟩ := read
    obtain ⟨⟨seen, made, complete⟩, -⟩ :=
      (reader_isObject isLeft stepsLeft spaces behind rest a).mp taken
    -- The known members alone make the record, and they do so in any order.
    rw [foldlM_step, knownLeft] at made
    obtain ⟨⟨b, seen'⟩, remade, alike⟩ :=
      orderly.foldlM_put_perm (moved.map fun m => (m.1, m.2.1)) made
    obtain rfl : a = b := alike.record
    rw [foldlM_put_congr changes, ← knownRight, ← foldlM_step] at remade
    refine ⟨behind', ?_, ?_⟩
    · apply (reader_isObject isRight stepsRight spaces' behind' behind' a).mpr
      refine ⟨⟨seen', remade, ?_⟩, rfl⟩
      rw [← missing?_perm alike.seen]
      exact complete
    · have blank := dropSpace_spaces ends' []
      rw [List.append_nil] at blank
      exact blank

end Rearranging

end Record

end KeyCustody.Json
