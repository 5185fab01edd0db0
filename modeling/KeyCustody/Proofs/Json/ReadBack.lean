import KeyCustody.Proofs.Json.Members
import KeyCustody.Proofs.Json.Scalars

/-!
A value that a reader gives is read again from either of its written forms. The two forms differ
only in the white space between tokens, so both are shown for lists and objects with any.
-/
namespace KeyCustody.Json

open Text

section Gaps

def IsGap (gap : List Char) : Prop :=
  ∀ c ∈ gap, c = ' ' ∨ c = '\n'

theorem isGap_nil : IsGap [] := by
  intro c member
  cases member

theorem isGap_newLine (level : Nat) : IsGap (newLine level) := by
  intro c member
  rcases List.mem_cons.mp member with rfl | indent
  · exact .inr rfl
  · exact .inl (List.eq_of_mem_replicate indent)

theorem isGap_blank : IsGap [' '] := by
  intro c member
  exact .inl (List.mem_singleton.mp member)

theorem dropSpace_gap {gap : List Char} (isGap : IsGap gap) (rest : Bytes) :
    dropSpace (octets gap ++ rest) = dropSpace rest := by
  induction gap with
  | nil => rfl
  | cons c gap ih =>
    have others := ih fun other member => isGap other (List.mem_cons_of_mem c member)
    rcases isGap c List.mem_cons_self with rfl | rfl
    all_goals
      rw [octets_ascii (by decide), List.cons_append, dropSpace,
        List.dropWhile_cons_of_pos (by decide)]
      exact others

theorem dropSpace_mark {mark : UInt8} (solid : isSpace mark = false) (rest : Bytes) :
    dropSpace (mark :: rest) = mark :: rest := by
  rw [dropSpace, List.dropWhile_cons_of_neg]
  rw [solid]
  decide

theorem stops_cons {mark : UInt8} (noDigit : isDigit mark = false) (noPoint : mark ≠ '.'.toUInt8)
    (noExponent : isExponentMark mark = false) (rest : Bytes) : Stops (mark :: rest) := by
  intro first member
  obtain rfl : mark = first := Option.some.inj member
  exact ⟨noDigit, noPoint, noExponent⟩

theorem stops_gap {gap : List Char} (isGap : IsGap gap) {rest : Bytes} (stops : Stops rest) :
    Stops (octets gap ++ rest) := by
  cases gap with
  | nil => exact stops
  | cons c gap =>
    rcases isGap c List.mem_cons_self with rfl | rfl
    all_goals
      rw [octets_ascii (by decide)]
      exact stops_cons (by decide) (by decide) (by decide) _

end Gaps

section Items

variable {α : Type}

structure Spells (read : Bytes → Except Fault (α × Bytes)) (cs : List Char) (a : α) : Prop where
  begins : ∃ mark more, octets cs = mark :: more ∧ isSpace mark = false ∧ mark ≠ ']'.toUInt8
  reads : ∀ gap rest, IsGap gap → Stops rest →
    read (octets gap ++ (octets cs ++ rest)) = .ok (a, rest)

/-- A reader that is told by its first character what follows. -/
theorem Spells.of_mark {read : Bytes → Except Fault (α × Bytes)} {c : Char} {cs : List Char} {a : α}
    (ascii : c.toNat < 0x80) (solid : isSpace c.toUInt8 = false)
    (notClosing : c.toUInt8 ≠ ']'.toUInt8)
    (reads : ∀ input rest, Stops rest → dropSpace input = c.toUInt8 :: (octets cs ++ rest) →
      read input = .ok (a, rest)) : Spells read (c :: cs) a := by
  have begins := octets_ascii ascii cs
  refine ⟨⟨_, _, begins, solid, notClosing⟩, ?_⟩
  intro gap rest isGap stops
  apply reads _ rest stops
  rw [begins, dropSpace_gap isGap, List.cons_append, dropSpace_mark solid]

def joined (gap : List Char) : Bool → List (List Char) → List Char
  | _, [] => []
  | first, cs :: more => (if first then [] else [',']) ++ gap ++ cs ++ joined gap false more

theorem length_le_joined (gap : List Char) (first : Bool) {texts : List (List Char)}
    (solid : ∀ cs ∈ texts, octets cs ≠ []) :
    texts.length ≤ (octets (joined gap first texts)).length := by
  induction texts generalizing first with
  | nil => exact Nat.zero_le _
  | cons cs more ih =>
    have positive := List.length_pos_iff.mpr (solid cs List.mem_cons_self)
    have others := ih false fun other member => solid other (List.mem_cons_of_mem cs member)
    simp only [joined, octets_append, List.length_append, List.length_cons]
    omega

theorem octets_joined_cons (gap cs : List Char) (first : Bool) (more : List (List Char))
    (rest : Bytes) :
    octets (joined gap first (cs :: more)) ++ rest =
      octets (if first then [] else [',']) ++ (octets gap ++
        (octets cs ++ (octets (joined gap false more) ++ rest))) := by
  simp only [joined, octets_append, List.append_assoc]

theorem octets_comma : octets [','] = [','.toUInt8] :=
  octets_singleton (by decide)

/-- A number among the texts ends where its text does. -/
theorem stops_joined (gap : List Char) (texts : List (List Char)) {rest : Bytes}
    (stops : Stops rest) : Stops (octets (joined gap false texts) ++ rest) := by
  cases texts with
  | nil => exact stops
  | cons cs more =>
    rw [octets_joined_cons, if_neg (by decide), octets_comma]
    exact stops_cons (by decide) (by decide) (by decide) _

theorem stops_bracket (rest : Bytes) : Stops (']'.toUInt8 :: rest) :=
  stops_cons (by decide) (by decide) (by decide) rest

theorem stops_brace (rest : Bytes) : Stops ('}'.toUInt8 :: rest) :=
  stops_cons (by decide) (by decide) (by decide) rest

theorem nextItem_closing (first : Bool) {gap : List Char} (isGap : IsGap gap) (rest : Bytes) :
    nextItem first (octets gap ++ ']'.toUInt8 :: rest) = .ok (.done rest) := by
  rw [nextItem, dropSpace_gap isGap, dropSpace_mark (by decide)]
  exact if_pos rfl

theorem nextItem_written (first : Bool) {gap : List Char} (isGap : IsGap gap) {mark : UInt8}
    (solid : isSpace mark = false) (notClosing : mark ≠ ']'.toUInt8) (rest : Bytes) :
    nextItem first (octets (if first then [] else [',']) ++ (octets gap ++ mark :: rest)) =
      .ok (.item (mark :: rest)) := by
  cases first with
  | true =>
    rw [if_pos rfl, octets_nil, List.nil_append, nextItem, dropSpace_gap isGap,
      dropSpace_mark solid]
    simp only
    rw [if_neg notClosing, if_pos trivial]
  | false =>
    rw [if_neg (by decide), octets_comma, List.singleton_append, nextItem,
      dropSpace_mark (by decide)]
    simp only
    rw [if_neg (by decide), if_neg (by decide), if_pos trivial, dropSpace_gap isGap,
      dropSpace_mark solid]
    exact if_neg notClosing

/-- Reading goes through the items one by one; those before are in `found`. -/
theorem itemsFrom_joined {item : Bytes → Except Fault (α × Bytes)} {gap closing : List Char}
    (isGap : IsGap gap) (isClosing : IsGap closing) {texts : List (List Char)} {values : List α}
    (spelled : List.Forall₂ (Spells item) texts values) (fuel : Nat) (enough : texts.length < fuel)
    (first : Bool) (found : List α) (rest : Bytes) :
    itemsFrom item fuel first found
        (octets (joined gap first texts) ++ (octets closing ++ ']'.toUInt8 :: rest)) =
      .ok (found.reverse ++ values, rest) := by
  induction spelled generalizing fuel first found with
  | nil =>
    obtain ⟨fuel, rfl⟩ := Nat.exists_eq_add_one_of_ne_zero (Nat.ne_of_gt enough)
    rw [joined, octets_nil, List.nil_append, itemsFrom, nextItem_closing first isClosing,
      List.append_nil]
    rfl
  | @cons cs value more values spells _ ih =>
    obtain ⟨fuel, rfl⟩ := Nat.exists_eq_add_one_of_ne_zero (Nat.ne_zero_of_lt enough)
    obtain ⟨mark, letters, begins, solid, notClosing⟩ := spells.begins
    have stops := stops_joined gap more (stops_gap isClosing (stops_bracket rest))
    have taken := spells.reads [] _ isGap_nil stops
    rw [octets_nil, List.nil_append, begins, List.cons_append] at taken
    rw [octets_joined_cons, begins, List.cons_append, itemsFrom,
      nextItem_written first isGap solid notClosing, ok_bind]
    simp only
    rw [taken, ok_bind, ih fuel (Nat.lt_of_succ_lt_succ enough), List.reverse_cons,
      List.append_assoc, List.singleton_append]

end Items

section Members

variable {α : Type}

def memberText (m : String × List Char) : List Char :=
  stringText m.1 ++ ':' :: m.2

theorem octets_memberText (m : String × List Char) :
    octets (memberText m) =
      '"'.toUInt8 :: (octets (m.1.toList.flatMap escapedChar ++ ['"']) ++ octets (':' :: m.2)) := by
  rw [memberText, octets_append, octets_stringText, List.cons_append]

inductive Reads (member : String → α → Bytes → Except Fault (α × Bytes)) :
    List (String × List Char) → α → α → Prop where
  | nil (start : α) : Reads member [] start start
  | cons {name : String} {cs : List Char} {ms : List (String × List Char)} {start next final : α}
      (step : ∀ rest, Stops rest →
        member name start (octets (':' :: cs) ++ rest) = .ok (next, rest))
      (others : Reads member ms next final) : Reads member ((name, cs) :: ms) start final

theorem Reads.append {member : String → α → Bytes → Except Fault (α × Bytes)}
    {ms ns : List (String × List Char)} {start next final : α} (left : Reads member ms start next)
    (right : Reads member ns next final) : Reads member (ms ++ ns) start final := by
  induction left with
  | nil _ => exact right
  | cons step _ ih => exact .cons step (ih right)

theorem nextMember_closing (first : Bool) {gap : List Char} (isGap : IsGap gap) (rest : Bytes) :
    nextMember first (octets gap ++ '}'.toUInt8 :: rest) = .ok (.done rest) := by
  rw [nextMember, dropSpace_gap isGap, dropSpace_mark (by decide)]
  exact if_pos rfl

theorem nextMember_written (first : Bool) {gap : List Char} (isGap : IsGap gap) (rest : Bytes) :
    nextMember first (octets (if first then [] else [',']) ++ (octets gap ++ '"'.toUInt8 :: rest)) =
      .ok (.item rest) := by
  cases first with
  | true =>
    rw [if_pos rfl, octets_nil, List.nil_append, nextMember, dropSpace_gap isGap,
      dropSpace_mark (by decide)]
    rfl
  | false =>
    rw [if_neg (by decide), octets_comma, List.singleton_append, nextMember,
      dropSpace_mark (by decide)]
    simp only
    rw [if_neg (by decide), if_neg (by decide), if_pos trivial, dropSpace_gap isGap,
      dropSpace_mark (by decide)]
    rfl

theorem membersFrom_joined {member : String → α → Bytes → Except Fault (α × Bytes)}
    {gap closing : List Char} (isGap : IsGap gap) (isClosing : IsGap closing)
    {ms : List (String × List Char)} {start final : α} (reads : Reads member ms start final)
    (fuel : Nat) (enough : ms.length < fuel) (first : Bool) (rest : Bytes) :
    membersFrom member fuel first start
        (octets (joined gap first (ms.map memberText)) ++
          (octets closing ++ '}'.toUInt8 :: rest)) =
      .ok (final, rest) := by
  induction reads generalizing fuel first with
  | nil start =>
    obtain ⟨fuel, rfl⟩ := Nat.exists_eq_add_one_of_ne_zero (Nat.ne_of_gt enough)
    rw [List.map_nil, joined, octets_nil, List.nil_append, membersFrom,
      nextMember_closing first isClosing]
    rfl
  | @cons name cs ms start next final step _ ih =>
    obtain ⟨fuel, rfl⟩ := Nat.exists_eq_add_one_of_ne_zero (Nat.ne_zero_of_lt enough)
    have stops := stops_joined gap (ms.map memberText)
      (stops_gap isClosing (stops_brace rest))
    rw [List.map_cons, octets_joined_cons, octets_memberText, List.cons_append, List.append_assoc,
      membersFrom, nextMember_written first isGap, ok_bind]
    simp only
    rw [takeString_written, ok_bind, step _ stops, ok_bind,
      ih fuel (Nat.lt_of_succ_lt_succ enough)]

end Members

section Shapes

variable {α : Type}

theorem items_joined {item : Bytes → Except Fault (α × Bytes)} {gap closing : List Char}
    (isGap : IsGap gap) (isClosing : IsGap closing) {texts : List (List Char)} {values : List α}
    (spelled : List.Forall₂ (Spells item) texts values) (rest : Bytes) :
    items item (octets (joined gap true texts ++ closing ++ [']']) ++ rest) =
      .ok (values, rest) := by
  have solid : ∀ cs ∈ texts, octets cs ≠ [] := by
    intro cs member
    obtain ⟨value, -, spells⟩ := exists_left_of_related spelled.flip cs member
    obtain ⟨mark, more, begins, -⟩ := spells.begins
    rw [begins]
    exact List.cons_ne_nil mark more
  have bracket : octets [']'] = [']'.toUInt8] := octets_singleton (by decide)
  have enough := length_le_joined gap true solid
  simp only [items, octets_append, bracket, List.append_assoc, List.singleton_append]
  apply itemsFrom_joined isGap isClosing spelled
  rw [List.length_append]
  omega

theorem members_joined {member : String → α → Bytes → Except Fault (α × Bytes)}
    {gap closing : List Char} (isGap : IsGap gap) (isClosing : IsGap closing)
    {ms : List (String × List Char)} {start final : α} (reads : Reads member ms start final)
    (rest : Bytes) :
    members member start
        (octets (joined gap true (ms.map memberText) ++ closing ++ ['}']) ++ rest) =
      .ok (final, rest) := by
  have solid : ∀ cs ∈ ms.map memberText, octets cs ≠ [] := by
    intro cs listed
    obtain ⟨m, -, rfl⟩ := List.mem_map.mp listed
    rw [octets_memberText]
    exact List.cons_ne_nil _ _
  have brace : octets ['}'] = ['}'.toUInt8] := octets_singleton (by decide)
  have enough := length_le_joined gap true solid
  rw [List.length_map] at enough
  simp only [members, octets_append, brace, List.append_assoc, List.singleton_append]
  apply membersFrom_joined isGap isClosing reads
  rw [List.length_append]
  omega

end Shapes

end KeyCustody.Json
