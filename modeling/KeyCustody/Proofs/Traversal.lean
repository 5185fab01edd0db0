import Mathlib.Data.List.Forall2
import Mathlib.Data.List.Nodup

/-!
Lists that are walked in order. A map built from a list keeps the last entry of each name, and a
walk that may fail ends at the first item that does.
-/
namespace KeyCustody

section LastItem
variable {α : Type}

def IsLast (holds : α → Prop) (items : List α) (x : α) : Prop :=
  ∃ before after, items = before ++ x :: after ∧ holds x ∧ ∀ y ∈ after, ¬ holds y

theorem IsLast.mem {holds : α → Prop} {items : List α} {x : α} (last : IsLast holds items x) :
    x ∈ items := by
  obtain ⟨before, after, rfl, -, -⟩ := last
  simp

theorem IsLast.holds {holds : α → Prop} {items : List α} {x : α} (last : IsLast holds items x) :
    holds x := by
  obtain ⟨_, _, _, here, _⟩ := last
  exact here

-- A search from the end finds what a map holds after all insertions.
theorem find_reverse_iff (holds : α → Prop) [DecidablePred holds] (items : List α) (x : α) :
    items.reverse.find? (fun y => decide (holds y)) = some x ↔ IsLast holds items x := by
  rw [List.find?_eq_some_iff_append]
  simp only [decide_eq_true_eq, Bool.not_eq_true', decide_eq_false_iff_not]
  constructor
  · rintro ⟨here, later, earlier, split, none⟩
    refine ⟨earlier.reverse, later.reverse, ?_, here, ?_⟩
    · have reversed := congrArg List.reverse split
      simpa using reversed
    · intro y member
      exact none y (List.mem_reverse.mp member)
  · rintro ⟨before, after, rfl, here, none⟩
    refine ⟨here, after.reverse, before.reverse, by simp, ?_⟩
    intro y member
    exact none y (List.mem_reverse.mp member)

theorem find_reverse_none_iff (holds : α → Prop) [DecidablePred holds] (items : List α) :
    items.reverse.find? (fun y => decide (holds y)) = none ↔ ∀ x ∈ items, ¬ holds x := by
  simp

theorem exists_last_iff (holds : α → Prop) [DecidablePred holds] (items : List α) :
    (∃ x, IsLast holds items x) ↔ ∃ x ∈ items, holds x := by
  constructor
  · rintro ⟨x, last⟩
    exact ⟨x, last.mem, last.holds⟩
  · rintro ⟨x, member, here⟩
    cases found : items.reverse.find? (fun y => decide (holds y)) with
    | none =>
      have absent := List.find?_eq_none.mp found x (List.mem_reverse.mpr member)
      exact absurd here (by simpa using absent)
    | some y => exact ⟨y, (find_reverse_iff holds items y).mp found⟩

theorem IsLast.unique {holds : α → Prop} [DecidablePred holds] {items : List α} {x y : α}
    (left : IsLast holds items x) (right : IsLast holds items y) : x = y := by
  have atLeft := (find_reverse_iff holds items x).mpr left
  have atRight := (find_reverse_iff holds items y).mpr right
  exact Option.some.inj (atLeft.symm.trans atRight)

theorem isLast_iff_of_nodup {γ : Type} (label : α → γ) (items : List α)
    (distinct : (items.map label).Nodup) (name : γ) (x : α) :
    IsLast (fun y => label y = name) items x ↔ x ∈ items ∧ label x = name := by
  constructor
  · intro last
    exact ⟨last.mem, last.holds⟩
  · rintro ⟨member, named⟩
    obtain ⟨before, after, rfl⟩ := List.append_of_mem member
    rw [List.map_append, List.map_cons, List.nodup_middle, List.nodup_cons] at distinct
    refine ⟨before, after, rfl, named, ?_⟩
    intro y later same
    apply distinct.1
    rw [named, ← same]
    exact List.mem_append_right _ (List.mem_map_of_mem later)

end LastItem

section Walk
variable {α β ε : Type}

theorem ok_bind (a : α) (f : α → Except ε β) : (Except.ok a >>= f) = f a := rfl

theorem error_bind (failure : ε) (f : α → Except ε β) :
    (Except.error failure >>= f) = .error failure := rfl

theorem map_bind {γ : Type} (g : β → γ) (x : Except ε α) (f : α → Except ε β) :
    (x >>= f).map g = x >>= fun a => (f a).map g := by
  cases x <;> rfl

theorem bind_ok_iff (x : Except ε α) (f : α → Except ε β) (b : β) :
    (x >>= f) = .ok b ↔ ∃ a, x = .ok a ∧ f a = .ok b := by
  cases x with
  | error failure => simp [bind, Except.bind]
  | ok a => simp [ok_bind]

theorem walk_cons_ok_iff (f : α → Except ε β) (x : α) (rest : List α) (results : List β) :
    (x :: rest).mapM f = .ok results ↔
      ∃ y ys, f x = .ok y ∧ rest.mapM f = .ok ys ∧ results = y :: ys := by
  rw [List.mapM_cons]
  cases f x with
  | error failure => simp [bind, Except.bind]
  | ok y =>
    cases rest.mapM f with
    | error failure => simp [bind, Except.bind]
    | ok ys => simp [bind, Except.bind, pure, Except.pure, eq_comm]

theorem walk_ok_iff (f : α → Except ε β) (items : List α) (results : List β) :
    items.mapM f = .ok results ↔ List.Forall₂ (fun x y => f x = .ok y) items results := by
  induction items generalizing results with
  | nil => simp [pure, Except.pure, eq_comm]
  | cons x rest ih =>
    rw [walk_cons_ok_iff, List.forall₂_cons_left_iff]
    constructor
    · rintro ⟨y, ys, here, later, rfl⟩
      exact ⟨y, ys, here, (ih ys).mp later, rfl⟩
    · rintro ⟨y, ys, here, later, rfl⟩
      exact ⟨y, ys, here, (ih ys).mpr later, rfl⟩

theorem exists_related_iff (related : α → β → Prop) (items : List α) :
    (∃ results, List.Forall₂ related items results) ↔ ∀ x ∈ items, ∃ y, related x y := by
  induction items with
  | nil => simp
  | cons x rest ih =>
    simp only [List.forall₂_cons_left_iff, List.forall_mem_cons, ← ih]
    constructor
    · rintro ⟨_, y, ys, here, later, rfl⟩
      exact ⟨⟨y, here⟩, ys, later⟩
    · rintro ⟨⟨y, here⟩, ys, later⟩
      exact ⟨y :: ys, y, ys, here, later, rfl⟩

theorem related_congr {related other : α → β → Prop} {items : List α} (results : List β)
    (same : ∀ x ∈ items, ∀ y, related x y ↔ other x y) :
    List.Forall₂ related items results ↔ List.Forall₂ other items results := by
  induction items generalizing results with
  | nil => simp
  | cons x rest ih =>
    rw [List.forall_mem_cons] at same
    rw [List.forall₂_cons_left_iff, List.forall₂_cons_left_iff]
    simp only [same.1, ih _ same.2]

theorem exists_left_of_related {related : α → β → Prop} {items : List α} {results : List β}
    (all : List.Forall₂ related items results) (y : β) (member : y ∈ results) :
    ∃ x ∈ items, related x y := by
  induction all with
  | nil => cases member
  | @cons x _ items _ first rest ih =>
    rcases List.mem_cons.mp member with rfl | later
    · exact ⟨x, List.mem_cons_self, first⟩
    · obtain ⟨other, among, here⟩ := ih later
      exact ⟨other, List.mem_cons_of_mem x among, here⟩

theorem exists_walk_ok_iff (f : α → Except ε β) (items : List α) :
    (∃ results, items.mapM f = .ok results) ↔ ∀ x ∈ items, ∃ y, f x = .ok y := by
  simp only [walk_ok_iff]
  exact exists_related_iff _ items

/-- The failure of a walk is that of its first item that fails. -/
theorem walk_error_iff (f : α → Except ε β) (items : List α) (failure : ε) :
    items.mapM f = .error failure ↔
      ∃ before x after, items = before ++ x :: after ∧ f x = .error failure ∧
        ∀ y ∈ before, ∃ z, f y = .ok z := by
  induction items with
  | nil => simp [pure, Except.pure]
  | cons x rest ih =>
    rw [List.mapM_cons]
    cases here : f x with
    -- Nothing comes before the first item, so if it fails the split must be there.
    | error found =>
      constructor
      · intro failed
        have same : found = failure := by simpa [bind, Except.bind] using failed
        subst found
        exact ⟨[], x, rest, rfl, here, by simp⟩
      · rintro ⟨before, y, after, split, bad, fine⟩
        cases before with
        | nil =>
          obtain ⟨rfl, rfl⟩ := List.cons.inj split
          have same : found = failure := Except.error.inj (here.symm.trans bad)
          simp [bind, Except.bind, same]
        | cons z before =>
          obtain ⟨rfl, rfl⟩ := List.cons.inj split
          obtain ⟨w, good⟩ := fine x (by simp)
          exact absurd (here.symm.trans good) (by simp)
    | ok y =>
      have step : (rest.mapM f = .error failure) ↔
          ((do let y ← Except.ok y; let ys ← rest.mapM f; pure (y :: ys) : Except ε (List β)) =
            .error failure) := by
        cases rest.mapM f <;> simp [bind, Except.bind, pure, Except.pure]
      rw [← step, ih]
      constructor
      · rintro ⟨before, z, after, rfl, bad, fine⟩
        refine ⟨x :: before, z, after, rfl, bad, ?_⟩
        intro w member
        rcases List.mem_cons.mp member with rfl | earlier
        · exact ⟨y, here⟩
        · exact fine w earlier
      · rintro ⟨before, z, after, split, bad, fine⟩
        cases before with
        | nil =>
          obtain ⟨rfl, rfl⟩ := List.cons.inj split
          exact absurd (here.symm.trans bad) (by simp)
        | cons w before =>
          obtain ⟨rfl, rfl⟩ := List.cons.inj split
          exact ⟨before, z, after, rfl, bad, fun v member => fine v (by simp [member])⟩

end Walk

section Filtering
variable {α : Type}

/-- The first kept item that fails `good`, seen among the kept items and among all. -/
theorem filter_first_iff (kept : α → Bool) (good : α → Prop) (items : List α) (x : α) :
    (∃ before after, items.filter kept = before ++ x :: after ∧ ∀ y ∈ before, good y) ↔
      ∃ before after, items = before ++ x :: after ∧ kept x = true ∧
        ∀ y ∈ before, kept y = true → good y := by
  constructor
  · rintro ⟨before, after, split, fine⟩
    -- Between the front and the item lie only items that are not kept.
    obtain ⟨front, back, rfl, rfl, backKept⟩ := List.filter_eq_append_iff.mp split
    obtain ⟨passed, rest, rfl, none, here, -⟩ := List.filter_eq_cons_iff.mp backKept
    refine ⟨front ++ passed, rest, by simp, here, ?_⟩
    intro y member keep
    rcases List.mem_append.mp member with early | late
    · exact fine y (List.mem_filter.mpr ⟨early, keep⟩)
    · exact absurd keep (none y late)
  · rintro ⟨before, after, rfl, here, fine⟩
    refine ⟨before.filter kept, after.filter kept, ?_, ?_⟩
    · rw [List.filter_append, List.filter_cons_of_pos here]
    · intro y member
      obtain ⟨early, keep⟩ := List.mem_filter.mp member
      exact fine y early keep

theorem filter_own {γ : Type} [DecidableEq γ] (label : α → γ) (items : List α)
    (distinct : (items.map label).Nodup) (x : α) (member : x ∈ items) :
    items.filter (fun y => label y = label x) = [x] := by
  induction items with
  | nil => cases member
  | cons y rest ih =>
    rw [List.map_cons, List.nodup_cons] at distinct
    rcases List.mem_cons.mp member with rfl | later
    · rw [List.filter_cons_of_pos (by simp)]
      congr 1
      rw [List.filter_eq_nil_iff]
      intro other among same
      have labels : label other = label x := by simpa using same
      exact distinct.1 (labels ▸ List.mem_map_of_mem among)
    · have apart : label y ≠ label x := by
        intro same
        exact distinct.1 (same ▸ List.mem_map_of_mem later)
      rw [List.filter_cons_of_neg (by simpa using apart), ih distinct.2 later]

/-- A stable sort leaves items that are as good as each other in their order. -/
theorem filter_mergeSort (le : α → α → Bool) (trans : ∀ a b c, le a b → le b c → le a c)
    (total : ∀ a b, le a b || le b a) (chosen : α → Bool)
    (alike : ∀ a b, chosen a = true → chosen b = true → le a b = true) (items : List α) :
    (items.mergeSort le).filter chosen = items.filter chosen := by
  -- The chosen items are in order as they stand, so they come out of the sort as a sublist; it has
  -- all of them because sorting loses none.
  have tied : (items.filter chosen).Pairwise fun a b => le a b = true := by
    refine List.pairwise_of_forall_mem_list ?_
    intro a left b right
    exact alike a b (List.mem_filter.mp left).2 (List.mem_filter.mp right).2
  have inside : (items.filter chosen).Sublist (items.mergeSort le) :=
    List.sublist_mergeSort trans total tied List.filter_sublist
  have kept : (items.filter chosen).Sublist ((items.mergeSort le).filter chosen) := by
    have again := inside.filter chosen
    rw [List.filter_filter] at again
    simpa only [Bool.and_self] using again
  have size : (items.filter chosen).length = ((items.mergeSort le).filter chosen).length :=
    ((List.mergeSort_perm items le).filter chosen).length_eq.symm
  exact (kept.eq_of_length size).symm

end Filtering

end KeyCustody
