import KeyCustody.Json.Value
import KeyCustody.Proofs.Traversal

namespace KeyCustody.Json

namespace Members

def IsSorted (members : Members) : Prop :=
  members.Pairwise fun left right => left.1 < right.1

theorem IsSorted.distinct {members : Members} (sorted : members.IsSorted) :
    members.names.Nodup := by
  rw [names, List.Nodup, List.pairwise_map]
  apply List.Pairwise.imp _ sorted
  intro left right less same
  rw [same] at less
  exact String.lt_irrefl _ less

theorem IsSorted.filter {members : Members} (sorted : members.IsSorted)
    (kept : String × Value → Bool) : IsSorted (members.filter kept) :=
  List.Pairwise.filter kept sorted

theorem isSorted_insert {members : Members} (sorted : members.IsSorted) (name : String)
    (value : Value) : (members.insert name value).IsSorted := by
  induction members with
  | nil => exact List.pairwise_singleton _ _
  | cons member rest ih =>
    obtain ⟨first, held⟩ := member
    obtain ⟨least, others⟩ := List.pairwise_cons.mp sorted
    rw [insert]
    by_cases same : name = first
    · rw [if_pos same, same]
      exact List.pairwise_cons.mpr ⟨least, others⟩
    · rw [if_neg same]
      by_cases less : name < first
      · rw [if_pos less]
        refine List.pairwise_cons.mpr ⟨?_, sorted⟩
        intro other member
        rcases List.mem_cons.mp member with rfl | later
        · exact less
        · exact String.lt_trans less (least other later)
      · rw [if_neg less]
        have greater : first < name := by
          by_cases greater : first < name
          · exact greater
          · have equal := String.le_antisymm (String.not_lt.mp greater) (String.not_lt.mp less)
            exact absurd equal same
        refine List.pairwise_cons.mpr ⟨?_, ih others⟩
        intro other member
        have named := (mem_names_insert name other.1 value rest).mp (List.mem_map_of_mem member)
        rcases named with new | old
        · rw [new]
          exact greater
        · obtain ⟨known, inside, same⟩ := List.mem_map.mp old
          rw [← same]
          exact least known inside

theorem mem_of_mem_insert {name : String} {value : Value} {members : Members}
    {member : String × Value} (inside : member ∈ members.insert name value) :
    member = (name, value) ∨ member ∈ members := by
  induction members with
  | nil => exact .inl (List.mem_singleton.mp inside)
  | cons known rest ih =>
    obtain ⟨first, held⟩ := known
    rw [insert] at inside
    split at inside
    · rcases List.mem_cons.mp inside with new | old
      · exact .inl new
      · exact .inr (List.mem_cons_of_mem _ old)
    · split at inside
      · exact List.mem_cons.mp inside
      · rcases List.mem_cons.mp inside with old | later
        · rw [old]
          exact .inr List.mem_cons_self
        · exact (ih later).imp_right (List.mem_cons_of_mem _)

theorem lookup_insert_of_ne {name other : String} (different : other ≠ name) (value : Value)
    (members : Members) : (members.insert name value).lookup other = members.lookup other := by
  have passed : (other == name) = false := beq_eq_false_iff_ne.mpr different
  induction members with
  | nil => rw [insert, List.lookup_cons, passed]
  | cons member rest ih =>
    obtain ⟨first, held⟩ := member
    rw [insert]
    split
    · next same =>
      subst same
      rw [List.lookup_cons, List.lookup_cons, passed]
    · split
      · rw [List.lookup_cons, passed]
      · rw [List.lookup_cons, List.lookup_cons, ih]

theorem mem_names_append (name : String) (left right : Members) :
    name ∈ names (left ++ right) ↔ name ∈ left.names ∨ name ∈ right.names := by
  rw [names, List.map_append, List.mem_append]
  rfl

theorem distinct_append {left right : Members} (distinctLeft : left.names.Nodup)
    (distinctRight : right.names.Nodup) (apart : ∀ name ∈ left.names, name ∉ right.names) :
    (names (left ++ right)).Nodup := by
  rw [names, List.map_append, List.nodup_append]
  refine ⟨distinctLeft, distinctRight, ?_⟩
  rintro name first other second rfl
  exact apart name first second

theorem mem_of_lookup {members : Members} {name : String} {value : Value}
    (found : members.lookup name = some value) : (name, value) ∈ members := by
  obtain ⟨before, after, split, -⟩ := List.lookup_eq_some_iff.mp found
  rw [split]
  exact List.mem_append_right before List.mem_cons_self

theorem mem_iff_of_distinct {members : Members} (distinct : members.names.Nodup) (name : String)
    (value : Value) : (name, value) ∈ members ↔ members.lookup name = some value := by
  constructor
  · intro member
    obtain ⟨before, after, rfl⟩ := List.append_of_mem member
    refine List.lookup_eq_some_iff.mpr ⟨before, after, rfl, ?_⟩
    rintro ⟨other, held⟩ earlier
    rw [names, List.map_append, List.map_cons, List.nodup_middle, List.nodup_cons] at distinct
    rw [bne_iff_ne]
    intro same
    apply distinct.1
    rw [same]
    exact List.mem_append_left _ (List.mem_map.mpr ⟨_, earlier, rfl⟩)
  · exact mem_of_lookup

theorem lookup_eq_none_iff (members : Members) (name : String) :
    members.lookup name = none ↔ name ∉ members.names := by
  rw [List.lookup_eq_none_iff, names, List.mem_map]
  simp only [bne_iff_ne, not_exists, not_and]
  constructor
  · rintro absent member inside rfl
    exact absent member inside rfl
  · rintro absent member inside rfl
    exact absent member inside rfl

/-- Members in order are what their names hold. -/
theorem IsSorted.ext {left right : Members} (sortedLeft : left.IsSorted)
    (sortedRight : right.IsSorted) (same : ∀ name, left.lookup name = right.lookup name) :
    left = right := by
  have once : ∀ {members : Members}, members.IsSorted → members.Nodup := fun sorted =>
    List.Nodup.of_map _ sorted.distinct
  have permuted : left.Perm right := by
    rw [List.perm_ext_iff_of_nodup (once sortedLeft) (once sortedRight)]
    rintro ⟨name, value⟩
    rw [mem_iff_of_distinct sortedLeft.distinct, mem_iff_of_distinct sortedRight.distinct, same]
  apply List.Perm.eq_of_pairwise _ sortedLeft sortedRight permuted
  intro a b _ _ less greater
  exact absurd greater (String.lt_asymm less)

theorem IsSorted.lookup_filter {members : Members} (sorted : members.IsSorted)
    (kept : String × Value → Bool) (name : String) :
    (members.filter kept).lookup name =
      (members.lookup name).filter fun value => kept (name, value) := by
  apply Option.ext
  intro value
  rw [← mem_iff_of_distinct (sorted.filter kept).distinct, List.mem_filter,
    mem_iff_of_distinct sorted.distinct, Option.filter_eq_some_iff]

def insertAll (held members : Members) : Members :=
  members.foldl (fun held member => held.insert member.1 member.2) held

theorem isSorted_insertAll {held : Members} (sorted : held.IsSorted) (members : Members) :
    (held.insertAll members).IsSorted := by
  induction members generalizing held with
  | nil => exact sorted
  | cons member rest ih => exact ih (isSorted_insert sorted member.1 member.2)

theorem lookup_insertAll (held : Members) {members : Members} (distinct : members.names.Nodup)
    (name : String) :
    (held.insertAll members).lookup name = (members.lookup name).or (held.lookup name) := by
  induction members generalizing held with
  | nil => rfl
  | cons member rest ih =>
    obtain ⟨first, value⟩ := member
    obtain ⟨fresh, others⟩ := List.nodup_cons.mp distinct
    change ((held.insert first value).insertAll rest).lookup name = _
    rw [ih _ others, List.lookup_cons]
    by_cases same : name = first
    · subst same
      have absent := (lookup_eq_none_iff rest name).mpr fresh
      rw [absent, lookup_insert, beq_self_eq_true]
      rfl
    · rw [lookup_insert_of_ne same, beq_eq_false_iff_ne.mpr same]

theorem mem_insertAll_nil_iff {members : Members} (distinct : members.names.Nodup)
    (member : String × Value) : member ∈ insertAll [] members ↔ member ∈ members := by
  have sorted := isSorted_insertAll List.Pairwise.nil members
  obtain ⟨name, value⟩ := member
  rw [mem_iff_of_distinct sorted.distinct, mem_iff_of_distinct distinct,
    lookup_insertAll [] distinct, List.lookup_nil, Option.or_none]

theorem IsSorted.insertAll_nil {members : Members} (sorted : members.IsSorted) :
    insertAll [] members = members := by
  apply IsSorted.ext (isSorted_insertAll List.Pairwise.nil members) sorted
  intro name
  rw [lookup_insertAll [] sorted.distinct]
  exact Option.or_none

end Members

end KeyCustody.Json
