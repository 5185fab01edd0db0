import Mathlib.Data.List.Perm.Subperm
import KeyCustody.Proofs.Aws.Inventory

/-!
Fetched keys are joined to aliases by name. When the names are all different, a batch that is
attached has one reply for each of them, and it makes no difference which command got which reply.
-/
namespace KeyCustody.Aws

variable {σ : Type}

section Named

theorem requireKeyArn_ok_iff (a : Alias) (arn : String) :
    requireKeyArn a = .ok arn ↔ a.keyArn = some arn := by
  unfold requireKeyArn
  cases a.keyArn with
  | none => simp
  | some found => simp

theorem requireKeyArns_ok_iff (aliases : List Alias) (arns : List String) :
    aliases.mapM requireKeyArn = .ok arns ↔ aliases.map (·.keyArn) = arns.map some := by
  rw [walk_ok_iff]
  induction aliases generalizing arns with
  | nil =>
    cases arns with
    | nil => simp
    | cons arn rest => simp
  | cons a aliases ih =>
    cases arns with
    | nil => simp
    | cons arn arns =>
      rw [List.forall₂_cons, ih, requireKeyArn_ok_iff, List.map_cons, List.map_cons,
        List.cons.injEq]

end Named

section Joining
variable (withPoint : Bool)

/-- An attachment sees the fetched keys only by their names. -/
theorem attachKeys_congr {keys others : List FetchedKey}
    (same : ∀ arn, keyNamed? keys arn = keyNamed? others arn) (pairs : List (Alias × String)) :
    attachKeys withPoint keys pairs = attachKeys withPoint others pairs := by
  have each : ∀ arn a, attachKey withPoint keys arn a = attachKey withPoint others arn a := by
    intro arn a
    unfold attachKey
    rw [same]
  simp only [attachKeys, each]

theorem attachKey_named {keys : List FetchedKey} {arn : String} {a result : Alias}
    (attached : attachKey withPoint keys arn a = .ok result) : arn ∈ keys.map (·.id) := by
  unfold attachKey at attached
  cases found : keyNamed? keys arn with
  | none =>
    rw [found] at attached
    cases attached
  | some key =>
    have last := (keyNamed_iff keys arn key).mp found
    exact List.mem_map.mpr ⟨key, last.mem, last.holds⟩

theorem attachKeys_named {keys : List FetchedKey} {pairs : List (Alias × String)}
    {results : List Alias} (attached : attachKeys withPoint keys pairs = ⟨results, none⟩) :
    ∀ pair ∈ pairs, pair.2 ∈ keys.map (·.id) := by
  have each := (attachEach_complete_iff _ _ pairs results).mp attached
  intro pair member
  obtain ⟨result, here⟩ := (exists_related_iff _ pairs).mp ⟨results, each⟩ pair member
  exact attachKey_named withPoint here

/-- As many keys as names, and every name among them, leave no room for any other key. -/
theorem names_perm {keys : List FetchedKey} {arns : List String} (distinct : arns.Nodup)
    (covered : ∀ arn ∈ arns, arn ∈ keys.map (·.id)) (size : keys.length = arns.length) :
    (keys.map (·.id)).Perm arns := by
  have inside : arns.Subperm (keys.map (·.id)) := List.subperm_of_subset distinct covered
  have few : (keys.map (·.id)).length ≤ arns.length := by
    rw [List.length_map]
    exact Nat.le_of_eq size
  exact (inside.perm_of_length_le few).symm

theorem keyNamed_perm {keys others : List FetchedKey} (distinct : (keys.map (·.id)).Nodup)
    (perm : others.Perm keys) (arn : String) : keyNamed? others arn = keyNamed? keys arn := by
  have othersDistinct : (others.map (·.id)).Nodup := (perm.map _).nodup_iff.mpr distinct
  apply Option.ext
  intro key
  rw [keyNamed_iff, keyNamed_iff, isLast_iff_of_nodup _ others othersDistinct,
    isLast_iff_of_nodup _ keys distinct, perm.mem_iff]

end Joining

section Replies
variable (settings : Settings) (withPoint : Bool)

/-- The keys that some replies name, if all are good: each once for every name that was asked for. -/
theorem attachment_names {aliases results : List Alias} {arns : List String} {replies : List Reply}
    {fetched : List FetchedKey} (paired : aliases.length = arns.length)
    (answered : arns.length = replies.length) (distinct : arns.Nodup)
    (told : List.Forall₂ (Prints FetchedKey.record.reader) replies fetched)
    (attached : attachKeys withPoint fetched (aliases.zip arns) = ⟨results, none⟩) :
    (fetched.map (·.id)).Perm arns := by
  have covered : ∀ arn ∈ arns, arn ∈ fetched.map (·.id) := by
    intro arn member
    rw [← List.map_snd_zip (Nat.le_of_eq paired.symm)] at member
    obtain ⟨pair, among, rfl⟩ := List.mem_map.mp member
    exact attachKeys_named withPoint attached pair among
  apply names_perm distinct covered
  rw [← told.length_eq, answered]

theorem attachment_perm {aliases results : List Alias} {arns : List String}
    {replies others : List Reply} (paired : aliases.length = arns.length)
    (answered : arns.length = replies.length) (distinct : arns.Nodup)
    (perm : others.Perm replies)
    (attached : attachment settings withPoint aliases arns replies = ⟨results, none⟩) :
    attachment settings withPoint aliases arns others = ⟨results, none⟩ := by
  obtain ⟨fetched, told, signing, joined⟩ :=
    (attachment_ok_iff settings withPoint aliases arns replies results answered).mp attached
  have names := attachment_names withPoint paired answered distinct told joined
  -- Reading the reordered replies gives the same keys, reordered.
  obtain ⟨reordered, retold, same⟩ := List.perm_comp_forall₂ perm told
  rw [attachment_ok_iff settings withPoint aliases arns others results
    (answered.trans perm.length_eq.symm)]
  refine ⟨reordered, retold, ?_, ?_⟩
  · intro key member
    exact signing key (same.mem_iff.mp member)
  · rw [← joined]
    apply attachKeys_congr
    exact keyNamed_perm (names.nodup_iff.mpr distinct) same

end Replies

section Runs
variable (p : Provider σ) (settings : Settings) (withPoint : Bool)

theorem attachPublicKeys_result (aliases : List Alias) (arns : List String) (s : Session σ)
    (named : aliases.map (·.keyArn) = arns.map some) :
    ((attachPublicKeys p settings withPoint aliases).run s).1 =
      .ok (attachment settings withPoint aliases arns
        (s.replies p (arns.map settings.getPublicKey))) := by
  obtain ⟨before, later, ran⟩ := run_attachPublicKeys p settings withPoint aliases arns s
    ((requireKeyArns_ok_iff aliases arns).mpr named)
  rw [ran]

/-- Aliases of different keys get their keys by name. A batch that is attached has named each of
them once, and any other provider that gives the same replies in whatever order leaves the same. -/
theorem attachPublicKeys_reordered (aliases results : List Alias) (arns : List String)
    (s : Session σ) (named : aliases.map (·.keyArn) = arns.map some) (distinct : arns.Nodup)
    (attached : ((attachPublicKeys p settings withPoint aliases).run s).1 = .ok ⟨results, none⟩) :
    (∃ fetched, List.Forall₂ (Prints FetchedKey.record.reader)
        (s.replies p (arns.map settings.getPublicKey)) fetched ∧
      (fetched.map (·.id)).Perm arns) ∧
    ∀ {τ : Type} (other : Provider τ) (t : Session τ),
      (t.replies other (arns.map settings.getPublicKey)).Perm
        (s.replies p (arns.map settings.getPublicKey)) →
      ((attachPublicKeys other settings withPoint aliases).run t).1 = .ok ⟨results, none⟩ := by
  have paired : aliases.length = arns.length := by
    have lengths := congrArg List.length named
    rwa [List.length_map, List.length_map] at lengths
  have answered : arns.length = (s.replies p (arns.map settings.getPublicKey)).length :=
    ((length_replies ..).trans (List.length_map _)).symm
  rw [attachPublicKeys_result p settings withPoint aliases arns s named, Except.ok.injEq] at attached
  constructor
  · obtain ⟨fetched, told, -, joined⟩ :=
      (attachment_ok_iff settings withPoint aliases arns _ results answered).mp attached
    exact ⟨fetched, told, attachment_names withPoint paired answered distinct told joined⟩
  · intro τ other t perm
    rw [attachPublicKeys_result other settings withPoint aliases arns t named,
      attachment_perm settings withPoint paired answered distinct perm attached]

end Runs

section TwoKeys

def replaying : Provider (List Reply) where
  answer _ replies files := (replies.headD (.error "no reply left"), replies.tail, files)

def fetchedText (arn publicKey : String) : String :=
  "\x7b\"KeyId\":\"" ++ arn ++ "\",\"PublicKey\":\"" ++ publicKey ++
  "\",\"KeySpec\":\"ECC_SECG_P256K1\",\"KeyUsage\":\"SIGN_VERIFY\"," ++
  "\"SigningAlgorithms\":[\"ECDSA_SHA_256\"]\x7d"

def fetchedReply (arn publicKey : String) : Reply :=
  .ok ⟨true, some 0, Text.encode (fetchedText arn publicKey), []⟩

def twoAliases : List Alias :=
  [{ name := "a", target := "K1", keyArn := some "arn:1" },
    { name := "b", target := "K2", keyArn := some "arn:2" }]

def twoAttached : List Alias :=
  [{ name := "a", target := "K1", keyArn := some "arn:1", publicKey := some "MFYw" },
    { name := "b", target := "K2", keyArn := some "arn:2", publicKey := some "MDYw" }]

set_option maxRecDepth 4000 in
theorem attachPublicKeys_reordered_twoKeys :
    ((attachPublicKeys replaying {} false twoAliases).run
      { provider := [fetchedReply "arn:1" "MFYw", fetchedReply "arn:2" "MDYw"] }).1 =
        .ok ⟨twoAttached, none⟩ ∧
    ((attachPublicKeys replaying {} false twoAliases).run
      { provider := [fetchedReply "arn:2" "MDYw", fetchedReply "arn:1" "MFYw"] }).1 =
        .ok ⟨twoAttached, none⟩ := by
  have straight : ((attachPublicKeys replaying {} false twoAliases).run
      { provider := [fetchedReply "arn:1" "MFYw", fetchedReply "arn:2" "MDYw"] }).1 =
        .ok ⟨twoAttached, none⟩ := rfl
  obtain ⟨-, anyOrder⟩ := attachPublicKeys_reordered replaying {} false twoAliases twoAttached
    ["arn:1", "arn:2"] _ rfl (by decide) straight
  exact ⟨straight, anyOrder replaying _ (List.Perm.swap ..)⟩

end TwoKeys

end KeyCustody.Aws
