import KeyCustody.Proofs.Aws.Precedence
import KeyCustody.Proofs.Aws.Reordering

/-!
What an attachment that fails leaves of the aliases. Up to the join nothing has been touched, and
the join goes through the aliases in order.
-/
namespace KeyCustody.Aws

variable {σ : Type}

section Naming

def IsUnnamed (a : Alias) (failure : Failure) : Prop :=
  a.keyArn = none ∧ failure = .missingPublicKey a.name

theorem requireKeyArn_error_iff (a : Alias) (failure : Failure) :
    requireKeyArn a = .error failure ↔ IsUnnamed a failure := by
  unfold requireKeyArn IsUnnamed
  cases a.keyArn with
  | none => simp [eq_comm]
  | some arn => simp

theorem requireKeyArns_error_iff (aliases : List Alias) (failure : Failure) :
    aliases.mapM requireKeyArn = .error failure ↔ FirstFailing IsUnnamed aliases failure := by
  rw [walk_firstFailing_iff]
  simp only [requireKeyArn_error_iff]

end Naming

section Joining
variable (withPoint : Bool) (fetched : List FetchedKey)

/-- What becomes of an alias that gets its key: the public key of the last fetched key of its name
and, if asked for, the point of that. All else stays as it was. -/
def Attached (a result : Alias) : Prop :=
  ∃ arn key point, a.keyArn = some arn ∧ IsLast (fun key => key.id = arn) fetched key ∧
    PointSaid withPoint (PublicKey.normalizeString key.publicKey) a.point point ∧
    result = { a with publicKey := some (PublicKey.normalizeString key.publicKey), point }

theorem attached_iff {a : Alias} {arn : String} (named : a.keyArn = some arn) (result : Alias) :
    attachKey withPoint fetched arn a = .ok result ↔ Attached withPoint fetched a result := by
  have same : { a with keyArn := some arn } = a := by rw [← named]
  have enriched := attachKey_ok_iff withPoint fetched arn a result
  rw [same] at enriched
  rw [enriched]
  constructor
  · rintro ⟨key, last, point, said, rfl⟩
    exact ⟨arn, key, point, named, last, said, by simp only [← named]⟩
  · rintro ⟨other, key, point, found, last, said, rfl⟩
    obtain rfl := Option.some.inj (named.symm.trans found)
    exact ⟨key, last, point, said, by simp only [← named]⟩

def IsLeft (a : Alias) (failure : Failure) : Prop :=
  ∃ arn, a.keyArn = some arn ∧ IsUnjoined withPoint fetched arn failure

theorem isLeft_iff {a : Alias} {arn : String} (named : a.keyArn = some arn) (failure : Failure) :
    attachKey withPoint fetched arn a = .error failure ↔ IsLeft withPoint fetched a failure := by
  rw [attachKey_error_iff]
  constructor
  · intro unjoined
    exact ⟨arn, named, unjoined⟩
  · rintro ⟨other, found, unjoined⟩
    obtain rfl := Option.some.inj (named.symm.trans found)
    exact unjoined

def JoinedUpTo (aliases after : List Alias) (failure : Failure) : Prop :=
  ∃ before a behind results, aliases = before ++ a :: behind ∧
    List.Forall₂ (Attached withPoint fetched) before results ∧
    IsLeft withPoint fetched a failure ∧ after = results ++ a :: behind

theorem not_joinedUpTo_nil (after : List Alias) (failure : Failure) :
    ¬ JoinedUpTo withPoint fetched [] after failure := by
  rintro ⟨before, a, behind, results, split, -⟩
  simp at split

theorem joinedUpTo_cons_iff (a : Alias) (rest after : List Alias) (failure : Failure) :
    JoinedUpTo withPoint fetched (a :: rest) after failure ↔
      IsLeft withPoint fetched a failure ∧ after = a :: rest ∨
      ∃ joined others, Attached withPoint fetched a joined ∧
        JoinedUpTo withPoint fetched rest others failure ∧ after = joined :: others := by
  constructor
  · rintro ⟨before, other, behind, results, split, done, stuck, rfl⟩
    cases done with
    | nil =>
      obtain ⟨rfl, rfl⟩ := List.cons.inj split
      exact .inl ⟨stuck, rfl⟩
    | @cons _ joined before results first later =>
      obtain ⟨rfl, rfl⟩ := List.cons.inj split
      exact .inr ⟨joined, _, first, ⟨before, other, behind, results, rfl, later, stuck, rfl⟩, rfl⟩
  · rintro (⟨stuck, rfl⟩ | ⟨joined, _, first, ⟨before, other, behind, results, split⟩, rfl⟩)
    · exact ⟨[], a, rest, [], rfl, .nil, stuck, rfl⟩
    · obtain ⟨rfl, later, stuck, rfl⟩ := split
      exact ⟨a :: before, other, behind, joined :: results, rfl, .cons first later, stuck, rfl⟩

theorem attachKeys_failed_iff (aliases : List Alias) (arns : List String)
    (named : aliases.map (·.keyArn) = arns.map some) (after : List Alias) (failure : Failure) :
    attachKeys withPoint fetched (aliases.zip arns) = ⟨after, some failure⟩ ↔
      JoinedUpTo withPoint fetched aliases after failure := by
  unfold attachKeys
  induction aliases generalizing arns after with
  | nil => simp [attachEach, not_joinedUpTo_nil]
  | cons a aliases ih =>
    cases arns with
    | nil => simp at named
    | cons arn arns =>
      rw [List.map_cons, List.map_cons, List.cons.injEq] at named
      obtain ⟨here, later⟩ := named
      have size := congrArg List.length later
      rw [List.length_map, List.length_map] at size
      have untouched : (aliases.zip arns).map Prod.fst = aliases :=
        List.map_fst_zip (Nat.le_of_eq size)
      simp only [joinedUpTo_cons_iff, ← attached_iff withPoint fetched here,
        ← isLeft_iff withPoint fetched here, ← ih arns later, List.zip_cons_cons,
        attachEach_cons_failed_iff, List.map_cons, untouched]

example : attachKeys false [{ id := "K1", publicKey := " MFYw\n", usage := "SIGN_VERIFY" }]
    [({ name := "alias/a", target := "1" }, "K1"), ({ name := "alias/b", target := "2" }, "K2")] =
    ⟨[{ name := "alias/a", target := "1", publicKey := some "MFYw" },
      { name := "alias/b", target := "2" }], some (.missingPublicKey "K2")⟩ := by
  rfl

end Joining

section Runs
variable (p : Provider σ) (settings : Settings) (withPoint : Bool) (s : Session σ)

/-- Either some reply is unfit, and the aliases are as they were, or keys are joined to them. -/
theorem attachment_eq_iff (aliases : List Alias) (arns : List String) (replies : List Reply)
    (answered : arns.length = replies.length) (result : Attachment) :
    attachment settings withPoint aliases arns replies = result ↔
      (∃ failure, FirstFailing IsUnfit ((arns.map settings.getPublicKey).zip replies) failure ∧
        result = ⟨aliases, some failure⟩) ∨
      ∃ fetched, List.Forall₂ (Prints FetchedKey.record.reader) replies fetched ∧
        (∀ key ∈ fetched, IsSigningKey key) ∧
        attachKeys withPoint fetched (aliases.zip arns) = result := by
  have commanded : (arns.map settings.getPublicKey).length = replies.length := by
    rw [List.length_map, answered]
  have accepts := fun keys =>
    acceptKeys_iff (arns.map settings.getPublicKey) replies keys commanded
  have refuses := acceptKeys_failure_iff (arns.map settings.getPublicKey) replies
  simp only [attachment]
  rcases judged : acceptKeys ((arns.map settings.getPublicKey).zip
      (List.zipWith printed (arns.map settings.getPublicKey) replies)) with ⟨keys, found⟩
  rw [judged] at accepts refuses
  simp only [← accepts, ← refuses, ← and_assoc]
  cases found with
  | none => simp
  | some found => simp [eq_comm]

/-- What is left of some aliases when their attachment fails, with its failure. The first that
counts are those of the aliases themselves, then come those of the fetching commands, one for each
alias, and of what they print; only then is anything joined. -/
inductive Abandoned (aliases : List Alias) : List Alias → Failure → Prop where
  | unnamed {failure : Failure} (first : FirstFailing IsUnnamed aliases failure) :
    Abandoned aliases aliases failure
  | unfit {arns : List String} {failure : Failure} (named : aliases.map (·.keyArn) = arns.map some)
    (first : FirstFailing IsUnfit ((arns.map settings.getPublicKey).zip
      (s.replies p (arns.map settings.getPublicKey))) failure) :
    Abandoned aliases aliases failure
  | unjoined {arns : List String} {fetched : List FetchedKey} {after : List Alias}
    {failure : Failure} (named : aliases.map (·.keyArn) = arns.map some)
    (told : List.Forall₂ (Prints FetchedKey.record.reader)
      (s.replies p (arns.map settings.getPublicKey)) fetched)
    (signing : ∀ key ∈ fetched, IsSigningKey key)
    (joined : JoinedUpTo withPoint fetched aliases after failure) :
    Abandoned aliases after failure

theorem attachment_failed_iff {aliases : List Alias} {arns : List String}
    (named : aliases.map (·.keyArn) = arns.map some) (after : List Alias) (failure : Failure) :
    attachment settings withPoint aliases arns (s.replies p (arns.map settings.getPublicKey)) =
        ⟨after, some failure⟩ ↔ Abandoned p settings withPoint s aliases after failure := by
  have answered : arns.length = (s.replies p (arns.map settings.getPublicKey)).length :=
    ((length_replies ..).trans (List.length_map _)).symm
  have only : ∀ {others : List String}, aliases.map (·.keyArn) = others.map some → arns = others :=
    fun same =>
    (List.map_inj_right fun _ _ => Option.some.inj).mp (named.symm.trans same)
  rw [attachment_eq_iff settings withPoint aliases arns _ answered]
  simp only [attachKeys_failed_iff withPoint _ aliases arns named]
  constructor
  · rintro (⟨found, first, same⟩ | ⟨fetched, told, signing, joined⟩)
    · cases same
      exact .unfit named first
    · exact .unjoined named told signing joined
  · intro abandoned
    cases abandoned with
    | unnamed first =>
      have done := (requireKeyArns_ok_iff aliases arns).mpr named
      cases done.symm.trans ((requireKeyArns_error_iff aliases failure).mpr first)
    | unfit same first =>
      obtain rfl := only same
      exact .inl ⟨failure, first, rfl⟩
    | unjoined same told signing joined =>
      obtain rfl := only same
      exact .inr ⟨_, told, signing, joined⟩

/-- With an alias that names no key there is one way to fail, and nothing is asked for. -/
theorem abandoned_unnamed_iff {aliases : List Alias} {found : Failure}
    (names : aliases.mapM requireKeyArn = .error found) (after : List Alias) (failure : Failure) :
    Abandoned p settings withPoint s aliases after failure ↔ aliases = after ∧ found = failure := by
  have nameless : ∀ {arns : List String}, aliases.map (·.keyArn) ≠ arns.map some := by
    intro arns named
    cases names.symm.trans ((requireKeyArns_ok_iff aliases arns).mpr named)
  constructor
  · intro abandoned
    cases abandoned with
    | unnamed first =>
      have same := names.symm.trans ((requireKeyArns_error_iff aliases failure).mpr first)
      exact ⟨rfl, Except.error.inj same⟩
    | unfit named => exact absurd named nameless
    | unjoined named => exact absurd named nameless
  · rintro ⟨rfl, rfl⟩
    exact .unnamed ((requireKeyArns_error_iff aliases found).mp names)

theorem attachPublicKeys_unnamed {aliases : List Alias} {found : Failure}
    (names : aliases.mapM requireKeyArn = .error found) :
    ((attachPublicKeys p settings withPoint aliases).run s).1 = .ok ⟨aliases, some found⟩ := by
  unfold attachPublicKeys
  rw [names]
  rfl

/-- An attachment gives the aliases back in any case. Which they are when it fails, and with which
failure, depends on how far it has come. -/
theorem attachPublicKeys_failed (aliases : List Alias) :
    (∃ attached, ((attachPublicKeys p settings withPoint aliases).run s).1 = .ok attached) ∧
    ∀ after failure,
      ((attachPublicKeys p settings withPoint aliases).run s).1 = .ok ⟨after, some failure⟩ ↔
        Abandoned p settings withPoint s aliases after failure := by
  cases names : aliases.mapM requireKeyArn with
  | error found =>
    rw [attachPublicKeys_unnamed p settings withPoint s names]
    refine ⟨⟨_, rfl⟩, fun after failure => ?_⟩
    rw [abandoned_unnamed_iff p settings withPoint s names]
    simp
  | ok arns =>
    have named := (requireKeyArns_ok_iff aliases arns).mp names
    rw [attachPublicKeys_result p settings withPoint aliases arns s named]
    refine ⟨⟨_, rfl⟩, fun after failure => ?_⟩
    rw [Except.ok.injEq]
    exact attachment_failed_iff p settings withPoint s named after failure

end Runs

end KeyCustody.Aws
