import KeyCustody.Proofs.Aws.Precedence
import KeyCustody.Proofs.OctetOrder
import Mathlib.Data.List.Sort

namespace KeyCustody.Aws

section Sets

structure IsSetOf (texts names : List String) : Prop where
  ascending : names.Pairwise fun s t => Text.encode s < Text.encode t
  members : ∀ t, t ∈ names ↔ t ∈ texts

theorem pairwise_insertDistinct (s : String) {names : List String}
    (ascending : names.Pairwise (· < ·)) : (insertDistinct s names).Pairwise (· < ·) := by
  induction names with
  | nil => exact List.pairwise_singleton _ s
  | cons first rest ih =>
    rw [List.pairwise_cons] at ascending
    unfold insertDistinct
    by_cases same : s = first
    · rw [if_pos same]
      exact List.pairwise_cons.mpr ascending
    · rw [if_neg same]
      by_cases before : s < first
      · rw [if_pos before, List.pairwise_cons, List.forall_mem_cons]
        refine ⟨⟨before, ?_⟩, List.pairwise_cons.mpr ascending⟩
        intro t member
        exact String.lt_trans before (ascending.1 t member)
      · have after : first < s := by
          rcases Std.lt_trichotomy s first with less | equal | more
          · exact absurd less before
          · exact absurd equal same
          · exact more
        rw [if_neg before, List.pairwise_cons]
        refine ⟨?_, ih ascending.2⟩
        intro t member
        rcases (mem_insertDistinct s t rest).mp member with rfl | later
        · exact after
        · exact ascending.1 t later

theorem pairwise_distinct (texts : List String) : (distinct texts).Pairwise (· < ·) := by
  induction texts with
  | nil => exact List.Pairwise.nil
  | cons s rest ih => exact pairwise_insertDistinct s ih

theorem isSetOf_distinct (texts : List String) : IsSetOf texts (distinct texts) where
  ascending := (pairwise_distinct texts).imp fun less => (Text.encode_lt_iff _ _).mpr less
  members t := mem_distinct t texts

/-- A set is written in one way only. -/
theorem IsSetOf.eq_distinct {texts names : List String} (set : IsSetOf texts names) :
    names = distinct texts := by
  have ascending := set.ascending.imp fun less => (Text.encode_lt_iff _ _).mp less
  refine ascending.eq_of_mem_iff (pairwise_distinct texts) fun t => ?_
  rw [set.members, mem_distinct]

theorem distinct_congr {texts others : List String} (same : ∀ t, t ∈ others ↔ t ∈ texts) :
    distinct others = distinct texts := by
  have set := isSetOf_distinct others
  exact IsSetOf.eq_distinct ⟨set.ascending, fun t => (set.members t).trans (same t)⟩

end Sets

section Judging

inductive Objection (key : FetchedKey) : Mismatch → Prop where
  | spec (other : key.masterKeySpec.or key.keySpec ≠ some "ECC_SECG_P256K1") :
    Objection key ⟨"CustomerMasterKeySpec",
      (key.masterKeySpec.or key.keySpec).getD "<missing>", "ECC_SECG_P256K1"⟩
  | usage (spec : key.masterKeySpec.or key.keySpec = some "ECC_SECG_P256K1")
    (other : key.usage ≠ "SIGN_VERIFY") :
    Objection key ⟨"KeyUsage", key.usage, "SIGN_VERIFY"⟩
  | algorithms (spec : key.masterKeySpec.or key.keySpec = some "ECC_SECG_P256K1")
    (usage : key.usage = "SIGN_VERIFY")
    (other : ¬ (key.algorithms ≠ [] ∧ ∀ name ∈ key.algorithms, name = "ECDSA_SHA_256"))
    {names : List String} (set : IsSetOf key.algorithms names) :
    Objection key ⟨"SigningAlgorithms",
      "\x7b" ++ ", ".intercalate (names.map Text.quote) ++ "\x7d", "ECDSA_SHA_256"⟩

theorem objection_of_mismatch {key : FetchedKey} {m : Mismatch} (found : key.mismatch? = some m) :
    Objection key m := by
  unfold FetchedKey.mismatch? at found
  split at found
  · next other =>
    cases found
    exact .spec other
  · next spec =>
    split at found
    · next other =>
      cases found
      exact .usage (not_not.mp spec) other
    · next usage =>
      split at found
      · next other =>
        cases found
        exact .algorithms (not_not.mp spec) (not_not.mp usage)
          (fun single => other ((distinct_singleton_iff _ _).mpr single))
          (isSetOf_distinct key.algorithms)
      · cases found

theorem Objection.mismatch {key : FetchedKey} {m : Mismatch} (objection : Objection key m) :
    key.mismatch? = some m := by
  unfold FetchedKey.mismatch?
  cases objection with
  | spec other => exact if_pos other
  | usage spec other =>
    have same : ¬ key.spec ≠ some signingKeySpec := not_not.mpr spec
    exact (if_neg same).trans (if_pos other)
  | algorithms spec usage other set =>
    have same : ¬ key.spec ≠ some signingKeySpec := not_not.mpr spec
    have signs : ¬ key.usage ≠ signingKeyUsage := not_not.mpr usage
    have several : distinct key.algorithms ≠ [signingAlgorithm] := fun single =>
      other ((distinct_singleton_iff _ _).mp single)
    rw [if_neg same, if_neg signs, if_pos several, set.eq_distinct]
    rfl

theorem mismatch_iff (key : FetchedKey) (m : Mismatch) :
    key.mismatch? = some m ↔ Objection key m :=
  ⟨objection_of_mismatch, Objection.mismatch⟩

theorem validate_congr (key : FetchedKey) {algorithms : List String}
    (same : ∀ name, name ∈ algorithms ↔ name ∈ key.algorithms) :
    FetchedKey.validate { key with algorithms } = key.validate := by
  unfold FetchedKey.validate FetchedKey.mismatch? FetchedKey.spec showSet
  simp only [distinct_congr same]

/-- A key whose algorithms are named in another order or more often is judged alike; which keys are
accepted, and what is said against every other one. -/
theorem validate_set (key : FetchedKey) :
    (∀ algorithms : List String, (∀ name, name ∈ algorithms ↔ name ∈ key.algorithms) →
      FetchedKey.validate { key with algorithms } = key.validate) ∧
    (key.validate = .ok () ↔ IsSigningKey key) ∧
    ∀ failure, key.validate = .error failure ↔
      ∃ m, Objection key m ∧ failure = .mismatch key.id m := by
  refine ⟨fun algorithms same => validate_congr key same, validate_ok_iff key, fun failure => ?_⟩
  rw [validate_error_iff]
  simp only [mismatch_iff]

end Judging

section TwoAlgorithms

def twoWaysKey : FetchedKey :=
  { id := "arn:K1", publicKey := "MFYw", keySpec := some "ECC_SECG_P256K1", usage := "SIGN_VERIFY",
    algorithms := ["ECDSA_SHA_384", "ECDSA_SHA_256"] }

theorem validate_set_twoWays :
    (∀ name, name ∈ ["ECDSA_SHA_256", "ECDSA_SHA_384", "ECDSA_SHA_256"] ↔
      name ∈ twoWaysKey.algorithms) ∧
    FetchedKey.validate
        { twoWaysKey with algorithms := ["ECDSA_SHA_256", "ECDSA_SHA_384", "ECDSA_SHA_256"] } =
      .error (.mismatch "arn:K1" ⟨"SigningAlgorithms",
        "\x7b\"ECDSA_SHA_256\", \"ECDSA_SHA_384\"\x7d", "ECDSA_SHA_256"⟩) := by
  have same : ∀ name, name ∈ ["ECDSA_SHA_256", "ECDSA_SHA_384", "ECDSA_SHA_256"] ↔
      name ∈ twoWaysKey.algorithms := by
    intro name
    simp only [twoWaysKey, List.mem_cons, List.not_mem_nil, or_false]
    tauto
  obtain ⟨alike, -, judged⟩ := validate_set twoWaysKey
  refine ⟨same, (alike _ same).trans ?_⟩
  have several : ¬ (twoWaysKey.algorithms ≠ [] ∧
      ∀ name ∈ twoWaysKey.algorithms, name = "ECDSA_SHA_256") := by decide
  have set : IsSetOf twoWaysKey.algorithms ["ECDSA_SHA_256", "ECDSA_SHA_384"] :=
    isSetOf_distinct twoWaysKey.algorithms
  have shown : "\x7b\"ECDSA_SHA_256\", \"ECDSA_SHA_384\"\x7d" = "\x7b" ++
      ", ".intercalate (["ECDSA_SHA_256", "ECDSA_SHA_384"].map Text.quote) ++ "\x7d" := by
    decide +kernel
  rw [shown]
  exact (judged _).mpr ⟨_, .algorithms rfl rfl several set, rfl⟩

end TwoAlgorithms

end KeyCustody.Aws
