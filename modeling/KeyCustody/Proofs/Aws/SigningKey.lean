import KeyCustody.Aws.FetchedKey

namespace KeyCustody.Aws

section Distinct

theorem distinct_replicate (s : String) (count : Nat) :
    distinct (List.replicate (count + 1) s) = [s] := by
  induction count with
  | zero => rfl
  | succ count ih =>
    have step : distinct (List.replicate (count + 1 + 1) s) =
        insertDistinct s (distinct (List.replicate (count + 1) s)) := rfl
    rw [step, ih]
    simp [insertDistinct]

/-- A set of one text is what is left of its repetitions. -/
theorem distinct_singleton_iff (s : String) (texts : List String) :
    distinct texts = [s] ↔ texts ≠ [] ∧ ∀ t ∈ texts, t = s := by
  constructor
  · intro single
    constructor
    · rintro rfl
      exact absurd single (by simp [distinct])
    · intro t member
      have kept := (mem_distinct t texts).mpr member
      rw [single] at kept
      exact List.mem_singleton.mp kept
  · rintro ⟨some, same⟩
    have repeated := List.eq_replicate_of_mem same
    obtain ⟨count, length⟩ := Nat.exists_eq_succ_of_ne_zero
      (fun zero => some (List.length_eq_zero_iff.mp zero))
    rw [repeated, length]
    exact distinct_replicate s count

end Distinct

structure IsSigningKey (key : FetchedKey) : Prop where
  spec : key.masterKeySpec.or key.keySpec = some "ECC_SECG_P256K1"
  usage : key.usage = "SIGN_VERIFY"
  algorithms : key.algorithms ≠ [] ∧ ∀ name ∈ key.algorithms, name = "ECDSA_SHA_256"

theorem mismatch_none_iff (key : FetchedKey) : key.mismatch? = none ↔ IsSigningKey key := by
  unfold FetchedKey.mismatch?
  split
  · next other =>
    constructor
    · intro none
      cases none
    · intro signing
      exact absurd signing.spec other
  · next spec =>
    split
    · next other =>
      constructor
      · intro none
        cases none
      · intro signing
        exact absurd signing.usage other
    · next usage =>
      split
      · next other =>
        constructor
        · intro none
          cases none
        · intro signing
          exact absurd ((distinct_singleton_iff _ _).mpr signing.algorithms) other
      · next algorithms =>
        have single := (distinct_singleton_iff _ _).mp (Decidable.not_not.mp algorithms)
        exact iff_of_true rfl
          ⟨Decidable.not_not.mp spec, Decidable.not_not.mp usage, single⟩

theorem validate_ok_iff (key : FetchedKey) : key.validate = .ok () ↔ IsSigningKey key := by
  rw [← mismatch_none_iff]
  unfold FetchedKey.validate
  cases key.mismatch? <;> simp

end KeyCustody.Aws
