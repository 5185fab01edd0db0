import KeyCustody.Proofs.Aws.Precedence

/-!
Which specs an accepted key can carry. A key may say its spec under two names; the newer name is
looked at only where the older one is missing.
-/
namespace KeyCustody.Aws

variable {σ : Type}

structure HasSigningSpec (key : FetchedKey) : Prop where
  present : key.masterKeySpec.isSome ∨ key.keySpec.isSome
  older : ∀ spec, key.masterKeySpec = some spec → spec = "ECC_SECG_P256K1"
  newer : key.masterKeySpec = none → ∀ spec, key.keySpec = some spec → spec = "ECC_SECG_P256K1"

theorem IsSigningKey.hasSigningSpec {key : FetchedKey} (signing : IsSigningKey key) :
    HasSigningSpec key := by
  have counts := signing.spec
  cases older : key.masterKeySpec with
  | none =>
    rw [older, Option.none_or] at counts
    refine ⟨.inr (by rw [counts]; rfl), by simp [older], ?_⟩
    intro _ spec said
    exact Option.some.inj (said.symm.trans counts)
  | some spec =>
    rw [older, Option.some_or] at counts
    refine ⟨.inl (by rw [older]; rfl), ?_, by simp [older]⟩
    intro other said
    exact Option.some.inj ((older.symm.trans said).symm.trans counts)

section Replies
variable (p : Provider σ) (settings : Settings) (withPoint : Bool) (s : Session σ)

def fetchReplies (arns : List String) : List Reply :=
  (listings p settings s).replies p (arns.map settings.getPublicKey)

/-- The commands of a run that succeeds, and the keys that its fetching commands have told. -/
theorem inventory_fetched {results : List Alias}
    (done : ((inventory p settings withPoint).run s).1 = .ok results) :
    ∃ arns fetched, ((inventory p settings withPoint).run s).2.calls =
        s.calls ++ [settings.listKeys, settings.listAliases] ++ arns.map settings.getPublicKey ∧
      List.Forall₂ (Prints FetchedKey.record.reader) (fetchReplies p settings s arns) fetched ∧
      ∀ key ∈ fetched, IsSigningKey key := by
  obtain ⟨keys, listed, arns, fetched, complete, -⟩ :=
    (inventory_ok_iff p settings withPoint s results).mp done
  obtain ⟨stop, ran, called⟩ := run_inventory p settings withPoint s
  have wanted : asked settings (s.reply p settings.listKeys)
      ((s.after p settings.listKeys).reply p settings.listAliases) =
        .ok (withArns listed arns, arns) :=
    (asked_ok_iff p settings s _ arns).mpr
      ⟨keys, listed, ⟨complete.keysListed, complete.aliasesListed, complete.targets⟩, rfl⟩
  rw [wanted] at called
  rw [ran]
  exact ⟨arns, fetched, called, complete.fetches, complete.signing⟩

/-- What passes the check has the spec of a signing key, and so has every key that a run which
succeeds has fetched. -/
theorem accepted_keys_spec :
    (∀ key : FetchedKey, key.validate = .ok () → HasSigningSpec key) ∧
    ∀ results, ((inventory p settings withPoint).run s).1 = .ok results →
      ∃ arns fetched, ((inventory p settings withPoint).run s).2.calls =
          s.calls ++ [settings.listKeys, settings.listAliases] ++ arns.map settings.getPublicKey ∧
        List.Forall₂ (Prints FetchedKey.record.reader) (fetchReplies p settings s arns) fetched ∧
        ∀ key ∈ fetched, HasSigningSpec key := by
  constructor
  · intro key valid
    exact ((validate_ok_iff key).mp valid).hasSigningSpec
  · intro results done
    obtain ⟨arns, fetched, called, told, signing⟩ :=
      inventory_fetched p settings withPoint s done
    exact ⟨arns, fetched, called, told, fun key member => (signing key member).hasSigningSpec⟩

end Replies

section TwoSpecs

def twoSpecsText : String :=
  "\x7b\"KeyId\":\"arn:K1\",\"PublicKey\":\"MFYw\"," ++
  "\"CustomerMasterKeySpec\":\"ECC_SECG_P256K1\",\"KeySpec\":\"RSA_2048\"," ++
  "\"KeyUsage\":\"SIGN_VERIFY\",\"SigningAlgorithms\":[\"ECDSA_SHA_256\"]\x7d"

def twoSpecsKey : FetchedKey :=
  { id := "arn:K1", publicKey := "MFYw", masterKeySpec := some "ECC_SECG_P256K1",
    keySpec := some "RSA_2048", usage := "SIGN_VERIFY", algorithms := ["ECDSA_SHA_256"] }

def twoSpecsProvider : Provider Unit where
  answer c _ files :=
    let text :=
      if c.arguments.contains "list-keys" then "[\x7b\"KeyId\":\"K1\",\"KeyArn\":\"arn:K1\"\x7d]"
      else if c.arguments.contains "list-aliases" then
        "[\x7b\"AliasName\":\"a\",\"TargetKeyId\":\"K1\"\x7d]"
      else twoSpecsText
    (.ok ⟨true, some 0, Text.encode text, []⟩, (), files)

def twoSpecsRecord : Alias :=
  { name := "a", target := "K1", keyArn := some "arn:K1", publicKey := some "MFYw" }

set_option maxRecDepth 4000 in
theorem accepted_keys_spec_twoSpecs :
    twoSpecsKey.validate = .ok () ∧ HasSigningSpec twoSpecsKey ∧
      ((inventory twoSpecsProvider {} false).run { provider := () }).1 = .ok [twoSpecsRecord] ∧
      ∃ arns fetched,
        ((inventory twoSpecsProvider {} false).run { provider := () }).2.calls =
          [Settings.listKeys {}, Settings.listAliases {}] ++ arns.map (Settings.getPublicKey {}) ∧
        List.Forall₂ (Prints FetchedKey.record.reader)
          (fetchReplies twoSpecsProvider {} { provider := () } arns) fetched ∧
        ∀ key ∈ fetched, HasSigningSpec key := by
  have valid : twoSpecsKey.validate = .ok () := rfl
  have done : ((inventory twoSpecsProvider {} false).run { provider := () }).1 =
      .ok [twoSpecsRecord] := rfl
  obtain ⟨judged, fetches⟩ := accepted_keys_spec twoSpecsProvider {} false { provider := () }
  exact ⟨valid, judged _ valid, done, fetches _ done⟩

set_option maxRecDepth 4000 in
/-- The other spec is not judged, neither in the check nor in a run that succeeds. -/
theorem contradictory_spec_accepted :
    twoSpecsKey.validate = .ok () ∧ twoSpecsKey.keySpec = some "RSA_2048" ∧
      ((inventory twoSpecsProvider {} false).run { provider := () }).1 = .ok [twoSpecsRecord] ∧
      ((inventory twoSpecsProvider {} false).run { provider := () }).2.calls =
        [Settings.listKeys {}, Settings.listAliases {}, Settings.getPublicKey {} "arn:K1"] ∧
      Prints FetchedKey.record.reader
        (twoSpecsProvider.answer (Settings.getPublicKey {} "arn:K1") () .empty).1 twoSpecsKey :=
  ⟨rfl, rfl, rfl, rfl, _, rfl, rfl, rfl⟩

end TwoSpecs

end KeyCustody.Aws
