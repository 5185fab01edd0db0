import KeyCustody.Proofs.Aws.Inventory

namespace KeyCustody.Aws

variable {σ : Type}

section Points
variable (p : Provider σ) (settings : Settings) (s : Session σ)

def HasOwnPoint (a : Alias) : Prop :=
  ∃ text point, a.publicKey = some text ∧ PublicKey.pointHex text = .ok point ∧ a.point = some point

theorem Enriched.hasOwnPoint {fetched : List FetchedKey} {listed : Alias × String} {result : Alias}
    (enriched : Enriched true fetched listed result) : HasOwnPoint result := by
  obtain ⟨key, -, _, ⟨point, found, rfl⟩, rfl⟩ := enriched
  exact ⟨_, point, rfl, found, rfl⟩

theorem Enriched.point_listed {fetched : List FetchedKey} {listed : Alias × String} {result : Alias}
    (enriched : Enriched false fetched listed result) : result.point = listed.1.point := by
  obtain ⟨key, -, _, said, rfl⟩ := enriched
  exact said

theorem points_listed {fetched : List FetchedKey} {listed : List (Alias × String)}
    {results : List Alias} (enriched : List.Forall₂ (Enriched false fetched) listed results) :
    results.map (·.point) = listed.map (·.1.point) := by
  induction enriched with
  | nil => rfl
  | cons first rest ih => rw [List.map_cons, List.map_cons, ih, first.point_listed]

/-- With points every record has the point of its own public key. Without them a record has a point
exactly when its listed alias came with one, and then it is that one. -/
theorem inventory_points :
    (∀ results, ((inventory p settings true).run s).1 = .ok results →
      ∀ a ∈ results, HasOwnPoint a) ∧
    (∀ results, ((inventory p settings false).run s).1 = .ok results →
      ∃ listed, Prints (Json.list Alias.record.reader)
          ((s.after p settings.listKeys).reply p settings.listAliases) listed ∧
        results.map (·.point) = listed.map (·.point)) := by
  constructor
  · intro results done a member
    obtain ⟨keys, listed, arns, fetched, -, enriched⟩ :=
      (inventory_ok_iff p settings true s results).mp done
    obtain ⟨pair, -, here⟩ := exists_left_of_related enriched a member
    exact here.hasOwnPoint
  · intro results done
    obtain ⟨keys, listed, arns, fetched, complete, enriched⟩ :=
      (inventory_ok_iff p settings false s results).mp done
    refine ⟨listed, complete.aliasesListed, ?_⟩
    calc results.map (·.point)
        = (listed.zip arns).map (·.1.point) := points_listed enriched
      _ = ((listed.zip arns).map Prod.fst).map (·.point) := by rw [List.map_map]; rfl
      _ = listed.map (·.point) := by
          rw [List.map_fst_zip (Nat.le_of_eq complete.targets.length_eq)]

end Points

section ListedPoint

def keysText : String :=
  "[\x7b\"KeyId\":\"K1\",\"KeyArn\":\"arn:K1\"\x7d]"

def aliasesText : String :=
  "[\x7b\"AliasName\":\"a\",\"TargetKeyId\":\"K1\",\"PublicKeyPoint\":\"stale\"\x7d]"

def keyText : String :=
  "\x7b\"KeyId\":\"arn:K1\",\"PublicKey\":\"MFYw\",\"KeySpec\":\"ECC_SECG_P256K1\"," ++
  "\"KeyUsage\":\"SIGN_VERIFY\",\"SigningAlgorithms\":[\"ECDSA_SHA_256\"]\x7d"

def stalePointProvider : Provider Unit where
  answer c _ files :=
    let text := if c.arguments.contains "list-keys" then keysText
      else if c.arguments.contains "list-aliases" then aliasesText else keyText
    (.ok ⟨true, some 0, Text.encode text, []⟩, (), files)

def staleRecord : Alias :=
  { name := "a", target := "K1", keyArn := some "arn:K1", publicKey := some "MFYw",
    point := some "stale" }

set_option maxRecDepth 4000 in
/-- A point that nobody has asked for is printed, and it is not that of the key beside it. -/
theorem stale_point_printed :
    ∃ results, ((inventory stalePointProvider {} false).run { provider := () }).1 = .ok results ∧
      ∃ a ∈ results, ("PublicKeyPoint", .text "stale") ∈ a.members ∧ ¬ HasOwnPoint a := by
  have undecoded : ∃ fault, PublicKey.pointHex "MFYw" = .error fault := ⟨_, rfl⟩
  refine ⟨[staleRecord], rfl, staleRecord, List.mem_singleton_self _, ?_, ?_⟩
  · simp [staleRecord, Alias.members, optionalMember]
  · rintro ⟨text, point, same, found, -⟩
    obtain ⟨fault, failed⟩ := undecoded
    cases same
    rw [failed] at found
    cases found

end ListedPoint

end KeyCustody.Aws
