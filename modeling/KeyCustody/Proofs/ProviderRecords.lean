import KeyCustody.Aws.Alias
import KeyCustody.Aws.FetchedKey
import KeyCustody.Google.Key
import KeyCustody.Proofs.Json.Rewriting

namespace KeyCustody

open Json

section Fields

theorem Aws.Key.isOrderly : Aws.Key.record.IsOrderly where
  skips := rfl
  respects := by
    simp only [Aws.Key.record, List.forall_mem_cons]
    exact ⟨Field.respects_map respects_text, Field.respects_map respects_text,
      List.forall_mem_nil _⟩
  commute := by
    simp only [Aws.Key.record, List.pairwise_cons, List.forall_mem_cons]
    and_intros
    all_goals first
      | exact Field.commutes_map fun _ _ _ => rfl
      | simp

theorem Aws.FetchedKey.isOrderly : Aws.FetchedKey.record.IsOrderly where
  skips := rfl
  respects := by
    simp only [Aws.FetchedKey.record, List.forall_mem_cons]
    exact ⟨Field.respects_map respects_text, Field.respects_map respects_text,
      Field.respects_map (respects_optional respects_text),
      Field.respects_map (respects_optional respects_text), Field.respects_map respects_text,
      Field.respects_map (respects_list respects_text), List.forall_mem_nil _⟩
  commute := by
    simp only [Aws.FetchedKey.record, List.pairwise_cons, List.forall_mem_cons]
    and_intros
    all_goals first
      | exact Field.commutes_map fun _ _ _ => rfl
      | simp

theorem Google.Key.isOrderly : Google.Key.record.IsOrderly where
  skips := rfl
  respects := by
    simp only [Google.Key.record, List.forall_mem_cons]
    exact ⟨Field.respects_map respects_text, Field.respects_map respects_text,
      Field.respects_map respects_text, Field.respects_map (respects_optional respects_value),
      List.forall_mem_nil _⟩
  commute := by
    simp only [Google.Key.record, List.pairwise_cons, List.forall_mem_cons]
    and_intros
    all_goals first
      | exact Field.commutes_map fun _ _ _ => rfl
      | simp

end Fields

/-- However the text of a key is rewritten, it is read as the same key, which is then judged as
before. -/
theorem rewritten_reads_same :
    (∀ {left right : Bytes} {key : Aws.Key}, Rewritten Aws.Key.record.names left right →
      decode Aws.Key.record.reader left = .ok key →
      decode Aws.Key.record.reader right = .ok key) ∧
    (∀ {left right : Bytes} {key : Aws.FetchedKey},
      Rewritten Aws.FetchedKey.record.names left right →
      decode Aws.FetchedKey.record.reader left = .ok key →
      decode Aws.FetchedKey.record.reader right = .ok key ∧
        (decode Aws.FetchedKey.record.reader right).map Aws.FetchedKey.validate =
          .ok key.validate) ∧
    (∀ {left right : Bytes} {key : Google.Key}, Rewritten Google.Key.record.names left right →
      decode Google.Key.record.reader left = .ok key →
      decode Google.Key.record.reader right = .ok key ∧
        (decode Google.Key.record.reader right).map Google.Key.isMultisigKey =
          .ok key.isMultisigKey) := by
  refine ⟨fun rewritten read => Aws.Key.isOrderly.decode_rewritten rewritten read,
    fun rewritten read => ?_, fun rewritten read => ?_⟩
  · have again := Aws.FetchedKey.isOrderly.decode_rewritten rewritten read
    rw [again]
    exact ⟨rfl, rfl⟩
  · have again := Google.Key.isOrderly.decode_rewritten rewritten read
    rw [again]
    exact ⟨rfl, rfl⟩

section Examples

def isUnescaped (s : String) : Bool :=
  s.toList.all fun c => IsPlainChar c

def quoted (s : String) : Bytes :=
  '"'.toUInt8 :: (Text.encode s ++ ['"'.toUInt8])

theorem spells_unescaped {s : String} (plain : isUnescaped s = true) :
    SpellsString (Text.encode s) s := by
  apply spellsString_plain
  simpa only [isUnescaped, List.all_eq_true, decide_eq_true_eq] using plain

theorem sameValue_quoted {s : String} (plain : isUnescaped s = true) :
    SameValue (quoted s) (quoted s) :=
  .string (spells_unescaped plain) (spells_unescaped plain)

theorem isJson_quoted {s : String} (plain : isUnescaped s = true) : IsJson (quoted s) :=
  .string (spells_unescaped plain).isStringBody

theorem isSpaces_blank : IsSpaces [0x20] := by
  intro octet member
  exact .inl (List.mem_singleton.mp member)

theorem isFront_comma : IsFront false [','.toUInt8, 0x20] :=
  .later isSpaces_nil isSpaces_blank

/-- A name and a value with a colon and a blank between them. -/
theorem isNamed_body {body : Bytes} {name : String} (spelled : SpellsString body name)
    (value : Bytes) :
    IsNamed name value
      ('"'.toUInt8 :: (body ++ '"'.toUInt8 :: ([] ++ ':'.toUInt8 :: ([0x20] ++ value)))) :=
  ⟨body, spelled, .colon isSpaces_nil isSpaces_blank⟩

theorem isNamed_plain (name : String) (value : Bytes) (plain : isUnescaped name = true) :
    IsNamed name value
      ('"'.toUInt8 :: (Text.encode name ++ '"'.toUInt8 :: ([] ++ ':'.toUInt8 ::
        ([0x20] ++ value)))) :=
  isNamed_body (spells_unescaped plain) value

/-- `KeyId` with an escape for its capital letter. -/
theorem spells_identifier : SpellsString (Text.encode "Key\\u0049d") "KeyId" := by
  have unit : SpellsUnit (Text.encode "0049") 'I'.toNat :=
    SpellsUnit.four (w := 0) (x := 0) (y := 4) (z := 9) ⟨'0', .inl rfl, rfl⟩ ⟨'0', .inl rfl, rfl⟩
      ⟨'4', .inl rfl, rfl⟩ ⟨'9', .inl rfl, rfl⟩
  have front : SpellsString (Text.encode "Key") "Key" := spells_unescaped rfl
  have last : SpellsString (Text.encode "d") "d" := spells_unescaped rfl
  exact SpellsChars.append front (.cons (.unit unit) last)

theorem isJson_zeroList : IsJson (Text.encode "[0]") := by
  have zero : IsUnsigned (['0'.toUInt8] ++ ([] ++ [])) := .parts (.inl rfl) .none .none
  have each : ∀ item ∈ [Text.encode "0"], IsJson item := by
    intro item member
    obtain rfl := List.mem_singleton.mp member
    exact .number (.plain zero)
  have inner : Separated (fun item text => text = item) true [Text.encode "0"] _ :=
    .entry (.first isSpaces_nil) rfl (.closing isSpaces_nil)
  exact .list each (.brackets inner)

def keyText : Bytes :=
  Text.encode "\x7b \"KeyId\": \"k\", \"KeyArn\": \"a\"\x7d"

def keyRespelled : Bytes :=
  Text.encode "\x7b \"KeyArn\": \"a\", \"X\": [0], \"Key\\u0049d\": \"k\"\x7d "

theorem rewritten_key : Rewritten Aws.Key.record.names keyText keyRespelled := by
  have id := isNamed_plain "KeyId" (quoted "k") rfl
  have arn := isNamed_plain "KeyArn" (quoted "a") rfl
  have escaped := isNamed_body spells_identifier (quoted "k")
  have other := isNamed_plain "X" (Text.encode "[0]") rfl
  have left : Separated (fun (e : String × Bytes) => IsNamed e.1 e.2) true
      [("KeyId", quoted "k"), ("KeyArn", quoted "a")] _ :=
    .entry (.first isSpaces_blank) id (.entry isFront_comma arn (.closing isSpaces_nil))
  have right : Separated (fun (e : String × Bytes) => IsNamed e.1 e.2) true
      [("KeyArn", quoted "a"), ("X", Text.encode "[0]"), ("KeyId", quoted "k")] _ :=
    .entry (.first isSpaces_blank) arn (.entry isFront_comma other
      (.entry isFront_comma escaped (.closing isSpaces_nil)))
  have same : ∀ m ∈ [("KeyId", quoted "k", quoted "k"), ("KeyArn", quoted "a", quoted "a")],
      SameValue m.2.1 m.2.2 := by
    simp only [List.forall_mem_cons]
    exact ⟨sameValue_quoted rfl, sameValue_quoted rfl, List.forall_mem_nil _⟩
  have othersLeft : ∀ e ∈ [("KeyId", quoted "k"), ("KeyArn", quoted "a")],
      e.1 ∉ Aws.Key.record.names → IsJson e.2 := by
    simp [Record.names, Aws.Key.record, required, Field.map]
  have othersRight : ∀ e ∈ [("KeyArn", quoted "a"), ("X", Text.encode "[0]"),
      ("KeyId", quoted "k")], e.1 ∉ Aws.Key.record.names → IsJson e.2 := by
    simp [Record.names, Aws.Key.record, required, Field.map, isJson_zeroList]
  exact .objects same (.swap _ _ []) rfl rfl othersLeft othersRight (.braces left) (.braces right)
    isSpaces_nil isSpaces_nil isSpaces_nil isSpaces_blank

def fetchedText : Bytes :=
  Text.encode "\x7b \"KeyUsage\": \"u\", \"PublicKey\": \"p\", \"KeyId\": \"k\"\x7d"

def fetchedReordered : Bytes :=
  Text.encode "\x7b\"KeyId\": \"k\", \"PublicKey\": \"p\", \"KeyUsage\": \"u\"\x7d"

theorem rewritten_fetchedKey :
    Rewritten Aws.FetchedKey.record.names fetchedText fetchedReordered := by
  have id := isNamed_plain "KeyId" (quoted "k") rfl
  have point := isNamed_plain "PublicKey" (quoted "p") rfl
  have usage := isNamed_plain "KeyUsage" (quoted "u") rfl
  have left : Separated (fun (e : String × Bytes) => IsNamed e.1 e.2) true
      [("KeyUsage", quoted "u"), ("PublicKey", quoted "p"), ("KeyId", quoted "k")] _ :=
    .entry (.first isSpaces_blank) usage (.entry isFront_comma point (.entry isFront_comma id
      (.closing isSpaces_nil)))
  have right : Separated (fun (e : String × Bytes) => IsNamed e.1 e.2) true
      [("KeyId", quoted "k"), ("PublicKey", quoted "p"), ("KeyUsage", quoted "u")] _ :=
    .entry (.first isSpaces_nil) id (.entry isFront_comma point (.entry isFront_comma usage
      (.closing isSpaces_nil)))
  have same : ∀ m ∈ [("KeyUsage", quoted "u", quoted "u"), ("PublicKey", quoted "p", quoted "p"),
      ("KeyId", quoted "k", quoted "k")], SameValue m.2.1 m.2.2 := by
    simp only [List.forall_mem_cons]
    exact ⟨sameValue_quoted rfl, sameValue_quoted rfl,
      sameValue_quoted rfl, List.forall_mem_nil _⟩
  have othersLeft : ∀ e ∈ [("KeyUsage", quoted "u"), ("PublicKey", quoted "p"),
      ("KeyId", quoted "k")], e.1 ∉ Aws.FetchedKey.record.names → IsJson e.2 := by
    simp [Record.names, Aws.FetchedKey.record, required, defaulted, Field.map]
  have othersRight : ∀ e ∈ [("KeyId", quoted "k"), ("PublicKey", quoted "p"),
      ("KeyUsage", quoted "u")], e.1 ∉ Aws.FetchedKey.record.names → IsJson e.2 := by
    simp [Record.names, Aws.FetchedKey.record, required, defaulted, Field.map]
  exact .objects same (List.reverse_perm _).symm rfl rfl othersLeft othersRight (.braces left)
    (.braces right) isSpaces_nil isSpaces_nil isSpaces_nil isSpaces_nil

def levelFirst : Bytes :=
  Text.encode
    "\x7b \"protectionLevel\": \"HSM\", \"algorithm\": \"EC_SIGN_SECP256K1_SHA256\"\x7d"

def algorithmFirst : Bytes :=
  Text.encode
    "\x7b\"algorithm\": \"EC_SIGN_SECP256K1_SHA256\", \"protectionLevel\": \"HSM\"\x7d"

theorem sameValue_template : SameValue levelFirst algorithmFirst := by
  have algorithm := isNamed_plain "algorithm" (quoted "EC_SIGN_SECP256K1_SHA256") rfl
  have level := isNamed_plain "protectionLevel" (quoted "HSM") rfl
  have left : Separated (fun (m : String × Bytes × Bytes) => IsNamed m.1 m.2.1) true
      [("protectionLevel", quoted "HSM", quoted "HSM"),
        ("algorithm", quoted "EC_SIGN_SECP256K1_SHA256", quoted "EC_SIGN_SECP256K1_SHA256")] _ :=
    .entry (.first isSpaces_blank) level (.entry isFront_comma algorithm (.closing isSpaces_nil))
  have right : Separated (fun (m : String × Bytes × Bytes) => IsNamed m.1 m.2.2) true
      [("algorithm", quoted "EC_SIGN_SECP256K1_SHA256", quoted "EC_SIGN_SECP256K1_SHA256"),
        ("protectionLevel", quoted "HSM", quoted "HSM")] _ :=
    .entry (.first isSpaces_nil) algorithm (.entry isFront_comma level (.closing isSpaces_nil))
  have each : ∀ m ∈ [("protectionLevel", quoted "HSM", quoted "HSM"),
      ("algorithm", quoted "EC_SIGN_SECP256K1_SHA256", quoted "EC_SIGN_SECP256K1_SHA256")],
      SameValue m.2.1 m.2.2 := by
    simp only [List.forall_mem_cons]
    exact ⟨sameValue_quoted rfl, sameValue_quoted rfl, List.forall_mem_nil _⟩
  exact .object each (.braces left) (.braces right) (.inr ⟨by decide, .swap _ _ []⟩)

def templateFirst : Bytes :=
  Text.encode "\x7b\"versionTemplate\": " ++ levelFirst ++
    Text.encode ", \"name\": \"n\", \"purpose\": \"ASYMMETRIC_SIGN\"\x7d"

def templateLast : Bytes :=
  Text.encode "\x7b\"purpose\": \"ASYMMETRIC_SIGN\", \"name\": \"n\", \"versionTemplate\": " ++
    algorithmFirst ++ Text.encode "\x7d"

theorem rewritten_googleKey :
    Rewritten Google.Key.record.names templateFirst templateLast := by
  have name := isNamed_plain "name" (quoted "n") rfl
  have purpose := isNamed_plain "purpose" (quoted "ASYMMETRIC_SIGN") rfl
  have template := isNamed_plain "versionTemplate" levelFirst rfl
  have other := isNamed_plain "versionTemplate" algorithmFirst rfl
  have left : Separated (fun (e : String × Bytes) => IsNamed e.1 e.2) true
      [("versionTemplate", levelFirst), ("name", quoted "n"),
        ("purpose", quoted "ASYMMETRIC_SIGN")] _ :=
    .entry (.first isSpaces_nil) template (.entry isFront_comma name (.entry isFront_comma purpose
      (.closing isSpaces_nil)))
  have right : Separated (fun (e : String × Bytes) => IsNamed e.1 e.2) true
      [("purpose", quoted "ASYMMETRIC_SIGN"), ("name", quoted "n"),
        ("versionTemplate", algorithmFirst)] _ :=
    .entry (.first isSpaces_nil) purpose (.entry isFront_comma name (.entry isFront_comma other
      (.closing isSpaces_nil)))
  have same : ∀ m ∈ [("versionTemplate", levelFirst, algorithmFirst),
      ("name", quoted "n", quoted "n"),
      ("purpose", quoted "ASYMMETRIC_SIGN", quoted "ASYMMETRIC_SIGN")], SameValue m.2.1 m.2.2 := by
    simp only [List.forall_mem_cons]
    exact ⟨sameValue_template, sameValue_quoted rfl, sameValue_quoted rfl,
      List.forall_mem_nil _⟩
  have othersLeft : ∀ e ∈ [("versionTemplate", levelFirst), ("name", quoted "n"),
      ("purpose", quoted "ASYMMETRIC_SIGN")], e.1 ∉ Google.Key.record.names → IsJson e.2 := by
    simp [Record.names, Google.Key.record, required, defaulted, Field.map]
  have othersRight : ∀ e ∈ [("purpose", quoted "ASYMMETRIC_SIGN"), ("name", quoted "n"),
      ("versionTemplate", algorithmFirst)], e.1 ∉ Google.Key.record.names → IsJson e.2 := by
    simp [Record.names, Google.Key.record, required, defaulted, Field.map]
  exact .objects same (List.reverse_perm _).symm rfl rfl othersLeft othersRight (.braces left)
    (.braces right) isSpaces_nil isSpaces_nil isSpaces_nil isSpaces_nil

set_option maxRecDepth 2000 in
theorem rewritten_reads_same_examples :
    Rewritten Aws.Key.record.names keyText keyRespelled ∧
      decode Aws.Key.record.reader keyText = .ok ⟨"k", "a"⟩ ∧
      decode Aws.Key.record.reader keyRespelled = .ok ⟨"k", "a"⟩ ∧
    Rewritten Aws.FetchedKey.record.names fetchedText fetchedReordered ∧
      decode Aws.FetchedKey.record.reader fetchedText = .ok ⟨"k", "p", none, none, "u", []⟩ ∧
      (decode Aws.FetchedKey.record.reader fetchedReordered).map Aws.FetchedKey.validate =
        .ok (.error (.mismatch "k"
          ⟨"CustomerMasterKeySpec", "<missing>", "ECC_SECG_P256K1"⟩)) ∧
    Rewritten Google.Key.record.names templateFirst templateLast ∧
      decode Google.Key.record.reader templateFirst = .ok ⟨"n", "", "ASYMMETRIC_SIGN",
        some (.object
          [("algorithm", .text "EC_SIGN_SECP256K1_SHA256"), ("protectionLevel", .text "HSM")])⟩ ∧
      (decode Google.Key.record.reader templateLast).map Google.Key.isMultisigKey = .ok true :=
  ⟨rewritten_key, rfl, rewritten_reads_same.1 rewritten_key rfl, rewritten_fetchedKey, rfl,
    (rewritten_reads_same.2.1 rewritten_fetchedKey rfl).2, rewritten_googleKey, rfl,
    (rewritten_reads_same.2.2 rewritten_googleKey rfl).2⟩

/-- A name that is no text cannot be read, not even to be passed over. -/
theorem unpairedName_refused :
    decode Aws.Key.record.reader
        (Text.encode "\x7b\"KeyId\": \"k\", \"KeyArn\": \"a\"\x7d") = .ok ⟨"k", "a"⟩ ∧
      IsJson (Text.encode "\x7b\"KeyId\": \"k\", \"KeyArn\": \"a\", \"\\ud800\": [0]\x7d") ∧
      ∀ key, decode Aws.Key.record.reader
        (Text.encode "\x7b\"KeyId\": \"k\", \"KeyArn\": \"a\", \"\\ud800\": [0]\x7d") ≠
          .ok key := by
  have id : IsStringBody (Text.encode "KeyId") := (spells_unescaped rfl).isStringBody
  have arn : IsStringBody (Text.encode "KeyArn") := (spells_unescaped rfl).isStringBody
  have unpaired : IsStringBody (Text.encode "\\ud800") :=
    .unit (.four (w := 13) (x := 8) (y := 0) (z := 0) ⟨'d', .inl rfl, rfl⟩ ⟨'8', .inl rfl, rfl⟩
      ⟨'0', .inl rfl, rfl⟩ ⟨'0', .inl rfl, rfl⟩) .nil
  have members : Separated (fun (m : Bytes × Bytes) => IsMember m.1 m.2) true
      [(Text.encode "KeyId", quoted "k"), (Text.encode "KeyArn", quoted "a"),
        (Text.encode "\\ud800", Text.encode "[0]")] _ :=
    .entry (.first isSpaces_nil) (.colon isSpaces_nil isSpaces_blank)
      (.entry isFront_comma (.colon isSpaces_nil isSpaces_blank)
        (.entry isFront_comma (.colon isSpaces_nil isSpaces_blank) (.closing isSpaces_nil)))
  have names : ∀ m ∈ [(Text.encode "KeyId", quoted "k"), (Text.encode "KeyArn", quoted "a"),
      (Text.encode "\\ud800", Text.encode "[0]")], IsStringBody m.1 := by
    simp only [List.forall_mem_cons]
    exact ⟨id, arn, unpaired, List.forall_mem_nil _⟩
  have each : ∀ m ∈ [(Text.encode "KeyId", quoted "k"), (Text.encode "KeyArn", quoted "a"),
      (Text.encode "\\ud800", Text.encode "[0]")], IsJson m.2 := by
    simp only [List.forall_mem_cons]
    exact ⟨isJson_quoted rfl, isJson_quoted rfl, isJson_zeroList,
      List.forall_mem_nil _⟩
  refine ⟨rfl, .object names each (.braces members), ?_⟩
  intro key read
  cases read

end Examples

end KeyCustody
