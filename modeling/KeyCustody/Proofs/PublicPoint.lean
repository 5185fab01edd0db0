import KeyCustody.Proofs.Base64
import KeyCustody.Proofs.Der
import KeyCustody.Published

namespace KeyCustody

namespace PublicKey
section Points

def longFront : Bytes :=
  [0x30, 0x56, 0x30, 0x10, 0x06, 0x07, 0x2a, 0x86, 0x48, 0xce, 0x3d, 0x02, 0x01,
   0x06, 0x05, 0x2b, 0x81, 0x04, 0x00, 0x0a, 0x03, 0x42, 0x00]

def shortFront : Bytes :=
  [0x30, 0x36, 0x30, 0x10, 0x06, 0x07, 0x2a, 0x86, 0x48, 0xce, 0x3d, 0x02, 0x01,
   0x06, 0x05, 0x2b, 0x81, 0x04, 0x00, 0x0a, 0x03, 0x22, 0x00]

inductive IsKey : Bytes → Bytes → Prop where
  | long {point : Bytes} (length : point.length = 65) (head : point.head? = some 0x04) :
      IsKey (longFront ++ point) point
  | short {point : Bytes} (length : point.length = 33)
      (head : point.head? = some 0x02 ∨ point.head? = some 0x03) : IsKey (shortFront ++ point) point

theorem isPoint_iff (octets : Bytes) :
    isPoint octets = true ↔
      (octets.length = 65 ∧ octets.head? = some 0x04) ∨
        (octets.length = 33 ∧ (octets.head? = some 0x02 ∨ octets.head? = some 0x03)) := by
  simp only [isPoint, Bool.or_eq_true, Bool.and_eq_true, beq_iff_eq]

theorem isIdentifier_ellipticCurveKey : Der.IsIdentifier ellipticCurveKey :=
  ⟨by decide, by decide, by decide⟩

theorem isIdentifier_secp256k1 : Der.IsIdentifier secp256k1 :=
  ⟨by decide, by decide, by decide⟩

def keyOf (octets : Bytes) : Der.SubjectPublicKey :=
  ⟨ellipticCurveKey, secp256k1, ⟨0, octets⟩⟩

theorem body_keyOf (octets : Bytes) :
    (keyOf octets).body =
      [0x30, 0x10, 0x06, 0x07, 0x2a, 0x86, 0x48, 0xce, 0x3d, 0x02, 0x01,
       0x06, 0x05, 0x2b, 0x81, 0x04, 0x00, 0x0a] ++ Der.element .bitString (0x00 :: octets) := by
  rfl

/-- All of a key but its point of `size` octets. -/
def front (size : Nat) : Bytes :=
  [0x30, UInt8.ofNat (size + 21), 0x30, 0x10, 0x06, 0x07, 0x2a, 0x86, 0x48, 0xce, 0x3d, 0x02, 0x01,
   0x06, 0x05, 0x2b, 0x81, 0x04, 0x00, 0x0a, 0x03, UInt8.ofNat (size + 1), 0x00]

theorem written_keyOf {octets : Bytes} {size : Nat} (length : octets.length = size)
    (few : size ≤ 65) : (keyOf octets).written = front size ++ octets := by
  have bits : Der.element .bitString (0x00 :: octets) =
      0x03 :: UInt8.ofNat (size + 1) :: 0x00 :: octets := by
    rw [Der.element, List.length_cons, length, Der.lengthOctets_short (by omega)]
    rfl
  have whole : (keyOf octets).body.length = size + 21 := by
    simp only [body_keyOf, bits, List.length_append, List.length_cons, length, List.length_nil]
    omega
  rw [Der.SubjectPublicKey.written, Der.element, whole, Der.lengthOctets_short (by omega),
    body_keyOf, bits]
  rfl

theorem writable_keyOf (octets : Bytes) (few : octets.length ≤ 65) : (keyOf octets).IsWritable := by
  refine ⟨isIdentifier_ellipticCurveKey, isIdentifier_secp256k1, ?_, ?_⟩
  · exact ⟨Nat.zero_le 7, fun _ => rfl, fun last _ => Nat.mod_one last.toNat⟩
  · simp only [body_keyOf, Der.element, List.length_append, List.length_cons,
      Der.lengthOctets_short (by omega : octets.length + 1 < 0x80), Der.wordBound, List.length_nil]
    omega

theorem isKey_iff (der octets : Bytes) :
    IsKey der octets ↔ isPoint octets = true ∧ der = (keyOf octets).written := by
  rw [isPoint_iff]
  constructor
  · intro key
    cases key with
    | long length head =>
      exact ⟨.inl ⟨length, head⟩, (written_keyOf length (by decide)).symm⟩
    | short length head =>
      exact ⟨.inr ⟨length, head⟩, (written_keyOf length (by decide)).symm⟩
  · rintro ⟨⟨length, head⟩ | ⟨length, head⟩, rfl⟩
    · have long : (keyOf octets).written = longFront ++ octets := written_keyOf length (by decide)
      rw [long]
      exact .long length head
    · have short : (keyOf octets).written = shortFront ++ octets := written_keyOf length (by decide)
      rw [short]
      exact .short length head

theorem point_iff (der octets : Bytes) : point der = .ok octets ↔ IsKey der octets := by
  rw [isKey_iff]
  unfold point
  constructor
  · intro found
    split at found
    · cases found
    · next key read =>
      split at found
      -- Each refusal that is passed fixes one more part of the key; the point is what is left.
      · cases found
      · next curveKey =>
        split at found
        · cases found
        · next curve =>
          split at found
          · cases found
          · next used =>
            split at found
            · next shape =>
              cases found
              obtain ⟨-, form⟩ := (Der.subjectPublicKey_iff key der).mp read
              obtain ⟨algorithm, parameters, ⟨unused, inside⟩⟩ := key
              simp only [not_not] at curveKey curve used
              subst curveKey curve used
              exact ⟨shape, form⟩
            · cases found
  · rintro ⟨shape, form⟩
    have few : octets.length ≤ 65 := by
      rcases (isPoint_iff octets).mp shape with ⟨length, -⟩ | ⟨length, -⟩ <;> omega
    have read := (Der.subjectPublicKey_iff (keyOf octets) der).mpr ⟨writable_keyOf octets few, form⟩
    simp [read, keyOf, shape]

/-- A text whose octets, without the blanks around it, are the base64 of a key with that point. -/
def IsKeyText (text : String) (octets : Bytes) : Prop :=
  ∃ der, Text.encode (Text.trimString text) = Base64.encode der ∧ IsKey der octets

theorem pointHex_ok_iff (text hex : String) :
    pointHex text = .ok hex ↔
      ∃ octets, IsKeyText text octets ∧ hex = String.ofList (Text.hexOctets octets) := by
  unfold pointHex
  constructor
  · intro found
    split at found
    · cases found
    · next der read =>
      split at found
      · cases found
      · next octets taken =>
        cases found
        have written := (Base64.decode_iff_encode _ der).mp read
        exact ⟨octets, ⟨der, written, (point_iff der octets).mp taken⟩, rfl⟩
  · rintro ⟨octets, ⟨der, written, key⟩, rfl⟩
    have read := (Base64.decode_iff_encode _ der).mpr written
    have taken := (point_iff der octets).mpr key
    simp only [read, taken]

theorem pointHex_error_iff (text : String) :
    (∃ fault, pointHex text = .error fault) ↔ ¬∃ octets, IsKeyText text octets := by
  constructor
  · rintro ⟨fault, failed⟩ ⟨octets, key⟩
    have found := (pointHex_ok_iff text _).mpr ⟨octets, key, rfl⟩
    cases failed.symm.trans found
  · intro none
    cases found : pointHex text with
    | error fault => exact ⟨fault, rfl⟩
    | ok hex =>
      obtain ⟨octets, key, -⟩ := (pointHex_ok_iff text hex).mp found
      exact absurd ⟨octets, key⟩ none

theorem isKeyText_unique {text other : String} {octets : Bytes} (key : IsKeyText text octets)
    (otherKey : IsKeyText other octets) : Text.trimString text = Text.trimString other := by
  obtain ⟨der, written, form⟩ := key
  obtain ⟨otherDer, otherWritten, otherForm⟩ := otherKey
  -- Both are the written form of the same key.
  obtain ⟨-, rfl⟩ := (isKey_iff der octets).mp form
  obtain ⟨-, rfl⟩ := (isKey_iff otherDer octets).mp otherForm
  apply Option.some.inj
  rw [← Text.decode?_encode, ← Text.decode?_encode, written, otherWritten]

theorem hexDigit_injective (m n : Nat) (left : m < 16) (right : n < 16)
    (same : Text.hexDigit m = Text.hexDigit n) : m = n := by
  have table : ∀ m < 16, ∀ n < 16, Text.hexDigit m = Text.hexDigit n → m = n := by decide
  exact table m left n right same

theorem hexOctets_injective (octets others : Bytes)
    (same : Text.hexOctets octets = Text.hexOctets others) : octets = others := by
  induction octets generalizing others with
  | nil =>
    cases others with
    | nil => rfl
    | cons other rest => cases same
  | cons octet rest ih =>
    cases others with
    | nil => cases same
    | cons other others =>
      have bound := octet.toNat_lt
      have otherBound := other.toNat_lt
      obtain ⟨high, tail⟩ := List.cons.inj same
      obtain ⟨low, later⟩ := List.cons.inj tail
      have highs := hexDigit_injective _ _ (by omega) (by omega) high
      have lows := hexDigit_injective _ _ (by omega) (by omega) low
      have first : octet = other := UInt8.toNat_inj.mp (by omega)
      rw [first, ih others later]

end Points
end PublicKey

section Publishing
variable (withPoint : Bool) (raw : String)

/-- What a record says of the point of a public key: the point, if points are asked for, and else
what it said before. -/
def PointSaid (text : String) (before after : Option String) : Prop :=
  if withPoint then ∃ point, PublicKey.pointHex text = .ok point ∧ after = some point
  else after = before

theorem exists_pointSaid_iff (text : String) (before : Option String) :
    (∃ after, PointSaid withPoint text before after) ↔
      (withPoint = true → ∃ point, PublicKey.pointHex text = .ok point) := by
  cases withPoint with
  | false => simp [PointSaid]
  | true =>
    constructor
    · rintro ⟨_, point, found, -⟩
      exact fun _ => ⟨point, found⟩
    · intro decodes
      obtain ⟨point, found⟩ := decodes rfl
      exact ⟨some point, point, found, rfl⟩

theorem publish_plain : publish false raw = .ok ⟨PublicKey.normalizeString raw, none⟩ := rfl

theorem publish_point_ok {point : String}
    (found : PublicKey.pointHex (PublicKey.normalizeString raw) = .ok point) :
    publish true raw = .ok ⟨PublicKey.normalizeString raw, some point⟩ := by
  simp [publish, found]

theorem publish_point_error {fault : PublicKey.Fault}
    (found : PublicKey.pointHex (PublicKey.normalizeString raw) = .error fault) :
    publish true raw = .error (.publicKey fault) := by
  simp [publish, found]

theorem publish_error_iff (failure : Failure) :
    publish withPoint raw = .error failure ↔ withPoint = true ∧ ∃ fault,
      PublicKey.pointHex (PublicKey.normalizeString raw) = .error fault ∧
        failure = .publicKey fault := by
  cases withPoint with
  | false => simp [publish_plain]
  | true =>
    cases found : PublicKey.pointHex (PublicKey.normalizeString raw) with
    | error fault => simp [publish_point_error raw found, eq_comm]
    | ok point => simp [publish_point_ok raw found]

/-- Publishing a key into a record, whatever is then said of the two texts. -/
theorem publish_into_iff (before : Option String) (fact : String → Option String → Prop) :
    (∃ published, publish withPoint raw = .ok published ∧
        fact published.text (published.point.or before)) ↔
      ∃ after, PointSaid withPoint (PublicKey.normalizeString raw) before after ∧
        fact (PublicKey.normalizeString raw) after := by
  cases withPoint with
  | false => simp [publish_plain, PointSaid]
  | true =>
    cases found : PublicKey.pointHex (PublicKey.normalizeString raw) with
    | error fault => simp [publish_point_error raw found, PointSaid, found]
    | ok point => simp [publish_point_ok raw found, PointSaid, found]

end Publishing

/-- The accepted texts and what is printed for each, the refusal of every other one, and that no
two of them stand for one point. -/
theorem PublicKey.pointHex_exact (text : String) :
    (∀ hex, pointHex text = .ok hex ↔
      ∃ octets, IsKeyText text octets ∧ hex = String.ofList (Text.hexOctets octets)) ∧
    ((¬∃ octets, IsKeyText text octets) ↔ ∃ fault, pointHex text = .error fault) ∧
    (∀ raw, normalizeString raw = text → (¬∃ octets, IsKeyText text octets) →
      ∃ fault, publish true raw = .error (.publicKey fault)) ∧
    ∀ other hex, pointHex text = .ok hex → pointHex other = .ok hex →
      Text.trimString text = Text.trimString other := by
  refine ⟨pointHex_ok_iff text, (pointHex_error_iff text).symm, ?_, ?_⟩
  · rintro raw rfl none
    obtain ⟨fault, failed⟩ := (pointHex_error_iff _).mpr none
    exact ⟨fault, publish_point_error raw failed⟩
  · intro other hex found otherFound
    obtain ⟨octets, key, rfl⟩ := (pointHex_ok_iff text hex).mp found
    obtain ⟨others, otherKey, same⟩ := (pointHex_ok_iff other _).mp otherFound
    obtain rfl := hexOctets_injective octets others (String.ofList_injective same)
    exact isKeyText_unique key otherKey

end KeyCustody
