import Mathlib.Algebra.Group.Nat.Defs
import KeyCustody.Der
import KeyCustody.Proofs.Traversal

namespace KeyCustody.Der

section BigEndian

/-- The last `count` octets of a number, the greatest first. -/
def bigEndian : Nat → Nat → Bytes
  | 0, _ => []
  | count + 1, n => bigEndian count (n / 0x100) ++ [UInt8.ofNat n]

theorem length_bigEndian (count n : Nat) : (bigEndian count n).length = count := by
  induction count generalizing n with
  | zero => rfl
  | succ count ih => simp [bigEndian, ih]

theorem number_append (octets : Bytes) (last : UInt8) :
    number (octets ++ [last]) = number octets * 0x100 + last.toNat := by
  simp [number]

-- From the right, since the last octet is the one that a division takes off.
theorem number_iff (count n : Nat) (octets : Bytes) :
    octets.length = count ∧ number octets = n ↔ n < 0x100 ^ count ∧ octets = bigEndian count n := by
  induction count generalizing n octets with
  | zero =>
    rw [List.length_eq_zero_iff]
    constructor
    · rintro ⟨rfl, rfl⟩
      exact ⟨by decide, rfl⟩
    · rintro ⟨small, rfl⟩
      have zero : n = 0 := by simpa using small
      exact ⟨rfl, zero.symm⟩
  | succ count ih =>
    have power : 0x100 ^ (count + 1) = 0x100 ^ count * 0x100 := Nat.pow_succ ..
    constructor
    · rintro ⟨length, rfl⟩
      obtain rfl | ⟨front, last, rfl⟩ := octets.eq_nil_or_concat
      · cases length
      · have shorter : front.length = count := by simpa using length
        have bound := last.toNat_lt
        obtain ⟨small, form⟩ := (ih (number front) front).mp ⟨shorter, rfl⟩
        rw [List.concat_eq_append, number_append]
        have top : (number front * 0x100 + last.toNat) / 0x100 = number front := by omega
        have bottom : UInt8.ofNat (number front * 0x100 + last.toNat) = last := by
          apply UInt8.toNat_inj.mp
          rw [UInt8.toNat_ofNat']
          omega
        refine ⟨by omega, ?_⟩
        rw [bigEndian, top, bottom, ← form]
    · rintro ⟨small, rfl⟩
      obtain ⟨-, value⟩ := (ih (n / 0x100) (bigEndian count (n / 0x100))).mpr ⟨by omega, rfl⟩
      refine ⟨length_bigEndian (count + 1) n, ?_⟩
      rw [bigEndian, number_append, value, UInt8.toNat_ofNat']
      omega

end BigEndian

section Tags

def TagClass.index : TagClass → Nat
  | .universal => 0
  | .application => 1
  | .contextSpecific => 2
  | .privateUse => 3

def Tag.octet (t : Tag) : UInt8 :=
  UInt8.ofNat (t.tagClass.index * 0x40 + (if t.constructed then 0x20 else 0) + t.number)

theorem tagClass_iff (octet : UInt8) (kind : TagClass) :
    tagClass octet = kind ↔ octet.toNat / 0x40 = kind.index := by
  have bound := octet.toNat_lt
  have quarter : octet.toNat / 0x40 < 4 := by omega
  unfold tagClass
  revert quarter
  generalize octet.toNat / 0x40 = q
  intro quarter
  obtain rfl | rfl | rfl | rfl : q = 0 ∨ q = 1 ∨ q = 2 ∨ q = 3 := by omega
  all_goals cases kind <;> decide

theorem octet_iff (t : Tag) (short : t.number < 31) (octet : UInt8) :
    octet = t.octet ↔ octet.toNat % 0x20 = t.number ∧
      (octet.toNat / 0x20 % 2 == 1) = t.constructed ∧ tagClass octet = t.tagClass := by
  obtain ⟨number, constructed, kind⟩ := t
  have bound := octet.toNat_lt
  have classes : kind.index < 4 := by cases kind <;> decide
  rw [tagClass_iff, ← UInt8.toNat_inj, Tag.octet, UInt8.toNat_ofNat']
  simp only at short ⊢
  cases constructed with
  | false =>
    simp only [Bool.false_eq_true, if_false, beq_eq_false_iff_ne, ne_eq]
    omega
  | true =>
    simp only [if_true, beq_iff_eq]
    omega

theorem takeTag_iff (t : Tag) (short : t.number < 31) (input rest : Bytes) :
    takeTag input = .ok (t, rest) ↔ input = t.octet :: rest := by
  cases input with
  | nil => simp [takeTag]
  | cons octet tail =>
    rw [List.cons.injEq, octet_iff t short]
    simp only [takeTag]
    split
    · obtain ⟨number, constructed, kind⟩ := t
      simp only [Except.ok.injEq, Prod.mk.injEq, Tag.mk.injEq, and_assoc]
    · next long =>
      have other : octet.toNat % 0x20 ≠ t.number := by omega
      simp only [other, false_and, iff_false]
      -- The long form only gives numbers that the short form has no room for.
      intro taken
      split at taken
      · cases taken
      · cases taken
      · split at taken
        · cases taken
        · next value _ _ least =>
          cases taken
          exact least short

end Tags

section Lengths

def width (n : Nat) : Nat :=
  if n < 0x100 then 1 else if n < 0x10000 then 2 else if n < 0x1000000 then 3 else 4

def lengthOctets (n : Nat) : Bytes :=
  if n < 0x80 then [UInt8.ofNat n]
  else UInt8.ofNat (0x80 + width n) :: bigEndian (width n) n

theorem width_le (n : Nat) : 1 ≤ width n ∧ width n ≤ 4 := by
  unfold width
  split
  · decide
  · split
    · decide
    · split <;> decide

-- The lengths that `count` octets hold and fewer do not.
theorem width_iff (count n : Nat) (some : 1 ≤ count) (few : count ≤ 4) :
    leastLong count ≤ n ∧ n < 0x100 ^ count ↔ 0x80 ≤ n ∧ n < wordBound ∧ width n = count := by
  unfold width wordBound
  obtain rfl | rfl | rfl | rfl : count = 1 ∨ count = 2 ∨ count = 3 ∨ count = 4 := by omega
  all_goals
    simp only [leastLong]
    split
    · omega
    · split
      · omega
      · split <;> omega

theorem takeLong_iff (octet : UInt8) (count : Nat) (marked : octet.toNat = 0x80 + count)
    (tail rest : Bytes) (n : Nat) :
    takeLength (octet :: tail) = .ok (n, rest) ↔
      1 ≤ count ∧ count ≤ 4 ∧ leastLong count ≤ n ∧ n < 0x100 ^ count ∧
        tail = bigEndian count n ++ rest := by
  simp only [takeLength, marked, Nat.add_sub_cancel_left]
  rw [if_neg (by omega)]
  split
  · next refused =>
    simp only [reduceCtorEq, false_iff]
    omega
  · next accepted =>
    simp only [bind_ok_iff, Prod.exists, takeOctets_eq_ok_iff]
    constructor
    · rintro ⟨octets, after, ⟨rfl, length⟩, found⟩
      split at found
      · cases found
      · cases found
        obtain ⟨small, form⟩ := (number_iff count _ octets).mp ⟨length, rfl⟩
        exact ⟨by omega, by omega, by omega, small, by rw [← form]⟩
    · rintro ⟨-, -, least, small, rfl⟩
      obtain ⟨length, value⟩ := (number_iff count n _).mpr ⟨small, rfl⟩
      refine ⟨_, rest, ⟨rfl, length⟩, ?_⟩
      rw [value, if_neg (by omega)]

theorem lengthOctets_short {n : Nat} (short : n < 0x80) : lengthOctets n = [UInt8.ofNat n] :=
  if_pos short

theorem lengthOctets_long {n : Nat} (long : 0x80 ≤ n) :
    lengthOctets n = UInt8.ofNat (0x80 + width n) :: bigEndian (width n) n :=
  if_neg (Nat.not_lt.mpr long)

theorem takeLength_short_iff (octet : UInt8) (short : octet.toNat < 0x80) (tail rest : Bytes)
    (n : Nat) :
    takeLength (octet :: tail) = .ok (n, rest) ↔
      n < wordBound ∧ octet :: tail = lengthOctets n ++ rest := by
  simp only [takeLength, if_pos short, Except.ok.injEq, Prod.mk.injEq]
  constructor
  · rintro ⟨rfl, rfl⟩
    refine ⟨by unfold wordBound; omega, ?_⟩
    rw [lengthOctets_short short, UInt8.ofNat_toNat]
    rfl
  · rintro ⟨-, form⟩
    by_cases small : n < 0x80
    · rw [lengthOctets_short small] at form
      obtain ⟨rfl, rfl⟩ := List.cons.inj form
      exact ⟨by rw [UInt8.toNat_ofNat']; omega, rfl⟩
    · have wide := width_le n
      rw [lengthOctets_long (by omega)] at form
      obtain ⟨rfl, -⟩ := List.cons.inj form
      rw [UInt8.toNat_ofNat'] at short
      omega

-- In long form the count of the octets fixes the range of the number, and so its width.
theorem takeLength_long_iff (octet : UInt8) (long : 0x80 ≤ octet.toNat) (tail rest : Bytes)
    (n : Nat) :
    takeLength (octet :: tail) = .ok (n, rest) ↔
      n < wordBound ∧ octet :: tail = lengthOctets n ++ rest := by
  have bound := octet.toNat_lt
  obtain ⟨count, marked⟩ : ∃ count, octet.toNat = 0x80 + count := Nat.exists_eq_add_of_le long
  rw [takeLong_iff octet count marked]
  constructor
  · rintro ⟨some, few, least, small, rfl⟩
    obtain ⟨large, word, rfl⟩ := (width_iff count n some few).mp ⟨least, small⟩
    refine ⟨word, ?_⟩
    rw [lengthOctets_long large, ← marked, UInt8.ofNat_toNat]
    rfl
  · rintro ⟨word, form⟩
    have wide := width_le n
    by_cases small : n < 0x80
    · rw [lengthOctets_short small] at form
      obtain ⟨rfl, -⟩ := List.cons.inj form
      rw [UInt8.toNat_ofNat'] at long
      omega
    · rw [lengthOctets_long (by omega)] at form
      obtain ⟨rfl, rfl⟩ := List.cons.inj form
      rw [UInt8.toNat_ofNat'] at marked
      obtain rfl : width n = count := by omega
      obtain ⟨least, fits⟩ := (width_iff (width n) n wide.1 wide.2).mpr ⟨by omega, word, rfl⟩
      exact ⟨wide.1, wide.2, least, fits, rfl⟩

theorem takeLength_iff (n : Nat) (input rest : Bytes) :
    takeLength input = .ok (n, rest) ↔ n < wordBound ∧ input = lengthOctets n ++ rest := by
  cases input with
  | nil =>
    unfold lengthOctets
    split <;> simp [takeLength]
  | cons octet tail =>
    by_cases short : octet.toNat < 0x80
    · exact takeLength_short_iff octet short tail rest n
    · exact takeLength_long_iff octet (Nat.le_of_not_lt short) tail rest n

end Lengths

section Elements

def element (t : Tag) (contents : Bytes) : Bytes :=
  t.octet :: (lengthOctets contents.length ++ contents)

theorem length_le_element (t : Tag) (contents : Bytes) :
    contents.length ≤ (element t contents).length := by
  simp only [element, List.length_cons, List.length_append]
  omega

theorem takeElement_iff (t : Tag) (short : t.number < 31) (input contents rest : Bytes) :
    takeElement t input = .ok (contents, rest) ↔
      contents.length < wordBound ∧ input = element t contents ++ rest := by
  simp only [takeElement, bind_ok_iff, Prod.exists]
  -- The element is read whole before its tag is judged, so the tag comes last here.
  constructor
  · rintro ⟨tag, afterTag, tagged, length, afterLength, measured, found, after, taken, fits⟩
    split at fits
    · next same =>
      cases fits
      subst same
      obtain rfl := (takeTag_iff tag short input afterTag).mp tagged
      obtain ⟨word, rfl⟩ := (takeLength_iff length afterTag afterLength).mp measured
      obtain ⟨rfl, rfl⟩ := (takeOctets_eq_ok_iff length afterLength contents rest).mp taken
      exact ⟨word, by simp [element]⟩
    · cases fits
  · rintro ⟨word, rfl⟩
    refine ⟨t, lengthOctets contents.length ++ (contents ++ rest), ?_, contents.length,
      contents ++ rest, ?_, contents, rest, ?_, if_pos rfl⟩
    · exact (takeTag_iff t short _ _).mpr (by simp [element])
    · exact (takeLength_iff _ _ _).mpr ⟨word, rfl⟩
    · exact (takeOctets_eq_ok_iff _ _ _ _).mpr ⟨rfl, rfl⟩

structure IsIdentifier (contents : Bytes) : Prop where
  nonempty : contents ≠ []
  short : contents.length ≤ 63
  arcs : areArcs contents.length contents = true

theorem checkIdentifier_iff (contents identifier : Bytes) :
    checkIdentifier contents = .ok identifier ↔ IsIdentifier contents ∧ identifier = contents := by
  unfold checkIdentifier
  split
  · next empty =>
    simp only [reduceCtorEq, false_iff]
    rintro ⟨valid, -⟩
    exact valid.nonempty empty
  · next nonempty =>
    split
    · next long =>
      simp only [reduceCtorEq, false_iff]
      rintro ⟨valid, -⟩
      exact absurd valid.short (by omega)
    · next short =>
      split
      · next arcs =>
        rw [Except.ok.injEq]
        exact ⟨fun same => ⟨⟨nonempty, by omega, arcs⟩, same.symm⟩, fun valid => valid.2.symm⟩
      · next broken =>
        simp only [reduceCtorEq, false_iff]
        rintro ⟨valid, -⟩
        exact broken valid.arcs

theorem takeIdentifier_iff (input identifier rest : Bytes) :
    takeIdentifier input = .ok (identifier, rest) ↔
      IsIdentifier identifier ∧ input = element .objectIdentifier identifier ++ rest := by
  have tag : Tag.objectIdentifier.number < 31 := by decide
  simp only [takeIdentifier, bind_ok_iff, Prod.exists, takeElement_iff _ tag, checkIdentifier_iff,
    Except.ok.injEq, Prod.mk.injEq]
  constructor
  · rintro ⟨contents, after, ⟨-, rfl⟩, _, ⟨valid, rfl⟩, rfl, rfl⟩
    exact ⟨valid, rfl⟩
  · rintro ⟨valid, rfl⟩
    have word : identifier.length < wordBound := by
      have short := valid.short
      unfold wordBound
      omega
    exact ⟨identifier, rest, ⟨word, rfl⟩, identifier, ⟨valid, rfl⟩, rfl, rfl⟩

def BitString.contents (bits : BitString) : Bytes :=
  UInt8.ofNat bits.unused :: bits.octets

structure BitString.IsPadded (bits : BitString) : Prop where
  few : bits.unused ≤ 7
  empty : bits.octets = [] → bits.unused = 0
  zero : ∀ last, bits.octets.getLast? = some last → last.toNat % Nat.pow 2 bits.unused = 0

theorem bitString_cons_iff (first : UInt8) (octets : Bytes) (bits : BitString) :
    bitString (first :: octets) = .ok bits ↔
      (BitString.mk first.toNat octets).IsPadded ∧ bits = ⟨first.toNat, octets⟩ := by
  simp only [bitString]
  split
  · next many =>
    simp only [reduceCtorEq, false_iff]
    rintro ⟨padded, -⟩
    exact absurd padded.few (Nat.not_le.mpr many)
  · next few =>
    have bound := Nat.le_of_not_lt few
    split
    · next none =>
      obtain rfl := List.getLast?_eq_none_iff.mp none
      split
      · next zero =>
        rw [zero, Except.ok.injEq]
        exact ⟨fun same => ⟨⟨Nat.zero_le 7, fun _ => rfl, by simp⟩, same.symm⟩,
          fun good => good.2.symm⟩
      · next stray =>
        simp only [reduceCtorEq, false_iff]
        rintro ⟨padded, -⟩
        exact stray (padded.empty rfl)
    · next last found =>
      split
      · next zero =>
        rw [Except.ok.injEq]
        refine ⟨fun same => ⟨⟨bound, ?_, ?_⟩, same.symm⟩, fun good => good.2.symm⟩
        · rintro rfl
          cases found
        · intro other here
          cases found.symm.trans here
          exact zero
      · next stray =>
        simp only [reduceCtorEq, false_iff]
        rintro ⟨padded, -⟩
        exact stray (padded.zero last found)

theorem bitString_iff (contents : Bytes) (bits : BitString) :
    bitString contents = .ok bits ↔ bits.IsPadded ∧ contents = bits.contents := by
  cases contents with
  | nil => simp [bitString, BitString.contents]
  | cons first octets =>
    rw [bitString_cons_iff]
    constructor
    · rintro ⟨padded, rfl⟩
      exact ⟨padded, by rw [BitString.contents, UInt8.ofNat_toNat]⟩
    · rintro ⟨padded, form⟩
      obtain ⟨unused, inside⟩ := bits
      obtain ⟨rfl, rfl⟩ := List.cons.inj form
      have few : unused ≤ 7 := padded.few
      have same : (UInt8.ofNat unused).toNat = unused := by
        rw [UInt8.toNat_ofNat']
        omega
      simp only [same]
      exact ⟨padded, trivial⟩

theorem takeBitString_iff (input rest : Bytes) (bits : BitString) :
    takeBitString input = .ok (bits, rest) ↔
      bits.IsPadded ∧ bits.contents.length < wordBound ∧
        input = element .bitString bits.contents ++ rest := by
  have tag : Tag.bitString.number < 31 := by decide
  simp only [takeBitString, bind_ok_iff, Prod.exists, takeElement_iff _ tag, bitString_iff,
    Except.ok.injEq, Prod.mk.injEq]
  constructor
  · rintro ⟨contents, after, ⟨word, rfl⟩, _, ⟨padded, rfl⟩, rfl, rfl⟩
    exact ⟨padded, word, rfl⟩
  · rintro ⟨padded, word, rfl⟩
    exact ⟨bits.contents, rest, ⟨word, rfl⟩, bits, ⟨padded, rfl⟩, rfl, rfl⟩

theorem atEnd_iff (input : Bytes) (done : Unit) : atEnd input = .ok done ↔ input = [] := by
  cases input <;> simp [atEnd]

end Elements

section PublicKeys
variable (key : SubjectPublicKey)

def SubjectPublicKey.kind : Bytes :=
  element .objectIdentifier key.algorithm ++ element .objectIdentifier key.parameters

def SubjectPublicKey.body : Bytes :=
  element .sequence key.kind ++ element .bitString key.key.contents

def SubjectPublicKey.written : Bytes :=
  element .sequence key.body

structure SubjectPublicKey.IsWritable : Prop where
  algorithm : IsIdentifier key.algorithm
  parameters : IsIdentifier key.parameters
  padded : key.key.IsPadded
  word : key.body.length < wordBound

theorem subjectPublicKey_iff (input : Bytes) :
    subjectPublicKey input = .ok key ↔ key.IsWritable ∧ input = key.written := by
  have tag : Tag.sequence.number < 31 := by decide
  simp only [subjectPublicKey, bind_ok_iff, Prod.exists, takeElement_iff _ tag,
    takeIdentifier_iff, takeBitString_iff, atEnd_iff, exists_const, Except.ok.injEq]
  constructor
  · rintro ⟨body, afterBody, ⟨word, rfl⟩, kind, afterKind, ⟨-, rfl⟩, algorithm, _,
      ⟨isAlgorithm, rfl⟩, parameters, _, ⟨isParameters, rfl⟩, rfl, bits, _, ⟨padded, -, rfl⟩,
      rfl, rfl, rfl⟩
    refine ⟨⟨isAlgorithm, isParameters, padded, ?_⟩, ?_⟩
    · simpa [SubjectPublicKey.body, SubjectPublicKey.kind] using word
    · simp [SubjectPublicKey.written, SubjectPublicKey.body, SubjectPublicKey.kind]
  · rintro ⟨⟨isAlgorithm, isParameters, padded, word⟩, rfl⟩
    -- Only the outermost length needs a bound: all the others are below it.
    have inKind := length_le_element .sequence key.kind
    have inBits := length_le_element .bitString key.key.contents
    have parts : key.body.length = (element .sequence key.kind).length +
        (element .bitString key.key.contents).length := by
      rw [SubjectPublicKey.body, List.length_append]
    exact ⟨key.body, [], ⟨word, by simp [SubjectPublicKey.written]⟩,
      key.kind, element .bitString key.key.contents, ⟨by omega, rfl⟩,
      key.algorithm, element .objectIdentifier key.parameters, ⟨isAlgorithm, rfl⟩,
      key.parameters, [], ⟨isParameters, by simp⟩, rfl,
      key.key, [], ⟨padded, by omega, by simp⟩, rfl, rfl, rfl⟩

end PublicKeys

end KeyCustody.Der
