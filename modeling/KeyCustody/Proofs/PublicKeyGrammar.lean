import KeyCustody.Proofs.PublicPoint

namespace KeyCustody.Der

section Arcs

/-- A number in groups of seven bits, the greatest first. The `count` groups before the last one
are marked. -/
def groups : Nat → Nat → Bytes
  | 0, n => [UInt8.ofNat (n % 0x80)]
  | count + 1, n => UInt8.ofNat (0x80 + n / 0x80 ^ (count + 1) % 0x80) :: groups count n

def markedGroups (n : Nat) : Nat :=
  if n < 0x80 then 0
  else if n < 0x4000 then 1
  else if n < 0x200000 then 2
  else if n < 0x10000000 then 3
  else 4

def arc (n : Nat) : Bytes :=
  groups (markedGroups n) n

/-- Contents of the identifier that is written with dots. Its first two numbers share an arc. -/
def dotted (first second : Nat) (rest : List Nat) : Bytes :=
  ((40 * first + second) :: rest).flatMap arc

theorem groups_ne_nil (count n : Nat) : groups count n ≠ [] := by
  cases count <;> simp [groups]

variable {octet : UInt8}

theorem groups_last_iff (last : octet.toNat < 0x80) (tail rest : Bytes) (count n : Nat) :
    octet :: tail = groups count n ++ rest ↔ count = 0 ∧ octet.toNat = n % 0x80 ∧ tail = rest := by
  cases count with
  | zero =>
    have fits : n % 0x80 % 2 ^ 8 = n % 0x80 := by omega
    rw [groups, List.singleton_append, List.cons.injEq, ← UInt8.toNat_inj, UInt8.toNat_ofNat', fits]
    simp only [true_and]
  | succ count =>
    rw [groups, List.cons_append, List.cons.injEq, ← UInt8.toNat_inj, UInt8.toNat_ofNat']
    omega

theorem groups_marked_iff (marked : 0x80 ≤ octet.toNat) (tail rest : Bytes) (count n : Nat) :
    octet :: tail = groups count n ++ rest ↔ ∃ fewer, count = fewer + 1 ∧
      octet.toNat = 0x80 + n / 0x80 ^ (fewer + 1) % 0x80 ∧ tail = groups fewer n ++ rest := by
  cases count with
  | zero =>
    rw [groups, List.singleton_append, List.cons.injEq, ← UInt8.toNat_inj, UInt8.toNat_ofNat']
    simp only [Nat.zero_ne_add_one, false_and, exists_false, iff_false, not_and]
    omega
  | succ count =>
    simp only [groups, List.cons_append, List.cons.injEq, ← UInt8.toNat_inj, UInt8.toNat_ofNat',
      Nat.add_right_cancel_iff, exists_eq_left']
    have fits : (0x80 + n / 0x80 ^ (count + 1) % 0x80) % 2 ^ 8 =
        0x80 + n / 0x80 ^ (count + 1) % 0x80 := by omega
    rw [fits]

theorem base128_last_iff (last : octet.toNat < 0x80) (tail rest : Bytes) (index value n : Nat) :
    base128 index value (octet :: tail) = .number n rest ↔
      n < wordBound ∧ n = value * 0x80 + octet.toNat ∧ tail = rest := by
  have unmarked : octet ≠ 0x80 := by
    rintro rfl
    exact absurd last (by decide)
  simp only [base128, unmarked, and_false, if_false, if_pos last, Nat.mod_eq_of_lt last]
  split
  · simp only [reduceCtorEq, false_iff]
    omega
  · next small =>
    rw [Base128.number.injEq]
    constructor
    · rintro ⟨rfl, rfl⟩
      exact ⟨Nat.lt_of_not_le small, rfl, rfl⟩
    · rintro ⟨-, rfl, rfl⟩
      exact ⟨rfl, rfl⟩

theorem base128_marked_iff (marked : 0x80 ≤ octet.toNat) (tail rest : Bytes) (index value n : Nat) :
    base128 index value (octet :: tail) = .number n rest ↔
      (index = 0 → octet.toNat ≠ 0x80) ∧ value * 0x80 + octet.toNat % 0x80 < wordBound ∧
        index < 4 ∧
          base128 (index + 1) (value * 0x80 + octet.toNat % 0x80) tail = .number n rest := by
  have zero : octet = 0x80 ↔ octet.toNat = 0x80 := UInt8.toNat_inj.symm
  simp only [base128, zero]
  split
  · next leading => simp [leading]
  · next leading =>
    split
    · next large => simp [Nat.not_lt.mpr large]
    · next small =>
      rw [if_neg (by omega)]
      split
      · next full => simp [Nat.not_lt.mpr full]
      · next more =>
        simp only [Nat.lt_of_not_le small, Nat.lt_of_not_le more, true_and, iff_and_self]
        exact fun _ start zero => leading ⟨start, zero⟩

-- `index` groups have been read and make up `value`. The lowest groups of `n` are still to come,
-- and `value` is its quotient by them.
theorem base128_iff (octets rest : Bytes) (index value n : Nat) (room : index ≤ 4) :
    base128 index value octets = .number n rest ↔
      ∃ count, index + count ≤ 4 ∧ n < wordBound ∧ n / 0x80 ^ (count + 1) = value ∧
        (index = 0 → count = 0 ∨ n / 0x80 ^ count % 0x80 ≠ 0) ∧
          octets = groups count n ++ rest := by
  induction octets generalizing index value with
  | nil =>
    simp only [base128, reduceCtorEq, false_iff]
    rintro ⟨count, -, -, -, -, form⟩
    exact groups_ne_nil count n (List.append_eq_nil_iff.mp form.symm).1
  | cons octet tail ih =>
    by_cases last : octet.toNat < 0x80
    · simp only [base128_last_iff last, groups_last_iff last]
      constructor
      · rintro ⟨word, rfl, rfl⟩
        exact ⟨0, room, word, by omega, fun _ => .inl rfl, rfl, by omega, rfl⟩
      · rintro ⟨_, -, word, quotient, -, rfl, group, rfl⟩
        exact ⟨word, by omega, rfl⟩
    · have marked := Nat.le_of_not_lt last
      have bound := octet.toNat_lt
      simp only [base128_marked_iff marked, groups_marked_iff marked]
      -- A quotient by one more group is the quotient without it, divided once more.
      have next (count : Nat) : n / 0x80 ^ (count + 1 + 1) = n / 0x80 ^ (count + 1) / 0x80 := by
        rw [Nat.pow_succ _ (count + 1), Nat.div_div_eq_div_mul]
      constructor
      · rintro ⟨leading, -, more, read⟩
        obtain ⟨count, few, word, quotient, -, form⟩ := (ih _ _ more).mp read
        have above := next count
        refine ⟨count + 1, by omega, word, by omega, ?_, count, rfl, by omega, form⟩
        intro start
        have some := leading start
        omega
      · rintro ⟨_, few, word, quotient, leading, count, rfl, group, form⟩
        have above := next count
        have below : n / 0x80 ^ (count + 1) ≤ n := Nat.div_le_self _ _
        refine ⟨?_, by omega, by omega, ?_⟩
        · intro start
          have some := leading start
          omega
        · exact (ih _ _ (by omega)).mpr ⟨count, by omega, word, by omega, by omega, form⟩

-- With no more groups than the number fills and no fewer, their count is fixed.
theorem markedGroups_iff (count n : Nat) (word : n < wordBound) :
    (count ≤ 4 ∧ n / 0x80 ^ (count + 1) = 0 ∧ (count = 0 ∨ n / 0x80 ^ count % 0x80 ≠ 0)) ↔
      count = markedGroups n := by
  unfold wordBound at word
  unfold markedGroups
  by_cases few : count ≤ 4
  · obtain rfl | rfl | rfl | rfl | rfl :
        count = 0 ∨ count = 1 ∨ count = 2 ∨ count = 3 ∨ count = 4 := by omega
    all_goals
      simp only [Nat.reducePow, Nat.reduceAdd, true_or, and_true]
      repeat' split
      all_goals omega
  · repeat' split
    all_goals omega

theorem arc_iff (input rest : Bytes) (n : Nat) :
    base128 0 0 input = .number n rest ↔ n < wordBound ∧ input = arc n ++ rest := by
  rw [base128_iff input rest 0 0 n (by omega)]
  constructor
  · rintro ⟨count, few, word, done, leading, rfl⟩
    refine ⟨word, ?_⟩
    rw [arc, ← (markedGroups_iff count n word).mp ⟨by omega, done, leading rfl⟩]
  · rintro ⟨word, rfl⟩
    obtain ⟨few, done, leading⟩ := (markedGroups_iff _ n word).mpr rfl
    exact ⟨markedGroups n, by omega, word, done, fun _ => leading, rfl⟩

theorem areArcs_cons_iff (fuel : Nat) (tail : Bytes) :
    areArcs (fuel + 1) (octet :: tail) = true ↔
      ∃ n rest, base128 0 0 (octet :: tail) = .number n rest ∧ areArcs fuel rest = true := by
  rw [areArcs]
  · cases base128 0 0 (octet :: tail) <;> simp
  · exact List.cons_ne_nil octet tail

-- Every arc takes an octet, so as many steps as there are octets are enough.
theorem areArcs_iff (fuel : Nat) (contents : Bytes) (enough : contents.length ≤ fuel) :
    areArcs fuel contents = true ↔
      ∃ arcs : List Nat, (∀ n ∈ arcs, n < wordBound) ∧ contents = arcs.flatMap arc := by
  induction fuel generalizing contents with
  | zero =>
    obtain rfl := List.length_eq_zero_iff.mp (Nat.le_zero.mp enough)
    exact iff_of_true rfl ⟨[], by simp, rfl⟩
  | succ fuel ih =>
    cases contents with
    | nil => exact iff_of_true rfl ⟨[], by simp, rfl⟩
    | cons octet tail =>
      have shorter (n : Nat) (rest : Bytes) (form : octet :: tail = arc n ++ rest) :
          rest.length ≤ fuel := by
        have some := List.length_pos_iff.mpr (groups_ne_nil (markedGroups n) n)
        rw [form, List.length_append, arc] at enough
        omega
      rw [areArcs_cons_iff]
      constructor
      · rintro ⟨n, rest, read, more⟩
        obtain ⟨word, form⟩ := (arc_iff _ rest n).mp read
        obtain ⟨others, words, rfl⟩ := (ih rest (shorter n rest form)).mp more
        exact ⟨n :: others, List.forall_mem_cons.mpr ⟨word, words⟩, form⟩
      · rintro ⟨arcs, words, form⟩
        cases arcs with
        | nil => cases form
        | cons n others =>
          rw [List.forall_mem_cons] at words
          rw [List.flatMap_cons] at form
          exact ⟨n, others.flatMap arc, (arc_iff _ _ n).mpr ⟨words.1, form⟩,
            (ih _ (shorter n _ form)).mpr ⟨others, words.2, rfl⟩⟩

end Arcs

section Grammar

def tlv (tag : UInt8) (contents : Bytes) : Bytes :=
  tag :: (lengthOctets contents.length ++ contents)

/-- Contents of an object identifier: arcs of at most 32 bits each, all in at most 63 octets. -/
structure IsRowOfArcs (contents : Bytes) : Prop where
  nonempty : contents ≠ []
  short : contents.length ≤ 63
  row : ∃ arcs : List Nat, (∀ n ∈ arcs, n < wordBound) ∧ contents = arcs.flatMap arc

inductive IsPublicKey : SubjectPublicKey → Bytes → Prop where
  | written {algorithm parameters octets body : Bytes} {unused : Nat}
      (isAlgorithm : IsRowOfArcs algorithm) (isParameters : IsRowOfArcs parameters)
      (padded : (BitString.mk unused octets).IsPadded)
      (parts : body = tlv 0x30 (tlv 0x06 algorithm ++ tlv 0x06 parameters) ++
        tlv 0x03 (UInt8.ofNat unused :: octets))
      (word : body.length < wordBound) :
      IsPublicKey ⟨algorithm, parameters, ⟨unused, octets⟩⟩ (tlv 0x30 body)

theorem isIdentifier_iff (contents : Bytes) : IsIdentifier contents ↔ IsRowOfArcs contents := by
  have arcs := areArcs_iff contents.length contents (Nat.le_refl _)
  constructor
  · rintro ⟨nonempty, short, complete⟩
    exact ⟨nonempty, short, arcs.mp complete⟩
  · rintro ⟨nonempty, short, row⟩
    exact ⟨nonempty, short, arcs.mpr row⟩

theorem isPublicKey_iff (key : SubjectPublicKey) (der : Bytes) :
    IsPublicKey key der ↔ subjectPublicKey der = .ok key := by
  rw [subjectPublicKey_iff]
  constructor
  · rintro ⟨isAlgorithm, isParameters, padded, rfl, word⟩
    exact ⟨⟨(isIdentifier_iff _).mpr isAlgorithm, (isIdentifier_iff _).mpr isParameters, padded,
      word⟩, rfl⟩
  · rintro ⟨⟨isAlgorithm, isParameters, padded, word⟩, rfl⟩
    exact .written ((isIdentifier_iff _).mp isAlgorithm) ((isIdentifier_iff _).mp isParameters)
      padded rfl word

theorem IsPublicKey.unique {key other : SubjectPublicKey} {der : Bytes}
    (left : IsPublicKey key der) (right : IsPublicKey other der) : key = other := by
  have read := (isPublicKey_iff key der).mp left
  have again := (isPublicKey_iff other der).mp right
  exact Except.ok.inj (read.symm.trans again)

end Grammar
end KeyCustody.Der

namespace KeyCustody.PublicKey

theorem dotted_ellipticCurveKey : Der.dotted 1 2 [840, 10045, 2, 1] = ellipticCurveKey := by
  decide

theorem dotted_secp256k1 : Der.dotted 1 3 [132, 0, 10] = secp256k1 := by
  decide

theorem point_malformed_iff (der : Bytes) :
    (∃ fault, point der = .error (.malformed fault)) ↔ ¬∃ key, Der.IsPublicKey key der := by
  simp only [Der.isPublicKey_iff]
  unfold point
  cases read : Der.subjectPublicKey der with
  | error fault => simp
  | ok key =>
    simp only [Except.ok.injEq, exists_eq', not_true_eq_false, iff_false]
    rintro ⟨fault, refused⟩
    repeat' split at refused
    all_goals cases refused

/-- Octets are malformed exactly when they are not in the grammar. Those that are have one reading,
and the first part of it that is not as a point on secp256k1 needs decides the refusal. -/
theorem point_classified (der : Bytes) :
    ((∃ fault, point der = .error (.malformed fault)) ↔ ¬∃ key, Der.IsPublicKey key der) ∧
    (∀ fault, Fault.message (.malformed fault) =
      "malformed SubjectPublicKeyInfo: " ++ fault.message) ∧
    ∀ key, Der.IsPublicKey key der →
      (∀ other, Der.IsPublicKey other der → other = key) ∧
      (point der).mapError Fault.message =
        if key.algorithm ≠ Der.dotted 1 2 [840, 10045, 2, 1] then .error "not an EC public key"
        else if key.parameters ≠ Der.dotted 1 3 [132, 0, 10] then .error "curve is not secp256k1"
        else if key.key.unused ≠ 0 then .error "BIT STRING has unused bits"
        else if (key.key.octets.length = 65 ∧ key.key.octets.head? = some 0x04) ∨
            (key.key.octets.length = 33 ∧
              (key.key.octets.head? = some 0x02 ∨ key.key.octets.head? = some 0x03)) then
          .ok key.key.octets
        else .error "malformed SEC1 point" := by
  refine ⟨point_malformed_iff der, fun _ => rfl, ?_⟩
  intro key read
  refine ⟨fun other again => again.unique read, ?_⟩
  rw [dotted_ellipticCurveKey, dotted_secp256k1]
  simp only [point, (Der.isPublicKey_iff key der).mp read, isPoint_iff,
    apply_ite (Except.mapError Fault.message)]
  rfl

end KeyCustody.PublicKey
