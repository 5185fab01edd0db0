import KeyCustody.Proofs.Timestamp
import KeyCustody.Proofs.TimestampGrammar

/-!
On timestamps of one shape the order of instants is the order of texts. All of them are in UTC and
have equally many digits, so the texts compare as their fields do, from the year down.
-/
namespace KeyCustody.Time

section Fields

-- Where the fronts are of one length, the backs only count if the fronts are equal.
theorem append_lt_append_iff {front other : Bytes} (same : front.length = other.length)
    (back otherBack : Bytes) :
    front ++ back < other ++ otherBack ↔ front < other ∨ front = other ∧ back < otherBack := by
  induction front generalizing other with
  | nil =>
    obtain rfl := List.length_eq_zero_iff.mp same.symm
    simp
  | cons octet rest ih =>
    cases other with
    | nil => cases same
    | cons first others =>
      have inside := ih (Nat.succ.inj same)
      rw [List.cons_append, List.cons_append, List.cons_lt_cons_iff, List.cons_lt_cons_iff, inside,
        List.cons.injEq]
      constructor
      · rintro (less | ⟨rfl, less | ⟨rfl, less⟩⟩)
        · exact .inl (.inl less)
        · exact .inl (.inr ⟨rfl, less⟩)
        · exact .inr ⟨⟨rfl, rfl⟩, less⟩
      · rintro ((less | ⟨rfl, less⟩) | ⟨⟨rfl, rfl⟩, less⟩)
        · exact .inl less
        · exact .inr ⟨rfl, .inl less⟩
        · exact .inr ⟨rfl, .inr ⟨rfl, less⟩⟩

theorem digit_lt_iff {d e : Nat} (small : d < 10) (otherSmall : e < 10) :
    (Nat.digitChar d).toUInt8 < (Nat.digitChar e).toUInt8 ↔ d < e := by
  rw [UInt8.lt_iff_toNat_lt, toNat_digit small, toNat_digit otherSmall]
  omega

theorem decimal_inj {width m n : Nat} (fits : m < 10 ^ width) (otherFits : n < 10 ^ width)
    (same : Text.octets (decimal width m) = Text.octets (decimal width n)) : m = n := by
  have read {k : Nat} (fits : k < 10 ^ width) :
      digits (Text.octets (decimal width k)) = .ok k := by
    rw [digits_iff, length_octets_decimal]
    exact ⟨fits, rfl⟩
  have again := read otherFits
  rw [← same, read fits] at again
  exact Except.ok.inj again

theorem decimal_lt_iff {width m n : Nat} (fits : m < 10 ^ width) (otherFits : n < 10 ^ width) :
    Text.octets (decimal width m) < Text.octets (decimal width n) ↔ m < n := by
  induction width generalizing m n with
  | zero =>
    have zero : m = 0 := by simpa using fits
    have otherZero : n = 0 := by simpa using otherFits
    simp [decimal, zero, otherZero]
  | succ width ih =>
    have power : 10 ^ (width + 1) = 10 ^ width * 10 := Nat.pow_succ ..
    have front : m / 10 < 10 ^ width := by omega
    have otherFront : n / 10 < 10 ^ width := by omega
    have lengths : (Text.octets (decimal width (m / 10))).length =
        (Text.octets (decimal width (n / 10))).length := by
      rw [length_octets_decimal, length_octets_decimal]
    have equal : Text.octets (decimal width (m / 10)) = Text.octets (decimal width (n / 10)) ↔
        m / 10 = n / 10 :=
      ⟨decimal_inj front otherFront, fun same => by rw [same]⟩
    have unit (k : Nat) : k % 10 < 10 := Nat.mod_lt k (by decide)
    rw [octets_decimal_succ, octets_decimal_succ, append_lt_append_iff lengths, ih front otherFront,
      equal, List.cons_lt_cons_iff, digit_lt_iff (unit m) (unit n)]
    simp only [List.not_lt_nil, and_false, or_false]
    omega

-- A field of digits at the front decides, and what follows it only if the fields are equal.
theorem field_lt_iff {width m n : Nat} (fits : m < 10 ^ width) (otherFits : n < 10 ^ width)
    (back otherBack : Bytes) :
    Text.octets (decimal width m) ++ back < Text.octets (decimal width n) ++ otherBack ↔
      m < n ∨ m = n ∧ back < otherBack := by
  have lengths : (Text.octets (decimal width m)).length =
      (Text.octets (decimal width n)).length := by
    rw [length_octets_decimal, length_octets_decimal]
  rw [append_lt_append_iff lengths, decimal_lt_iff fits otherFits]
  refine or_congr_right (and_congr_left fun _ => ?_)
  exact ⟨decimal_inj fits otherFits, fun same => by rw [same]⟩

theorem numeral_concat (front : List Nat) (last : Nat) :
    numeral (front ++ [last]) = 10 * numeral front + last := by
  simp [numeral]

theorem numeral_lt {digits : List Nat} (small : ∀ d ∈ digits, d < 10) :
    numeral digits < 10 ^ digits.length := by
  induction digits using List.reverseRecOn with
  | nil => decide
  | append_singleton front last ih =>
    simp only [List.mem_append, List.mem_singleton, or_imp, forall_and, forall_eq] at small
    have above := ih small.1
    rw [numeral_concat, List.length_append, List.length_singleton, Nat.pow_succ]
    omega

theorem decimal_numeral {digits : List Nat} (small : ∀ d ∈ digits, d < 10) :
    digits.map Nat.digitChar = decimal digits.length (numeral digits) := by
  induction digits using List.reverseRecOn with
  | nil => rfl
  | append_singleton front last ih =>
    simp only [List.mem_append, List.mem_singleton, or_imp, forall_and, forall_eq] at small
    have top : (10 * numeral front + last) / 10 = numeral front := by omega
    have bottom : (10 * numeral front + last) % 10 = last := by omega
    rw [List.map_append, ih small.1, List.length_append, List.length_singleton, decimal,
      numeral_concat, top, bottom]
    rfl

end Fields

section Uniform

/-- In UTC and with capital letters, and with so many digits in the fraction. -/
structure Spelling.IsUniform (places : Nat) (s : Spelling) : Prop where
  separator : s.separator = 'T'
  zone : s.zone = .utc 'Z'
  places : s.fraction.length = places

def Spelling.Before (s t : Spelling) : Prop :=
  s.date.year < t.date.year ∨ s.date.year = t.date.year ∧
    (s.date.month < t.date.month ∨ s.date.month = t.date.month ∧
      (s.date.day < t.date.day ∨ s.date.day = t.date.day ∧
        (s.clock.hour < t.clock.hour ∨ s.clock.hour = t.clock.hour ∧
          (s.clock.minute < t.clock.minute ∨ s.clock.minute = t.clock.minute ∧
            (s.clock.second < t.clock.second ∨ s.clock.second = t.clock.second ∧
              numeral s.fraction < numeral t.fraction)))))

variable {s t : Spelling} {places : Nat}

theorem fraction_lt_iff (small : ∀ d ∈ s.fraction, d < 10) (otherSmall : ∀ d ∈ t.fraction, d < 10)
    (same : s.fraction.length = t.fraction.length) (back : Bytes) :
    Text.octets (fractionText s.fraction) ++ back < Text.octets (fractionText t.fraction) ++ back ↔
      numeral s.fraction < numeral t.fraction := by
  have fits := numeral_lt small
  have otherFits := numeral_lt otherSmall
  have digits := decimal_numeral small
  have otherDigits := decimal_numeral otherSmall
  rw [same] at fits digits
  cases first : s.fraction with
  | nil =>
    rw [first] at same
    rw [List.length_eq_zero_iff.mp same.symm]
    simp [List.lt_irrefl]
  | cons d more =>
    cases second : t.fraction with
    | nil =>
      rw [first, second] at same
      cases same
    | cons e others =>
      rw [fractionText, fractionText, ← first, ← second, digits, otherDigits,
        Text.octets_ascii (by decide), Text.octets_ascii (by decide), List.cons_append,
        List.cons_append, List.cons_lt_cons_self, field_lt_iff fits otherFits]
      simp only [List.lt_irrefl, and_false, or_false]

theorem text_lt_iff (valid : s.IsValid) (otherValid : t.IsValid) (uniform : s.IsUniform places)
    (otherUniform : t.IsUniform places) :
    Text.octets s.chars < Text.octets t.chars ↔ s.Before t := by
  have months := valid.month
  have otherMonths := otherValid.month
  have days := valid.day
  have otherDays := otherValid.day
  have two {n : Nat} (small : n ≤ 60) : n < 10 ^ 2 := by omega
  have hours := valid.hour
  have otherHours := otherValid.hour
  have minutes := valid.minute
  have otherMinutes := otherValid.minute
  rw [octets_chars valid, octets_chars otherValid, uniform.separator, otherUniform.separator,
    uniform.zone, otherUniform.zone,
    field_lt_iff (Nat.lt_succ_of_le valid.year) (Nat.lt_succ_of_le otherValid.year),
    List.cons_lt_cons_self, field_lt_iff (two (by omega)) (two (by omega)),
    List.cons_lt_cons_self, field_lt_iff (two (by omega)) (two (by omega)),
    List.cons_lt_cons_self, field_lt_iff (two (by omega)) (two (by omega)),
    List.cons_lt_cons_self, field_lt_iff (two (by omega)) (two (by omega)),
    List.cons_lt_cons_self, field_lt_iff (two valid.second) (two otherValid.second),
    fraction_lt_iff valid.fraction otherValid.fraction
      (uniform.places.trans otherUniform.places.symm)]
  rfl

theorem nanosecondsOf_eq {fraction : List Nat} (few : fraction.length ≤ 9) :
    nanosecondsOf fraction = numeral fraction * 10 ^ (9 - fraction.length) := by
  rw [nanosecondsOf, List.take_of_length_le few]

theorem nanosecondsOf_lt {fraction : List Nat} (small : ∀ d ∈ fraction, d < 10)
    (few : fraction.length ≤ 9) : nanosecondsOf fraction < 1000000000 := by
  have whole : 10 ^ fraction.length * 10 ^ (9 - fraction.length) = 1000000000 := by
    rw [← Nat.pow_add, Nat.add_sub_cancel' few]
  have scaled := Nat.mul_lt_mul_of_pos_right (numeral_lt small)
    (Nat.pow_pos (n := 9 - fraction.length) (by decide : 0 < 10))
  rw [nanosecondsOf_eq few]
  omega

-- A second 60 has the second number of second 59, and more nanoseconds than any fraction of it.
theorem instant_lt_of_before (valid : s.IsValid) (otherValid : t.IsValid)
    (uniform : s.IsUniform places) (otherUniform : t.IsUniform places) (few : places ≤ 9)
    (before : s.Before t) :
    s.instant.second < t.instant.second ∨
      s.instant.second = t.instant.second ∧ s.instant.nano < t.instant.nano := by
  have length := uniform.places
  have otherLength := otherUniform.places
  have nano := nanosecondsOf_lt valid.fraction (by omega)
  have hour := valid.hour
  have minute := valid.minute
  have second := valid.second
  have otherSecond := otherValid.second
  have later := dayNumber_lt valid.date otherValid.date
  simp only [Spelling.instant, uniform.zone, otherUniform.zone, Zone.seconds]
  rcases before with year | ⟨sameYear, month | ⟨sameMonth, day | ⟨sameDay, clock⟩⟩⟩
  · have days := later (.inl year)
    omega
  · have days := later (.inr ⟨sameYear, .inl month⟩)
    omega
  · have days := later (.inr ⟨sameYear, .inr ⟨sameMonth, day⟩⟩)
    omega
  · have days : s.date.dayNumber = t.date.dayNumber := by
      simp only [Date.dayNumber, sameYear, sameMonth, sameDay]
    rcases clock with hours | ⟨sameHour, minutes | ⟨sameMinute, seconds | ⟨sameSecond, less⟩⟩⟩
    · omega
    · omega
    · split <;> split <;> omega
    · have scaled := Nat.mul_lt_mul_of_pos_right less
        (Nat.pow_pos (n := 9 - places) (by decide : 0 < 10))
      have fraction : nanosecondsOf s.fraction = numeral s.fraction * 10 ^ (9 - places) := by
        rw [nanosecondsOf_eq (by omega), length]
      have otherFraction : nanosecondsOf t.fraction = numeral t.fraction * 10 ^ (9 - places) := by
        rw [nanosecondsOf_eq (by omega), otherLength]
      rw [sameHour, sameMinute, sameSecond]
      omega

theorem instant_eq_of_text (valid : s.IsValid) (otherValid : t.IsValid) (same : s.text = t.text) :
    s.instant = t.instant := by
  have read := (parse_iff s.text s.instant).mpr ⟨s, valid, rfl, rfl⟩
  have again := (parse_iff s.text t.instant).mpr ⟨t, otherValid, same, rfl⟩
  exact Except.ok.inj (read.symm.trans again)

/-- On timestamps of one shape, instants compare as the octets of the texts do. -/
theorem text_le_iff (valid : s.IsValid) (otherValid : t.IsValid) (uniform : s.IsUniform places)
    (otherUniform : t.IsUniform places) (few : places ≤ 9) :
    Text.encode s.text ≤ Text.encode t.text ↔ s.instant.le t.instant = true := by
  rw [le_iff]
  constructor
  · intro order
    rcases List.le_iff_lt_or_eq.mp order with less | same
    · rw [encode_text, encode_text] at less
      have before := (text_lt_iff valid otherValid uniform otherUniform).mp less
      have earlier := instant_lt_of_before valid otherValid uniform otherUniform few before
      omega
    · rw [instant_eq_of_text valid otherValid (Text.encode_inj.mp same)]
      exact .inr ⟨rfl, Nat.le_refl _⟩
  · intro order less
    rw [encode_text, encode_text] at less
    have before := (text_lt_iff otherValid valid otherUniform uniform).mp less
    have earlier := instant_lt_of_before otherValid valid otherUniform uniform few before
    omega

end Uniform

end KeyCustody.Time
