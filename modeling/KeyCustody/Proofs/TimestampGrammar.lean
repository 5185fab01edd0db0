import Mathlib.Algebra.Group.Nat.Defs
import Mathlib.Data.List.Induction
import KeyCustody.Proofs.Calendar
import KeyCustody.Proofs.Json.Scalars
import KeyCustody.Time.Timestamp

namespace KeyCustody.Time

section Decimals

/-- The last `width` decimal digits of a number. -/
def decimal : Nat → Nat → List Char
  | 0, _ => []
  | width + 1, n => decimal width (n / 10) ++ [Nat.digitChar (n % 10)]

theorem digitChar_ascii {d : Nat} (small : d < 10) : (Nat.digitChar d).toNat < 0x80 := by
  rw [Nat.toNat_digitChar_of_lt_ten small]
  omega

theorem octets_digit {d : Nat} (small : d < 10) (cs : List Char) :
    Text.octets (Nat.digitChar d :: cs) = (Nat.digitChar d).toUInt8 :: Text.octets cs :=
  Text.octets_ascii (digitChar_ascii small) cs

theorem toNat_digit {d : Nat} (small : d < 10) : (Nat.digitChar d).toUInt8.toNat = 0x30 + d := by
  rw [Text.toNat_toUInt8 (digitChar_ascii small), Nat.toNat_digitChar_of_lt_ten small, Nat.add_comm]

theorem digit?_iff (octet : UInt8) (d : Nat) :
    digit? octet = some d ↔ d < 10 ∧ octet = (Nat.digitChar d).toUInt8 := by
  have spelled (small : d < 10) : octet = (Nat.digitChar d).toUInt8 ↔ octet.toNat = 0x30 + d := by
    rw [← UInt8.toNat_inj, toNat_digit small]
  unfold digit?
  split
  · next between =>
    rw [Option.some.injEq]
    constructor
    · rintro rfl
      exact ⟨by omega, (spelled (by omega)).mpr (by omega)⟩
    · rintro ⟨small, same⟩
      have value := (spelled small).mp same
      omega
  · next outside =>
    simp only [reduceCtorEq, false_iff, not_and]
    intro small same
    have value := (spelled small).mp same
    omega

theorem isDigit_digitChar {d : Nat} (small : d < 10) :
    isDigit (Nat.digitChar d).toUInt8 = true := by
  rw [isDigit, (digit?_iff _ d).mpr ⟨small, rfl⟩]
  rfl

theorem octets_decimal_succ (width n : Nat) :
    Text.octets (decimal (width + 1) n) =
      Text.octets (decimal width (n / 10)) ++ [(Nat.digitChar (n % 10)).toUInt8] := by
  have unit : n % 10 < 10 := Nat.mod_lt n (by decide)
  rw [decimal, Text.octets_append, Text.octets_singleton (digitChar_ascii unit)]

-- From the right, since the last digit is the one that a division by ten takes off.
theorem digits_iff (octets : Bytes) (n : Nat) :
    digits octets = .ok n ↔
      n < 10 ^ octets.length ∧ octets = Text.octets (decimal octets.length n) := by
  induction octets using List.reverseRecOn generalizing n with
  | nil =>
    have none : digits [] = .ok 0 := rfl
    simp [none, decimal, eq_comm]
  | append_singleton front last ih =>
    have step : digits (front ++ [last]) = .ok n ↔
        ∃ m, digits front = .ok m ∧ ∃ d, digit? last = some d ∧ n = 10 * m + d := by
      simp only [digits, List.foldlM_append, List.foldlM_cons, List.foldlM_nil, bind_ok_iff]
      refine exists_congr fun m => and_congr_right fun _ => ?_
      cases digit? last with
      | none => simp
      | some d => simp [pure, Except.pure, eq_comm]
    have power : 10 ^ (front.length + 1) = 10 ^ front.length * 10 := Nat.pow_succ ..
    have unit : n % 10 < 10 := Nat.mod_lt n (by decide)
    rw [step, List.length_append, List.length_singleton, octets_decimal_succ,
      List.append_singleton_inj]
    constructor
    · rintro ⟨m, read, d, digit, rfl⟩
      obtain ⟨small, form⟩ := (ih m).mp read
      obtain ⟨ten, rfl⟩ := (digit?_iff last d).mp digit
      have top : (10 * m + d) / 10 = m := by omega
      have bottom : (10 * m + d) % 10 = d := by omega
      rw [top, bottom]
      exact ⟨by omega, form, rfl⟩
    · rintro ⟨small, form, rfl⟩
      refine ⟨n / 10, (ih _).mpr ⟨by omega, form⟩, n % 10, (digit?_iff _ _).mpr ⟨unit, rfl⟩, ?_⟩
      omega

theorem length_octets_decimal (width n : Nat) :
    (Text.octets (decimal width n)).length = width := by
  induction width generalizing n with
  | zero => rfl
  | succ width ih =>
    rw [octets_decimal_succ, List.length_append, ih]
    rfl

theorem two_iff (a b : UInt8) (n : Nat) :
    digits [a, b] = .ok n ↔ n ≤ 99 ∧ Text.octets (decimal 2 n) = [a, b] := by
  rw [digits_iff, eq_comm (a := [a, b]), List.length_cons, List.length_singleton]
  exact and_congr_left fun _ => Nat.lt_succ_iff

theorem four_iff (a b c d : UInt8) (n : Nat) :
    digits [a, b, c, d] = .ok n ↔ n ≤ 9999 ∧ Text.octets (decimal 4 n) = [a, b, c, d] := by
  have bound : n < 10 ^ [a, b, c, d].length ↔ n ≤ 9999 := by
    simp only [List.length_cons, List.length_nil]
    omega
  rw [digits_iff, eq_comm (a := [a, b, c, d]), bound]
  rfl

theorem exists_two {n : Nat} (small : n ≤ 99) :
    ∃ a b, Text.octets (decimal 2 n) = [a, b] ∧ digits [a, b] = .ok n := by
  obtain ⟨a, b, form⟩ := List.length_eq_two.mp (length_octets_decimal 2 n)
  exact ⟨a, b, form, (two_iff a b n).mpr ⟨small, form⟩⟩

theorem exists_four {n : Nat} (small : n ≤ 9999) :
    ∃ a b c d, Text.octets (decimal 4 n) = [a, b, c, d] ∧ digits [a, b, c, d] = .ok n := by
  obtain ⟨a, b, c, d, form⟩ := List.length_eq_four.mp (length_octets_decimal 4 n)
  exact ⟨a, b, c, d, form, (four_iff a b c d n).mpr ⟨small, form⟩⟩

theorem expect_iff (octet found : UInt8) (done : Unit) :
    expect octet found = .ok done ↔ found = octet := by
  unfold expect
  split
  · next same => simp [same]
  · next other => simp [other]

end Decimals

section Fractions

/-- The digits of a fraction behind its point. Without digits there is no point. -/
def fractionText : List Nat → List Char
  | [] => []
  | d :: more => '.' :: (d :: more).map Nat.digitChar

def numeral (digits : List Nat) : Nat :=
  digits.foldl (fun n d => 10 * n + d) 0

/-- Nanoseconds of a fraction of a second. Digits after the ninth say less than one. -/
def nanosecondsOf (fraction : List Nat) : Nat :=
  numeral (fraction.take 9) * 10 ^ (9 - fraction.length)

theorem octets_digits {fraction : List Nat} (small : ∀ d ∈ fraction, d < 10) :
    Text.octets (fraction.map Nat.digitChar) =
      fraction.map fun d => (Nat.digitChar d).toUInt8 := by
  induction fraction with
  | nil => rfl
  | cons d more ih =>
    rw [List.forall_mem_cons] at small
    rw [List.map_cons, octets_digit small.1, ih small.2, List.map_cons]

theorem isDigit_iff (octet : UInt8) :
    isDigit octet = true ↔ ∃ d, d < 10 ∧ octet = (Nat.digitChar d).toUInt8 := by
  simp only [isDigit, Option.isSome_iff_exists, digit?_iff]

theorem exists_digits {octets : Bytes} (all : ∀ octet ∈ octets, isDigit octet = true) :
    ∃ fraction : List Nat, (∀ d ∈ fraction, d < 10) ∧
      octets = Text.octets (fraction.map Nat.digitChar) := by
  induction octets with
  | nil => exact ⟨[], by simp, rfl⟩
  | cons octet more ih =>
    rw [List.forall_mem_cons] at all
    obtain ⟨d, small, rfl⟩ := (isDigit_iff octet).mp all.1
    obtain ⟨fraction, others, rfl⟩ := ih all.2
    exact ⟨d :: fraction, List.forall_mem_cons.mpr ⟨small, others⟩,
      (octets_digit small (fraction.map Nat.digitChar)).symm⟩

theorem foldl_zeros (count n : Nat) :
    (List.replicate count (0x30 : UInt8)).foldl (fun n octet => 10 * n + (digit? octet).getD 0) n =
      n * 10 ^ count := by
  induction count generalizing n with
  | zero => simp
  | succ count ih =>
    have zero : (digit? 0x30).getD 0 = 0 := rfl
    rw [List.replicate_succ, List.foldl_cons, ih, zero, Nat.pow_succ, Nat.add_zero, Nat.mul_comm 10,
      Nat.mul_assoc, Nat.mul_comm 10]

theorem nanoseconds_digits {fraction : List Nat} (small : ∀ d ∈ fraction, d < 10) :
    nanoseconds (Text.octets (fraction.map Nat.digitChar)) = nanosecondsOf fraction := by
  have read : ∀ (ds : List Nat) (n : Nat), (∀ d ∈ ds, d < 10) →
      (ds.map fun d => (Nat.digitChar d).toUInt8).foldl
        (fun n octet => 10 * n + (digit? octet).getD 0) n = ds.foldl (fun n d => 10 * n + d) n := by
    intro ds n digits
    rw [List.foldl_map]
    refine List.foldl_ext _ _ n fun m d member => ?_
    rw [(digit?_iff _ d).mpr ⟨digits d member, rfl⟩, Option.getD_some]
  rw [octets_digits small, nanoseconds, nanosecondsOf, numeral, List.take_append, List.length_map,
    List.take_replicate, ← List.map_take, List.foldl_append, foldl_zeros,
    read _ 0 fun d member => small d (List.mem_of_mem_take member)]
  congr 2
  omega

theorem fraction_of_taken {input rest : Bytes} {nano : Nat}
    (taken : takeFraction input = .ok (nano, rest)) :
    ∃ fraction : List Nat, (∀ d ∈ fraction, d < 10) ∧ nano = nanosecondsOf fraction ∧
      input = Text.octets (fractionText fraction) ++ rest := by
  unfold takeFraction at taken
  split at taken
  · cases taken
  · next octet more =>
    split at taken
    · next digit =>
      cases taken
      have all : ∀ other ∈ octet :: more.takeWhile isDigit, isDigit other = true :=
        List.forall_mem_cons.mpr ⟨digit, List.all_eq_true.mp List.all_takeWhile⟩
      obtain ⟨fraction, small, form⟩ := exists_digits all
      have whole : octet :: more =
          Text.octets (fraction.map Nat.digitChar) ++ more.dropWhile isDigit := by
        rw [← form, List.cons_append, List.takeWhile_append_dropWhile]
      refine ⟨fraction, small, ?_, ?_⟩
      · rw [form, nanoseconds_digits small]
      · cases fraction with
        | nil => cases form
        | cons d fraction =>
          rw [fractionText, Text.octets_ascii (by decide), List.cons_append, ← whole]
          rfl
    · cases taken
  · cases taken
    exact ⟨[], by simp, rfl, rfl⟩

-- What follows must neither be a digit nor begin a fraction.
theorem taken_of_fraction {fraction : List Nat} (small : ∀ d ∈ fraction, d < 10) {mark : UInt8}
    (noDigit : isDigit mark = false) (noPoint : mark ≠ 0x2e) (more : Bytes) :
    takeFraction (Text.octets (fractionText fraction) ++ mark :: more) =
      .ok (nanosecondsOf fraction, mark :: more) := by
  cases fraction with
  | nil =>
    show takeFraction (mark :: more) = .ok (0, mark :: more)
    unfold takeFraction
    split
    · next same => exact absurd (List.cons.inj same).1 noPoint
    · next same => exact absurd (List.cons.inj same).1 noPoint
    · rfl
  | cons d fraction =>
    have others : ∀ octet ∈ Text.octets (fraction.map Nat.digitChar), isDigit octet = true := by
      rw [octets_digits fun e member => small e (List.mem_cons_of_mem d member),
        List.forall_mem_map]
      exact fun e member => isDigit_digitChar (small e (List.mem_cons_of_mem d member))
    have first := small d List.mem_cons_self
    have taken : (Text.octets (fraction.map Nat.digitChar) ++ mark :: more).takeWhile isDigit =
        Text.octets (fraction.map Nat.digitChar) := by
      rw [List.takeWhile_append_of_pos others, List.takeWhile_cons_of_neg (by simp [noDigit]),
        List.append_nil]
    have dropped : (Text.octets (fraction.map Nat.digitChar) ++ mark :: more).dropWhile isDigit =
        mark :: more := by
      rw [List.dropWhile_append_of_pos others, List.dropWhile_cons_of_neg (by simp [noDigit])]
    rw [fractionText, Text.octets_ascii (by decide), List.map_cons, octets_digit first]
    show takeFraction (0x2e :: (Nat.digitChar d).toUInt8 :: _) = _
    rw [List.append_eq, takeFraction, if_pos (isDigit_digitChar first), taken, dropped,
      ← octets_digit first, ← List.map_cons, nanoseconds_digits small]

end Fractions

section Zones

inductive Zone where
  | utc (letter : Char)
  | offset (sign : Char) (hours minutes : Nat)

def IsSign (sign : Char) : Prop :=
  sign = '+' ∨ sign = '-' ∨ sign = Char.ofNat 0x2212

inductive Zone.IsValid : Zone → Prop where
  | utc {letter : Char} (known : letter = 'Z' ∨ letter = 'z') : IsValid (.utc letter)
  | offset {sign : Char} {hours minutes : Nat} (isSign : IsSign sign) (hour : hours ≤ 23)
      (minute : minutes ≤ 59) : IsValid (.offset sign hours minutes)

def Zone.text : Zone → List Char
  | .utc letter => [letter]
  | .offset sign hours minutes => sign :: (decimal 2 hours ++ ':' :: decimal 2 minutes)

def Zone.seconds : Zone → Int
  | .utc _ => 0
  | .offset sign hours minutes =>
    if sign = '+' then 3600 * hours + 60 * minutes else -(3600 * hours + 60 * minutes)

theorem takeHoursAndMinutes_iff (input rest : Bytes) (seconds : Nat) :
    takeHoursAndMinutes input = .ok (seconds, rest) ↔
      ∃ hours minutes, hours ≤ 99 ∧ minutes ≤ 59 ∧ seconds = 3600 * hours + 60 * minutes ∧
        input = Text.octets (decimal 2 hours ++ ':' :: decimal 2 minutes) ++ rest := by
  simp only [Text.octets_append, Text.octets_ascii (c := ':') (by decide)]
  constructor
  · intro taken
    rcases input with _ | ⟨h₁, _ | ⟨h₂, _ | ⟨colon, _ | ⟨m₁, _ | ⟨m₂, more⟩⟩⟩⟩⟩
    all_goals
      simp only [takeHoursAndMinutes, bind_ok_iff, reduceCtorEq, and_false, exists_false] at taken
    simp only [two_iff, expect_iff, exists_const] at taken
    obtain ⟨hours, ⟨small, hourForm⟩, rfl, minutes, ⟨-, minuteForm⟩, taken⟩ := taken
    split at taken
    · cases taken
    · next few =>
      cases taken
      refine ⟨hours, minutes, small, by omega, rfl, ?_⟩
      rw [hourForm, minuteForm]
      rfl
  · rintro ⟨hours, minutes, fits, few, rfl, rfl⟩
    obtain ⟨h₁, h₂, hourForm, hour⟩ := exists_two fits
    obtain ⟨m₁, m₂, minuteForm, minute⟩ := exists_two (by omega : minutes ≤ 99)
    have mark : expect 0x3a ':'.toUInt8 = .ok () := rfl
    rw [hourForm, minuteForm]
    simp [takeHoursAndMinutes, hour, minute, mark, ok_bind, Nat.not_le.mpr (Nat.lt_succ_of_le few)]

theorem takeOffset_sign {sign : Char} (isSign : IsSign sign) (input : Bytes) :
    takeOffset (String.utf8EncodeChar sign ++ input) = (takeHoursAndMinutes input).map
      fun taken => (if sign = '+' then (taken.1 : Int) else -taken.1, taken.2) := by
  have far : Char.ofNat 0x2212 ≠ '+' := by decide
  have plus : String.utf8EncodeChar '+' = [0x2b] := by decide
  have minus : String.utf8EncodeChar '-' = [0x2d] := by decide
  have farMinus : String.utf8EncodeChar (Char.ofNat 0x2212) = [0xe2, 0x88, 0x92] := by decide
  rcases isSign with rfl | rfl | rfl
  · rw [plus]
    cases found : takeHoursAndMinutes input <;>
      simp [takeOffset, found, ok_bind, error_bind, Except.map]
  · rw [minus]
    cases found : takeHoursAndMinutes input <;>
      simp [takeOffset, found, ok_bind, error_bind, Except.map]
  · rw [farMinus]
    cases found : takeHoursAndMinutes input <;>
      simp [takeOffset, found, ok_bind, error_bind, Except.map, far]

theorem offset_cases {input rest : Bytes} {seconds : Int}
    (taken : takeOffset input = .ok (seconds, rest)) :
    (∃ letter, (letter = 'Z' ∨ letter = 'z') ∧ seconds = 0 ∧
      input = String.utf8EncodeChar letter ++ rest) ∨
    ∃ sign more, IsSign sign ∧ input = String.utf8EncodeChar sign ++ more := by
  unfold takeOffset at taken
  split at taken
  · cases taken
  · cases taken
    exact .inl ⟨'Z', .inl rfl, rfl, rfl⟩
  · cases taken
    exact .inl ⟨'z', .inr rfl, rfl, rfl⟩
  · next more => exact .inr ⟨'+', more, .inl rfl, rfl⟩
  · next more => exact .inr ⟨'-', more, .inr (.inl rfl), rfl⟩
  · next more => exact .inr ⟨Char.ofNat 0x2212, more, .inr (.inr rfl), rfl⟩
  · cases taken

theorem takeOffset_iff (input rest : Bytes) (seconds : Int) :
    takeOffset input = .ok (seconds, rest) ∧ seconds.natAbs < 86400 ↔
      ∃ zone : Zone, zone.IsValid ∧ seconds = zone.seconds ∧
        input = Text.octets zone.text ++ rest := by
  constructor
  · rintro ⟨taken, near⟩
    obtain ⟨letter, known, rfl, rfl⟩ | ⟨sign, more, isSign, rfl⟩ := offset_cases taken
    · exact ⟨.utc letter, .utc known, rfl, by simp [Zone.text, Text.octets_cons]⟩
    · rw [takeOffset_sign isSign] at taken
      cases found : takeHoursAndMinutes more with
      | error fault =>
        rw [found] at taken
        cases taken
      | ok pair =>
        obtain ⟨n, left⟩ := pair
        rw [found] at taken
        obtain ⟨hours, minutes, -, minute, rfl, rfl⟩ := (takeHoursAndMinutes_iff _ _ _).mp found
        obtain ⟨rfl, rfl⟩ := Prod.mk.inj (Except.ok.inj taken)
        have hour : hours ≤ 23 := by
          split at near <;> omega
        refine ⟨.offset sign hours minutes, .offset isSign hour minute, ?_, ?_⟩
        · simp [Zone.seconds]
        · rw [Zone.text, Text.octets_cons, List.append_assoc]
  · rintro ⟨zone, valid, rfl, rfl⟩
    cases valid with
    | utc known =>
      rcases known with rfl | rfl
      all_goals exact ⟨rfl, by decide⟩
    | @offset sign hours minutes isSign hour minute =>
      have taken := (takeHoursAndMinutes_iff _ rest _).mpr
        ⟨hours, minutes, by omega, minute, rfl, rfl⟩
      constructor
      · rw [Zone.text, Text.octets_cons, List.append_assoc, takeOffset_sign isSign, taken]
        simp [Except.map, Zone.seconds]
      · simp only [Zone.seconds]
        split <;> omega

end Zones

section Spellings

structure Spelling where
  date : Date
  separator : Char
  clock : Clock
  /-- The digits of the fraction of the second, if there is one. -/
  fraction : List Nat
  zone : Zone

namespace Spelling
variable (s : Spelling)

structure IsValid : Prop where
  year : s.date.year ≤ 9999
  date : s.date.isValid = true
  separator : s.separator = 'T' ∨ s.separator = 't' ∨ s.separator = ' '
  hour : s.clock.hour ≤ 23
  minute : s.clock.minute ≤ 59
  second : s.clock.second ≤ 60
  fraction : ∀ d ∈ s.fraction, d < 10
  zone : s.zone.IsValid

def dateText : List Char :=
  decimal 4 s.date.year ++ '-' :: (decimal 2 s.date.month ++ '-' :: decimal 2 s.date.day)

def clockText : List Char :=
  decimal 2 s.clock.hour ++ ':' :: (decimal 2 s.clock.minute ++ ':' :: decimal 2 s.clock.second)

def chars : List Char :=
  s.dateText ++ s.separator :: (s.clockText ++ (fractionText s.fraction ++ s.zone.text))

def text : String :=
  String.ofList s.chars

/-- The instant that is spelled. A second 60 is second 59 and one more second of nanoseconds. -/
def instant : Instant where
  second := 86400 * s.date.dayNumber + 3600 * s.clock.hour + 60 * s.clock.minute +
    min s.clock.second 59 - s.zone.seconds
  nano := nanosecondsOf s.fraction + if s.clock.second = 60 then 1000000000 else 0

end Spelling

theorem encode_text (s : Spelling) : Text.encode s.text = Text.octets s.chars :=
  Text.encode_ofList s.chars

namespace Spelling.IsValid
variable {s : Spelling} (valid : s.IsValid)
include valid

theorem month : s.date.month ≤ 12 :=
  (isValid_iff.mp valid.date).2.1

theorem day : s.date.day ≤ 31 := by
  obtain ⟨-, -, -, fits⟩ := isValid_iff.mp valid.date
  exact Nat.le_trans fits (daysInMonth_bounds s.date.year s.date.month).2

end Spelling.IsValid

-- A refusal and the rest of the reading, in the form that a block of steps takes.
theorem unless_ok_iff {α β ε : Type} (refused : Prop) [Decidable refused] (fault : ε)
    (steps : α → Except ε β) (rest : Except ε β) (b : β) :
    (if refused then (Except.error fault >>= steps) else rest) = .ok b ↔
      ¬refused ∧ rest = .ok b := by
  split <;> simp_all [error_bind]

theorem octets_chars {s : Spelling} (valid : s.IsValid) :
    Text.octets s.chars =
      Text.octets (decimal 4 s.date.year) ++ 0x2d :: (Text.octets (decimal 2 s.date.month) ++
        0x2d :: (Text.octets (decimal 2 s.date.day) ++ s.separator.toUInt8 ::
          (Text.octets (decimal 2 s.clock.hour) ++
            0x3a :: (Text.octets (decimal 2 s.clock.minute) ++
            0x3a :: (Text.octets (decimal 2 s.clock.second) ++
              (Text.octets (fractionText s.fraction) ++ Text.octets s.zone.text)))))) := by
  have separator : s.separator.toNat < 0x80 := by
    rcases valid.separator with same | same | same <;> rw [same] <;> decide
  have dash := Text.octets_ascii (c := '-') (by decide)
  have colon := Text.octets_ascii (c := ':') (by decide)
  simp only [Spelling.chars, Spelling.dateText, Spelling.clockText, Text.octets_append, dash, colon,
    Text.octets_ascii separator, List.append_assoc, List.cons_append]
  rfl

theorem separator_iff (octet : UInt8) :
    ¬(octet ≠ 0x54 ∧ octet ≠ 0x74 ∧ octet ≠ 0x20) ↔
      ∃ c : Char, (c = 'T' ∨ c = 't' ∨ c = ' ') ∧ octet = c.toUInt8 := by
  constructor
  · intro known
    by_cases upper : octet = 0x54
    · exact ⟨'T', .inl rfl, upper⟩
    · by_cases lower : octet = 0x74
      · exact ⟨'t', .inr (.inl rfl), lower⟩
      · have blank : octet = 0x20 := by simpa [upper, lower] using known
        exact ⟨' ', .inr (.inr rfl), blank⟩
  · rintro ⟨c, rfl | rfl | rfl, rfl⟩ <;> decide

theorem zone_head {zone : Zone} (valid : zone.IsValid) :
    ∃ mark more, Text.octets zone.text = mark :: more ∧ isDigit mark = false ∧ mark ≠ 0x2e := by
  cases valid with
  | utc known =>
    rcases known with rfl | rfl
    all_goals exact ⟨_, _, rfl, by decide, by decide⟩
  | offset isSign _ _ =>
    rcases isSign with rfl | rfl | rfl
    all_goals exact ⟨_, _, rfl, by decide, by decide⟩

theorem instant_spelled (s : Spelling) :
    Time.instant s.date s.clock (nanosecondsOf s.fraction) s.zone.seconds = s.instant := by
  simp only [Time.instant, Spelling.instant, Instant.mk.injEq, and_true]
  omega

theorem exists_spelling {input : Bytes} {i : Instant} (read : parse input = .ok i) :
    ∃ s : Spelling, s.IsValid ∧ input = Text.octets s.chars ∧ i = s.instant := by
  unfold parse at read
  split at read
  · simp only [bind_ok_iff, unless_ok_iff, Prod.exists, expect_iff, exists_const, Except.ok.injEq,
      separator_iff, two_iff, four_iff] at read
    obtain ⟨year, ⟨yearFits, yearForm⟩, rfl, month, ⟨-, monthForm⟩, rfl, day, ⟨-, dayForm⟩, date,
      ⟨separator, known, rfl⟩, hour, ⟨-, hourForm⟩, rfl, minute, ⟨-, minuteForm⟩, rfl, second,
      ⟨-, secondForm⟩, nano, behind, taken, clock, offset, last, zoned, ended, near, rfl⟩ := read
    obtain ⟨fraction, small, rfl, rfl⟩ := fraction_of_taken taken
    obtain ⟨zone, zoneValid, rfl, rfl⟩ := (takeOffset_iff _ _ _).mp ⟨zoned, by omega⟩
    have ended : last = [] := by simpa using ended
    have times : hour < 24 ∧ minute < 60 ∧ second ≤ 60 := by
      simpa [Clock.isValid, and_assoc] using clock
    let s : Spelling := ⟨⟨year, month, day⟩, separator, ⟨hour, minute, second⟩, fraction, zone⟩
    have valid : s.IsValid := by
      refine ⟨yearFits, by simpa using date, known, ?_, ?_, times.2.2, small, zoneValid⟩
      · exact Nat.le_of_lt_succ times.1
      · exact Nat.le_of_lt_succ times.2.1
    refine ⟨s, valid, ?_, instant_spelled s⟩
    rw [octets_chars valid, yearForm, monthForm, dayForm, hourForm, minuteForm, secondForm, ended,
      List.append_nil]
    rfl
  · cases read

theorem parse_spelled {s : Spelling} (valid : s.IsValid) :
    parse (Text.octets s.chars) = .ok s.instant := by
  have months := valid.month
  have days := valid.day
  have hours := valid.hour
  have minutes := valid.minute
  have seconds := valid.second
  obtain ⟨y₁, y₂, y₃, y₄, yearForm, year⟩ := exists_four valid.year
  obtain ⟨m₁, m₂, monthForm, month⟩ := exists_two (by omega : s.date.month ≤ 99)
  obtain ⟨d₁, d₂, dayForm, day⟩ := exists_two (by omega : s.date.day ≤ 99)
  obtain ⟨h₁, h₂, hourForm, hour⟩ := exists_two (by omega : s.clock.hour ≤ 99)
  obtain ⟨n₁, n₂, minuteForm, minute⟩ := exists_two (by omega : s.clock.minute ≤ 99)
  obtain ⟨e₁, e₂, secondForm, second⟩ := exists_two (by omega : s.clock.second ≤ 99)
  obtain ⟨mark, more, zoneForm, noDigit, noPoint⟩ := zone_head valid.zone
  have taken := taken_of_fraction valid.fraction noDigit noPoint more
  obtain ⟨zoned, near⟩ := (takeOffset_iff (mark :: more) [] s.zone.seconds).mpr
    ⟨s.zone, valid.zone, rfl, by rw [zoneForm, List.append_nil]⟩
  have clock : s.clock.isValid = true := by
    simp only [Clock.isValid, Bool.and_eq_true, decide_eq_true_eq]
    omega
  rw [octets_chars valid, yearForm, monthForm, dayForm, hourForm, minuteForm, secondForm,
    zoneForm, ← instant_spelled s]
  simp only [List.cons_append, List.nil_append, parse, bind_ok_iff, unless_ok_iff, Prod.exists,
    expect_iff, exists_const, separator_iff, true_and]
  exact ⟨s.date.year, year, s.date.month, month, s.date.day, day, by simp [valid.date],
    ⟨s.separator, valid.separator, rfl⟩, s.clock.hour, hour, s.clock.minute, minute,
    s.clock.second, second, _, _, taken, by simp [clock], s.zone.seconds, [], zoned, by simp,
    by omega, rfl⟩

theorem parse_iff (text : String) (i : Instant) :
    parse (Text.encode text) = .ok i ↔
      ∃ s : Spelling, s.IsValid ∧ text = s.text ∧ i = s.instant := by
  constructor
  · intro read
    obtain ⟨s, valid, form, value⟩ := exists_spelling read
    refine ⟨s, valid, ?_, value⟩
    rw [← Text.encode_inj, form, encode_text]
  · rintro ⟨s, valid, rfl, rfl⟩
    rw [encode_text, parse_spelled valid]

end Spellings
end KeyCustody.Time
