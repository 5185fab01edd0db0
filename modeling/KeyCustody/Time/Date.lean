/-!
Days of the Gregorian calendar, applied to all years from 0 on, counted from 1970-01-01.
-/
namespace KeyCustody.Time

def isLeapYear (year : Nat) : Bool :=
  year % 4 == 0 && (year % 100 != 0 || year % 400 == 0)

def daysInMonth (year month : Nat) : Nat :=
  match month with
  | 2 => if isLeapYear year then 29 else 28
  | 4 | 6 | 9 | 11 => 30
  | _ => 31

structure Date where
  year : Nat
  month : Nat
  day : Nat
  deriving DecidableEq, Repr

def Date.isValid (d : Date) : Bool :=
  1 ≤ d.month && d.month ≤ 12 && 1 ≤ d.day && d.day ≤ daysInMonth d.year d.month

/-- Days from the first day of year 0 to the first day of `year`. -/
def daysBeforeYear (year : Nat) : Nat :=
  365 * year + ((year + 3) / 4 - (year + 99) / 100 + (year + 399) / 400)

-- How many multiples of `n` lie below a year; one more behind a year that is a multiple itself.
theorem multiples_succ {n : Nat} (some : 0 < n) (year : Nat) :
    (year + 1 + (n - 1)) / n = (year + (n - 1)) / n + if year % n = 0 then 1 else 0 := by
  have next : year + (n - 1) + 1 = year + n := by omega
  have multiple : n ∣ year + n ↔ year % n = 0 := by
    rw [Nat.dvd_add_left (Nat.dvd_refl n), Nat.dvd_iff_mod_eq_zero]
  rw [Nat.add_right_comm, Nat.succ_div]
  simp only [next, multiple]

theorem daysBeforeYear_succ (year : Nat) :
    daysBeforeYear (year + 1) = daysBeforeYear year + if isLeapYear year then 366 else 365 := by
  have four := multiples_succ (by decide : 0 < 4) year
  have hundred := multiples_succ (by decide : 0 < 100) year
  have cycle := multiples_succ (by decide : 0 < 400) year
  simp only [Nat.reduceSub] at four hundred cycle
  have fewer : (year + 99) / 100 ≤ (year + 3) / 4 := by omega
  simp only [daysBeforeYear, isLeapYear, four, hundred, cycle, Bool.and_eq_true, Bool.or_eq_true,
    beq_iff_eq, bne_iff_ne, ne_eq]
  by_cases byFour : year % 4 = 0
  · by_cases byHundred : year % 100 = 0
    · simp only [byFour, byHundred, if_true, true_and, not_true, false_or]
      split <;> omega
    · have notCycle : year % 400 ≠ 0 := by omega
      simp only [byFour, byHundred, notCycle, if_true, if_false, not_false_eq_true, true_or, and_true]
      omega
  · have notHundred : year % 100 ≠ 0 := by omega
    have notCycle : year % 400 ≠ 0 := by omega
    simp only [byFour, notHundred, notCycle, if_false, false_and]
    omega

-- After 400 years, 97 of them leap years, the calendar begins again.
theorem daysBeforeYear_cycle (year : Nat) :
    daysBeforeYear (year + 400) = daysBeforeYear year + 146097 := by
  simp only [daysBeforeYear]
  omega

def daysBeforeMonth (year : Nat) : Nat → Nat
  | 0 => 0
  | 1 => 0
  | month + 1 => daysBeforeMonth year month + daysInMonth year month

/-- Days from 0000-01-01 to 1970-01-01. -/
def epochDay : Nat := 719528

def Date.dayNumber (d : Date) : Int :=
  (daysBeforeYear d.year + daysBeforeMonth d.year d.month + (d.day - 1) : Nat) - (epochDay : Nat)

example : Date.dayNumber ⟨1970, 1, 1⟩ = 0 := by decide
example : Date.dayNumber ⟨2024, 2, 29⟩ = 19782 := by decide
example : Date.dayNumber ⟨1969, 12, 31⟩ = -1 := by decide

end KeyCustody.Time
