import KeyCustody.Time.Date

/-!
Day numbers count days: the first of January 1970 has none before it, and each date has one more
than the date before. The years are those of the Gregorian calendar.
-/
namespace KeyCustody.Time

def Date.next (d : Date) : Date :=
  if d.day < daysInMonth d.year d.month then ⟨d.year, d.month, d.day + 1⟩
  else if d.month < 12 then ⟨d.year, d.month + 1, 1⟩
  else ⟨d.year + 1, 1, 1⟩

def Date.Before (d e : Date) : Prop :=
  d.year < e.year ∨ d.year = e.year ∧ (d.month < e.month ∨ d.month = e.month ∧ d.day < e.day)

section Counts
variable (year : Nat)

theorem isLeapYear_iff : isLeapYear year = true ↔ 4 ∣ year ∧ (100 ∣ year → 400 ∣ year) := by
  simp only [isLeapYear, Bool.and_eq_true, Bool.or_eq_true, beq_iff_eq, bne_iff_ne]
  omega

theorem isLeapYear_cycle : isLeapYear (year + 400) = isLeapYear year := by
  rw [Bool.eq_iff_iff, isLeapYear_iff, isLeapYear_iff]
  omega

theorem daysInMonth_cycle (month : Nat) :
    daysInMonth (year + 400) month = daysInMonth year month := by
  unfold daysInMonth
  rw [isLeapYear_cycle]

-- Over the number of years, each of them adding its own days.
theorem daysBeforeYear_add (years : Nat) :
    daysBeforeYear (year + years) =
      daysBeforeYear year + 365 * years + (List.range' year years).countP isLeapYear := by
  induction years with
  | zero => rfl
  | succ years ih =>
    rw [← Nat.add_assoc, daysBeforeYear_succ, ih, List.range'_concat, List.countP_append,
      List.countP_singleton, Nat.one_mul]
    split <;> omega

/-- The Gregorian rule: of any 400 years in a row 97 are leap years. -/
theorem countP_isLeapYear : (List.range' year 400).countP isLeapYear = 97 := by
  have counted := daysBeforeYear_add year 400
  rw [daysBeforeYear_cycle] at counted
  omega

theorem daysBeforeYear_le {first last : Nat} (order : first ≤ last) :
    daysBeforeYear first ≤ daysBeforeYear last := by
  obtain ⟨years, rfl⟩ := Nat.exists_eq_add_of_le order
  rw [daysBeforeYear_add]
  omega

theorem daysBeforeMonth_succ {month : Nat} (some : 1 ≤ month) :
    daysBeforeMonth year (month + 1) = daysBeforeMonth year month + daysInMonth year month := by
  obtain ⟨month, rfl⟩ := Nat.exists_eq_add_of_le' some
  rfl

theorem daysBeforeMonth_le {first last : Nat} (some : 1 ≤ first) (order : first ≤ last) :
    daysBeforeMonth year first ≤ daysBeforeMonth year last := by
  induction order with
  | refl => exact Nat.le_refl _
  | step reached ih =>
    rw [Nat.succ_eq_add_one, daysBeforeMonth_succ year (Nat.le_trans some reached)]
    exact Nat.le_add_right_of_le ih

theorem daysBeforeMonth_cycle (month : Nat) :
    daysBeforeMonth (year + 400) month = daysBeforeMonth year month := by
  induction month with
  | zero => rfl
  | succ month ih =>
    rcases Nat.eq_zero_or_pos month with rfl | some
    · rfl
    · rw [daysBeforeMonth_succ _ some, daysBeforeMonth_succ _ some, ih, daysInMonth_cycle]

theorem daysInMonth_bounds (month : Nat) :
    1 ≤ daysInMonth year month ∧ daysInMonth year month ≤ 31 := by
  unfold daysInMonth
  split
  · split <;> decide
  all_goals decide

-- The months fill the year.
theorem daysBeforeMonth_thirteen :
    daysBeforeYear year + daysBeforeMonth year 13 = daysBeforeYear (year + 1) := by
  rw [daysBeforeYear_succ]
  by_cases leap : isLeapYear year = true <;> simp [daysBeforeMonth, daysInMonth, leap]

end Counts

section Dates
variable {d e : Date}

theorem isValid_iff : d.isValid = true ↔
    1 ≤ d.month ∧ d.month ≤ 12 ∧ 1 ≤ d.day ∧ d.day ≤ daysInMonth d.year d.month := by
  simp only [Date.isValid, Bool.and_eq_true, decide_eq_true_eq, and_assoc]

theorem isValid_next (valid : d.isValid = true) : d.next.isValid = true := by
  obtain ⟨someMonth, twelve, someDay, fits⟩ := isValid_iff.mp valid
  unfold Date.next
  split
  · next before =>
    exact isValid_iff.mpr ⟨someMonth, twelve, Nat.le_add_left 1 d.day, before⟩
  · split
    · next early =>
      exact isValid_iff.mpr
        ⟨Nat.le_add_left 1 d.month, early, Nat.le_refl 1, (daysInMonth_bounds d.year (d.month + 1)).1⟩
    · exact isValid_iff.mpr
        ⟨Nat.le_refl 1, Nat.le_add_left 1 11, Nat.le_refl 1, (daysInMonth_bounds (d.year + 1) 1).1⟩

theorem dayNumber_next (valid : d.isValid = true) : d.next.dayNumber = d.dayNumber + 1 := by
  obtain ⟨someMonth, twelve, someDay, fits⟩ := isValid_iff.mp valid
  unfold Date.next
  split
  · simp only [Date.dayNumber]
    omega
  · next last =>
    have ended : d.day = daysInMonth d.year d.month := by omega
    split
    · simp only [Date.dayNumber, daysBeforeMonth_succ d.year someMonth]
      omega
    · next december =>
      have month : d.month = 12 := by omega
      have year := daysBeforeMonth_thirteen d.year
      rw [daysBeforeMonth_succ d.year (by omega : 1 ≤ 12), ← month] at year
      simp only [Date.dayNumber, ← year, daysBeforeMonth]
      omega

/-- After 400 years the same dates come again, each of them 146097 days later. -/
theorem date_cycle (d : Date) :
    (⟨d.year + 400, d.month, d.day⟩ : Date).isValid = d.isValid ∧
      (⟨d.year + 400, d.month, d.day⟩ : Date).dayNumber = d.dayNumber + 146097 := by
  constructor
  · simp only [Date.isValid, daysInMonth_cycle]
  · simp only [Date.dayNumber, daysBeforeYear_cycle, daysBeforeMonth_cycle]
    omega

theorem dayNumber_lt (valid : d.isValid = true) (otherValid : e.isValid = true)
    (before : d.Before e) : d.dayNumber < e.dayNumber := by
  obtain ⟨someMonth, twelve, someDay, fits⟩ := isValid_iff.mp valid
  obtain ⟨otherMonth, -, otherDay, -⟩ := isValid_iff.mp otherValid
  -- What is left of the month of the earlier date, and of its year, comes before the later one.
  have month := daysBeforeMonth_succ d.year someMonth
  rcases before with earlier | ⟨sameYear, earlier | ⟨sameMonth, earlier⟩⟩
  · have year := daysBeforeYear_le (by omega : d.year + 1 ≤ e.year)
    have rest :=
      daysBeforeMonth_le d.year (by omega : 1 ≤ d.month + 1) (by omega : d.month + 1 ≤ 13)
    have whole := daysBeforeMonth_thirteen d.year
    simp only [Date.dayNumber]
    omega
  · have rest := daysBeforeMonth_le d.year (by omega : 1 ≤ d.month + 1) (Nat.succ_le_of_lt earlier)
    simp only [Date.dayNumber, ← sameYear]
    omega
  · simp only [Date.dayNumber, ← sameYear, ← sameMonth]
    omega

end Dates

end KeyCustody.Time
