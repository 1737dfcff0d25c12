import Fleet.Calendar

/-!
# Days and dates

The date of a day exists, and it is counted as that day: years and months follow one another without gaps,
so each day lies in exactly one of them.
-/

namespace Fleet

/-! ## Years -/

/-- How many days a year has. -/
def daysInYear (year : Int) : Nat :=
  if isLeapYear year then 366 else 365

theorem daysBeforeYear_succ (year : Int) :
    daysBeforeYear (year + 1) = daysBeforeYear year + daysInYear year := by
  simp only [daysBeforeYear, daysInYear, isLeapYear, Bool.and_eq_true, Bool.or_eq_true, ne_eq,
    decide_eq_true_eq, Int.add_sub_cancel]
  split <;> omega

namespace Date

/-- The mean length of a year leads to the year of a day or to one of its neighbours. -/
theorem guess_is_near (day : Int) :
    daysBeforeYear (day * 400 / 146097 - 1) ≤ day ∧ day < daysBeforeYear (day * 400 / 146097 + 1 + 1) := by
  simp only [daysBeforeYear]
  constructor <;> omega

/-- The year of a day holds it. -/
theorem yearOf_holds (day : Int) :
    daysBeforeYear (yearOf day) ≤ day ∧ day < daysBeforeYear (yearOf day + 1) := by
  obtain ⟨hlow, hhigh⟩ := guess_is_near day
  simp only [yearOf]
  split
  · rename_i hbefore
    rw [Int.sub_add_cancel]
    exact ⟨hlow, hbefore⟩
  · rename_i hnot
    split
    · rename_i hafter
      exact ⟨hafter, hhigh⟩
    · rename_i hnot'
      exact ⟨Int.not_lt.1 hnot, Int.not_le.1 hnot'⟩

end Date

/-! ## Months -/

theorem daysBeforeMonth_succ (year : Int) {month : Nat} (h : 1 ≤ month) :
    daysBeforeMonth year (month + 1) = daysBeforeMonth year month + daysInMonth year month := by
  cases month with
  | zero => cases h
  | succ month => rfl

/-- The months make up the year. -/
theorem daysBeforeMonth_end (year : Int) : daysBeforeMonth year 13 = daysInYear year := by
  cases hleap : isLeapYear year <;> simp [daysBeforeMonth, daysInMonth, daysInYear, hleap]

namespace Date

/-- The month of a day of the year holds it. -/
theorem monthOf_holds {year : Int} {day month : Nat} (hmonth : 1 ≤ month)
    (hday : day < daysBeforeMonth year (month + 1)) :
    1 ≤ monthOf year day month ∧ monthOf year day month ≤ month ∧
      daysBeforeMonth year (monthOf year day month) ≤ day ∧
      day < daysBeforeMonth year (monthOf year day month + 1) := by
  fun_induction monthOf year day month with
  | case1 => cases hmonth
  | case2 => exact ⟨Nat.le_refl _, Nat.le_refl _, Nat.zero_le _, hday⟩
  | case3 month _ hreached => exact ⟨hmonth, Nat.le_refl _, hreached, hday⟩
  | case4 month hne hnot ih =>
    obtain ⟨hfirst, hlast, hholds⟩ := ih (Nat.pos_of_ne_zero hne) (Nat.lt_of_not_le hnot)
    exact ⟨hfirst, Nat.le_succ_of_le hlast, hholds⟩

/-! ## Dates -/

/-- A day counted within its year and its month. -/
theorem ofDayNumber_holds (number : Int) :
    let date := ofDayNumber number
    date.exists? = true ∧ date.dayNumber = number := by
  intro date
  obtain ⟨hstarted, hnotOver⟩ := yearOf_holds (number + epochDay)
  rw [daysBeforeYear_succ, ← daysBeforeMonth_end] at hnotOver
  have hdate : date = ofDayNumber number := rfl
  simp only [ofDayNumber] at hdate
  generalize yearOf (number + epochDay) = year at hstarted hnotOver hdate
  obtain ⟨ofYear, hofYear⟩ : ∃ ofYear : Nat, number + epochDay = daysBeforeYear year + ofYear :=
    ⟨(number + epochDay - daysBeforeYear year).toNat, by omega⟩
  have hdays : (number + epochDay - daysBeforeYear year).toNat = ofYear := by omega
  rw [hdays] at hdate
  obtain ⟨hfirst, hlast, hreached, hholds⟩ :=
    monthOf_holds (by decide : 1 ≤ 12) (show ofYear < daysBeforeMonth year 13 by omega)
  generalize monthOf year ofYear 12 = month at hfirst hlast hreached hholds hdate
  rw [daysBeforeMonth_succ year hfirst] at hholds
  rw [hdate]
  constructor
  · simp only [exists?, Bool.and_eq_true, decide_eq_true_eq]
    omega
  · simp only [dayNumber]
    omega

theorem exists_ofDayNumber (number : Int) : (ofDayNumber number).exists? = true :=
  (ofDayNumber_holds number).1

theorem dayNumber_ofDayNumber (number : Int) : (ofDayNumber number).dayNumber = number :=
  (ofDayNumber_holds number).2

/-- A date that exists has a month and a day of two digits. -/
theorem lt_of_exists {date : Date} (h : date.exists? = true) : date.month < 100 ∧ date.day < 100 := by
  simp only [exists?, Bool.and_eq_true, decide_eq_true_eq] at h
  have hdays : daysInMonth date.year date.month ≤ 31 := by
    unfold daysInMonth
    split
    · split <;> omega
    · split <;> omega
  omega

end Date

end Fleet
