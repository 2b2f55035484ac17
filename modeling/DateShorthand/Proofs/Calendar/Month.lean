import DateShorthand.Calendar.Date
import Mathlib.Algebra.Order.Group.Nat
import Mathlib.Data.Nat.Init
import Mathlib.Tactic.SplitIfs

/-!
# Months in a row

The months of the calendar are numbered on from January of year 0. The number of a date is the
days before its month and its day, so dates are ordered by month, and in a month by day.
-/

namespace DateShorthand

/-! ## Years and months -/

theorem daysInMonth_bounds (year month : Nat) :
    28 ≤ daysInMonth year month ∧ daysInMonth year month ≤ 31 := by
  unfold daysInMonth
  split_ifs <;> omega

/-- A month has the same length in every year, but for one day in February. -/
theorem daysInMonth_le_succ (year other month : Nat) :
    daysInMonth year month ≤ daysInMonth other month + 1 := by
  unfold daysInMonth
  split_ifs <;> omega

theorem isLeapYear_iff (year : Nat) :
    isLeapYear year = true ↔ 4 ∣ year ∧ (¬ 100 ∣ year ∨ 400 ∣ year) := by
  simp [isLeapYear, Nat.dvd_iff_mod_eq_zero]

def daysInYear (year : Nat) : Nat := if isLeapYear year then 366 else 365

theorem daysInYear_bounds (year : Nat) : 365 ≤ daysInYear year ∧ daysInYear year ≤ 366 := by
  unfold daysInYear
  split_ifs <;> omega

theorem daysInYear_eq (year : Nat) :
    daysInYear year = 365 + (if 4 ∣ year then 1 else 0) + (if 400 ∣ year then 1 else 0)
      - (if 100 ∣ year then 1 else 0) := by
  have h4 : 100 ∣ year → 4 ∣ year := Nat.dvd_trans (by decide)
  have h100 : 400 ∣ year → 100 ∣ year := Nat.dvd_trans (by decide)
  have hleap := isLeapYear_iff year
  unfold daysInYear
  by_cases h1 : 4 ∣ year <;> by_cases h2 : 100 ∣ year <;> by_cases h3 : 400 ∣ year <;>
    simp_all

theorem daysBeforeYear_succ (year : Nat) (h : 1 ≤ year) :
    daysBeforeYear (year + 1) = daysBeforeYear year + daysInYear year := by
  obtain ⟨n, rfl⟩ : ∃ n, year = n + 1 := ⟨year - 1, by omega⟩
  have hn : n / 100 ≤ n := Nat.div_le_self _ _
  rw [daysInYear_eq]
  simp only [daysBeforeYear, Nat.add_sub_cancel, Nat.succ_div]
  generalize n / 4 = fours at *
  generalize n / 100 = hundreds at *
  generalize n / 400 = fourHundreds at *
  split_ifs <;> omega

theorem daysBeforeMonth_thirteen (year : Nat) : daysBeforeMonth year 13 = daysInYear year := by
  unfold daysInYear
  cases hl : isLeapYear year <;> simp [daysBeforeMonth, daysInMonth, hl]

theorem daysBeforeMonth_succ (year month : Nat) (h : 1 ≤ month) :
    daysBeforeMonth year (month + 1) = daysBeforeMonth year month + daysInMonth year month := by
  obtain ⟨m, rfl⟩ : ∃ m, month = m + 1 := ⟨month - 1, by omega⟩
  rfl

/-! ## Months in a row -/

def monthLength (index : Nat) : Nat := daysInMonth (index / 12) (index % 12 + 1)

/-- The days of the calendar before the month with the given number. -/
def daysBefore (index : Nat) : Nat :=
  daysBeforeYear (index / 12) + daysBeforeMonth (index / 12) (index % 12 + 1)

theorem monthLength_bounds (index : Nat) : 28 ≤ monthLength index ∧ monthLength index ≤ 31 :=
  daysInMonth_bounds _ _

theorem monthLength_le_succ {index other : Nat} (h : index % 12 = other % 12) :
    monthLength index ≤ monthLength other + 1 := by
  unfold monthLength
  rw [h]
  exact daysInMonth_le_succ _ _ _

theorem daysBefore_succ (index : Nat) (h : 12 ≤ index) :
    daysBefore (index + 1) = daysBefore index + monthLength index := by
  have hmonth := daysBeforeMonth_succ (index / 12) (index % 12 + 1) (by omega)
  unfold daysBefore monthLength
  by_cases hlast : index % 12 = 11
  · have hyear := daysBeforeYear_succ (index / 12) (by omega)
    have hdiv : (index + 1) / 12 = index / 12 + 1 := by omega
    have hmod : (index + 1) % 12 = 0 := by omega
    rw [hlast] at hmonth ⊢
    rw [hdiv, hmod, hyear, ← daysBeforeMonth_thirteen, hmonth, Nat.add_assoc]
    rfl
  · have hdiv : (index + 1) / 12 = index / 12 := by omega
    have hmod : (index + 1) % 12 = index % 12 + 1 := by omega
    rw [hdiv, hmod, hmonth, Nat.add_assoc]

theorem daysBefore_mono {index later : Nat} (h : 12 ≤ index) (hle : index ≤ later) :
    daysBefore index ≤ daysBefore later := by
  induction hle with
  | refl => exact Nat.le_refl _
  | @step later hle ih =>
    rw [daysBefore_succ later (Nat.le_trans h hle)]
    omega

theorem daysBefore_lt {index later : Nat} (h : 12 ≤ index) (hlt : index < later) :
    daysBefore index + monthLength index ≤ daysBefore later := by
  rw [← daysBefore_succ index h]
  exact daysBefore_mono (by omega) hlt

/-! ## Dates -/

namespace Date

/-- The number of the date's month, counted from January of year 0. -/
def monthIndex (d : Date) : Nat := 12 * d.year + (d.month - 1)

theorem monthIndex_bounds (d : Date) : 12 ≤ d.monthIndex ∧ d.monthIndex < 120000 := by
  have := d.year_mem
  have := d.month_mem
  unfold monthIndex
  omega

theorem monthIndex_div (d : Date) : d.monthIndex / 12 = d.year := by
  have := d.month_mem
  unfold monthIndex
  omega

theorem monthIndex_mod (d : Date) : d.monthIndex % 12 + 1 = d.month := by
  have := d.month_mem
  unfold monthIndex
  omega

theorem monthLength_monthIndex (d : Date) :
    monthLength d.monthIndex = daysInMonth d.year d.month := by
  rw [monthLength, monthIndex_div, monthIndex_mod]

theorem day_bounds (d : Date) : 1 ≤ d.day ∧ d.day ≤ monthLength d.monthIndex := by
  rw [monthLength_monthIndex]
  exact d.day_mem

theorem number_eq (d : Date) : d.number = daysBefore d.monthIndex + d.day := by
  rw [daysBefore, monthIndex_div, monthIndex_mod]
  rfl

theorem monthIndex_eq_iff {d e : Date} :
    d.monthIndex = e.monthIndex ↔ d.year = e.year ∧ d.month = e.month := by
  have := d.month_mem
  have := e.month_mem
  unfold monthIndex
  omega

theorem ext_index {d e : Date} (hm : d.monthIndex = e.monthIndex) (hd : d.day = e.day) : d = e := by
  obtain ⟨hyear, hmonth⟩ := monthIndex_eq_iff.mp hm
  cases d
  cases e
  simp only at hyear hmonth hd
  subst hyear hmonth hd
  rfl

theorem number_lt_of_monthIndex_lt {d e : Date} (h : d.monthIndex < e.monthIndex) :
    d.number < e.number := by
  have hd := d.day_bounds
  have he := e.day_bounds
  have hbefore := daysBefore_lt d.monthIndex_bounds.1 h
  rw [number_eq, number_eq]
  omega

/-- Dates are ordered by month, and in a month by day. -/
theorem number_le_iff (d e : Date) :
    d.number ≤ e.number ↔
      d.monthIndex < e.monthIndex ∨ (d.monthIndex = e.monthIndex ∧ d.day ≤ e.day) := by
  rcases Nat.lt_trichotomy d.monthIndex e.monthIndex with h | h | h
  · have := number_lt_of_monthIndex_lt h
    omega
  · rw [number_eq, number_eq, h]
    omega
  · have := number_lt_of_monthIndex_lt h
    omega

theorem number_injective {d e : Date} (h : d.number = e.number) : d = e := by
  have hde := (number_le_iff d e).mp (by omega)
  have hed := (number_le_iff e d).mp (by omega)
  exact ext_index (by omega) (by omega)

end Date

end DateShorthand
