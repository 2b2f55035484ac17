import DateShorthand.Proofs.Calendar.Moves

/-!
# Shifts by months and years

A shift by months goes to the day of the same number, or to the last one of a shorter month. A shift
by years keeps month and day, but for 29 February in a year that has none. Both fail exactly when
the year leaves the calendar, and both add up as long as no day is lost on the way.
-/

namespace DateShorthand.Date

variable {d e : Date} {n : Int}

/-! ## By months -/

theorem exists_clamped_iff {year : Int} {month day : Nat} (hmonth : 1 ≤ month ∧ month ≤ 12)
    (hday : 1 ≤ day) : (∃ e, clamped year month day = .ok e) ↔ 1 ≤ year ∧ year ≤ 9999 := by
  simp only [clamped_eq_ok_iff hmonth hday]
  constructor
  · rintro ⟨e, hyear, -⟩
    have := e.year_mem
    omega
  · intro hyear
    have hlength := daysInMonth_bounds year.toNat month
    refine ⟨⟨year.toNat, month, min day (daysInMonth year.toNat month), by omega, hmonth, by omega⟩,
      ?_, rfl, rfl⟩
    simp only
    omega

theorem exists_addMonths_iff (d : Date) (n : Int) :
    (∃ e, d.addMonths n = .ok e) ↔
      1 ≤ ((d.monthIndex : Int) + n) / 12 ∧ ((d.monthIndex : Int) + n) / 12 ≤ 9999 := by
  rw [addMonths_eq, exists_clamped_iff (by omega) d.day_mem.1]

theorem addMonths_addMonths (h : d.addMonths n = .ok e) (hday : d.day ≤ monthLength e.monthIndex)
    (k : Int) : e.addMonths k = d.addMonths (n + k) := by
  rw [addMonths_eq_ok_iff] at h
  rw [addMonths_eq, addMonths_eq, h.1, h.2, Nat.min_eq_left hday, Int.add_assoc]

/-- The way back ends on the day that was cut off, unless none was. -/
theorem addMonths_neg_eq_ok_iff (h : d.addMonths n = .ok e) :
    e.addMonths (-n) = .ok d ↔ d.day ≤ monthLength e.monthIndex := by
  have hd := d.day_bounds
  rw [addMonths_eq_ok_iff] at h ⊢
  omega

/-! ## By years -/

/-- 29 February. -/
def IsLeapDay (d : Date) : Prop := d.month = 2 ∧ d.day = 29

instance (d : Date) : Decidable d.IsLeapDay := inferInstanceAs (Decidable (_ ∧ _))

/-- Only 29 February is missing from its month in some years. -/
theorem day_le_daysInMonth_iff (d : Date) (year : Nat) :
    d.day ≤ daysInMonth year d.month ↔ ¬ (d.IsLeapDay ∧ isLeapYear year = false) := by
  have hday := d.day_mem
  unfold IsLeapDay
  unfold daysInMonth at hday ⊢
  split_ifs at hday ⊢ <;> simp_all <;> omega

/-- The same month and day in another year, or 1 March for a 29 February that the year lacks. -/
def IsInYear (d : Date) (year : Int) (e : Date) : Prop :=
  (e.year : Int) = year ∧
    if d.IsLeapDay ∧ isLeapYear e.year = false then e.month = 3 ∧ e.day = 1
    else e.month = d.month ∧ e.day = d.day

theorem IsInYear.unique {year : Int} {f : Date} (he : d.IsInYear year e) (hf : d.IsInYear year f) :
    e = f := by
  obtain ⟨hyear, he⟩ := he
  obtain ⟨hyear', hf⟩ := hf
  have hsame : e.year = f.year := by omega
  rw [hsame] at he
  split_ifs at he hf
  · exact ext_index (monthIndex_eq_iff.mpr ⟨hsame, by rw [he.1, hf.1]⟩) (by rw [he.2, hf.2])
  · exact ext_index (monthIndex_eq_iff.mpr ⟨hsame, by rw [he.1, hf.1]⟩) (by rw [he.2, hf.2])

/-- The days that are counted on from the first of the month lead to the date in that year. -/
theorem exists_isInYear (d first : Date) (hmonth : first.month = d.month) (hone : first.day = 1) :
    ∃ e, d.IsInYear first.year e ∧ e.number + 1 = first.number + d.day := by
  have hday := d.day_mem
  have hfirst := first.number_eq
  unfold IsInYear
  by_cases hlost : d.IsLeapDay ∧ isLeapYear first.year = false
  · -- The 29th day from 1 February on is the first after the month.
    obtain ⟨hleap, hcommon⟩ := hlost
    have hlength := daysInMonth_bounds first.year 3
    let march : Date := ⟨first.year, 3, 1, first.year_mem, by decide, by omega⟩
    have hindex : march.monthIndex = first.monthIndex + 1 := by
      simp only [monthIndex, march, hmonth, hleap.1]
    have hnumber := march.number_eq
    rw [hindex, daysBefore_succ _ first.monthIndex_bounds.1, monthLength_monthIndex, hmonth, hleap.1,
      daysInMonth, if_pos rfl, if_neg (by simp [hcommon])] at hnumber
    refine ⟨march, ⟨rfl, ?_⟩, ?_⟩
    · rw [if_pos ⟨hleap, hcommon⟩]
      exact ⟨rfl, rfl⟩
    · rw [hnumber, hfirst, hone, hleap.2]
      simp only [march]
  · let kept : Date := ⟨first.year, d.month, d.day, first.year_mem, d.month_mem, d.day_mem.1,
      (day_le_daysInMonth_iff d first.year).mpr hlost⟩
    have hindex : kept.monthIndex = first.monthIndex := monthIndex_eq_iff.mpr ⟨rfl, hmonth.symm⟩
    have hnumber := kept.number_eq
    rw [hindex] at hnumber
    refine ⟨kept, ⟨rfl, ?_⟩, ?_⟩
    · rw [if_neg hlost]
      exact ⟨rfl, rfl⟩
    · rw [hnumber, hfirst, hone]
      exact Nat.add_right_comm _ _ _

theorem addYears_eq_ok_iff_isInYear (d e : Date) (n : Int) :
    d.addYears n = .ok e ↔ d.IsInYear (d.year + n) e := by
  rw [addYears_eq_ok_iff]
  constructor
  · rintro ⟨first, hindex, hone, hnumber⟩
    obtain ⟨hyear, hmonth⟩ : (first.year : Int) = d.year + n ∧ first.month = d.month := by
      have := d.month_mem
      have := first.month_mem
      unfold monthIndex at hindex
      omega
    obtain ⟨f, hf, hnumber'⟩ := exists_isInYear d first hmonth hone
    obtain rfl : e = f := number_injective (by omega)
    rwa [← hyear]
  · intro he
    have hlength := daysInMonth_bounds e.year d.month
    let first : Date := ⟨e.year, d.month, 1, e.year_mem, d.month_mem, by omega⟩
    obtain ⟨f, hf, hnumber⟩ := exists_isInYear d first rfl rfl
    have hyear : (first.year : Int) = d.year + n := he.1
    rw [hyear] at hf
    obtain rfl := he.unique hf
    refine ⟨first, ?_, rfl, hnumber⟩
    unfold monthIndex
    simp only [first] at hyear ⊢
    omega

theorem exists_addYears_iff (d : Date) (n : Int) :
    (∃ e, d.addYears n = .ok e) ↔ 1 ≤ (d.year : Int) + n ∧ (d.year : Int) + n ≤ 9999 := by
  constructor
  · rintro ⟨e, he⟩
    have hyear := ((addYears_eq_ok_iff_isInYear d e n).mp he).1
    have := e.year_mem
    omega
  · intro hyear
    have hlength := daysInMonth_bounds (d.year + n).toNat d.month
    let first : Date := ⟨(d.year + n).toNat, d.month, 1, by omega, d.month_mem, by omega⟩
    obtain ⟨e, he, -⟩ := exists_isInYear d first rfl rfl
    have hfirst : (first.year : Int) = d.year + n := Int.toNat_of_nonneg (by omega)
    rw [hfirst] at he
    exact ⟨e, (addYears_eq_ok_iff_isInYear d e n).mpr he⟩

theorem addYears_addYears (h : d.addYears n = .ok e) (hkept : ¬ (d.IsLeapDay ∧ isLeapYear e.year = false))
    (k : Int) : e.addYears k = d.addYears (n + k) := by
  obtain ⟨hyear, h⟩ := (addYears_eq_ok_iff_isInYear d e n).mp h
  rw [if_neg hkept] at h
  rw [addYears, addYears, hyear, h.1, h.2, Int.add_assoc]

end DateShorthand.Date
