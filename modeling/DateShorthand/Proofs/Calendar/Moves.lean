import DateShorthand.Proofs.Calendar.Number
import DateShorthand.Proofs.Outcome

/-!
# Moves

Each move of a date as one equation between the numbers of days and of months, true exactly when
the move succeeds.
-/

namespace DateShorthand.Date

/-! ## By days -/

theorem addDays_eq_ok_iff (d e : Date) (n : Int) :
    d.addDays n = .ok e ↔ (e.number : Int) = d.number + n := by
  rw [← ofNumber?_eq_some_iff, addDays]
  split
  · rename_i moved h
    rw [h, Except.ok.injEq, Option.some.injEq]
  · rename_i h
    simp [h]

theorem exists_addDays_iff (d : Date) (n : Int) :
    (∃ e, d.addDays n = .ok e) ↔ 1 ≤ d.number + n ∧ d.number + n ≤ lastNumber := by
  constructor
  · rintro ⟨e, he⟩
    have := e.number_bounds
    rw [addDays_eq_ok_iff] at he
    omega
  · rintro ⟨h1, hlast⟩
    obtain ⟨e, -, he⟩ := exists_ofNumber? (n := (d.number + n).toNat) (by omega) (by omega)
    exact ⟨e, (addDays_eq_ok_iff d e n).mpr (by omega)⟩

/-! ## By months and years -/

theorem clamped_eq_ok_iff {year : Int} {month day : Nat} (hmonth : 1 ≤ month ∧ month ≤ 12)
    (hday : 1 ≤ day) (e : Date) :
    clamped year month day = .ok e ↔
      (e.year : Int) = year ∧ e.month = month ∧ e.day = min day (daysInMonth e.year e.month) := by
  have hlength := daysInMonth_bounds year.toNat month
  unfold clamped ofFields?
  by_cases hyear : 1 ≤ year.toNat ∧ year.toNat ≤ 9999
  · rw [dif_pos ⟨hyear, hmonth, by omega, by omega⟩]
    simp only [Except.ok.injEq]
    constructor
    · rintro rfl
      exact ⟨by simp; omega, rfl, rfl⟩
    · rintro ⟨h1, h2, h3⟩
      have hy : e.year = year.toNat := by omega
      rw [hy, h2] at h3
      cases e
      simp_all
  · rw [dif_neg (fun h => hyear h.1)]
    have := e.year_mem
    simp only [reduceCtorEq, false_iff]
    omega

/-- Fewer than twelve months are left beside the years, so one carry brings the month into its year. -/
theorem addMonths_eq (d : Date) (n : Int) : d.addMonths n =
    clamped ((d.monthIndex + n) / 12) (((d.monthIndex + n) % 12).toNat + 1) d.day := by
  have hmonth := d.month_mem
  have hsplit := Int.tmod_add_mul_tdiv n 12
  have hsigns : -12 < n.tmod 12 ∧ n.tmod 12 < 12 :=
    ⟨Int.lt_tmod_of_pos n (by decide), Int.tmod_lt_of_pos n (by decide)⟩
  unfold addMonths monthIndex
  simp only
  split_ifs with hafter hbefore
  · congr 1 <;> omega
  · congr 1 <;> omega
  · congr 1 <;> omega

theorem addMonths_eq_ok_iff (d e : Date) (n : Int) :
    d.addMonths n = .ok e ↔
      (e.monthIndex : Int) = d.monthIndex + n ∧ e.day = min d.day (monthLength e.monthIndex) := by
  have hmonth := e.month_mem
  rw [addMonths_eq, clamped_eq_ok_iff (by omega) d.day_mem.1, monthLength_monthIndex]
  unfold monthIndex
  omega

/-- The first of the month goes to the year; the days are counted on from there. -/
theorem addYears_eq_ok_iff (d e : Date) (n : Int) :
    d.addYears n = .ok e ↔ ∃ first : Date, (first.monthIndex : Int) = d.monthIndex + 12 * n ∧
      first.day = 1 ∧ e.number + 1 = first.number + d.day := by
  have hmonth := d.month_mem
  have hday := d.day_mem
  unfold addYears
  rw [bind_eq_ok_iff]
  refine exists_congr fun first => ?_
  have hlength := daysInMonth_bounds first.year first.month
  rw [clamped_eq_ok_iff hmonth (by omega), addDays_eq_ok_iff]
  have := first.month_mem
  simp only [monthIndex]
  omega

theorem ofCalendar_eq_ok_iff (year month day : Int) (e : Date) :
    ofCalendar year month day = .ok e ↔ (1 ≤ year ∧ year ≤ 9999) ∧
      ∃ first : Date, (first.monthIndex : Int) = 12 * year + (month - 1) ∧ first.day = 1 ∧
        (e.number : Int) = first.number + (day - 1) := by
  unfold ofCalendar
  rw [bind_eq_ok_iff]
  simp only [bind_eq_ok_iff, addDays_eq_ok_iff, addMonths_eq_ok_iff,
    clamped_eq_ok_iff (show 1 ≤ 1 ∧ 1 ≤ 12 by omega) (show 1 ≤ 1 by omega)]
  constructor
  · rintro ⟨january, ⟨hyear, hmonth, hday⟩, first, ⟨hindex, hfirst⟩, he⟩
    have := january.year_mem
    have := daysInMonth_bounds january.year january.month
    have := monthLength_bounds first.monthIndex
    refine ⟨by omega, first, ?_, by omega, he⟩
    rw [hindex, monthIndex]
    omega
  · rintro ⟨hyear, first, hindex, hfirst, he⟩
    have := monthLength_bounds first.monthIndex
    let january : Date := ⟨year.toNat, 1, 1, by omega, by omega, by decide, by
      have := daysInMonth_bounds year.toNat 1
      omega⟩
    have hyear' : (january.year : Int) = year := by simp only [january]; omega
    have hlength := daysInMonth_bounds january.year january.month
    refine ⟨january, ⟨hyear', rfl, ?_⟩, first, ⟨?_, ?_⟩, he⟩
    · show 1 = _
      omega
    · rw [hindex, monthIndex]
      show _ = ((12 * january.year + (1 - 1) : Nat) : Int) + _
      omega
    · show _ = min 1 _
      omega

/-! ## Business days -/

theorem isBusinessDay_iff (d : Date) :
    d.isBusinessDay = true ↔ d.number % 7 ≠ 6 ∧ d.number % 7 ≠ 0 := by
  rw [isBusinessDay, decide_eq_true_iff]
  unfold weekday saturday
  omega

/-- Neither end of the calendar is a weekend, so there is always a workday to go to. -/
theorem closestWorkday_eq_ok_iff (d e : Date) :
    d.closestWorkday = .ok e ↔ e.number = if d.number % 7 = 6 then d.number - 1
      else if d.number % 7 = 0 then d.number + 1 else d.number := by
  have := d.number_bounds
  unfold closestWorkday weekday saturday sunday
  by_cases hsat : d.number % 7 = 6
  · rw [if_pos (by omega), if_pos hsat, addDays_eq_ok_iff]
    omega
  · by_cases hsun : d.number % 7 = 0
    · rw [if_neg (by omega), if_pos (by omega), if_neg hsat, if_pos hsun, addDays_eq_ok_iff]
      omega
    · rw [if_neg (by omega), if_neg (by omega), if_neg hsat, if_neg hsun, Except.ok.injEq]
      exact ⟨fun h => by rw [h], fun h => number_injective h.symm⟩

theorem exists_closestWorkday (d : Date) : ∃ e, d.closestWorkday = .ok e := by
  have hd := d.number_bounds
  simp only [lastNumber] at hd
  simp only [closestWorkday_eq_ok_iff]
  by_cases hsat : d.number % 7 = 6
  · obtain ⟨e, -, he⟩ := exists_ofNumber? (n := d.number - 1) (by omega) (by simp [lastNumber]; omega)
    exact ⟨e, by rw [if_pos hsat, he]⟩
  · by_cases hsun : d.number % 7 = 0
    · obtain ⟨e, -, he⟩ := exists_ofNumber? (n := d.number + 1) (by omega) (by simp [lastNumber]; omega)
      exact ⟨e, by rw [if_neg hsat, if_pos hsun, he]⟩
    · exact ⟨d, by rw [if_neg hsat, if_neg hsun]⟩

theorem isBusinessDay_of_closestWorkday {d e : Date} (h : d.closestWorkday = .ok e) :
    e.isBusinessDay = true := by
  rw [closestWorkday_eq_ok_iff] at h
  rw [isBusinessDay_iff]
  split_ifs at h <;> omega

end DateShorthand.Date
