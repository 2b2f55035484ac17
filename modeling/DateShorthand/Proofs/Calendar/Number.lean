import DateShorthand.Proofs.Calendar.Month

/-!
# The date with a given number

Every number from 1 to that of the last day has its date, and no other number has one.
-/

namespace DateShorthand

/-! ## Years -/

theorem daysBeforeYear_bounds (n : Nat) :
    146097 * n ≤ 400 * daysBeforeYear (n + 1) + 699 ∧
      400 * daysBeforeYear (n + 1) ≤ 146097 * n + 396 := by
  have h4 := Nat.div_add_mod n 4
  have h4' := Nat.mod_lt n (show 0 < 4 by omega)
  have h100 := Nat.div_add_mod n 100
  have h100' := Nat.mod_lt n (show 0 < 100 by omega)
  have h400 := Nat.div_add_mod n 400
  have h400' := Nat.mod_lt n (show 0 < 400 by omega)
  simp only [daysBeforeYear, Nat.add_sub_cancel]
  generalize n / 4 = fours at *
  generalize n / 100 = hundreds at *
  generalize n / 400 = fourHundreds at *
  generalize n % 4 = r4 at *
  generalize n % 100 = r100 at *
  generalize n % 400 = r400 at *
  omega

theorem daysBeforeYear_lt_succ (year : Nat) (h : 1 ≤ year) :
    daysBeforeYear year < daysBeforeYear (year + 1) := by
  have := daysInYear_bounds year
  rw [daysBeforeYear_succ year h]
  omega

theorem daysBeforeYear_mono {year later : Nat} (h : 1 ≤ year) (hle : year ≤ later) :
    daysBeforeYear year ≤ daysBeforeYear later := by
  induction hle with
  | refl => exact Nat.le_refl _
  | @step later hle ih =>
    have := daysBeforeYear_lt_succ later (Nat.le_trans h hle)
    exact Nat.le_trans ih (Nat.le_of_lt this)

theorem exists_year (days : Nat) :
    ∃ year, 1 ≤ year ∧ daysBeforeYear year ≤ days ∧ days < daysBeforeYear (year + 1) := by
  induction days with
  | zero => exact ⟨1, by decide, by decide, by decide⟩
  | succ days ih =>
    obtain ⟨year, hyear, hle, hlt⟩ := ih
    by_cases h : days + 1 < daysBeforeYear (year + 1)
    · exact ⟨year, hyear, by omega, h⟩
    · have := daysBeforeYear_lt_succ (year + 1) (by omega)
      exact ⟨year + 1, by omega, by omega, by omega⟩

namespace Date

/-! ## Year and month of a day -/

theorem yearAfter_eq {year days : Nat} (h : 1 ≤ year) (hle : daysBeforeYear year ≤ days)
    (hlt : days < daysBeforeYear (year + 1)) : yearAfter days = year := by
  obtain ⟨n, rfl⟩ : ∃ n, year = n + 1 := ⟨year - 1, by omega⟩
  have hn := daysBeforeYear_bounds n
  have hsucc := daysBeforeYear_bounds (n + 1)
  -- The mean year gives this year or the one before it.
  have hguess : 400 * days / 146097 = n ∨ 400 * days / 146097 + 1 = n := by omega
  unfold yearAfter
  rcases hguess with hguess | hguess
  · rw [hguess, if_neg (by omega), if_neg (by omega)]
  · rw [hguess, if_pos hle]

theorem splitYear_eq_some {year count first day month rest : Nat} (hfirst : 1 ≤ first)
    (h : splitYear year (List.range' first count) day = some (month, rest)) :
    first ≤ month ∧ month < first + count ∧ rest ≤ daysInMonth year month ∧
      daysBeforeMonth year first + day = daysBeforeMonth year month + rest ∧ (1 ≤ day → 1 ≤ rest) := by
  induction count generalizing first day with
  | zero => simp [splitYear] at h
  | succ count ih =>
    rw [List.range'_succ, splitYear] at h
    split at h
    · rename_i hday
      simp only [Option.some.injEq, Prod.mk.injEq] at h
      obtain ⟨rfl, rfl⟩ := h
      exact ⟨by omega, by omega, hday, rfl, id⟩
    · rename_i hday
      obtain ⟨h1, h2, h3, h4, h5⟩ := ih (by omega) h
      rw [daysBeforeMonth_succ _ _ hfirst] at h4
      exact ⟨by omega, by omega, h3, by omega, fun _ => h5 (by omega)⟩

theorem exists_splitYear {year count first day : Nat} (hfirst : 1 ≤ first)
    (h : daysBeforeMonth year first + day ≤ daysBeforeMonth year (first + count)) (hday : 1 ≤ day) :
    ∃ found, splitYear year (List.range' first count) day = some found := by
  induction count generalizing first day with
  | zero =>
    rw [Nat.add_zero] at h
    omega
  | succ count ih =>
    rw [List.range'_succ, splitYear]
    split
    · exact ⟨_, rfl⟩
    · have := daysBeforeMonth_succ year first hfirst
      rw [show first + (count + 1) = first + 1 + count by omega] at h
      exact ih (by omega) (by omega) (by omega)

/-- 31 December of year 9999. -/
def lastNumber : Nat := 3652059

theorem number_bounds (d : Date) : 1 ≤ d.number ∧ d.number ≤ lastNumber := by
  have hday := d.day_bounds
  have hlt := daysBefore_lt d.monthIndex_bounds.1 d.monthIndex_bounds.2
  have hlast : daysBefore 120000 = lastNumber := by decide
  rw [number_eq]
  omega

/-- Every number of the calendar is found, and only those. -/
theorem exists_ofNumber? {n : Nat} (h1 : 1 ≤ n) (hlast : n ≤ lastNumber) :
    ∃ d, ofNumber? n = some d ∧ d.number = n := by
  obtain ⟨year, hyear, hle, hlt⟩ := exists_year (n - 1)
  have hmax : year ≤ 9999 := by
    by_contra hgt
    have := daysBeforeYear_mono (show 1 ≤ 10000 by decide) (show 10000 ≤ year by omega)
    have : daysBeforeYear 10000 = lastNumber := by decide
    omega
  have hsucc := daysBeforeYear_succ year hyear
  have hone : daysBeforeMonth year 1 = 0 := rfl
  have hthirteen := daysBeforeMonth_thirteen year
  have hrest : daysBeforeMonth year 1 + (n - daysBeforeYear year) ≤ daysBeforeMonth year (1 + 12) := by
    rw [hone, hthirteen]
    omega
  obtain ⟨⟨month, day⟩, hsplit⟩ := exists_splitYear (by decide) hrest (by omega)
  obtain ⟨hm1, hm2, hd1, hday, hd2⟩ := splitYear_eq_some (by decide) hsplit
  have hfields : (1 ≤ year ∧ year ≤ 9999) ∧ (1 ≤ month ∧ month ≤ 12) ∧
      1 ≤ day ∧ day ≤ daysInMonth year month :=
    ⟨⟨hyear, hmax⟩, ⟨hm1, by omega⟩, hd2 (by omega), hd1⟩
  refine ⟨⟨year, month, day, hfields.1, hfields.2.1, hfields.2.2⟩, ?_, ?_⟩
  · unfold ofNumber?
    rw [if_neg (by omega)]
    simp only [Int.toNat_natCast]
    rw [yearAfter_eq hyear hle hlt, hsplit]
    simp only [Option.bind_some, ofFields?]
    exact dif_pos hfields
  · simp only [number]
    omega

theorem ofNumber?_eq_none {n : Nat} (hlast : lastNumber < n) : ofNumber? n = none := by
  obtain ⟨year, hyear, hle, hlt⟩ := exists_year (n - 1)
  have hmax : 9999 < year := by
    by_contra hgt
    have := daysBeforeYear_mono (show 1 ≤ year + 1 by omega) (show year + 1 ≤ 10000 by omega)
    have : daysBeforeYear 10000 = lastNumber := by decide
    omega
  unfold ofNumber?
  rw [if_neg (by omega)]
  simp only [Int.toNat_natCast]
  rw [yearAfter_eq hyear hle hlt, Option.bind_eq_none_iff]
  rintro ⟨month, day⟩ -
  exact dif_neg (by omega)

theorem ofNumber?_eq_some_iff (n : Int) (d : Date) : ofNumber? n = some d ↔ (d.number : Int) = n := by
  constructor
  · intro h
    have h1 : 1 ≤ n := by
      by_contra hlt
      rw [ofNumber?, if_pos (by omega)] at h
      simp at h
    obtain ⟨m, rfl⟩ : ∃ m : Nat, n = m := ⟨n.toNat, by omega⟩
    by_cases hlast : m ≤ lastNumber
    · obtain ⟨e, he, hnumber⟩ := exists_ofNumber? (by omega) hlast
      rw [he, Option.some.injEq] at h
      rw [← h, hnumber]
    · rw [ofNumber?_eq_none (by omega)] at h
      simp at h
  · rintro rfl
    obtain ⟨e, he, hnumber⟩ := exists_ofNumber? d.number_bounds.1 d.number_bounds.2
    rw [he, number_injective hnumber]

end Date

end DateShorthand
