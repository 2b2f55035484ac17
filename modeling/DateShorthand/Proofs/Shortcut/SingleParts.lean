import DateShorthand.Proofs.Calendar.Order
import DateShorthand.Proofs.Calendar.Shifts
import DateShorthand.Shortcut.Part

/-!
# Single parts

What one part makes of an instant: when a business day is found, and where a shift by months or by
years ends. The clock and the offset stay as they are.
-/

namespace DateShorthand

/-! ## Business days -/

namespace Instant

theorem nthBusinessDay_eq_ok_iff {i j : Instant} {n : Int} {fromEnd : Bool} :
    i.nthBusinessDay n fromEnd = .ok j ↔
      ∃ e, i.date.nthBusinessDay? n fromEnd = some e ∧ { i with date := e } = j := by
  unfold nthBusinessDay
  cases i.date.nthBusinessDay? n fromEnd <;> simp

theorem exists_nthBusinessDay_iff (i : Instant) (n : Int) (fromEnd : Bool) :
    (∃ j, i.nthBusinessDay n fromEnd = .ok j) ↔ 1 ≤ n ∧ n ≤ i.date.businessDayCount := by
  rw [← Date.exists_nthBusinessDay?_iff i.date n fromEnd]
  simp only [nthBusinessDay_eq_ok_iff]
  constructor
  · rintro ⟨j, e, he, -⟩
    exact ⟨e, he⟩
  · rintro ⟨e, he⟩
    exact ⟨_, e, he, rfl⟩

/-- A month has 20 to 23 business days. A number from 1 to their count finds the one day that so many
business days of the month come before, at the same time of day; from the end it finds the day with
the opposite number. Any other number is a fault that names the month. Which day of the month it is
asked from plays no part. -/
theorem nthBusinessDay_counts (i : Instant) (n : Int) :
    let count : Int := i.date.businessDayCount
    (20 ≤ count ∧ count ≤ 23) ∧
      (∀ fromEnd, (∃ j, i.nthBusinessDay n fromEnd = .ok j) ↔ 1 ≤ n ∧ n ≤ count) ∧
      (1 ≤ n → n ≤ count → ∃ e, i.nthBusinessDay n false = .ok { i with date := e } ∧
        ∀ d, i.date.IsNthBusinessDay n d ↔ d = e) ∧
      (1 ≤ n → n ≤ count → i.nthBusinessDay n true = i.nthBusinessDay (count + 1 - n) false) ∧
      (1 ≤ n → n ≤ 20 → ∀ fromEnd, ∃ j, i.nthBusinessDay n fromEnd = .ok j) ∧
      (¬ (1 ≤ n ∧ n ≤ count) → ∀ fromEnd, i.nthBusinessDay n fromEnd =
        .error (.weekdayNotFound (Text.ofInt n ++ ordinalSuffix n) (monthText i.date))) ∧
      ∀ d : Date, d.year = i.date.year → d.month = i.date.month → ∀ fromEnd,
        nthBusinessDay { i with date := d } n fromEnd = i.nthBusinessDay n fromEnd := by
  intro count
  have hbounds := i.date.businessDayCount_bounds
  refine ⟨by omega, i.exists_nthBusinessDay_iff n, ?found, ?fromEnd, ?small, ?missing, ?sameMonth⟩
  case found =>
    intro h1 hcount
    obtain ⟨e, he⟩ := (i.date.exists_nthBusinessDay?_iff n false).mpr ⟨h1, hcount⟩
    refine ⟨e, nthBusinessDay_eq_ok_iff.mpr ⟨e, he, rfl⟩, fun d => ?_⟩
    rw [← Date.nthBusinessDay?_eq_some_iff, he, Option.some.injEq, eq_comm]
  case fromEnd =>
    intro h1 hcount
    have hopposite := i.date.nthBusinessDay?_fromEnd n
    obtain ⟨e, he⟩ := (i.date.exists_nthBusinessDay?_iff n true).mpr ⟨h1, hcount⟩
    rw [nthBusinessDay_eq_ok_iff.mpr ⟨e, he, rfl⟩]
    rw [hopposite] at he
    exact (nthBusinessDay_eq_ok_iff.mpr ⟨e, he, rfl⟩).symm
  case small =>
    intro h1 h20 fromEnd
    exact (i.exists_nthBusinessDay_iff n fromEnd).mpr (by omega)
  case missing =>
    intro hout fromEnd
    have hnone : i.date.nthBusinessDay? n fromEnd = none := by
      rw [Option.eq_none_iff_forall_ne_some]
      intro e he
      exact hout ((i.date.exists_nthBusinessDay?_iff n fromEnd).mp ⟨e, he⟩)
    rw [nthBusinessDay, hnone]
  case sameMonth =>
    intro d hyear hmonth fromEnd
    have hindex := Date.monthIndex_eq_iff.mpr ⟨hyear, hmonth⟩
    simp only [nthBusinessDay, Date.nthBusinessDay?_congr hindex, monthText, hyear, hmonth]

end Instant

/-! ## Shifts -/

namespace Part

/-- A shift moves the date alone. -/
theorem guard_onDate_eq_ok_iff {raw : Text} {i j : Instant} {d : Except CalendarFault Date} :
    CalendarFault.guard raw (i.onDate d) = .ok j ↔ ∃ e, d = .ok e ∧ { i with date := e } = j :=
  CalendarFault.guard_eq_ok_iff.trans Instant.onDate_eq_ok_iff

theorem guard_onDate_eq_error_iff {raw : Text} {i : Instant} {d : Except CalendarFault Date}
    {e : Failure} : CalendarFault.guard raw (i.onDate d) = .error e ↔
      e = .fault (.dateOutOfRange raw) ∧ ¬ ∃ d', d = .ok d' := by
  rw [CalendarFault.guard_eq_error_iff, ← exists_eq_error_iff]
  simp only [Instant.onDate_eq_error_iff]

/-- A shift by months fails exactly when it leaves the calendar, and with the part as it was written.
It keeps the day or takes the last one of a shorter month. Where no day is lost, shifts add up; and
the way back ends where it began just then. -/
theorem applyTo_month_clamps (p : Part) (i : Instant) :
    let index : Int := 12 * i.date.year + (i.date.month - 1) + p.amount
    (p.applyTo .month i = .error (.fault (.dateOutOfRange p.raw)) ↔
        ¬ (1 ≤ index / 12 ∧ index / 12 ≤ 9999)) ∧
      (1 ≤ index / 12 → index / 12 ≤ 9999 → ∃ e : Date,
        p.applyTo .month i = .ok { i with date := e } ∧ (e.year : Int) = index / 12 ∧
          (e.month : Int) = index % 12 + 1 ∧ e.day = min i.date.day (daysInMonth e.year e.month)) ∧
      ∀ j, p.applyTo .month i = .ok j →
        (i.date.day ≤ daysInMonth j.date.year j.date.month → ∀ q r : Part,
          r.amount = p.amount + q.amount → ∀ k, q.applyTo .month j = .ok k ↔ r.applyTo .month i = .ok k) ∧
        ∀ q : Part, q.amount = -p.amount →
          (q.applyTo .month j = .ok i ↔ i.date.day ≤ daysInMonth j.date.year j.date.month) := by
  intro index
  have hindex : index = i.date.monthIndex + p.amount := by
    have := i.date.month_mem
    simp only [index, Date.monthIndex]
    omega
  have hexists := i.date.exists_addMonths_iff p.amount
  rw [← hindex] at hexists
  simp only [applyTo, Instant.addMonths, guard_onDate_eq_ok_iff]
  refine ⟨?fails, ?succeeds, ?again⟩
  case fails =>
    rw [guard_onDate_eq_error_iff, hexists]
    exact and_iff_right rfl
  case succeeds =>
    intro h1 h9999
    obtain ⟨e, he⟩ := hexists.mpr ⟨h1, h9999⟩
    refine ⟨e, ⟨e, he, rfl⟩, ?_⟩
    obtain ⟨hmonth, hday⟩ := (Date.addMonths_eq_ok_iff _ _ _).mp he
    rw [Date.monthLength_monthIndex] at hday
    have := e.monthIndex_div
    have := e.monthIndex_mod
    exact ⟨by omega, by omega, hday⟩
  case again =>
    rintro j ⟨e, he, rfl⟩
    rw [← Date.monthLength_monthIndex]
    refine ⟨?add, ?back⟩
    case add =>
      intro hday q r hr k
      rw [Date.addMonths_addMonths he hday, hr]
    case back =>
      intro q hq
      rw [← Date.addMonths_neg_eq_ok_iff he, hq]
      constructor
      · rintro ⟨d, hd, hback⟩
        rwa [← congrArg Instant.date hback]
      · intro hd
        exact ⟨i.date, hd, rfl⟩

end Part

/-- A shift by years fails exactly when the year leaves the calendar, and a part turns the failure into
a fault that quotes it. It keeps month and day, but for a 29 February that the year lacks. Unless that
happens on the way, shifts add up. -/
theorem Instant.addYears_keeps_month_and_day (i : Instant) (n : Int) :
    let year : Int := i.date.year + n
    ((∃ f, i.addYears n = .error f) ↔ ¬ (1 ≤ year ∧ year ≤ 9999)) ∧
      (1 ≤ year → year ≤ 9999 → ∃ e : Date, i.addYears n = .ok { i with date := e } ∧
        (e.year : Int) = year ∧
          if i.date.IsLeapDay ∧ isLeapYear e.year = false then e.month = 3 ∧ e.day = 1
          else e.month = i.date.month ∧ e.day = i.date.day) ∧
      (∀ j, i.addYears n = .ok j → ¬ (i.date.IsLeapDay ∧ isLeapYear j.date.year = false) →
        ∀ k, j.addYears k = i.addYears (n + k)) ∧
      ∀ p : Part, p.amount = n →
        (∀ f, i.addYears n = .error f → p.applyTo .year i = .error (.fault (.dateOutOfRange p.raw))) ∧
          ∀ j, p.applyTo .year i = .ok j ↔ i.addYears n = .ok j := by
  intro year
  have hexists := i.date.exists_addYears_iff n
  refine ⟨?fails, ?succeeds, ?add, ?part⟩
  case fails =>
    simp only [addYears, onDate_eq_error_iff]
    rw [exists_eq_error_iff, hexists]
  case succeeds =>
    intro h1 h9999
    obtain ⟨e, he⟩ := hexists.mpr ⟨h1, h9999⟩
    exact ⟨e, onDate_eq_ok_iff.mpr ⟨e, he, rfl⟩, (Date.addYears_eq_ok_iff_isInYear _ _ _).mp he⟩
  case add =>
    intro j hj hkept k
    obtain ⟨e, he, rfl⟩ := onDate_eq_ok_iff.mp hj
    simp only [addYears, Date.addYears_addYears he hkept]
    rfl
  case part =>
    rintro p rfl
    refine ⟨fun f hf => ?_, fun j => CalendarFault.guard_eq_ok_iff⟩
    exact CalendarFault.guard_eq_error_iff.mpr ⟨rfl, f, hf⟩

end DateShorthand
