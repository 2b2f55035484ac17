import DateShorthand.Calendar.Instant
import DateShorthand.Locale.Builtin
import DateShorthand.Proofs.Calendar.Shifts
import DateShorthand.Shortcut.AbsoluteDate

/-!
# Dates that roll over

A month outside the year and a day outside the month count on from there: first the months, from
January of the year, then the days, from the first of the month that is reached. So a date that is
written in numbers fails exactly when its year, that first of the month or the day itself is outside
the calendar.
-/

namespace DateShorthand

/-! ## Plain calendar arithmetic -/

namespace Date

variable {year month day index : Int} {d e first : Date}

/-- The first day of a month, where months are numbered on from January of year 0. -/
def IsMonthStart (index : Int) (first : Date) : Prop :=
  (first.year : Int) = index / 12 ∧ (first.month : Int) = index % 12 + 1 ∧ first.day = 1

instance (index : Int) (first : Date) : Decidable (IsMonthStart index first) :=
  inferInstanceAs (Decidable (_ ∧ _ ∧ _))

theorem isMonthStart_iff :
    IsMonthStart index first ↔ (first.monthIndex : Int) = index ∧ first.day = 1 := by
  have := first.month_mem
  unfold IsMonthStart monthIndex
  omega

theorem IsMonthStart.unique (hd : IsMonthStart index d) (he : IsMonthStart index e) : d = e := by
  rw [isMonthStart_iff] at hd he
  exact ext_index (by omega) (by omega)

theorem exists_isMonthStart_iff :
    (∃ first, IsMonthStart index first) ↔ 1 ≤ index / 12 ∧ index / 12 ≤ 9999 := by
  constructor
  · rintro ⟨first, hyear, -⟩
    have := first.year_mem
    omega
  · intro hyear
    have hlength := daysInMonth_bounds (index / 12).toNat ((index % 12).toNat + 1)
    refine ⟨⟨(index / 12).toNat, (index % 12).toNat + 1, 1, by omega, by omega, by omega⟩, ?_, ?_,
      rfl⟩
    · exact Int.toNat_of_nonneg (by omega)
    · simp only
      omega

/-- The number of the month that is meant, the year's own months being 1 to 12. -/
def monthNumber (year month : Int) : Int := 12 * year + (month - 1)

/-- The months lead to the first of a month, and the days from there to `e`. -/
def RollsTo (year month day : Int) (e : Date) : Prop :=
  ∃ first, IsMonthStart (monthNumber year month) first ∧ (e.number : Int) = first.number + (day - 1)

/-- The months lead out of the calendar, or the days do. -/
def RollsOut (year month day : Int) : Prop :=
  ¬ (1 ≤ monthNumber year month / 12 ∧ monthNumber year month / 12 ≤ 9999) ∨
    ∃ first, IsMonthStart (monthNumber year month) first ∧
      ¬ (1 ≤ first.number + (day - 1) ∧ first.number + (day - 1) ≤ lastNumber)

theorem RollsTo.unique (hd : RollsTo year month day d) (he : RollsTo year month day e) : d = e := by
  obtain ⟨first, hfirst, hd⟩ := hd
  obtain ⟨other, hother, he⟩ := he
  rw [hother.unique hfirst] at he
  exact number_injective (by omega)

theorem rollsTo_self (d : Date) : RollsTo d.year d.month d.day d := by
  have hmonth := d.month_mem
  have hday := d.day_bounds
  have hlength := daysInMonth_bounds d.year d.month
  let first : Date := ⟨d.year, d.month, 1, d.year_mem, d.month_mem, by omega⟩
  have hindex : first.monthIndex = d.monthIndex := rfl
  have hnumber := first.number_eq
  have hfirst : first.day = 1 := rfl
  refine ⟨first, isMonthStart_iff.mpr ⟨?_, rfl⟩, ?_⟩
  · rw [hindex]
    unfold monthIndex monthNumber
    omega
  · rw [d.number_eq, hnumber, hindex, hfirst]
    omega

theorem exists_rollsTo_iff : (∃ e, RollsTo year month day e) ↔ ¬ RollsOut year month day := by
  unfold RollsOut
  rw [not_or, not_not, not_exists, ← exists_isMonthStart_iff]
  constructor
  · rintro ⟨e, first, hfirst, he⟩
    have hbounds := e.number_bounds
    refine ⟨⟨first, hfirst⟩, fun other ⟨hother, hout⟩ => hout ?_⟩
    rw [hother.unique hfirst, ← he]
    omega
  · rintro ⟨⟨first, hfirst⟩, hinside⟩
    have hdays : 1 ≤ first.number + (day - 1) ∧ first.number + (day - 1) ≤ lastNumber := by
      by_contra hout
      exact hinside first ⟨hfirst, hout⟩
    obtain ⟨e, he⟩ := (exists_addDays_iff first (day - 1)).mpr hdays
    exact ⟨e, first, hfirst, (addDays_eq_ok_iff _ _ _).mp he⟩

theorem ofCalendar_eq_ok_iff_rollsTo :
    ofCalendar year month day = .ok e ↔ (1 ≤ year ∧ year ≤ 9999) ∧ RollsTo year month day e := by
  rw [ofCalendar_eq_ok_iff]
  unfold RollsTo
  simp only [isMonthStart_iff, monthNumber, and_assoc]

theorem exists_ofCalendar_error_iff : (∃ fault, ofCalendar year month day = .error fault) ↔
    ¬ (1 ≤ year ∧ year ≤ 9999) ∨ RollsOut year month day := by
  rw [exists_eq_error_iff, not_iff_comm, not_or, not_not, ← exists_rollsTo_iff]
  simp only [ofCalendar_eq_ok_iff_rollsTo, exists_and_left]

end Date

/-! ## Matches that write numbers -/

namespace AbsoluteDate

def WritesNumber (group : Option Text) (n : Int) : Prop := ∃ t, group = some t ∧ t.toInt = .ok n

/-- The third group writes the year, a short one of this century; where it is missing or empty the
default year is meant. -/
def MeansYear (defaultYear : Nat) (group : Option Text) (year : Int) : Prop :=
  group.getD [] = [] ∧ year = defaultYear ∨
    ∃ t n, group = some t ∧ t ≠ [] ∧ t.toInt = .ok n ∧ year = if t.length ≤ 2 then 2000 + n else n

/-- The groups of the match write these numbers, day and month in the order of the pattern. -/
structure IsNumeric (defaultYear : Nat) (p : DatePattern) (m : Regex.Match) (year month day : Int) :
    Prop where
  year : MeansYear defaultYear (m.group? 3) year
  month : WritesNumber (m.group? (match p.order with | .dayFirst => 2 | .monthFirst => 1)) month
  day : WritesNumber (m.group? (match p.order with | .dayFirst => 1 | .monthFirst => 2)) day

variable {p : DatePattern} {m : Regex.Match} {defaultYear : Nat} {year month day : Int}

theorem WritesNumber.required {group : Option Text} {n : Int} (h : WritesNumber group n) :
    required group = .ok n := by
  obtain ⟨t, rfl, ht⟩ := h
  rw [AbsoluteDate.required, Text.toIntOrFail, ht]
  rfl

theorem MeansYear.yearOf {group : Option Text} (h : MeansYear defaultYear group year) :
    yearOf defaultYear group = .ok year := by
  rcases h with ⟨hempty, rfl⟩ | ⟨t, n, rfl, hne, ht, rfl⟩
  · cases group with
    | none => rfl
    | some t =>
      obtain rfl : t = [] := hempty
      rfl
  · obtain ⟨c, rest, rfl⟩ := List.exists_cons_of_ne_nil hne
    rw [AbsoluteDate.yearOf, Text.toIntOrFail, ht, Int.add_comm]
    · rfl
    · simp

theorem IsNumeric.read (h : IsNumeric defaultYear p m year month day) :
    read defaultYear p m = CalendarFault.guard m.covered (Date.ofCalendar year month day) := by
  obtain ⟨hyear, hmonth, hday⟩ := h
  unfold AbsoluteDate.read
  cases hp : p.order with
  | dayFirst =>
    rw [hp] at hmonth hday
    rw [hday.required, hmonth.required, hyear.yearOf]
    rfl
  | monthFirst =>
    rw [hp] at hmonth hday
    rw [hmonth.required, hday.required, hyear.yearOf]
    rfl

/-- From a year of the calendar the months and the days are counted on, and nothing else fails than
that one of them leaves the calendar; the fields of a date give the date itself. So a match that
writes numbers gives the date that they roll over to, or a fault that names the match. -/
theorem numeric_dates_roll_over :
    (∀ year month day : Int, 1 ≤ year → year ≤ 9999 →
      ((∃ fault, Date.ofCalendar year month day = .error fault) ↔ Date.RollsOut year month day) ∧
      ∀ i, (Date.ofCalendar year month day).map Instant.ofDate = .ok i ↔
        ∃ e, Date.RollsTo year month day e ∧ i = ⟨e, .midnight, .zero, some 0⟩) ∧
    (∀ d : Date, Date.ofCalendar d.year d.month d.day = .ok d) ∧
    ∀ (l : Localization) (reference : Instant) (t : Text) (p : DatePattern) (m : Regex.Match)
      (year month day : Int), find? l t = some (p, m) →
      IsNumeric reference.date.year p m year month day →
      let leaves := ¬ (1 ≤ year ∧ year ≤ 9999) ∨ Date.RollsOut year month day
      (split l reference.date.year t = .error (.fault (.dateOutOfRange m.covered)) ↔ leaves) ∧
      (¬ leaves → ∃ e, Date.RollsTo year month day e ∧
        split l reference.date.year t = .ok (some e, Text.trimStart m.after)) := by
  refine ⟨fun year month day h1 hlast => ⟨?fails, fun i => ?succeeds⟩, fun d => ?_, ?_⟩
  case fails =>
    rw [Date.exists_ofCalendar_error_iff, or_iff_right (not_not_intro ⟨h1, hlast⟩)]
  case succeeds =>
    rw [map_eq_ok_iff]
    refine exists_congr fun e => ?_
    rw [Date.ofCalendar_eq_ok_iff_rollsTo, and_iff_right (show 1 ≤ year ∧ year ≤ 9999 from ⟨h1, hlast⟩)]
    exact and_congr_right fun _ => eq_comm
  · have := d.year_mem
    exact Date.ofCalendar_eq_ok_iff_rollsTo.mpr ⟨by omega, d.rollsTo_self⟩
  · intro l reference t p m year month day hfind hnumeric leaves
    have hsplit : split l reference.date.year t =
        (CalendarFault.guard m.covered (Date.ofCalendar year month day)).map
          fun date => (some date, Text.trimStart m.after) := by
      rw [split, hfind]
      simp only [hnumeric.read]
    rw [hsplit]
    constructor
    · rw [map_eq_error_iff, CalendarFault.guard_eq_error_iff, and_iff_right rfl,
        Date.exists_ofCalendar_error_iff]
    · intro hstays
      obtain ⟨hyear, hstays⟩ := not_or.mp hstays
      obtain ⟨e, he⟩ := Date.exists_rollsTo_iff.mpr hstays
      rw [Date.ofCalendar_eq_ok_iff_rollsTo.mpr ⟨not_not.mp hyear, he⟩]
      exact ⟨e, he, rfl⟩

/-- 31 February counts on into March. Day 40 of the month before the first one is refused, though the
day itself would be in the calendar. -/
theorem numeric_dates_roll_over_february :
    let reference : Instant := .ofDate ⟨2020, 1, 1, by decide, by decide, by decide⟩
    let m : Regex.Match := ⟨0, "31.2.24", " +1d", [(3, "24"), (2, "2"), (1, "31")]⟩
    let march : Date := ⟨2024, 3, 2, by decide, by decide, by decide⟩
    find? .german "31.2.24 +1d" = some (.dots, m) ∧ IsNumeric 2020 .dots m 2024 2 31 ∧
      split .german reference.date.year "31.2.24 +1d" = .ok (some march, "+1d") ∧
      ∃ fault, Date.ofCalendar 1 0 40 = .error fault := by
  intro reference m march
  have hfind : find? .german "31.2.24 +1d" = some (.dots, m) := by decide
  have hnumeric : IsNumeric 2020 .dots m 2024 2 31 :=
    ⟨.inr ⟨"24", 24, by decide, by decide, by decide, by decide⟩,
      ⟨"2", by decide, by decide⟩, ⟨"31", by decide, by decide⟩⟩
  obtain ⟨hcalendar, -, hmatch⟩ := numeric_dates_roll_over
  have hmarch : Date.RollsTo 2024 2 31 march :=
    ⟨⟨2024, 2, 1, by decide, by decide, by decide⟩, by decide, by decide⟩
  have hstays := Date.exists_rollsTo_iff.mp ⟨march, hmarch⟩
  refine ⟨hfind, hnumeric, ?_, (hcalendar 1 0 40 (by decide) (by decide)).1.mpr ?_⟩
  · obtain ⟨e, he, hsplit⟩ :=
      (hmatch .german reference _ .dots m 2024 2 31 hfind hnumeric).2 (by simpa using hstays)
    exact he.unique hmarch ▸ hsplit
  · exact .inl (by decide)

end AbsoluteDate

end DateShorthand
