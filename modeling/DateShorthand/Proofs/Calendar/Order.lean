import DateShorthand.Calendar.Instant
import DateShorthand.Proofs.Calendar.BusinessDays

/-!
# Moves and the order

No move leads a date past a later one. The jump to a business day changes the day inside a month
only, and the cut at the end of a month cuts the later date too.
-/

namespace DateShorthand

/-! ## Dates -/

namespace Date

/-- A move that leads no date past a later one. -/
def KeepsOrder (move : Date → Except CalendarFault Date) : Prop :=
  ∀ {d e d' e' : Date}, d.number ≤ e.number → move d = .ok d' → move e = .ok e' →
    d'.number ≤ e'.number

theorem addDays_keepsOrder (n : Int) : KeepsOrder (·.addDays n) := by
  intro d e d' e' h hd he
  simp only [addDays_eq_ok_iff] at hd he
  omega

theorem addMonths_keepsOrder (n : Int) : KeepsOrder (·.addMonths n) := by
  intro d e d' e' h hd he
  simp only [addMonths_eq_ok_iff] at hd he
  rw [number_le_iff] at h ⊢
  rcases h with h | ⟨h, hday⟩
  · left
    omega
  · right
    have hindex : d'.monthIndex = e'.monthIndex := by omega
    rw [hindex] at hd
    exact ⟨hindex, by omega⟩

/-- A day past the end of its month, as 29 February may become, is the first of the next one. -/
theorem addYears_keepsOrder (n : Int) : KeepsOrder (·.addYears n) := by
  intro d e d' e' h hd he
  simp only [addYears_eq_ok_iff] at hd he
  obtain ⟨first, hindex, hone, hd⟩ := hd
  obtain ⟨later, hindex', hone', he⟩ := he
  have hfirst := first.number_eq
  have hlater := later.number_eq
  rcases (number_le_iff d e).mp h with h | ⟨h, hday⟩
  · have hlength := monthLength_le_succ (show d.monthIndex % 12 = first.monthIndex % 12 by omega)
    have hbefore := daysBefore_lt first.monthIndex_bounds.1
      (show first.monthIndex < later.monthIndex by omega)
    have := d.day_bounds
    have := e.day_bounds
    omega
  · rw [show first.monthIndex = later.monthIndex by omega] at hfirst
    omega

theorem closestWorkday_keepsOrder : KeepsOrder closestWorkday := by
  intro d e d' e' h hd he
  rw [closestWorkday_eq_ok_iff] at hd he
  split_ifs at hd he <;> omega

theorem nthBusinessDay?_mono {d e d' e' : Date} {n : Int} {fromEnd : Bool}
    (h : d.number ≤ e.number) (hd : d.nthBusinessDay? n fromEnd = some d')
    (he : e.nthBusinessDay? n fromEnd = some e') : d'.number ≤ e'.number := by
  have hindex := monthIndex_of_nthBusinessDay? hd
  have hindex' := monthIndex_of_nthBusinessDay? he
  rcases (number_le_iff d e).mp h with h | ⟨h, -⟩
  · exact (number_le_iff d' e').mpr (Or.inl (by omega))
  · rw [nthBusinessDay?_congr h, he, Option.some.injEq] at hd
    rw [hd]

theorem ofCalendar_mono {year later month day : Int} {d e : Date} (h : year ≤ later)
    (hd : ofCalendar year month day = .ok d) (he : ofCalendar later month day = .ok e) :
    d.number ≤ e.number := by
  rw [ofCalendar_eq_ok_iff] at hd he
  obtain ⟨-, first, hindex, hone, hd⟩ := hd
  obtain ⟨-, first', hindex', hone', he⟩ := he
  have hfirst : first.number ≤ first'.number := by
    rw [number_le_iff]
    omega
  omega

end Date

/-! ## Instants -/

namespace TimeOfDay

theorem seconds_lt (t : TimeOfDay) : t.seconds < 86400 := by
  unfold seconds
  omega

theorem seconds_ofSeconds (n : Nat) : (ofSeconds n).seconds = n % 86400 := by
  simp only [seconds, ofSeconds]
  omega

theorem ofSeconds_seconds (t : TimeOfDay) : ofSeconds t.seconds = t := by
  obtain ⟨hour, minute, second⟩ := t
  simp only [ofSeconds, seconds, TimeOfDay.mk.injEq, Fin.ext_iff]
  omega

end TimeOfDay

namespace Instant

/-- Microseconds of UTC since the day before the calendar. -/
def moment (i : Instant) : Int :=
  1000000 * (86400 * (i.date.number : Int) + i.time.seconds - i.offset.getD 0) + i.microsecond

theorem toUtc_eq_ok {i j : Instant} (h : i.toUtc = .ok j) :
    j.offset = some 0 ∧ j.moment = i.moment := by
  unfold toUtc at h
  split at h
  · rename_i hoffset
    rw [Except.ok.injEq] at h
    rw [← h]
    simp [moment, hoffset]
  · rename_i offset hoffset
    simp only [map_eq_ok_iff, Date.addDays_eq_ok_iff] at h
    obtain ⟨date, hdate, rfl⟩ := h
    refine ⟨rfl, ?_⟩
    simp only [moment, hoffset, hdate, TimeOfDay.seconds_ofSeconds, Option.getD_some]
    omega

theorem toUtc_of_utc {i : Instant} (h : i.offset = some 0) : i.toUtc = .ok i := by
  have hlt := i.time.seconds_lt
  have hday : ((i.time.seconds : Int) - 0) / 86400 = 0 := by omega
  have hseconds : (((i.time.seconds : Int) - 0) % 86400).toNat = i.time.seconds := by omega
  have hdate : i.date.addDays 0 = .ok i.date := by
    rw [Date.addDays_eq_ok_iff]
    omega
  unfold toUtc
  rw [h]
  simp only [hday, hseconds, hdate, TimeOfDay.ofSeconds_seconds]
  rw [← h]
  rfl

/-- In UTC the earlier instant has the earlier day, or the same one. -/
theorem number_le_of_moment_le {i j : Instant} (hi : i.offset = some 0) (hj : j.offset = some 0)
    (h : i.moment ≤ j.moment) : i.date.number ≤ j.date.number := by
  have hsi := i.time.seconds_lt
  have hsj := j.time.seconds_lt
  have hmi := i.microsecond.isLt
  have hmj := j.microsecond.isLt
  simp only [moment, hi, hj, Option.getD_some] at h
  omega

structure NoLater (i j : Instant) : Prop where
  number_le : i.date.number ≤ j.date.number
  time_eq : i.time = j.time
  microsecond_eq : i.microsecond = j.microsecond
  offset_eq : i.offset = j.offset

theorem NoLater.moment_le {i j : Instant} (h : NoLater i j) : i.moment ≤ j.moment := by
  have hnumber := h.number_le
  simp only [moment, h.time_eq, h.microsecond_eq, h.offset_eq]
  omega

theorem NoLater.atTime {i j : Instant} (h : i.date.number ≤ j.date.number)
    (hoffset : i.offset = j.offset) (t : TimeOfDay) : NoLater (i.atTime t) (j.atTime t) :=
  ⟨h, rfl, rfl, hoffset⟩

theorem onDate_eq_ok_iff {i j : Instant} {d : Except CalendarFault Date} :
    i.onDate d = .ok j ↔ ∃ date, d = .ok date ∧ { i with date } = j := map_eq_ok_iff

theorem onDate_eq_error_iff {i : Instant} {d : Except CalendarFault Date} {f : CalendarFault} :
    i.onDate d = .error f ↔ d = .error f := map_eq_error_iff

/-- Every day of the calendar has a workday next to it or is one. -/
theorem exists_closestWorkday (i : Instant) : ∃ j, i.closestWorkday = .ok j := by
  obtain ⟨date, hdate⟩ := i.date.exists_closestWorkday
  exact ⟨{ i with date }, onDate_eq_ok_iff.mpr ⟨date, hdate, rfl⟩⟩

theorem NoLater.onDate {move : Date → Except CalendarFault Date} (hmove : Date.KeepsOrder move)
    {i j i' j' : Instant} (h : NoLater i j) (hi : i.onDate (move i.date) = .ok i')
    (hj : j.onDate (move j.date) = .ok j') : NoLater i' j' := by
  obtain ⟨d, hd, rfl⟩ := onDate_eq_ok_iff.mp hi
  obtain ⟨e, he, rfl⟩ := onDate_eq_ok_iff.mp hj
  exact ⟨hmove h.number_le hd he, h.time_eq, h.microsecond_eq, h.offset_eq⟩

/-- The instant `j` is `i` on another date. -/
def MovesTo (i j : Instant) : Prop := j = { i with date := j.date }

namespace MovesTo

variable {i j k : Instant}

theorem refl (i : Instant) : i.MovesTo i := rfl

theorem trans (h : i.MovesTo j) (h' : j.MovesTo k) : i.MovesTo k := by
  unfold MovesTo at h h' ⊢
  rw [h', h]

theorem of_onDate {d : Except CalendarFault Date} (h : i.onDate d = .ok j) : i.MovesTo j := by
  obtain ⟨date, -, rfl⟩ := onDate_eq_ok_iff.mp h
  rfl

end MovesTo

end Instant

end DateShorthand
