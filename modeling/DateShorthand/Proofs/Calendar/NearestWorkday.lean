import DateShorthand.Proofs.Calendar.Order

/-!
# The nearest business day

From every day of the calendar the move to a workday succeeds. It goes to the one business day that
is nearest, and it keeps the order of the days it starts from.
-/

namespace DateShorthand

/-! ## Dates -/

namespace Date

variable {d e f : Date}

theorem eq_iff_isBusinessDay_of_closestWorkday (h : d.closestWorkday = .ok e) :
    e = d ↔ d.isBusinessDay = true := by
  rw [closestWorkday_eq_ok_iff] at h
  rw [isBusinessDay_iff]
  constructor
  · rintro rfl
    split_ifs at h <;> omega
  · rintro ⟨hsat, hsun⟩
    rw [if_neg hsat, if_neg hsun] at h
    exact number_injective h

theorem closestWorkday_of_isBusinessDay (h : d.isBusinessDay = true) : d.closestWorkday = .ok d := by
  obtain ⟨e, he⟩ := d.exists_closestWorkday
  rwa [(eq_iff_isBusinessDay_of_closestWorkday he).mpr h] at he

/-- How many days two dates are apart. -/
def daysApart (d e : Date) : Nat := ((e.number : Int) - d.number).natAbs

theorem daysApart_le_one_of_closestWorkday (h : d.closestWorkday = .ok e) : d.daysApart e ≤ 1 := by
  have := d.number_bounds
  rw [closestWorkday_eq_ok_iff] at h
  unfold daysApart
  split_ifs at h <;> omega

/-- Two business days never lie on both sides of a weekend day equally near: Friday and Monday are
three days apart. -/
theorem daysApart_lt_of_closestWorkday (h : d.closestWorkday = .ok e) (hf : f.isBusinessDay = true)
    (hne : f ≠ e) : d.daysApart e < d.daysApart f := by
  have hnumber : f.number ≠ e.number := fun heq => hne (number_injective heq)
  have := d.number_bounds
  rw [closestWorkday_eq_ok_iff] at h
  rw [isBusinessDay_iff] at hf
  unfold daysApart
  split_ifs at h <;> omega

end Date

/-! ## Instants -/

namespace Instant

variable {i j k : Instant}

/-- A day in microseconds. -/
def dayLength : Nat := 86400 * 1000000

/-- How many microseconds two instants are apart. -/
def apart (i j : Instant) : Nat := (j.moment - i.moment).natAbs

theorem MovesTo.apart_eq (h : i.MovesTo j) : i.apart j = dayLength * i.date.daysApart j.date := by
  have hmoment : j.moment - i.moment = dayLength * ((j.date.number : Int) - i.date.number) := by
    unfold MovesTo at h
    rw [h]
    simp only [moment, dayLength]
    omega
  unfold apart Date.daysApart
  rw [hmoment, Int.natAbs_mul]
  rfl

theorem MovesTo.noLater (h : i.MovesTo j) (hle : i.moment ≤ j.moment) : NoLater i j := by
  unfold MovesTo at h
  refine ⟨?_, ?_, ?_, ?_⟩
  · rw [h] at hle
    simp only [moment] at hle
    omega
  all_goals rw [h]

/-- A business day at the same time of day, and nearer than every other one. -/
structure IsNearestWorkday (i j : Instant) : Prop where
  movesTo : i.MovesTo j
  isBusinessDay : j.isBusinessDay = true
  nearer : ∀ k, i.MovesTo k → k.isBusinessDay = true → k ≠ j → i.apart j < i.apart k

theorem IsNearestWorkday.unique (h : i.IsNearestWorkday j) (h' : i.IsNearestWorkday k) : j = k := by
  by_contra hne
  have hjk := h.nearer k h'.movesTo h'.isBusinessDay (Ne.symm hne)
  have hkj := h'.nearer j h.movesTo h.isBusinessDay hne
  omega

theorem isNearestWorkday_of_closestWorkday (h : i.closestWorkday = .ok j) : i.IsNearestWorkday j := by
  have hmoves := MovesTo.of_onDate h
  obtain ⟨date, hdate, rfl⟩ := onDate_eq_ok_iff.mp h
  refine ⟨hmoves, Date.isBusinessDay_of_closestWorkday hdate, fun k hk hbusiness hne => ?_⟩
  have hother : k.date ≠ date := by
    intro heq
    apply hne
    rw [hk, heq]
  rw [hmoves.apart_eq, hk.apart_eq]
  exact Nat.mul_lt_mul_of_pos_left (Date.daysApart_lt_of_closestWorkday hdate hbusiness hother) (by decide)

theorem closestWorkday_eq_ok_iff_isNearestWorkday :
    i.closestWorkday = .ok j ↔ i.IsNearestWorkday j := by
  refine ⟨isNearestWorkday_of_closestWorkday, fun h => ?_⟩
  obtain ⟨k, hk⟩ := i.exists_closestWorkday
  rw [hk, h.unique (isNearestWorkday_of_closestWorkday hk)]

theorem closestWorkday_of_isBusinessDay (h : i.isBusinessDay = true) : i.closestWorkday = .ok i :=
  onDate_eq_ok_iff.mpr ⟨i.date, Date.closestWorkday_of_isBusinessDay h, rfl⟩

/-- From the first to the last day of the calendar there is one nearest business day, at most a day
away, and the move to a workday goes there. It stays where it is on business days alone, a second move
changes nothing, and of two days at one time of day the earlier one never ends up later. -/
theorem closestWorkday_is_unique_nearest (i : Instant) :
    ∃ j, i.closestWorkday = .ok j ∧ i.IsNearestWorkday j ∧ i.apart j ≤ dayLength ∧
      (j = i ↔ i.isBusinessDay = true) ∧ j.closestWorkday = .ok j ∧
      ∀ later laterWorkday, i.MovesTo later → i.moment ≤ later.moment →
        later.closestWorkday = .ok laterWorkday → j.moment ≤ laterWorkday.moment := by
  obtain ⟨j, hj⟩ := i.exists_closestWorkday
  have hnearest := isNearestWorkday_of_closestWorkday hj
  obtain ⟨date, hdate, hmoved⟩ := onDate_eq_ok_iff.mp hj
  have hjdate : j.date = date := by rw [← hmoved]
  refine ⟨j, hj, hnearest, ?_, ?_, ?_, ?_⟩
  · have := Date.daysApart_le_one_of_closestWorkday hdate
    rw [hnearest.movesTo.apart_eq, hjdate]
    unfold dayLength
    omega
  · rw [isBusinessDay, ← Date.eq_iff_isBusinessDay_of_closestWorkday hdate, ← hmoved]
    exact ⟨congrArg Instant.date, fun h => by rw [h]⟩
  · exact closestWorkday_of_isBusinessDay hnearest.isBusinessDay
  · intro later laterWorkday hmoves hle hlater
    exact ((hmoves.noLater hle).onDate Date.closestWorkday_keepsOrder hj hlater).moment_le

end Instant

end DateShorthand
