import DateShorthand.Proofs.Calendar.Order
import DateShorthand.Proofs.Shortcut.Stages

/-!
# Midnight

Nothing in a date text touches the clock: it starts from midnight UTC, and every part and the shift to
a workday move the date alone. So of a reference only the day is seen.
-/

namespace DateShorthand

/-! ## Only the date moves -/

namespace Instant.MovesTo

variable {i j : Instant}

theorem ofDate_eq {d : Date} (h : (ofDate d).MovesTo j) : j = ofDate j.date := h

theorem of_applyTo {p : Part} {unit : CalendarUnit} (h : p.applyTo unit i = .ok j) : i.MovesTo j := by
  cases unit with
  | today =>
    rw [Part.applyTo, Except.ok.injEq] at h
    exact h ▸ refl i
  | year | month | week | day =>
    rw [Part.applyTo, CalendarFault.guard_eq_ok_iff] at h
    exact of_onDate h
  | weekday =>
    rw [Part.applyTo, mapError_eq_ok_iff, nthBusinessDay] at h
    split at h
    · rw [Except.ok.injEq] at h
      exact h ▸ rfl
    · simp at h

variable {l : Localization}

theorem of_applyTokens {tokens : List Text} (h : Part.applyTokens l i tokens = .ok j) :
    i.MovesTo j := by
  induction tokens generalizing i with
  | nil =>
    rw [Part.applyTokens, Except.ok.injEq] at h
    exact h ▸ refl i
  | cons token rest ih =>
    obtain ⟨moved, p, unit, hstep, hrest⟩ := Part.applyTokens_cons_eq_ok_iff.mp h
    obtain ⟨-, -, hmove⟩ := Part.step_eq_ok_iff.mp hstep
    exact (of_applyTo hmove).trans (ih hrest)

theorem of_toWorkday {wanted : Bool} (h : Resolver.toWorkday i wanted = .ok j) : i.MovesTo j := by
  unfold Resolver.toWorkday at h
  split at h
  · rw [CalendarFault.guard_eq_ok_iff] at h
    exact of_onDate h
  · rw [Except.ok.injEq] at h
    exact h ▸ refl i

theorem of_finish {rest : Text} (h : Resolver.finish l i rest = .ok j) : i.MovesTo j := by
  obtain ⟨moved, hmoved, hworkday⟩ := bind_eq_ok_iff.mp h
  obtain ⟨tokens, -, htokens⟩ := bind_eq_ok_iff.mp hmoved
  exact (of_applyTokens htokens).trans (of_toWorkday hworkday)

end Instant.MovesTo

/-! ## Date texts -/

namespace Resolver

theorem startOf_eq {r : Resolver} (hr : r.reference.offset = some 0) (date : Option Date) :
    r.startOf date = .ofDate (date.getD r.reference.date) := by
  cases date with
  | none =>
    change r.reference.atTime .midnight = .ofDate r.reference.date
    rw [Instant.atTime, hr]
    rfl
  | some d => rfl

theorem eq_ofDate_of_resolveDate {r : Resolver} (hr : r.reference.offset = some 0) {t : Text}
    {i : Instant} (h : r.resolveDate t = .ok i) : i = .ofDate i.date := by
  rw [resolveDate_eq_finish] at h
  obtain ⟨⟨date, rest⟩, -, h⟩ := bind_eq_ok_iff.mp h
  change finish _ (r.startOf date) rest = _ at h
  rw [startOf_eq hr] at h
  exact (Instant.MovesTo.of_finish h).ofDate_eq

/-- References on the same day are not told apart. -/
theorem resolveDate_congr {r r' : Resolver} (hlocalization : r.localization = r'.localization)
    (hr : r.reference.offset = some 0) (hr' : r'.reference.offset = some 0)
    (hday : r.reference.date = r'.reference.date) (t : Text) : r.resolveDate t = r'.resolveDate t := by
  simp only [resolveDate_eq_finish, startOf_eq hr, startOf_eq hr', hlocalization, hday]

end Resolver

end DateShorthand
