import DateShorthand.Locale.Builtin
import DateShorthand.Proofs.Shortcut.Escapes
import DateShorthand.Proofs.Shortcut.Midnight

/-!
# The day of the reference

Of a reference a shortcut sees the day in UTC and no more. A date text counts from midnight, and a
shortcut without a date text has a time that takes the place of the reference's.
-/

namespace DateShorthand

theorem Instant.atTime_congr {i j : Instant} (hday : i.date = j.date) (hoffset : i.offset = j.offset)
    (t : TimeOfDay) : i.atTime t = j.atTime t := by
  rw [atTime, atTime, hday, hoffset]

namespace Resolver

variable {l : Localization} {utc utc' : Instant} {time : Option TimeOfDay}

theorem settleTime_instantOf_congr (hoffset : utc.offset = some 0) (hoffset' : utc'.offset = some 0)
    (hday : utc.date = utc'.date) {written : Option TimeOfDay} {dateText : Text}
    (hempty : dateText.isEmpty → written.isSome) :
    (instantOf ⟨l, utc, time⟩ dateText).map (settleTime ⟨l, utc, time⟩ written)
      = (instantOf ⟨l, utc', time⟩ dateText).map (settleTime ⟨l, utc', time⟩ written) := by
  unfold instantOf
  -- without a date text the reference itself is taken, and then a time was written
  split
  · rename_i h
    obtain ⟨t, rfl⟩ := Option.isSome_iff_exists.mp (hempty h)
    exact congrArg Except.ok (Instant.atTime_congr hday (by rw [hoffset, hoffset']) t)
  · have hdate : resolveDate ⟨l, utc, time⟩ dateText = resolveDate ⟨l, utc', time⟩ dateText :=
      resolveDate_congr (by rfl) hoffset hoffset' hday dateText
    rw [hdate]
    rfl

theorem resolve_congr (hoffset : utc.offset = some 0) (hoffset' : utc'.offset = some 0)
    (hday : utc.date = utc'.date) (shortcut : Text) :
    resolve ⟨l, utc, time⟩ shortcut = resolve ⟨l, utc', time⟩ shortcut := by
  have hsplit : split ⟨l, utc', time⟩ shortcut = split ⟨l, utc, time⟩ shortcut := rfl
  rw [resolve_eq, resolve_eq, hsplit]
  cases h : split ⟨l, utc, time⟩ shortcut with
  | error => rfl
  | ok pieces => exact settleTime_instantOf_congr hoffset hoffset' hday (split_eq_ok h)

/-- References on the same day in UTC lead to the same instant, or fail alike. -/
theorem resolveOnce_eq_of_same_day {reference₁ reference₂ utc₁ utc₂ : Instant}
    (h₁ : reference₁.toUtc = .ok utc₁) (h₂ : reference₂.toUtc = .ok utc₂)
    (hday : utc₁.date = utc₂.date) (l : Localization) (defaultTime shortcut : Text) :
    resolveOnce l reference₁ defaultTime shortcut = resolveOnce l reference₂ defaultTime shortcut := by
  have hoffset₁ := (Instant.toUtc_eq_ok h₁).1
  have hoffset₂ := (Instant.toUtc_eq_ok h₂).1
  unfold resolveOnce build
  rw [h₁, h₂]
  by_cases hempty : defaultTime.isEmpty
  · simp only [mapError_ok, hempty, if_true]
    exact resolve_congr hoffset₁ hoffset₂ hday shortcut
  · simp only [mapError_ok, hempty]
    cases DefaultTime.parse defaultTime with
    | error => rfl
    | ok time => exact resolve_congr hoffset₁ hoffset₂ hday shortcut

/-- Late on New Year's Eve two hours west of Greenwich, and a day of January with no offset. -/
theorem resolveOnce_eq_of_same_day_across_years :
    let eve : Instant := ⟨⟨2024, 12, 31, by decide, by decide, by decide⟩, ⟨23, 30, 5⟩, ⟨250, by decide⟩,
      some (-7200)⟩
    let january : Instant := ⟨⟨2025, 1, 1, by decide, by decide, by decide⟩, ⟨18, 0, 0⟩, .zero, none⟩
    ∃ utc₁ utc₂, eve.toUtc = .ok utc₁ ∧ january.toUtc = .ok utc₂ ∧ utc₁.date = utc₂.date ∧
      resolveOnce .english eve "" "3/14 +1d." = resolveOnce .english january "" "3/14 +1d." := by
  let utc₁ : Instant := ⟨⟨2025, 1, 1, by decide, by decide, by decide⟩, ⟨1, 30, 5⟩, ⟨250, by decide⟩, some 0⟩
  let utc₂ : Instant := ⟨⟨2025, 1, 1, by decide, by decide, by decide⟩, ⟨18, 0, 0⟩, .zero, some 0⟩
  have h₁ : Instant.toUtc ⟨⟨2024, 12, 31, by decide, by decide, by decide⟩, ⟨23, 30, 5⟩, ⟨250, by decide⟩,
      some (-7200)⟩ = .ok utc₁ := by
    decide +kernel
  have h₂ : Instant.toUtc ⟨⟨2025, 1, 1, by decide, by decide, by decide⟩, ⟨18, 0, 0⟩, .zero, none⟩
      = .ok utc₂ := by
    decide
  exact ⟨utc₁, utc₂, h₁, h₂, rfl, resolveOnce_eq_of_same_day h₁ h₂ rfl .english "" "3/14 +1d."⟩

end Resolver

end DateShorthand
