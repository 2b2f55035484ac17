import DateShorthand.Proofs.Shortcut.Faults
import DateShorthand.Proofs.Shortcut.Seams

/-!
# The workday marker

A point at the end is no part of a date, a word or a time, also where points stand between day and
month. It does no more than to move the result to its closest workday.
-/

namespace DateShorthand

variable {l : Localization} {separator : Char} {order : FieldOrder}

namespace Resolver

/-! ## Date texts -/

theorem finish_append_marker {start : Instant} {rest : Text} (hrest : IsUnmarked rest) :
    finish l start (rest ++ [workdayMarker]) = (do
      let moved ← finish l start rest
      toWorkday moved true) := by
  rw [finish, finish, splitMarker_append, splitMarker_of_isUnmarked hrest, Part.applyAll_trimStart]
  cases Part.applyAll l start rest <;> rfl

theorem resolveDate_append_marker {r : Resolver} (hplain : r.localization.IsPlain)
    (hlayout : r.localization.HasLayout separator order) {t : Text} (ht : IsUnmarked t) :
    r.resolveDate (t ++ [workdayMarker]) = (do
      let moved ← r.resolveDate t
      toWorkday moved true) := by
  rw [resolveDate_append hplain hlayout (isSeam_marker separator), resolveDate_eq_finish]
  cases hsplit : AbsoluteDate.split r.localization r.reference.date.year
      (dropToday r.localization t) with
  | error => rfl
  | ok found =>
    obtain ⟨date, rest⟩ := found
    have hsuffix := (AbsoluteDate.suffix_of_split hlayout hsplit).trans (dropToday_suffix _ t)
    exact finish_append_marker (ht.of_suffix hsuffix)

/-! ## Whole shortcuts -/

theorem toWorkday_settleTime (r : Resolver) (time : Option TimeOfDay) (i : Instant) :
    (toWorkday i true).map (r.settleTime time) = toWorkday (r.settleTime time i) true := by
  unfold toWorkday Instant.closestWorkday
  rw [date_settleTime]
  cases i.date.closestWorkday with
  | error => rfl
  | ok date =>
    unfold settleTime
    split <;> rfl

theorem isTight_append_marker {s : Text} (h : Text.IsTight s) : Text.IsTight (s ++ [workdayMarker]) := by
  refine ⟨fun c hc => ?_, fun c hc => ?_⟩
  · rcases Text.mem_head?_append hc with hc | ⟨-, hc⟩
    · exact h.head c hc
    · exact Option.some.inj hc ▸ by decide
  · rw [List.getLast?_concat] at hc
    exact Option.some.inj hc ▸ by decide

theorem normalize_append_marker {s : Text} (htrim : Text.trim s = s) :
    Text.normalize (s ++ [workdayMarker]) = Text.normalize s ++ [workdayMarker] := by
  have htight := isTight_append_marker (Text.isTight_of_trim_eq htrim)
  rw [Text.normalize_of_trim_eq htrim, Text.normalize_of_trim_eq (Text.trim_of_isTight htight),
    Text.lower_append_of_isLower (by decide) (by decide)]

theorem resolve_append_marker_eq {tag : Text} {r : Resolver}
    (hl : (tag, r.localization) ∈ Localization.builtin) {s : Text} (htrim : Text.trim s = s)
    (hne : s ≠ []) (htime : TrailingTime.IsAbsent r.localization s)
    (hlast : s.getLast? ≠ some workdayMarker) : r.resolve (s ++ [workdayMarker]) = (do
      let i ← r.resolve s
      toWorkday i true) := by
  obtain ⟨separator, order, hlayout⟩ := Localization.exists_mem_layouts hl
  have hplain := Localization.isPlain_of_mem hlayout
  have hnormal := normalize_append_marker htrim
  -- no time ends in a point, so the longer text has none either
  have htime' : TrailingTime.IsAbsent r.localization (s ++ [workdayMarker]) := by
    rw [TrailingTime.IsAbsent, hnormal]
    exact (TrailingTime.isForeign_of_symbol hplain.markers (by decide)).find?_eq_none
      (List.getLast?_concat ..)
  rw [resolve_of_isAbsent (by simp [hnormal]) htime', hnormal,
    resolveDate_append_marker hplain (Localization.hasLayout_of_mem hlayout)
      (isUnmarked_normalize htrim hlast),
    resolve_of_isAbsent (Text.normalize_ne_nil_of_trim_eq htrim hne) htime]
  cases r.resolveDate (Text.normalize s) with
  | error => rfl
  | ok i => exact toWorkday_settleTime r none i

/-- With a point at its end a shortcut fails as it does without, or leads to the workday closest to
where it leads without. -/
theorem resolve_append_marker {tag : Text} {r : Resolver}
    (hl : (tag, r.localization) ∈ Localization.builtin) {s : Text} (htrim : Text.trim s = s)
    (hne : s ≠ []) (htime : TrailingTime.IsAbsent r.localization s)
    (hlast : s.getLast? ≠ some workdayMarker) :
    ((∃ j, r.resolve (s ++ [workdayMarker]) = .ok j) ↔ ∃ i, r.resolve s = .ok i) ∧
      (∀ e, r.resolve s = .error e → r.resolve (s ++ [workdayMarker]) = .error e) ∧
      ∀ i, r.resolve s = .ok i → ∃ j, i.closestWorkday = .ok j ∧
        r.resolve (s ++ [workdayMarker]) = .ok j ∧ j.isBusinessDay = true := by
  have hmarker := resolve_append_marker_eq hl htrim hne htime hlast
  have hworkday : ∀ i, r.resolve s = .ok i → ∃ j, i.closestWorkday = .ok j ∧
      r.resolve (s ++ [workdayMarker]) = .ok j ∧ j.isBusinessDay = true := by
    intro i hi
    obtain ⟨j, hj⟩ := i.exists_closestWorkday
    obtain ⟨date, hdate, hmoved⟩ := Instant.onDate_eq_ok_iff.mp hj
    refine ⟨j, hj, ?_, hmoved ▸ Date.isBusinessDay_of_closestWorkday hdate⟩
    rw [hmarker, hi]
    exact CalendarFault.guard_eq_ok_iff.mpr hj
  refine ⟨⟨?_, ?_⟩, ?_, hworkday⟩
  · rintro ⟨j, hj⟩
    obtain ⟨i, hi, -⟩ := bind_eq_ok_iff.mp (hmarker ▸ hj)
    exact ⟨i, hi⟩
  · rintro ⟨i, hi⟩
    obtain ⟨j, -, hj, -⟩ := hworkday i hi
    exact ⟨j, hj⟩
  · intro e he
    rw [hmarker, he]
    rfl

/-- The sixteenth of March 2024 is a Saturday, and the point after it no second separator. -/
theorem resolve_append_marker_on_saturday :
    let r : Resolver := ⟨.german, .ofDate ⟨2024, 5, 15, by decide, by decide, by decide⟩, some ⟨9, 30, 0⟩⟩
    (("de" : Text), r.localization) ∈ Localization.builtin ∧ Text.trim "16.3" = "16.3" ∧
      ("16.3" : Text) ≠ [] ∧ TrailingTime.IsAbsent r.localization "16.3" ∧
      ("16.3" : Text).getLast? ≠ some workdayMarker ∧ ∃ i j, r.resolve "16.3" = .ok i ∧
        i.closestWorkday = .ok j ∧ r.resolve ("16.3" ++ [workdayMarker]) = .ok j ∧
        j.isBusinessDay = true := by
  let r : Resolver := ⟨.german, .ofDate ⟨2024, 5, 15, by decide, by decide, by decide⟩, some ⟨9, 30, 0⟩⟩
  have hl : (("de" : Text), r.localization) ∈ Localization.builtin :=
    List.mem_cons_of_mem _ List.mem_cons_self
  have htime : TrailingTime.IsAbsent r.localization "16.3" := by
    unfold TrailingTime.IsAbsent
    decide
  have hi : r.resolve "16.3" = .ok ((Instant.ofDate ⟨2024, 3, 16, by decide, by decide, by decide⟩).atTime
      ⟨9, 30, 0⟩) := by
    set_option maxRecDepth 1000 in
    decide
  have htrim : Text.trim "16.3" = "16.3" := by decide
  have hmarker := resolve_append_marker hl htrim (by decide) htime (by decide)
  obtain ⟨j, hj, hresolve, hbusiness⟩ := hmarker.2.2 _ hi
  exact ⟨hl, htrim, by decide, htime, by decide, _, j, hi, hj, hresolve, hbusiness⟩

end Resolver

end DateShorthand
