import DateShorthand.Proofs.Locale.Accepted
import DateShorthand.Proofs.Shortcut.Clock
import DateShorthand.Proofs.Shortcut.Midnight
import DateShorthand.Proofs.Text.Lowering

/-!
# The time and the date

The time of a shortcut and its date are settled one without the other. A time in full at the end is cut
off whole, the rest leads to a midnight, and the time takes the place of that midnight.
-/

namespace DateShorthand

/-! ## Times in full -/

/-- Two digits for each of the three fields. -/
theorem Text.padded_two {n : Nat} (h : n < 100) : (padded 2 n).IsDigits ∧
    (padded 2 n).length = 2 ∧ TrailingTime.numberOf (padded 2 n) = n :=
  ⟨isDigits_padded 2 n, length_padded (by decide) h, numberOf_padded 2 n⟩

namespace Clock

variable {l : Localization}

def ofTime (markers : List Text) (t : TimeOfDay) : Clock markers where
  hour := Text.padded 2 t.hour
  minute := some (Text.padded 2 t.minute)
  second := some (Text.padded 2 t.second)
  marker := none
  hour_digits := by
    obtain ⟨hdigits, hlength, -⟩ := Text.padded_two (n := t.hour) (by omega)
    exact ⟨hdigits, hlength.le⟩
  minute_digits := by
    rintro f ⟨⟩
    obtain ⟨hdigits, hlength, -⟩ := Text.padded_two (n := t.minute) (by omega)
    exact ⟨hdigits, hlength⟩
  second_digits := by
    rintro f ⟨⟩
    obtain ⟨hdigits, hlength, -⟩ := Text.padded_two (n := t.second) (by omega)
    exact ⟨hdigits, hlength⟩
  minute_of_second := by simp
  marker_mem := by simp

theorem text_ofTime (markers : List Text) (t : TimeOfDay) (inner : Text) :
    (ofTime markers t).text inner = t.iso := by
  simp [text, ofTime, fieldText, markerText, TimeOfDay.iso]

theorem value_ofTime (t : TimeOfDay) (shortcut written : Text) :
    (ofTime l.markers t).value shortcut written = .ok t := by
  have hhour := (Text.padded_two (n := t.hour) (by omega)).2.2
  have hminute := (Text.padded_two (n := t.minute) (by omega)).2.2
  have hsecond := (Text.padded_two (n := t.second) (by omega)).2.2
  simp only [value, ofTime, Option.map_some, Option.getD_some, hminute, hsecond, TrailingTime.markedHour,
    hhour]
  rw [if_neg (by omega)]
  have hfields : TimeOfDay.ofFields? t.hour t.minute t.second = some t := by
    simp [TimeOfDay.ofFields?]
  simp only [bind, Except.bind, hfields]

end Clock

namespace TrailingTime

theorem split_append_iso {l : Localization} (hnil : [] ∉ l.markers)
    (hdigits : ∀ w ∈ l.markers, ∀ c ∈ w, ¬ Text.isDecimal c = true) {front gap : Text}
    (hfront : Text.IsTight front) (hne : front ≠ []) (hgap : Text.IsGap gap) (hne' : gap ≠ [])
    (t : TimeOfDay) : split l (front ++ (gap ++ t.iso)) = .ok (some t, front) := by
  let c := Clock.ofTime l.markers t
  have hmarker : Clock.markerText [] c.marker = [] := rfl
  have htight : Text.IsTight (c.text []) := c.isTight_text_of_marker (by simp [hmarker])
  have h := Clock.split_text_of_ends hdigits hfront hgap (by simp [hne, hne']) htight
    (by simp [hmarker]) (ends_none hnil [])
  rwa [Clock.text_ofTime, Clock.value_ofTime] at h

end TrailingTime

/-! ## Whole shortcuts -/

namespace Resolver

theorem isTight_iso (t : TimeOfDay) : Text.IsTight t.iso := by
  let c := Clock.ofTime Localization.english.markers t
  have hmarker : Clock.markerText [] c.marker = [] := rfl
  have h : Text.IsTight (c.text []) := c.isTight_text_of_marker (by simp [hmarker])
  rwa [Clock.text_ofTime] at h

theorem isLower_iso (t : TimeOfDay) : Text.IsLower t.iso := by
  have hfield : ∀ {n : Nat}, n < 100 → Text.IsLower (Text.padded 2 n) := fun h =>
    Text.isLower_of_isDecimal (Text.padded_two h).1.decimal
  have hcolon : Text.lowerChar ':' = ':' := by decide
  have hhour : Text.IsLower (Text.padded 2 t.hour) := hfield (by omega)
  exact (hhour.append ((hfield (by omega)).cons hcolon)).append ((hfield (by omega)).cons hcolon)

theorem normalize_append_iso {s gap : Text} (hs : Text.trim s = s) (hne : s ≠ []) (hgap : Text.IsGap gap)
    (hne' : gap ≠ []) (t : TimeOfDay) :
    Text.normalize (s ++ gap ++ t.iso) = Text.normalize s ++ (gap ++ t.iso) := by
  have hhead := (Text.isTight_of_trim_eq hs).head_append hne gap
  obtain ⟨c, u, hiso⟩ := List.exists_cons_of_ne_nil (l := t.iso) (by simp [TimeOfDay.iso])
  have htrim : Text.trim (s ++ gap ++ t.iso) = s ++ (gap ++ t.iso) := by
    rw [Text.trim_append_left (by simp [hne]) hhead, Text.trim_of_isTight (isTight_iso t),
      List.append_assoc]
    exact ⟨c, by rw [hiso]; rfl, (isTight_iso t).head c (by rw [hiso]; rfl)⟩
  obtain ⟨d, rest, rfl⟩ := List.exists_cons_of_ne_nil hne'
  have hmeets := Text.meetsCased_cons_of_isBlank (hgap d List.mem_cons_self) (rest ++ t.iso)
  rw [Text.normalize, htrim, Text.normalize_of_trim_eq hs]
  exact Text.lower_append_of_isLower hmeets ((Text.isLower_of_isBlank hgap).append (isLower_iso t))

theorem resolve_append_iso {r : Resolver} (hnil : [] ∉ r.localization.markers)
    (hdigits : ∀ w ∈ r.localization.markers, ∀ c ∈ w, ¬ Text.isDecimal c = true) {s gap : Text}
    (hs : Text.trim s = s) (hne : s ≠ []) (hgap : Text.IsGap gap) (hne' : gap ≠ []) (t : TimeOfDay) :
    r.resolve (s ++ gap ++ t.iso) = (r.resolveDate (Text.normalize s)).map (·.atTime t) := by
  have hempty := Text.normalize_ne_nil_of_trim_eq hs hne
  have hsplit : r.split (s ++ gap ++ t.iso) = .ok (some t, Text.normalize s) := by
    rw [split_eq_ok_iff, normalize_append_iso hs hne hgap hne']
    refine ⟨by simp [hempty], ?_⟩
    exact TrailingTime.split_append_iso hnil hdigits (Text.isTight_normalize s) hempty hgap hne' t
  rw [resolve_eq, hsplit]
  change (r.instantOf _).map (r.settleTime (some t)) = _
  rw [instantOf, if_neg (by simpa using hempty)]
  rfl

/-- The time at the end replaces the time of the result, the default time decides on nothing else, and
without either the result is a midnight. -/
theorem resolve_time_layer {l : Localization} (hl : l.IsAccepted)
    (hdigits : ∀ w ∈ l.am ++ l.pm, ∀ c ∈ w, ¬ Text.isDecimal c = true) {reference utc : Instant}
    (hutc : reference.toUtc = .ok utc) {s : Text} (hs : Text.trim s = s) (hne : s ≠ [])
    (htime : TrailingTime.IsAbsent l s) :
    (∀ time time' (t : TimeOfDay) (gap : Text), Text.IsGap gap → gap ≠ [] →
      resolve ⟨l, utc, time⟩ (s ++ gap ++ t.iso) = (resolve ⟨l, utc, time'⟩ s).map (·.atTime t)) ∧
      (∀ time time', (resolve ⟨l, utc, time⟩ s).map Instant.date
        = (resolve ⟨l, utc, time'⟩ s).map Instant.date) ∧
      ∀ i, resolve ⟨l, utc, none⟩ s = .ok i → i = .ofDate i.date := by
  have hoffset := (Instant.toUtc_eq_ok hutc).1
  have hempty := Text.normalize_ne_nil_of_trim_eq hs hne
  -- no default time takes part in the date
  have hresolve : ∀ time, resolve ⟨l, utc, time⟩ s
      = (resolveDate ⟨l, utc, none⟩ (Text.normalize s)).map (settleTime ⟨l, utc, time⟩ none) :=
    fun time => resolve_of_isAbsent (r := ⟨l, utc, time⟩) hempty htime
  have hmarkers : ∀ w ∈ l.markers, ∀ c ∈ w, ¬ Text.isDecimal c = true := by
    intro w hw
    rw [Localization.markers, Localization.mem_longestFirst, List.mem_eraseDups] at hw
    exact hdigits w hw
  refine ⟨fun time time' t gap hgap hne' => ?_, fun time time' => ?_, fun i hi => ?_⟩
  · rw [resolve_append_iso (r := ⟨l, utc, time⟩) hl.nil_not_mem_markers hmarkers hs hne hgap hne' t,
      hresolve]
    change (resolveDate ⟨l, utc, none⟩ _).map _ = _
    -- the written time covers whatever default stood in its place
    cases resolveDate ⟨l, utc, none⟩ (Text.normalize s) with
    | error => rfl
    | ok i => exact congrArg Except.ok (atTime_settleTime _ _ i t).symm
  · rw [hresolve, hresolve]
    cases resolveDate ⟨l, utc, none⟩ (Text.normalize s) with
    | error => rfl
    | ok i => exact congrArg Except.ok ((date_settleTime _ _ i).trans (date_settleTime _ _ i).symm)
  · rw [hresolve] at hi
    obtain ⟨j, hj, rfl⟩ := map_eq_ok_iff.mp hi
    exact eq_ofDate_of_resolveDate (r := ⟨l, utc, none⟩) hoffset hj

/-- A month before the end of March, over the end of the year in UTC. -/
theorem resolve_time_layer_in_english :
    let reference : Instant := ⟨⟨2023, 12, 31, by decide, by decide, by decide⟩, ⟨23, 0, 0⟩, ⟨7, by decide⟩,
      some (-7200)⟩
    let utc : Instant := ⟨⟨2024, 1, 1, by decide, by decide, by decide⟩, ⟨1, 0, 0⟩, ⟨7, by decide⟩, some 0⟩
    Localization.english.IsAccepted ∧
      (∀ w ∈ Localization.english.am ++ Localization.english.pm, ∀ c ∈ w, ¬ Text.isDecimal c = true) ∧
      reference.toUtc = .ok utc ∧ Text.trim "3/31 -1m." = "3/31 -1m." ∧ ("3/31 -1m." : Text) ≠ [] ∧
      TrailingTime.IsAbsent .english "3/31 -1m." ∧ Text.IsGap ['\t', ' '] ∧ ['\t', ' '] ≠ [] ∧
      resolve ⟨.english, utc, some ⟨9, 30, 0⟩⟩ ("3/31 -1m." ++ ['\t', ' '] ++ TimeOfDay.iso ⟨17, 30, 5⟩)
        = (resolve ⟨.english, utc, none⟩ "3/31 -1m.").map (·.atTime ⟨17, 30, 5⟩) := by
  have hmem : (("en" : Text), Localization.english) ∈ Localization.builtin := List.mem_cons_self
  have hl := Localization.isAccepted_of_mem_builtin hmem
  have hdigits : ∀ w ∈ Localization.english.am ++ Localization.english.pm, ∀ c ∈ w,
      ¬ Text.isDecimal c = true := by
    decide
  have hs : Text.trim "3/31 -1m." = "3/31 -1m." := by decide
  have htime : TrailingTime.IsAbsent .english "3/31 -1m." := by
    unfold TrailingTime.IsAbsent
    decide
  have hgap : Text.IsGap ['\t', ' '] := by
    unfold Text.IsGap
    decide
  have hutc : Instant.toUtc ⟨⟨2023, 12, 31, by decide, by decide, by decide⟩, ⟨23, 0, 0⟩, ⟨7, by decide⟩,
      some (-7200)⟩ = .ok ⟨⟨2024, 1, 1, by decide, by decide, by decide⟩, ⟨1, 0, 0⟩, ⟨7, by decide⟩, some 0⟩ := by
    decide +kernel
  refine ⟨hl, hdigits, hutc, hs, by decide, htime, hgap, by simp, ?_⟩
  exact (resolve_time_layer hl hdigits hutc hs (by decide) htime).1 _ _ _ _ hgap (by simp)

end Resolver

end DateShorthand
