import DateShorthand.Proofs.Shortcut.RenderedDay

/-!
# Rendered shortcuts

Every text of a written shortcut resolves to the instant that is meant: no stage takes characters
that belong to a later one.
-/

namespace DateShorthand

variable {separator : Char} {order : FieldOrder}

namespace Resolver

open Written

section

variable {l : Localization} {w : Written l} {day gap inner : Text}

theorem isTight_of_rendersDay (hplain : l.IsPlain) (hseparator : IsDateSeparator separator)
    (hday : w.RendersDay separator day) (hfirst : gap = [] ↔ day = []) :
    Text.IsTight (day ++ w.clockText gap inner) := by
  have hhead := hday.not_isBlank_head hplain hseparator
  have hlast := hday.not_isBlank_last hplain hseparator
  unfold clockText
  split
  · rw [List.append_nil]
    exact ⟨hhead, hlast⟩
  · rename_i c _
    have htight := c.isTight_text hplain.markers inner
    refine ⟨fun d hd => ?_, fun d hd => ?_⟩
    · rcases Text.mem_head?_append hd with hd | ⟨hnil, hd⟩
      · exact hhead d hd
      · rw [hfirst.mpr hnil] at hd
        exact htight.head d hd
    · rw [← List.append_assoc] at hd
      rcases Text.mem_getLast?_append hd with ⟨hnil, -⟩ | hd
      · exact absurd hnil (c.text_ne_nil inner)
      · exact htight.last d hd

theorem isLower_of_rendersDay (hplain : l.IsPlain) (hseparator : IsDateSeparator separator)
    (hday : w.RendersDay separator day) (hgap : Text.IsGap gap) (hinner : Text.IsGap inner) :
    Text.IsLower (day ++ w.clockText gap inner) := by
  refine (hday.isLower hplain hseparator).append ?_
  unfold clockText
  split
  · simp [Text.IsLower]
  · rename_i c _
    exact (Text.isLower_of_isBlank hgap).append (c.isLower_text hplain.markers hinner)

end

theorem split_of_renders {r : Resolver} (hplain : r.localization.IsPlain)
    (hseparator : IsDateSeparator separator) {w : Written r.localization}
    {before day gap inner after : Text} (hday : w.RendersDay separator day)
    (hbefore : Text.IsGap before) (hgap : Text.IsGap gap) (hinner : Text.IsGap inner)
    (hafter : Text.IsGap after) (hfirst : gap = [] ↔ day = []) :
    r.split (before ++ (day ++ w.clockText gap inner) ++ after)
      = (w.time (before ++ (day ++ w.clockText gap inner) ++ after) inner).map fun time =>
          (time, day) := by
  have hlower := isLower_of_rendersDay hplain hseparator hday hgap hinner
  have hwhole : Text.IsTight (day ++ w.clockText gap inner) :=
    isTight_of_rendersDay hplain hseparator hday hfirst
  have htrim := Text.trim_append hbefore hwhole hafter
  have hnormal : Text.normalize (before ++ (day ++ w.clockText gap inner) ++ after)
      = day ++ w.clockText gap inner := by
    rw [Text.normalize, htrim, Text.lower_of_isLower hlower]
  unfold Resolver.split time
  rw [hnormal, htrim]
  cases hclock : w.clock with
  | none =>
    have hbare := isBare_eq_false hclock
    have htext : w.clockText gap inner = [] := by rw [clockText, hclock]
    have hempty : day.isEmpty = false := by
      rw [List.isEmpty_eq_false_iff, Ne, hday.eq_nil_iff hplain, hbare]
      exact Bool.false_ne_true
    have hsplit : TrailingTime.split r.localization day = .ok (none, day) := by
      unfold TrailingTime.split
      rw [hday.find?_eq_none hplain hseparator hbare]
    simp only [htext, List.append_nil, hempty, hsplit]
    rfl
  | some c =>
    have htext : w.clockText gap inner = gap ++ c.text inner := by rw [clockText, hclock]
    have hempty : (day ++ (gap ++ c.text inner)).isEmpty = false := by
      simp [c.text_ne_nil inner]
    have htight : Text.IsTight day :=
      ⟨hday.not_isBlank_head hplain hseparator, hday.not_isBlank_last hplain hseparator⟩
    rw [htext]
    simp only [hempty, Clock.split_text hplain.markers htight hgap hinner hfirst]
    cases c.value (day ++ (gap ++ c.text inner)) (c.text inner) <;> rfl

/-- Reading a text of a written shortcut gives what the shortcut means, for every rendering. -/
theorem resolve_of_renders {r : Resolver}
    (hl : (r.localization, separator, order) ∈ Localization.layouts)
    {w : Written r.localization} {inner t : Text} (ht : w.Renders separator inner t) :
    r.resolve t = w.meaning r separator order t inner := by
  have hplain := Localization.isPlain_of_mem hl
  have hlayout := Localization.hasLayout_of_mem hl
  have hseparator := Localization.isDateSeparator_of_mem hl
  obtain ⟨hday, hbefore, hgap, hinner, hafter, hfirst⟩ := ht
  rename_i before day gap after
  have hinstant : r.instantOf day = if w.isBare then .ok r.reference else w.day r separator order := by
    rw [instantOf, resolveDate_eq hplain hlayout hseparator hday]
    refine if_congr ?_ rfl rfl
    rw [List.isEmpty_iff, hday.eq_nil_iff hplain]
  rw [resolve_eq, split_of_renders hplain hseparator hday hbefore hgap hinner hafter hfirst, meaning]
  cases w.time (before ++ (day ++ w.clockText gap inner) ++ after) inner with
  | error => rfl
  | ok time =>
    simp only [Except.map, bind, Except.bind, hinstant]
    cases w.isBare with
    | true => rfl
    | false => cases w.day r separator order <;> rfl

end Resolver

/-- Today, a week and two days later, on a workday, at half past five in the afternoon. -/
def Written.sample : Written .english where
  today := some "today"
  date := none
  parts := [⟨some '+', ['1'], ['w'], .week, by rintro c ⟨⟩; rfl, by decide, by decide,
      by decide⟩,
    ⟨none, ['2'], ['d'], .day, by simp, by decide, by decide, by decide⟩]
  workday := true
  clock := some
    { hour := ['5']
      minute := some ['3', '0']
      second := none
      marker := some ['p', 'm']
      hour_digits := ⟨⟨by decide, by decide⟩, by decide⟩
      minute_digits := by
        rintro f ⟨⟩
        exact ⟨⟨by decide, by decide⟩, rfl⟩
      second_digits := by simp
      minute_of_second := by simp
      marker_mem := by decide }
  today_mem := by decide
  starts := by simp
  nonempty := by simp

namespace Resolver

open Written

/-- Nine days after the first of February 2024 comes a Saturday. -/
theorem resolve_of_renders_sample :
    (Localization.english, '/', FieldOrder.monthFirst) ∈ Localization.layouts ∧
      sample.Renders '/' [' '] " today + 1w 2d . 5:30 pm" ∧
      resolve ⟨.english, .ofDate ⟨2024, 2, 1, by decide, by decide, by decide⟩, none⟩
          " today + 1w 2d . 5:30 pm"
        = .ok ((Instant.ofDate ⟨2024, 2, 9, by decide, by decide, by decide⟩).atTime ⟨17, 30, 0⟩) := by
  have hl : (Localization.english, '/', FieldOrder.monthFirst) ∈ Localization.layouts :=
    List.mem_cons_self
  have hparts : RendersParts true sample.parts
      ([' '] ++ '+' :: ([' '] ++ (['1'] ++ (['w'] ++ ([' '] ++ (['2'] ++ (['d'] ++ []))))))) :=
    .signed rfl isGap_space isGap_space (by simp) (.unsigned rfl isGap_space (by simp) .nil)
  have hday : sample.RendersDay '/'
      (sample.anchorText '/' ++ (" + 1w 2d".toList ++ sample.markerText [' '])) :=
    .intro hparts isGap_space (by simp [sample])
  have h : sample.Renders '/' [' ']
      ([' '] ++ ("today + 1w 2d .".toList ++ sample.clockText [' '] [' ']) ++ []) :=
    .intro hday isGap_space isGap_space isGap_space Text.isGap_nil (by simp)
  refine ⟨hl, h, (resolve_of_renders hl h).trans ?_⟩
  set_option maxRecDepth 1000 in
  decide

end Resolver

end DateShorthand
