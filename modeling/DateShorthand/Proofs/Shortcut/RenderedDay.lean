import DateShorthand.Proofs.Shortcut.RenderedParts

/-!
# Rendered days

A text of everything but the time resolves to the day that is meant, and its end is not taken for a
time.
-/

namespace DateShorthand

variable {l : Localization} {separator : Char} {order : FieldOrder}

/-- Neither a blank nor a sign, and in no word, number or time. -/
structure IsDateSeparator (c : Char) : Prop where
  not_isBlank : ¬ Text.isBlank c = true
  not_isDecimal : ¬ Text.isDecimal c = true
  not_isLetter : ¬ Text.isLetter c = true
  not_isSign : ¬ Tokens.isSign c = true
  ne_colon : c ≠ ':'
  lowerChar_eq : Text.lowerChar c = c

theorem Localization.isDateSeparator_of_mem (h : (l, separator, order) ∈ layouts) :
    IsDateSeparator separator := by
  have hcases : separator = '/' ∨ separator = '.' := by
    simp only [layouts, List.mem_cons, Prod.mk.injEq, List.not_mem_nil, or_false] at h
    rcases h with ⟨-, h, -⟩ | ⟨-, h, -⟩ | ⟨-, h, -⟩ | ⟨-, h, -⟩ <;> simp [h]
  rcases hcases with rfl | rfl
  all_goals
    exact ⟨by decide, by decide, by decide, by decide, by decide, by decide⟩

/-! ## Today -/

namespace Resolver

/-- A keyword for today is dropped whole, though others may begin it. -/
theorem dropToday_append (hplain : l.IsPlain) {k rest : Text} (hk : k ∈ l.today)
    (hrest : ∀ c ∈ rest.head?, ¬ Text.isLetter c = true) : dropToday l (k ++ rest) = rest := by
  have hfind : l.todayLongestFirst.find? (·.isPrefixOf (k ++ rest)) = some k := by
    refine Localization.find?_longestFirst_eq_some_iff.mpr
      ⟨hk, List.prefix_append k rest, fun u hu hbegins => ?_⟩
    rcases List.prefix_or_prefix_of_prefix hbegins (List.prefix_append k rest) with hle | ⟨v, rfl⟩
    · exact hle.length_le
    · cases v with
      | nil => simp
      | cons c v =>
        rw [List.prefix_append_right_inj] at hbegins
        obtain ⟨tail, rfl⟩ := hbegins
        have hkeyword : k ++ c :: v ∈ l.keywords .today := hu
        exact absurd (hplain.isLetter hkeyword c (by simp)) (hrest c rfl)
  rw [dropToday, hfind]
  exact List.drop_left

theorem dropToday_of_head? (hplain : l.IsPlain) {t : Text}
    (h : ∀ c ∈ t.head?, ¬ Text.isLetter c = true) : dropToday l t = t := by
  have hfind : l.todayLongestFirst.find? (·.isPrefixOf t) = none := by
    rw [List.find?_eq_none]
    intro u hu hbegins
    have hkeyword : u ∈ l.keywords .today := Localization.mem_longestFirst.mp hu
    obtain ⟨c, v, rfl⟩ := List.exists_cons_of_ne_nil (hplain.ne_nil hkeyword)
    obtain ⟨tail, rfl⟩ := List.isPrefixOf_iff_prefix.mp hbegins
    exact h c rfl (hplain.isLetter hkeyword c List.mem_cons_self)
  rw [dropToday, hfind]

/-! ## The workday marker -/

theorem trimStart_append_marker (t : Text) :
    Text.trimStart (t ++ [workdayMarker]) = Text.trimStart t ++ [workdayMarker] := by
  unfold Text.trimStart
  rw [List.dropWhile_append]
  split
  · rename_i hempty
    rw [List.isEmpty_iff.mp hempty]
    rfl
  · rfl

theorem splitMarker_append (t : Text) :
    splitMarker (t ++ [workdayMarker]) = (Text.trimStart t, true) := by
  have htrim : Text.trim (t ++ [workdayMarker]) = Text.trimStart t ++ [workdayMarker] := by
    rw [Text.trim, trimStart_append_marker, Text.trimEnd, List.reverse_append]
    simp [workdayMarker, Text.isBlank, Text.blankRanges, CodeRanges.covers]
  rw [splitMarker, htrim]
  simp

/-- Neither a blank nor a workday marker stands at the end. -/
def IsUnmarked (t : Text) : Prop := ∀ c ∈ t.getLast?, ¬ Text.isBlank c = true ∧ c ≠ workdayMarker

theorem IsUnmarked.of_suffix {t u : Text} (hu : IsUnmarked u) (h : t <:+ u) : IsUnmarked t :=
  fun c hc => hu c (Text.mem_getLast?_of_suffix h hc)

theorem splitMarker_of_isUnmarked {t : Text} (h : IsUnmarked t) : splitMarker t = (t, false) := by
  have hlast : (Text.trim t).getLast? ≠ some workdayMarker := by
    obtain ⟨gap, gap', -, hgap', -, ht⟩ := Text.exists_trim t
    intro hmarker
    rcases List.eq_nil_or_concat gap' with rfl | ⟨gap', c, rfl⟩
    · rw [List.append_nil] at ht
      refine (h workdayMarker ?_).2 rfl
      rw [ht, List.getLast?_append, hmarker]
      rfl
    · exact (h c (by rw [ht]; simp)).1 (hgap' c (by simp))
  rw [splitMarker]
  simp [hlast]

end Resolver

/-! ## The day -/

namespace Written

/-- What stands behind the anchor leads to the parts, with the blanks at its head or without. -/
theorem exists_splitMarker (hplain : l.IsPlain) (w : Written l) {follows : Bool} {parts gap : Text}
    (hparts : RendersParts follows w.parts parts) (hgap : Text.IsGap gap) {t : Text}
    (ht : t = parts ++ w.markerText gap ∨ t = Text.trimStart (parts ++ w.markerText gap)) :
    ∃ rest, Resolver.splitMarker t = (rest, w.workday) ∧
      Tokens.ofText rest = .ok (w.parts.map WrittenPart.text) := by
  cases hworkday : w.workday with
  | false =>
    have htokens := hparts.ofText hplain Text.isGap_nil
    have hlast : ∀ c, Text.isLetter c = true → ¬ Text.isBlank c = true ∧ c ≠ Resolver.workdayMarker := by
      refine fun c hc => ⟨Text.not_isBlank_of_isLetter hc, ?_⟩
      rintro rfl
      exact absurd hc (by decide)
    rw [markerText, hworkday, if_neg (by simp), List.append_nil] at ht
    rw [List.append_nil] at htokens
    have hunmarked : Resolver.IsUnmarked parts := fun c hc => hlast c (hparts.last hplain c hc)
    refine ⟨t, Resolver.splitMarker_of_isUnmarked ?_, ?_⟩
    · rcases ht with rfl | rfl
      · exact hunmarked
      · exact hunmarked.of_suffix (List.dropWhile_suffix _)
    · rcases ht with rfl | rfl
      · exact htokens
      · rw [Tokens.ofText_trimStart, htokens]
  | true =>
    have htokens := hparts.ofText hplain hgap
    rw [markerText, hworkday, if_pos rfl, ← List.append_assoc] at ht
    rcases ht with rfl | rfl
    · exact ⟨_, Resolver.splitMarker_append _, by rw [Tokens.ofText_trimStart, htokens]⟩
    · rw [Resolver.trimStart_append_marker]
      refine ⟨_, Resolver.splitMarker_append _, ?_⟩
      rw [Tokens.ofText_trimStart, Tokens.ofText_trimStart, htokens]

theorem head_tail (w : Written l) {parts gap : Text} (hparts : RendersParts true w.parts parts)
    (hgap : Text.IsGap gap) : ∀ c ∈ (parts ++ w.markerText gap).head?,
      Text.isBlank c = true ∨ Tokens.isSign c = true ∨
        c = Resolver.workdayMarker ∧ parts ++ w.markerText gap = [c] := by
  intro c hc
  rcases Text.mem_head?_append hc with hc | ⟨hnil, hc⟩
  · exact (hparts.head c hc).imp_right Or.inl
  · rw [hnil, List.nil_append]
    unfold markerText at hc ⊢
    split at hc
    · rename_i hworkday
      cases gap with
      | nil =>
        rw [List.nil_append, List.head?_cons, Option.mem_some_iff] at hc
        exact Or.inr (Or.inr ⟨hc.symm, by rw [if_pos hworkday, hc]; rfl⟩)
      | cons d gap =>
        rw [List.cons_append, List.head?_cons, Option.mem_some_iff] at hc
        exact Or.inl (hc ▸ hgap d List.mem_cons_self)
    · simp at hc

/-- Without an anchor a text begins with a sign, with digits before a letter, or with the marker. -/
theorem head_of_not_isAnchored (hplain : l.IsPlain) (w : Written l) {parts gap : Text}
    (hanchor : w.isAnchored = false) (hparts : RendersParts false w.parts parts)
    (hfirst : w.parts = [] → gap = []) :
    (∀ c ∈ (parts ++ w.markerText gap).head?, Tokens.isSign c = true ∨ c = Resolver.workdayMarker) ∨
      ∃ digits c rest, digits ≠ [] ∧ (∀ d ∈ digits, Text.isDecimal d = true) ∧
        Text.isLetter c = true ∧ parts ++ w.markerText gap = digits ++ c :: rest := by
  obtain ⟨htoday, hdate⟩ : w.today = none ∧ w.date = none := by
    simpa [isAnchored] using hanchor
  have hstarts := w.starts htoday hdate
  cases hw : w.parts with
  | nil =>
    rw [hw] at hparts
    cases hparts
    left
    intro c hc
    rw [List.nil_append, markerText, hfirst hw, List.nil_append] at hc
    split at hc
    · exact Or.inr (Option.some.inj hc).symm
    · simp at hc
  | cons p rest =>
    rw [hw] at hparts hstarts
    generalize w.markerText gap = tail
    cases hparts with
    | @signed _ _ _ gap₁ inner t c hsign _ _ hempty _ =>
      left
      intro d hd
      rw [hempty rfl, List.nil_append, List.cons_append, List.head?_cons, Option.mem_some_iff] at hd
      exact Or.inl (hd ▸ p.isSign c hsign)
    | @unsigned _ _ _ gap₁ t hsign _ hempty _ =>
      right
      have hdigits : p.digits ≠ [] := by simpa [hsign] using hstarts p rfl
      obtain ⟨c, k, hk⟩ := List.exists_cons_of_ne_nil (hplain.ne_nil p.keyword_mem)
      have hc : c ∈ p.keyword := hk ▸ List.mem_cons_self
      refine ⟨p.digits, c, k ++ (t ++ tail), hdigits, p.isDecimal, hplain.isLetter p.keyword_mem c hc, ?_⟩
      simp [hempty.mp rfl, hk]

theorem not_isLetter_workdayMarker : ¬ Text.isLetter Resolver.workdayMarker = true := by
  decide

theorem not_of_isSign_or_eq {c : Char} (h : Tokens.isSign c = true ∨ c = Resolver.workdayMarker) :
    ¬ Text.isLetter c = true ∧ ¬ Text.isDecimal c = true := by
  rcases h with h | rfl
  · exact ⟨Tokens.not_isLetter_of_isSign h, fun hdecimal => Part.not_isSign_of_isDecimal hdecimal h⟩
  · exact ⟨not_isLetter_workdayMarker, by decide⟩

theorem not_of_head_tail (w : Written l) {parts gap : Text} (hparts : RendersParts true w.parts parts)
    (hgap : Text.IsGap gap) : ∀ c ∈ (parts ++ w.markerText gap).head?,
      ¬ Text.isLetter c = true ∧ ¬ Text.isDecimal c = true := by
  intro c hc
  rcases w.head_tail hparts hgap c hc with h | h | ⟨h, -⟩
  · exact ⟨fun hletter => Text.not_isBlank_of_isLetter hletter h,
      fun hdecimal => Text.not_isBlank_of_isDecimal hdecimal h⟩
  · exact not_of_isSign_or_eq (Or.inl h)
  · exact not_of_isSign_or_eq (Or.inr h)

theorem split_of_date_none (hplain : l.IsPlain) (hlayout : l.HasLayout separator order)
    (hseparator : IsDateSeparator separator) (w : Written l) (defaultYear : Nat)
    {parts gap : Text} (hdate : w.date = none) (hparts : RendersParts w.isAnchored w.parts parts)
    (hgap : Text.IsGap gap) (hfirst : w.isAnchored = false → w.parts = [] → gap = []) :
    AbsoluteDate.split l defaultYear (Resolver.dropToday l
      (w.anchorText separator ++ (parts ++ w.markerText gap)))
        = .ok (none, parts ++ w.markerText gap) := by
  cases htoday : w.today with
  | some k =>
    have hanchor : w.isAnchored = true := by simp [isAnchored, htoday]
    rw [hanchor] at hparts
    have hhead := w.not_of_head_tail hparts hgap
    have htext : w.anchorText separator = k := by simp [anchorText, htoday, hdate]
    rw [htext, Resolver.dropToday_append hplain (w.today_mem k htoday) fun c hc => (hhead c hc).1]
    exact AbsoluteDate.split_of_head? hlayout defaultYear fun c hc => (hhead c hc).2
  | none =>
    have hanchor : w.isAnchored = false := by simp [isAnchored, htoday, hdate]
    rw [hanchor] at hparts
    have htext : w.anchorText separator = [] := by simp [anchorText, htoday, hdate]
    rw [htext, List.nil_append]
    rcases w.head_of_not_isAnchored hplain hanchor hparts (hfirst hanchor) with
      hhead | ⟨digits, c, rest, hne, hdigits, hc, heq⟩
    · rw [Resolver.dropToday_of_head? hplain fun c hc => (not_of_isSign_or_eq (hhead c hc)).1]
      exact AbsoluteDate.split_of_head? hlayout defaultYear
        fun c hc => (not_of_isSign_or_eq (hhead c hc)).2
    · have hne' : c ≠ separator := by
        rintro rfl
        exact hseparator.not_isLetter hc
      rw [heq, Resolver.dropToday_of_head? hplain]
      · exact AbsoluteDate.split_of_digits hlayout defaultYear hdigits
          (Text.not_isDecimal_of_isLetter hc) hne'
      · intro d hd hletter
        rw [List.head?_append_of_ne_nil _ hne] at hd
        exact Text.not_isDecimal_of_isLetter hletter (hdigits d (List.mem_of_head? hd))

theorem split_of_date_some (hplain : l.IsPlain) (hlayout : l.HasLayout separator order)
    (hseparator : IsDateSeparator separator) (w : Written l) (defaultYear : Nat)
    {parts gap : Text} {d : WrittenDate} (hdate : w.date = some d)
    (hparts : RendersParts w.isAnchored w.parts parts) (hgap : Text.IsGap gap) :
    AbsoluteDate.split l defaultYear (Resolver.dropToday l
      (w.anchorText separator ++ (parts ++ w.markerText gap)))
        = (CalendarFault.guard (d.text separator) (d.date order defaultYear)).map fun date =>
            (some date, Text.trimStart (parts ++ w.markerText gap)) := by
  have hanchor : w.isAnchored = true := by simp [isAnchored, hdate]
  rw [hanchor] at hparts
  have hletter : ∀ c ∈ (d.text separator ++ (parts ++ w.markerText gap)).head?,
      ¬ Text.isLetter c = true := by
    obtain ⟨e, he, hdecimal⟩ := d.exists_head separator
    intro c hc hletter
    rw [List.head?_append, he, Option.some_or, Option.mem_some_iff] at hc
    exact Text.not_isDecimal_of_isLetter hletter (hc ▸ hdecimal)
  have hdrop : Resolver.dropToday l (w.anchorText separator ++ (parts ++ w.markerText gap))
      = d.text separator ++ (parts ++ w.markerText gap) := by
    cases htoday : w.today with
    | none =>
      have htext : w.anchorText separator = d.text separator := by simp [anchorText, htoday, hdate]
      rw [htext, Resolver.dropToday_of_head? hplain hletter]
    | some k =>
      have htext : w.anchorText separator = k ++ d.text separator := by
        simp [anchorText, htoday, hdate]
      rw [htext, List.append_assoc, Resolver.dropToday_append hplain (w.today_mem k htoday) hletter]
  rw [hdrop]
  refine AbsoluteDate.split_text hlayout defaultYear
    (fun c hc => (w.not_of_head_tail hparts hgap c hc).2) fun _ u hu => ?_
  -- only a marker at the end can look like a second separator
  rcases w.head_tail hparts hgap separator (by rw [hu]; rfl) with h | h | ⟨-, h⟩
  · exact absurd h hseparator.not_isBlank
  · exact absurd h hseparator.not_isSign
  · obtain rfl : u = [] := (List.cons.inj (hu.symm.trans h)).2
    exact Nat.zero_lt_two

theorem resolveDate_eq {r : Resolver} (hplain : r.localization.IsPlain)
    (hlayout : r.localization.HasLayout separator order)
    (hseparator : IsDateSeparator separator) {w : Written r.localization} {t : Text}
    (ht : w.RendersDay separator t) : r.resolveDate t = w.day r separator order := by
  obtain ⟨hparts, hgap, hfirst⟩ := ht
  have happly : ∀ rest, Tokens.ofText rest = .ok (w.parts.map WrittenPart.text) → ∀ i,
      Part.applyAll r.localization i rest = w.parts.foldlM (fun i p => p.apply i) i := by
    intro rest hrest i
    rw [Part.applyAll, hrest]
    exact WrittenPart.applyTokens_text hplain w.parts i
  unfold Resolver.resolveDate Resolver.base day start
  cases hdate : w.date with
  | none =>
    obtain ⟨rest, hmarker, htokens⟩ := w.exists_splitMarker hplain hparts hgap (Or.inl rfl)
    rw [w.split_of_date_none hplain hlayout hseparator _ hdate hparts hgap hfirst]
    simp only [bind, Except.bind, hmarker, happly rest htokens]
    rfl
  | some d =>
    obtain ⟨rest, hmarker, htokens⟩ := w.exists_splitMarker hplain hparts hgap (Or.inr rfl)
    rw [w.split_of_date_some hplain hlayout hseparator _ hdate hparts hgap]
    dsimp only
    cases CalendarFault.guard (d.text separator) (d.date order r.reference.date.year) with
    | error => rfl
    | ok date =>
      simp only [bind, Except.bind, Except.map, hmarker, happly rest htokens]
      rfl

/-! ## The ends of the day -/

variable {w : Written l} {t : Text}

theorem anchorText_eq_nil_iff (hplain : l.IsPlain) (w : Written l) :
    w.anchorText separator = [] ↔ w.isAnchored = false := by
  unfold anchorText isAnchored
  cases htoday : w.today with
  | some k =>
    have hkeyword : k ∈ l.keywords .today := w.today_mem k htoday
    simp [hplain.ne_nil hkeyword]
  | none => cases w.date <;> simp [WrittenDate.text]

theorem mem_anchorText (hplain : l.IsPlain) (w : Written l) {c : Char}
    (hc : c ∈ w.anchorText separator) :
    Text.isLetter c = true ∧ Text.lowerChar c = c ∨ Text.isDecimal c = true ∨ c = separator := by
  rcases List.mem_append.mp hc with hc | hc
  · cases htoday : w.today with
    | none => simp [htoday] at hc
    | some k =>
      rw [htoday, Option.getD_some] at hc
      have hk : k ∈ l.keywords .today := w.today_mem k htoday
      exact Or.inl ⟨hplain.isLetter hk c hc, hplain.isLower hk c hc⟩
  · cases hdate : w.date with
    | none => simp [hdate] at hc
    | some d =>
      rw [hdate, Option.map_some, Option.getD_some] at hc
      exact Or.inr (d.mem_text hc)

theorem isSolid_anchorText (hplain : l.IsPlain) (hseparator : IsDateSeparator separator)
    (w : Written l) : Text.IsSolid (w.anchorText separator) := by
  intro c hc
  rcases w.mem_anchorText hplain hc with ⟨h, -⟩ | h | rfl
  · exact Text.not_isBlank_of_isLetter h
  · exact Text.not_isBlank_of_isDecimal h
  · exact hseparator.not_isBlank

/-- The day ends in the workday marker, in a keyword or in a date. -/
theorem RendersDay.ending (hplain : l.IsPlain) (ht : w.RendersDay separator t) : t = [] ∧ w.isBare = true ∨
    w.isBare = false ∧ ((∃ u, t = u ++ [Resolver.workdayMarker]) ∨ l.EndsInKeyword t ∨
      t = w.anchorText separator ∧ w.date.isSome = true) := by
  obtain ⟨hparts, hgap, -⟩ := ht
  rename_i parts gap
  cases hworkday : w.workday with
  | true =>
    refine Or.inr ⟨by simp [isBare, hworkday], Or.inl ⟨w.anchorText separator ++ (parts ++ gap), ?_⟩⟩
    simp [markerText, hworkday]
  | false =>
    have hmarker : w.markerText gap = [] := by simp [markerText, hworkday]
    rw [hmarker, List.append_nil]
    by_cases hempty : w.parts = []
    · rw [hempty] at hparts
      cases hparts
      rw [List.append_nil]
      cases hdate : w.date with
      | some d => exact Or.inr ⟨by simp [isBare, isAnchored, hdate], Or.inr (Or.inr ⟨rfl, rfl⟩)⟩
      | none =>
        cases htoday : w.today with
        | none => exact Or.inl ⟨by simp [anchorText, htoday, hdate], by simp [isBare, isAnchored, *]⟩
        | some k =>
          refine Or.inr ⟨by simp [isBare, isAnchored, htoday], Or.inr (Or.inl ?_)⟩
          exact ⟨[], k, .today, by simp [anchorText, htoday, hdate], w.today_mem k htoday, by simp⟩
    · refine Or.inr ⟨by simp [isBare, hempty], Or.inr (Or.inl ?_)⟩
      exact hparts.endsInKeyword hempty (w.anchorText_eq_nil_iff hplain).mpr

theorem RendersDay.not_isBlank_head (hplain : l.IsPlain)
    (hseparator : IsDateSeparator separator) (ht : w.RendersDay separator t) :
    ∀ c ∈ t.head?, ¬ Text.isBlank c = true := by
  obtain ⟨hparts, hgap, hfirst⟩ := ht
  rename_i parts gap
  intro c hc
  cases hanchor : w.isAnchored with
  | true =>
    have hne : w.anchorText separator ≠ [] := by simp [w.anchorText_eq_nil_iff hplain, hanchor]
    rw [List.head?_append_of_ne_nil _ hne] at hc
    exact w.isSolid_anchorText hplain hseparator c (List.mem_of_head? hc)
  | false =>
    rw [hanchor] at hparts
    rw [(w.anchorText_eq_nil_iff hplain).mpr hanchor, List.nil_append] at hc
    rcases w.head_of_not_isAnchored hplain hanchor hparts (hfirst hanchor) with
      hhead | ⟨digits, d, rest, hne, hdigits, -, heq⟩
    · rcases hhead c hc with h | rfl
      · exact fun hblank => Tokens.not_isSign_of_isBlank hblank h
      · decide
    · rw [heq, List.head?_append_of_ne_nil _ hne] at hc
      exact Text.not_isBlank_of_isDecimal (hdigits c (List.mem_of_head? hc))

theorem RendersDay.isLower (hplain : l.IsPlain) (hseparator : IsDateSeparator separator)
    (ht : w.RendersDay separator t) : Text.IsLower t := by
  obtain ⟨hparts, hgap, -⟩ := ht
  have hanchor : Text.IsLower (w.anchorText separator) := by
    intro c hc
    rcases w.mem_anchorText hplain hc with ⟨-, h⟩ | h | rfl
    · exact h
    · exact Text.lowerChar_of_isDecimal h
    · exact hseparator.lowerChar_eq
  refine hanchor.append ((hparts.isLower hplain).append ?_)
  unfold markerText
  split
  · exact (Text.isLower_of_isBlank hgap).append (by decide)
  · simp [Text.IsLower]

theorem RendersDay.not_isBlank_last (hplain : l.IsPlain)
    (hseparator : IsDateSeparator separator) (ht : w.RendersDay separator t) :
    ∀ c ∈ t.getLast?, ¬ Text.isBlank c = true := by
  intro c hc
  rcases ht.ending hplain with ⟨rfl, -⟩ | ⟨-, ⟨u, rfl⟩ | hkeyword | ⟨rfl, -⟩⟩
  · simp at hc
  · rw [List.getLast?_concat, Option.mem_some_iff] at hc
    exact hc ▸ by decide
  · obtain ⟨d, hd, hletter⟩ := hkeyword.exists_letter hplain
    exact Text.not_isBlank_of_isLetter (Option.mem_unique hc hd ▸ hletter)
  · exact w.isSolid_anchorText hplain hseparator c (List.mem_of_getLast? hc)

theorem RendersDay.find?_eq_none (hplain : l.IsPlain) (hseparator : IsDateSeparator separator)
    (ht : w.RendersDay separator t) (hbare : w.isBare = false) : TrailingTime.find? l t = none := by
  have hlower := ht.isLower hplain hseparator
  rcases ht.ending hplain with ⟨-, hbare'⟩ | ⟨-, ⟨u, rfl⟩ | hkeyword | ⟨rfl, hdate⟩⟩
  · simp [hbare] at hbare'
  · exact (TrailingTime.isForeign_of_symbol hplain.markers (by decide)).find?_eq_none
      (List.getLast?_concat ..)
  · exact hkeyword.find?_eq_none hplain hlower
  · obtain ⟨d, hd⟩ := Option.isSome_iff_exists.mp hdate
    obtain ⟨c, hc, hdecimal⟩ := d.exists_last separator
    refine TrailingTime.find?_eq_none_of_isSolid hplain.markers hlower
      (w.isSolid_anchorText hplain hseparator) (c := c) (d := separator) ?_ hdecimal ?_
      hseparator.not_isDecimal hseparator.ne_colon
    · rw [anchorText, hd, Option.map_some, Option.getD_some, List.getLast?_append, hc]
      rfl
    · simp [anchorText, hd, WrittenDate.text]

theorem RendersDay.eq_nil_iff (hplain : l.IsPlain) (ht : w.RendersDay separator t) :
    t = [] ↔ w.isBare = true := by
  rcases ht.ending hplain with ⟨hnil, hbare⟩ | ⟨hbare, hending⟩
  · simp [hnil, hbare]
  · simp only [hbare, Bool.false_eq_true, iff_false]
    rintro rfl
    rcases hending with ⟨u, hu⟩ | hkeyword | ⟨hanchor, hdate⟩
    · simp at hu
    · obtain ⟨c, hc, -⟩ := hkeyword.exists_letter hplain
      simp at hc
    · have := (w.anchorText_eq_nil_iff hplain).mp hanchor.symm
      simp [isAnchored, hdate] at this

end Written

end DateShorthand
