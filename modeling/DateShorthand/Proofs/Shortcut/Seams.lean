import DateShorthand.Proofs.Regex.Context
import DateShorthand.Proofs.Shortcut.RenderedDay
import DateShorthand.Proofs.Text.Lowering
import Mathlib.Data.List.Find

/-!
# Seams

A date text with more text behind it: the keyword for today and the date are found in it as they are
without, and its tokens come before those of the rest.
-/

namespace DateShorthand

variable {l : Localization} {separator : Char} {order : FieldOrder}

/-! ## Where texts may be joined -/

/-- No keyword reads on into `u`, and no date does. -/
structure IsSeam (separator : Char) (u : Text) : Prop where
  not_isLetter : ∀ c ∈ u.head?, ¬ Text.isLetter c = true
  not_isDecimal : ∀ c ∈ u.head?, ¬ Text.isDecimal c = true
  after_separator : ∀ v, u = separator :: v → ∀ c ∈ v.head?, ¬ Text.isDecimal c = true

theorem isSeam_of_isBlank (hseparator : ¬ Text.isBlank separator = true) {c : Char} (u : Text)
    (hc : Text.isBlank c = true) : IsSeam separator (c :: u) where
  not_isLetter := by
    rintro d ⟨⟩ hletter
    exact Text.not_isBlank_of_isLetter hletter hc
  not_isDecimal := by
    rintro d ⟨⟩ hdecimal
    exact Text.not_isBlank_of_isDecimal hdecimal hc
  after_separator := by
    rintro v heq
    exact absurd ((List.cons.inj heq).1 ▸ hc) hseparator

theorem isSeam_marker (separator : Char) : IsSeam separator [Resolver.workdayMarker] where
  not_isLetter := by
    rintro d ⟨⟩
    exact Written.not_isLetter_workdayMarker
  not_isDecimal := by
    rintro d ⟨⟩
    decide
  after_separator := by
    rintro v heq
    simp [← (List.cons.inj heq).2]

/-! ## Dates -/

namespace Regex

variable {caseless : Bool} {u : Text}

theorem ignores_decimals {index lo hi : Nat} (hu : ∀ c ∈ u.head?, ¬ Text.isDecimal c = true) :
    Ignores u caseless (.group index (.ofList [decimals lo hi])) :=
  .group index (.seq (.rep_ofClass hu) .empty)

theorem outcomes_decimals_eq_nil {index lo hi : Nat} {s : State} (hlo : 0 < lo) (hle : lo ≤ hi)
    (h : ∀ c ∈ s.cursor.ahead.head?, ¬ Text.isDecimal c = true) :
    outcomes caseless (.group index (.ofList [decimals lo hi])) s = [] := by
  rw [outcomes_group_ofList, List.eq_nil_iff_forall_not_mem]
  intro t ht
  obtain ⟨digits, rest, hdigits, hlength, -, hahead, -⟩ := mem_outcomes_decimals hle ht
  obtain ⟨c, digits, rfl⟩ := List.exists_cons_of_length_pos (Nat.lt_of_lt_of_le hlo hlength)
  exact h c (by rw [hahead]; rfl) (hdigits c List.mem_cons_self)

theorem ignores_separated (hu : IsSeam separator u) :
    Ignores u false (DatePattern.separated separator) := by
  have hseparator : ∀ {index lo hi : Nat} {rest : Regex}, 0 < lo → lo ≤ hi → ∀ c v, u = c :: v →
      charHolds false separator c = true → ∀ s : State, s.cursor.ahead = v →
        outcomes false (.seq (.group index (.ofList [decimals lo hi])) rest) s = [] := by
    rintro index lo hi rest hlo hle c v rfl hc s rfl
    obtain rfl : separator = c := by simpa [charHolds] using hc
    rw [outcomes, outcomes_decimals_eq_nil hlo hle (hu.after_separator _ rfl), List.flatMap_nil]
  have hdecimals : ∀ index lo hi, Ignores u false (.group index (.ofList [decimals lo hi])) :=
    fun _ _ _ => ignores_decimals hu.not_isDecimal
  refine .seq .start (.seq (hdecimals 1 1 2) (.char_seq (.seq (hdecimals 2 1 2) (.seq ?_ .empty))
    (hseparator (by decide) (by decide))))
  exact .optional (.char_seq (.seq (hdecimals 3 2 4) .empty) (hseparator (by decide) (by decide)))

end Regex

namespace AbsoluteDate

theorem find?_append (hlayout : l.HasLayout separator order) {u : Text} (hu : IsSeam separator u)
    (t : Text) : find? l (t ++ u) = (find? l t).map fun (p, m) => (p, { m with after := m.after ++ u }) := by
  obtain ⟨p, hpatterns, hregex, -⟩ := hlayout.datePatterns
  have happend := Regex.matchStart?_append (Regex.ignores_separated hu) t
  simp only [find?, hpatterns, Regex.findSome?_singleton, hregex]
  refine (congrArg (Option.map (p, ·)) happend).trans ?_
  rw [Option.map_map, Option.map_map]
  rfl

/-- What is left behind a date is the end of the text. -/
theorem suffix_of_split (hlayout : l.HasLayout separator order) {defaultYear : Nat} {t rest : Text}
    {date : Option Date} (h : split l defaultYear t = .ok (date, rest)) : rest <:+ t := by
  unfold split at h
  rcases find?_cases hlayout t with hnone | ⟨p, d, after, -, ht, hsome⟩
  · rw [hnone, Except.ok.injEq, Prod.mk.injEq] at h
    exact h.2 ▸ List.suffix_refl t
  · rw [hsome] at h
    obtain ⟨date, -, heq⟩ := map_eq_ok_iff.mp h
    rw [← (Prod.mk.inj heq).2, ht]
    exact (List.dropWhile_suffix _).trans (List.suffix_append _ _)

end AbsoluteDate

/-! ## Parts -/

namespace Tokens

theorem glue_append {words tokens : List Text} (h : glue words = .ok tokens) (more : List Text) :
    glue (words ++ more) = (glue more).map (tokens ++ ·) := by
  fun_induction glue words generalizing tokens with
  | case1 =>
    rw [Except.ok.injEq] at h
    subst h
    cases hmore : glue more <;> simp [hmore, Except.map]
  | case2 => simp at h
  | case3 word hword =>
    rw [Except.ok.injEq] at h
    subst h
    exact glue_cons (by simpa using hword)
  | case4 word next rest hword ih =>
    obtain ⟨tokens, htokens, rfl⟩ := map_eq_ok_iff.mp h
    rw [List.cons_append, List.cons_append, glue, if_pos hword, ih htokens]
    cases glue more <;> rfl
  | case5 word next rest hword ih =>
    obtain ⟨tokens, htokens, rfl⟩ := map_eq_ok_iff.mp h
    rw [List.cons_append, List.cons_append, glue, if_neg hword, ← List.cons_append, ih htokens]
    cases glue more <;> rfl

theorem ofText_append {t : Text} {tokens : List Text} (h : ofText t = .ok tokens) {c : Char}
    (hc : Text.isBlank c = true) (u : Text) :
    ofText (t ++ c :: u) = (ofText u).map (tokens ++ ·) := by
  have hcons : spaced (c :: u) = c :: spaced u := by simp [spaced, not_isSign_of_isBlank hc]
  rw [ofText, spaced_append, hcons, Text.words_append_blank hc, glue_append h]
  rfl

end Tokens

namespace Part

theorem applyTokens_append {i j : Instant} {tokens : List Text} (h : applyTokens l i tokens = .ok j)
    (more : List Text) : applyTokens l i (tokens ++ more) = applyTokens l j more := by
  induction tokens generalizing i with
  | nil =>
    rw [applyTokens, Except.ok.injEq] at h
    rw [h, List.nil_append]
  | cons token rest ih =>
    obtain ⟨moved, p, unit, hstep, hrest⟩ := applyTokens_cons_eq_ok_iff.mp h
    rw [List.cons_append, applyTokens, hstep]
    exact ih hrest

/-- Behind a blank the parts go on from where the earlier ones lead. -/
theorem applyAll_append {i j : Instant} {t : Text} (h : applyAll l i t = .ok j) {c : Char}
    (hc : Text.isBlank c = true) (u : Text) : applyAll l i (t ++ c :: u) = applyAll l j u := by
  obtain ⟨tokens, htokens, h⟩ := bind_eq_ok_iff.mp h
  rw [mapError_eq_ok_iff] at htokens
  rw [applyAll, applyAll, Tokens.ofText_append htokens hc]
  cases Tokens.ofText u with
  | error => rfl
  | ok more => exact applyTokens_append h more

theorem applyAll_trimStart (i : Instant) (t : Text) :
    applyAll l i (Text.trimStart t) = applyAll l i t := by
  rw [applyAll, applyAll, Tokens.ofText_trimStart]

end Part

/-! ## Behind the date -/

namespace Resolver

theorem splitMarker_trimStart (t : Text) :
    splitMarker (Text.trimStart t) = splitMarker t ∨
      splitMarker (Text.trimStart t) = (Text.trimStart t, false) ∧ splitMarker t = (t, false) := by
  have htrim : Text.trim (Text.trimStart t) = Text.trim t := by
    exact congrArg Text.trimEnd (Text.dropWhile_of_head? Text.head?_dropWhile)
  unfold splitMarker
  rw [htrim]
  dsimp only
  split
  · exact Or.inl rfl
  · exact Or.inr ⟨rfl, rfl⟩

theorem finish_trimStart (start : Instant) (t : Text) :
    finish l start (Text.trimStart t) = finish l start t := by
  unfold finish
  rcases splitMarker_trimStart t with h | ⟨h, h'⟩
  · rw [h]
  · rw [h, h', Part.applyAll_trimStart]

/-- What stands before a text does not settle whether it asks for a workday. -/
theorem exists_finish_append {u : Text} (hne : u ≠ []) (hlast : ∀ c ∈ u.getLast?, ¬ Text.isBlank c = true) :
    ∃ body marked, body <+: u ∧ ∀ l start front, finish l start (front ++ u) = (do
      let moved ← Part.applyAll l start (front ++ body)
      toWorkday moved marked) := by
  obtain ⟨v, c, rfl⟩ := (List.eq_nil_or_concat u).resolve_left hne
  rw [List.concat_eq_append] at hlast ⊢
  by_cases hmarker : c = workdayMarker
  · refine ⟨v, true, List.prefix_append _ _, fun l start front => ?_⟩
    rw [hmarker, ← List.append_assoc, finish, splitMarker_append, Part.applyAll_trimStart]
  · refine ⟨v ++ [c], false, List.prefix_refl _, fun l start front => ?_⟩
    have hunmarked : IsUnmarked (front ++ (v ++ [c])) := by
      intro d hd
      rw [← List.append_assoc, List.getLast?_concat, Option.mem_some_iff] at hd
      exact hd ▸ ⟨hlast c (List.getLast?_concat ..), hmarker⟩
    rw [finish, splitMarker_of_isUnmarked hunmarked]

/-- Lower-casing brings no workday marker to the end. -/
theorem isUnmarked_normalize {s : Text} (hs : Text.trim s = s)
    (hlast : s.getLast? ≠ some workdayMarker) : IsUnmarked (Text.normalize s) := by
  refine fun c hc => ⟨(Text.isTight_normalize s).last c hc, ?_⟩
  rintro rfl
  rw [Text.normalize_of_trim_eq hs] at hc
  have hfree : Text.caseFree [(0x2e, 0x2e)] = true := by decide
  exact Text.getLast?_lower_ne hfree (by decide) (by decide) hlast hc

theorem dropToday_suffix (l : Localization) (t : Text) : dropToday l t <:+ t := by
  unfold dropToday
  split
  · exact List.drop_suffix _ t
  · exact List.suffix_refl t

theorem dropToday_append_right (hplain : l.IsPlain) {u : Text}
    (hu : ∀ c ∈ u.head?, ¬ Text.isLetter c = true) (t : Text) :
    dropToday l (t ++ u) = dropToday l t ++ u := by
  have hprefix : ∀ k ∈ l.todayLongestFirst, k <+: t ++ u ↔ k <+: t := by
    refine fun k hk => ⟨fun h => ?_, fun h => h.trans (List.prefix_append t u)⟩
    have hkeyword : k ∈ l.keywords .today := Localization.mem_longestFirst.mp hk
    rcases List.prefix_or_prefix_of_prefix h (List.prefix_append t u) with h' | ⟨v, rfl⟩
    · exact h'
    · cases v with
      | nil => simp
      | cons c v =>
        obtain ⟨rest, rfl⟩ := (List.prefix_append_right_inj t).mp h
        exact absurd (hplain.isLetter hkeyword c (by simp)) (hu c rfl)
  have hfind : l.todayLongestFirst.find? (·.isPrefixOf (t ++ u))
      = l.todayLongestFirst.find? (·.isPrefixOf t) :=
    List.find?_congr fun k hk => by
      rw [Bool.eq_iff_iff, List.isPrefixOf_iff_prefix, List.isPrefixOf_iff_prefix, hprefix k hk]
  rw [dropToday, dropToday, hfind]
  split
  · rename_i k hk
    have hk := List.find?_some hk
    exact List.drop_append_of_le_length (List.isPrefixOf_iff_prefix.mp hk).length_le
  · rfl

/-- A text that goes on is read as far as before, and what follows it comes behind the date. -/
theorem resolveDate_append {r : Resolver} (hplain : r.localization.IsPlain)
    (hlayout : r.localization.HasLayout separator order) {u : Text} (hu : IsSeam separator u)
    (t : Text) : r.resolveDate (t ++ u) = (do
      let (date, rest) ←
        AbsoluteDate.split r.localization r.reference.date.year (dropToday r.localization t)
      finish r.localization (r.startOf date) (rest ++ u)) := by
  rw [resolveDate_eq_finish, dropToday_append_right hplain hu.not_isLetter, AbsoluteDate.split,
    AbsoluteDate.split, AbsoluteDate.find?_append hlayout hu]
  cases AbsoluteDate.find? r.localization (dropToday r.localization t) with
  | none => rfl
  | some found =>
    obtain ⟨p, m⟩ := found
    have hread : AbsoluteDate.read r.reference.date.year p { m with after := m.after ++ u }
        = AbsoluteDate.read r.reference.date.year p m := rfl
    simp only [Option.map_some, hread]
    cases AbsoluteDate.read r.reference.date.year p m with
    | error => rfl
    | ok date =>
      change finish _ _ (Text.trimStart (m.after ++ u)) = finish _ _ (Text.trimStart m.after ++ u)
      rw [← Text.trimStart_trimStart_append, finish_trimStart]

end Resolver

end DateShorthand
