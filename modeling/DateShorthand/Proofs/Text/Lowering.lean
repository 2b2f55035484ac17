import DateShorthand.Proofs.Text.Classes
import DateShorthand.Proofs.Text.Words

/-!
# Lower case in pieces

Only a sigma looks beyond itself, and no further than the nearest character that is not skipped. So
what stands on either side of a blank is put in lower case by itself.
-/

namespace DateShorthand.Text

/-! ## What a sigma sees -/

theorem meetsCased_append {t u : Text} (hu : meetsCased u = false) :
    meetsCased (t ++ u) = meetsCased t := by
  induction t with
  | nil => exact hu
  | cons c t ih =>
    by_cases hc : isCaseIgnorable c = true
    · simpa [meetsCased, hc] using ih
    · simp [meetsCased, hc]

set_option maxRecDepth 5000 in
/-- A blank has no case, and a search for the end of a word does not skip it. -/
theorem blanks_apart_cased : CodeRanges.apart blankRanges casedRanges = true ∧
    CodeRanges.apart blankRanges caseIgnorableRanges = true := by decide

theorem meetsCased_cons_of_isBlank {c : Char} (h : isBlank c = true) (t : Text) :
    meetsCased (c :: t) = false := by
  have hcased : ¬ isCased c = true := fun hc =>
    CodeRanges.not_holds_of_apart blanks_apart_cased.1 (CodeRanges.holds_of_covers h)
      (CodeRanges.holds_of_covers hc)
  have hignorable : ¬ isCaseIgnorable c = true := fun hc =>
    CodeRanges.not_holds_of_apart blanks_apart_cased.2 (CodeRanges.holds_of_covers h)
      (CodeRanges.holds_of_covers hc)
  simpa [meetsCased, hignorable] using hcased

/-! ## Two pieces -/

theorem lowerFrom_append {u : Text} (hu : meetsCased u = false) (before t : Text) :
    lowerFrom before (t ++ u) = lowerFrom before t ++ lowerFrom (t.reverse ++ before) u := by
  induction t generalizing before with
  | nil => rfl
  | cons c t ih =>
    rw [List.cons_append, lowerFrom_cons, lowerFrom_cons, ih, endsWord, endsWord, meetsCased_append hu,
      List.reverse_cons, List.append_assoc, List.append_assoc, List.singleton_append]

theorem lowerFrom_append_before {far : Text} (hfar : meetsCased far = false) (near t : Text) :
    lowerFrom (near ++ far) t = lowerFrom near t := by
  induction t generalizing near with
  | nil => rfl
  | cons c t ih =>
    rw [lowerFrom_cons, lowerFrom_cons, endsWord, endsWord, meetsCased_append hfar, ← List.cons_append, ih]

theorem lower_append_blank {t u : Text} {c : Char} (hc : isBlank c = true) :
    lower (t ++ c :: u) = lower t ++ c :: lower u := by
  have hbefore := meetsCased_cons_of_isBlank hc (t.reverse ++ [])
  rw [lower, lowerFrom_append (meetsCased_cons_of_isBlank hc u),
    lowerFrom_cons_of_lowerChar (lowerChar_of_isBlank hc)]
  exact congrArg (lower t ++ c :: ·) (lowerFrom_append_before hbefore [] u)

/-- What has no case and shows no case to a sigma before it stays as it is. -/
theorem lower_append_of_isLower {t u : Text} (hu : meetsCased u = false) (hlower : IsLower u) :
    lower (t ++ u) = lower t ++ u := by
  rw [lower, lowerFrom_append hu, lowerFrom_of_isLower hlower]
  rfl

theorem lowerFrom_append_of_isLower {t : Text} (ht : IsLower t) (before u : Text) :
    lowerFrom before (t ++ u) = t ++ lowerFrom (t.reverse ++ before) u := by
  induction t generalizing before with
  | nil => rfl
  | cons c t ih =>
    obtain ⟨hc, ht⟩ := List.forall_mem_cons.mp ht
    rw [List.cons_append, lowerFrom_cons_of_lowerChar hc, ih ht, List.reverse_cons, List.append_assoc,
      List.singleton_append, List.cons_append]

/-! ## The ends -/

/-- What the letters that depend on their place become. -/
def placed : Text := ['σ', 'ς', 'i', '\u0307']

theorem exists_lowerFrom_cons (before : Text) (c : Char) (after : Text) :
    ∃ piece, piece ≠ [] ∧ (∀ d ∈ piece, d = lowerChar c ∨ d ∈ placed) ∧
      lowerFrom before (c :: after) = piece ++ lowerFrom (c :: before) after := by
  rw [lowerFrom_cons]
  refine ⟨_, ?_, ?_, rfl⟩
  · split_ifs <;> simp
  · intro d hd
    split_ifs at hd <;> simp_all [placed]

theorem lowerFrom_eq_nil_iff {before t : Text} : lowerFrom before t = [] ↔ t = [] := by
  cases t with
  | nil => simp
  | cons c t =>
    obtain ⟨piece, hne, -, heq⟩ := exists_lowerFrom_cons before c t
    simp [heq, hne]

theorem lower_eq_nil_iff {t : Text} : lower t = [] ↔ t = [] := lowerFrom_eq_nil_iff

theorem exists_of_mem_head?_lower {t : Text} {d : Char} (hd : d ∈ (lower t).head?) :
    ∃ c ∈ t.head?, d = lowerChar c ∨ d ∈ placed := by
  cases t with
  | nil => simp [lower] at hd
  | cons c t =>
    obtain ⟨piece, hne, hpiece, heq⟩ := exists_lowerFrom_cons [] c t
    rw [lower, heq, List.head?_append_of_ne_nil _ hne] at hd
    exact ⟨c, rfl, hpiece d (List.mem_of_head? hd)⟩

theorem exists_of_mem_getLast?_lowerFrom {before t : Text} {d : Char}
    (hd : d ∈ (lowerFrom before t).getLast?) : ∃ c ∈ t.getLast?, d = lowerChar c ∨ d ∈ placed := by
  induction t generalizing before with
  | nil => simp at hd
  | cons c t ih =>
    obtain ⟨piece, hne, hpiece, heq⟩ := exists_lowerFrom_cons before c t
    rw [heq] at hd
    rcases mem_getLast?_append hd with ⟨hnil, hd⟩ | hd
    · rw [lowerFrom_eq_nil_iff.mp hnil]
      exact ⟨c, rfl, hpiece d (List.mem_of_getLast? hd)⟩
    · obtain ⟨e, he, hlower⟩ := ih hd
      exact ⟨e, by rw [List.getLast?_cons, he]; rfl, hlower⟩

/-- In such ranges a character of a lower-case form was there before. -/
theorem eq_of_lowered {ranges : CodeRanges} (hfree : caseFree ranges = true)
    (hplaced : ∀ d ∈ placed, ranges.covers d.toNat = false) {c d : Char}
    (h : d = lowerChar c ∨ d ∈ placed) (hd : ranges.covers d.toNat = true) : d = c := by
  rcases h with rfl | hmem
  · exact lowerChar_eq_self hfree (Or.inr (CodeRanges.holds_of_covers hd))
  · rw [hplaced d hmem] at hd
    simp at hd

theorem IsTight.lower {t : Text} (h : IsTight t) : IsTight (lower t) := by
  have hblank : ∀ {c d : Char}, d = lowerChar c ∨ d ∈ placed → isBlank d = true → d = c :=
    fun hd => eq_of_lowered caseFree_classes.2 (by decide) hd
  refine ⟨fun d hd hb => ?_, fun d hd hb => ?_⟩
  · obtain ⟨c, hc, hlower⟩ := exists_of_mem_head?_lower hd
    exact h.head c hc (hblank hlower hb ▸ hb)
  · obtain ⟨c, hc, hlower⟩ := exists_of_mem_getLast?_lowerFrom hd
    exact h.last c hc (hblank hlower hb ▸ hb)

theorem getLast?_lower_ne {t : Text} {ranges : CodeRanges} (hfree : caseFree ranges = true)
    (hplaced : ∀ d ∈ placed, ranges.covers d.toNat = false) {d : Char}
    (hd : ranges.covers d.toNat = true) (h : t.getLast? ≠ some d) : (lower t).getLast? ≠ some d := by
  intro hlast
  obtain ⟨c, hc, hlower⟩ := exists_of_mem_getLast?_lowerFrom hlast
  exact h (eq_of_lowered hfree hplaced hlower hd ▸ hc)

/-! ## Trimmed texts -/

theorem isTight_of_trim_eq {t : Text} (h : trim t = t) : IsTight t := by
  obtain ⟨gap, gap', -, -, htight, -⟩ := exists_trim t
  rwa [h] at htight

theorem normalize_of_trim_eq {t : Text} (h : trim t = t) : normalize t = lower t := by
  rw [normalize, h]

theorem normalize_ne_nil_of_trim_eq {t : Text} (h : trim t = t) (hne : t ≠ []) : normalize t ≠ [] := by
  rwa [normalize_of_trim_eq h, Ne, lower_eq_nil_iff]

theorem isTight_normalize (t : Text) : IsTight (normalize t) := by
  obtain ⟨gap, gap', -, -, htight, -⟩ := exists_trim t
  exact htight.lower

/-! ## Twice the same -/

theorem isLower_lowerFrom (before t : Text) : IsLower (lowerFrom before t) := by
  have hplaced : IsLower placed := by decide
  induction t generalizing before with
  | nil => exact fun c hc => absurd hc List.not_mem_nil
  | cons c t ih =>
    obtain ⟨piece, -, hpiece, heq⟩ := exists_lowerFrom_cons before c t
    rw [heq]
    refine IsLower.append (fun d hd => ?_) (ih (c :: before))
    rcases hpiece d hd with rfl | hmem
    · exact lowerChar_lowerChar c
    · exact hplaced d hmem

theorem isLower_lower (t : Text) : IsLower (lower t) := isLower_lowerFrom [] t

theorem normalize_normalize (t : Text) : normalize (normalize t) = normalize t := by
  rw [normalize, trim_of_isTight (isTight_normalize t)]
  exact lower_of_isLower (isLower_lower _)

end DateShorthand.Text
