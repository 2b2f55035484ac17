import DateShorthand.Text.Terminal

/-!
# What a terminal is spared

A text without escape characters has no control sequences, and one without carriage returns has its line
ends already. A line break keeps what is before it from what is after it.
-/

namespace DateShorthand.Text

variable {t u : Text} {c : Char}

/-- No character of the text is a control character. -/
def IsLine (t : Text) : Prop := ∀ c ∈ t, 0x20 ≤ c.toNat

theorem IsLine.not_mem (h : IsLine t) (hc : c.toNat < 0x20) : c ∉ t :=
  fun hmem => absurd (h c hmem) (Nat.not_le_of_lt hc)

@[simp]
theorem isLine_nil : IsLine [] := by simp [IsLine]

@[simp]
theorem isLine_cons : IsLine (c :: t) ↔ 0x20 ≤ c.toNat ∧ IsLine t := List.forall_mem_cons

@[simp]
theorem isLine_append : IsLine (t ++ u) ↔ IsLine t ∧ IsLine u := List.forall_mem_append

theorem withoutControls_of_not_mem (h : '\x1b' ∉ t) : withoutControls t = t := by
  unfold withoutControls
  induction t with
  | nil => rfl
  | cons c t ih =>
    rw [List.mem_cons, not_or] at h
    have hlength : controlLength (c :: t) = 0 := by
      unfold controlLength
      split
      · rename_i heq
        cases heq
        exact absurd rfl h.1
      · rfl
    rw [skipControls, hlength, ih h.2]

theorem plainBreaks_of_not_mem (h : '\r' ∉ t) : plainBreaks t = t := by
  fun_induction plainBreaks t with
  | case1 => simp at h
  | case2 c rest _ ih => rw [ih fun hmem => h (List.mem_cons_of_mem _ hmem)]
  | case3 => rfl

theorem plainBreaks_cons (h : c = '\r' → t.head? ≠ some '\n') :
    plainBreaks (c :: t) = c :: plainBreaks t := by
  rw [plainBreaks]
  rintro rest rfl rfl
  exact h rfl rfl

theorem plainBreaks_append (t u : Text) :
    plainBreaks (t ++ '\n' :: u) = plainBreaks (t ++ ['\n']) ++ plainBreaks u := by
  fun_induction plainBreaks t with
  | case1 rest ih =>
    simp only [List.cons_append, plainBreaks, ih]
  | case2 c rest hpair ih =>
    cases rest with
    | nil =>
      by_cases hc : c = '\r'
      · rw [hc]
        rfl
      · rw [List.singleton_append, List.singleton_append, plainBreaks_cons (absurd · hc),
          plainBreaks_cons (absurd · hc), List.cons_append]
        exact congrArg (c :: ·) ih
    | cons d rest =>
      have hhead : c = '\r' → some d ≠ some '\n' := by
        rintro rfl ⟨⟩
        exact hpair rest rfl rfl
      have hcons : ∀ v, plainBreaks (c :: d :: v) = c :: plainBreaks (d :: v) :=
        fun _ => plainBreaks_cons hhead
      simp only [List.cons_append] at ih ⊢
      rw [hcons, hcons, ih, List.cons_append]
  | case3 => rfl

end DateShorthand.Text
