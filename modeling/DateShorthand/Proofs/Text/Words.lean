import DateShorthand.Text.Blank
import Mathlib.Data.List.Basic
import Mathlib.Data.List.TakeWhile
import Mathlib.Tactic.Common

/-!
# Trimming and words

A text that begins and ends with something other than a blank survives trimming, and a run without
blanks is a word.
-/

namespace DateShorthand.Text

-- decided character by character of the text, and not over all characters that there are
instance (t : Text) (p : Char → Prop) [DecidablePred p] : Decidable (∀ c ∈ t, p c) :=
  List.decidableBAll p t

/-- Nothing but blanks. -/
def IsGap (t : Text) : Prop := ∀ c ∈ t, isBlank c = true

/-- Not a single blank. -/
def IsSolid (t : Text) : Prop := ∀ c ∈ t, ¬ isBlank c = true

/-- No blank at either end. -/
structure IsTight (t : Text) : Prop where
  head : ∀ c ∈ t.head?, ¬ isBlank c = true
  last : ∀ c ∈ t.getLast?, ¬ isBlank c = true

theorem IsSolid.append {t u : Text} (ht : IsSolid t) (hu : IsSolid u) : IsSolid (t ++ u) := by
  intro c hc
  rcases List.mem_append.mp hc with hc | hc
  · exact ht c hc
  · exact hu c hc

theorem IsSolid.isTight {t : Text} (h : IsSolid t) : IsTight t :=
  ⟨fun c hc => h c (List.mem_of_head? hc), fun c hc => h c (List.mem_of_getLast? hc)⟩

theorem isGap_nil : IsGap [] := by simp [IsGap]

/-! ## Ends -/

theorem mem_head?_append {t u : Text} {c : Char} (hc : c ∈ (t ++ u).head?) :
    c ∈ t.head? ∨ t = [] ∧ c ∈ u.head? := by
  rw [List.head?_append, Option.mem_def, Option.or_eq_some_iff, List.head?_eq_none_iff] at hc
  exact hc

theorem mem_getLast?_append {t u : Text} {c : Char} (hc : c ∈ (t ++ u).getLast?) :
    u = [] ∧ c ∈ t.getLast? ∨ c ∈ u.getLast? := by
  rw [List.getLast?_append, Option.mem_def, Option.or_eq_some_iff, List.getLast?_eq_none_iff] at hc
  exact hc.symm

theorem mem_getLast?_of_suffix {t u : Text} (h : t <:+ u) {c : Char} (hc : c ∈ t.getLast?) :
    c ∈ u.getLast? := by
  obtain ⟨front, rfl⟩ := h
  rw [List.getLast?_append, hc]
  rfl

theorem mem_head?_of_prefix {t u : Text} (h : t <+: u) {c : Char} (hc : c ∈ t.head?) : c ∈ u.head? := by
  obtain ⟨back, rfl⟩ := h
  rw [List.head?_append, hc]
  rfl

theorem IsTight.head_append {t : Text} (h : IsTight t) (hne : t ≠ []) (u : Text) :
    ∀ c ∈ (t ++ u).head?, ¬ isBlank c = true := by
  rw [List.head?_append_of_ne_nil _ hne]
  exact h.head

/-! ## Trimming -/

theorem dropWhile_of_head? {p : Char → Bool} {t : Text} (h : ∀ c ∈ t.head?, ¬ p c = true) :
    t.dropWhile p = t := by
  cases t with
  | nil => rfl
  | cons c t => simp [h c rfl]

theorem head?_dropWhile {p : Char → Bool} {t : Text} :
    ∀ c ∈ (t.dropWhile p).head?, ¬ p c = true := by
  intro c hc
  have := List.head?_dropWhile_not p t
  rw [hc] at this
  simpa using this

theorem trimStart_append {gap t : Text} (hgap : IsGap gap) :
    trimStart (gap ++ t) = trimStart t := List.dropWhile_append_of_pos hgap

theorem trimEnd_append {t gap : Text} (hgap : IsGap gap) : trimEnd (t ++ gap) = trimEnd t := by
  unfold trimEnd
  rw [List.reverse_append, List.dropWhile_append_of_pos fun c hc => hgap c (by simpa using hc)]

theorem trimStart_of_isTight {t : Text} (h : IsTight t) : trimStart t = t :=
  dropWhile_of_head? h.head

theorem trimEnd_of_isTight {t : Text} (h : IsTight t) : trimEnd t = t := by
  unfold trimEnd
  rw [dropWhile_of_head? (by simpa using h.last), List.reverse_reverse]

theorem trimStart_trimStart_append (t u : Text) :
    trimStart (trimStart t ++ u) = trimStart (t ++ u) := by
  have hgap : IsGap (t.takeWhile isBlank) :=
    fun c hc => List.all_eq_true.mp List.all_takeWhile c hc
  conv_rhs => rw [← List.takeWhile_append_dropWhile (p := isBlank) (l := t), List.append_assoc,
    trimStart_append hgap]
  rfl

theorem trim_of_isTight {t : Text} (h : IsTight t) : trim t = t := by
  rw [trim, trimStart_of_isTight h, trimEnd_of_isTight h]

theorem trimStart_of_isGap {gap : Text} (h : IsGap gap) : trimStart gap = [] := by
  have := trimStart_append (t := []) h
  rwa [List.append_nil] at this

theorem trim_of_isGap {gap : Text} (h : IsGap gap) : trim gap = [] := by
  rw [trim, trimStart_of_isGap h]
  rfl

theorem trim_append {gap t gap' : Text} (hgap : IsGap gap) (ht : IsTight t) (hgap' : IsGap gap') :
    trim (gap ++ t ++ gap') = t := by
  rw [trim, List.append_assoc, trimStart_append hgap]
  match t with
  | [] =>
    rw [List.nil_append, trimStart_of_isGap hgap']
    rfl
  | c :: t =>
    rw [trimStart, dropWhile_of_head? (by simpa using ht.head), trimEnd_append hgap',
      trimEnd_of_isTight ht]

/-- A text is what is left of it between two gaps. -/
theorem exists_trim (t : Text) :
    ∃ gap gap', IsGap gap ∧ IsGap gap' ∧ IsTight (trim t) ∧ t = gap ++ trim t ++ gap' := by
  have hstart := List.takeWhile_append_dropWhile (p := isBlank) (l := t)
  have hend := List.takeWhile_append_dropWhile (p := isBlank) (l := (trimStart t).reverse)
  have hparts : trimStart t = trim t ++ ((trimStart t).reverse.takeWhile isBlank).reverse := by
    rw [trim, trimEnd, ← List.reverse_append, hend, List.reverse_reverse]
  refine ⟨t.takeWhile isBlank, ((trimStart t).reverse.takeWhile isBlank).reverse, ?_, ?_, ⟨?_, ?_⟩, ?_⟩
  · exact fun c hc => List.all_eq_true.mp List.all_takeWhile c hc
  · exact fun c hc => List.all_eq_true.mp List.all_takeWhile c (by simpa using hc)
  · intro c hc
    refine head?_dropWhile (p := isBlank) (t := t) c ?_
    change c ∈ (trimStart t).head?
    rw [hparts, List.head?_append, hc]
    rfl
  · intro c hc
    rw [trim, trimEnd, List.getLast?_reverse] at hc
    exact head?_dropWhile c hc
  · rw [List.append_assoc, ← hparts]
    exact hstart.symm

theorem trim_isInfix (t : Text) : trim t <:+: t := by
  obtain ⟨gap, gap', -, -, -, heq⟩ := exists_trim t
  exact ⟨gap, gap', heq.symm⟩

theorem isGap_of_trim_eq_nil {t : Text} (h : trim t = []) : IsGap t := by
  obtain ⟨gap, gap', hgap, hgap', -, heq⟩ := exists_trim t
  rw [h, List.append_nil] at heq
  rw [heq]
  exact List.forall_mem_append.mpr ⟨hgap, hgap'⟩

theorem trim_trim (t : Text) : trim (trim t) = trim t := by
  obtain ⟨gap, gap', -, -, htight, -⟩ := exists_trim t
  exact trim_of_isTight htight

theorem trimEnd_append_left {u : Text} (hu : ∃ c ∈ u, ¬ isBlank c = true) (t : Text) :
    trimEnd (t ++ u) = t ++ trimEnd u := by
  have hsome : (u.reverse.dropWhile isBlank).isEmpty = false := by
    rw [List.isEmpty_eq_false_iff, Ne, List.dropWhile_eq_nil_iff]
    obtain ⟨c, hc, hblank⟩ := hu
    exact fun h => hblank (h c (List.mem_reverse.mpr hc))
  rw [trimEnd, trimEnd, List.reverse_append, List.dropWhile_append, hsome]
  simp

/-- Behind a text that begins with no blank, only the blanks at the end are trimmed. -/
theorem trim_append_left {t u : Text} (hne : t ≠ []) (ht : ∀ c ∈ t.head?, ¬ isBlank c = true)
    (hu : ∃ c ∈ u.head?, ¬ isBlank c = true) : trim (t ++ u) = t ++ trim u := by
  obtain ⟨c, hc, hblank⟩ := hu
  have hhead : ∀ d ∈ u.head?, ¬ isBlank d = true := fun d hd => Option.mem_unique hc hd ▸ hblank
  have hsame : (t ++ u).head? = t.head? := List.head?_append_of_ne_nil _ hne
  rw [← hsame] at ht
  rw [trim, trim, trimStart, trimStart, dropWhile_of_head? hhead, dropWhile_of_head? ht]
  exact trimEnd_append_left ⟨c, List.mem_of_head? hc, hblank⟩ t

theorem trimEnd_prefix (t : Text) : trimEnd t <+: t := by
  have h := (List.dropWhile_suffix isBlank (l := t.reverse)).reverse
  rwa [List.reverse_reverse] at h

/-- Behind a text without blanks, all that is trimmed is what follows it. -/
theorem trim_append_of_isSolid {t : Text} (hne : t ≠ []) (ht : IsSolid t) (u : Text) :
    trim (t ++ u) = t ++ trimEnd u := by
  have hhead := ht.isTight.head_append hne u
  rw [trim, trimStart, dropWhile_of_head? hhead]
  by_cases hu : ∃ c ∈ u, ¬ isBlank c = true
  · exact trimEnd_append_left hu t
  · have hgap : IsGap u := fun c hc => by_contra fun hblank => hu ⟨c, hc, hblank⟩
    have hempty := trimEnd_append (t := []) hgap
    rw [List.nil_append] at hempty
    rw [trimEnd_append hgap, trimEnd_of_isTight ht.isTight, hempty]
    exact (List.append_nil t).symm

theorem head?_trim_cons {c : Char} {t : Text} (hc : ¬ isBlank c = true) :
    (trim (c :: t)).head? = some c := by
  obtain ⟨gap, gap', hgap, hgap', -, heq⟩ := exists_trim (c :: t)
  cases gap with
  | cons d gap => exact absurd (hgap c ((List.cons.inj heq).1 ▸ List.mem_cons_self)) hc
  | nil =>
    cases htrim : trim (c :: t) with
    | nil =>
      rw [htrim, List.append_nil, List.nil_append] at heq
      exact absurd (hgap' c (heq ▸ List.mem_cons_self)) hc
    | cons d rest =>
      rw [htrim, List.nil_append] at heq
      exact congrArg some (List.cons.inj heq).1.symm

/-! ## Words -/

@[simp] theorem words_nil : words [] = [] := rfl

theorem words_cons (c : Char) (t : Text) :
    words (c :: t) =
      if isBlank c then words t
      else match t.head?, words t with
        | some next, word :: more => if isBlank next then [c] :: word :: more else (c :: word) :: more
        | _, more => [c] :: more := rfl

theorem words_cons_of_isBlank {c : Char} {t : Text} (h : isBlank c = true) :
    words (c :: t) = words t := by
  rw [words_cons, if_pos h]

theorem words_gap_append {gap t : Text} (h : IsGap gap) : words (gap ++ t) = words t := by
  induction gap with
  | nil => rfl
  | cons c gap ih =>
    rw [List.cons_append, words_cons_of_isBlank (h c List.mem_cons_self)]
    exact ih fun d hd => h d (List.mem_cons_of_mem _ hd)

theorem words_of_isGap {gap : Text} (h : IsGap gap) : words gap = [] := by
  have := words_gap_append (t := []) h
  rwa [List.append_nil] at this

theorem words_append {w t : Text} (hne : w ≠ []) (hw : IsSolid w)
    (ht : ∀ c ∈ t.head?, isBlank c = true) : words (w ++ t) = w :: words t := by
  induction w with
  | nil => exact absurd rfl hne
  | cons c w ih =>
    have hc := hw c List.mem_cons_self
    rw [List.cons_append, words_cons, if_neg hc]
    match w with
    | [] =>
      match t with
      | [] => rfl
      | d :: t =>
        rw [List.nil_append, List.head?_cons, words_cons_of_isBlank (ht d rfl)]
        cases words t <;> simp [ht d rfl]
    | d :: w =>
      have hd : ¬ isBlank d = true := hw d (by simp)
      rw [ih (by simp) fun e he => hw e (List.mem_cons_of_mem _ he)]
      simp [hd]

theorem words_cons_ne_nil {c : Char} {t : Text} (h : ¬ isBlank c = true) : words (c :: t) ≠ [] := by
  rw [words_cons, if_neg h]
  split
  · split <;> simp
  · simp

/-- A blank belongs to no word, and no word reaches over it. -/
theorem words_append_blank {c : Char} (hc : isBlank c = true) (t u : Text) :
    words (t ++ c :: u) = words t ++ words u := by
  induction t with
  | nil => exact words_cons_of_isBlank hc
  | cons d t ih =>
    by_cases hd : isBlank d = true
    · rw [List.cons_append, words_cons_of_isBlank hd, words_cons_of_isBlank hd, ih]
    · rw [List.cons_append, words_cons, words_cons, if_neg hd, if_neg hd, ih]
      cases t with
      | nil => cases words u <;> simp [hc]
      | cons e t =>
        cases hwords : words (e :: t) with
        | nil =>
          have he : isBlank e = true := by
            by_contra he
            exact words_cons_ne_nil he hwords
          cases words u <;> simp [he]
        | cons w more => by_cases he : isBlank e = true <;> simp [he]

theorem mem_words {w t : Text} (h : w ∈ words t) : w ≠ [] ∧ IsSolid w := by
  induction t generalizing w with
  | nil => simp at h
  | cons c t ih =>
    rw [words_cons] at h
    split at h
    · exact ih h
    · rename_i hc
      have hsingle : IsSolid [c] := by simpa [IsSolid] using hc
      split at h
      · rename_i next word more hnext hwords
        have hword := ih (hwords ▸ List.mem_cons_self)
        split at h
        · rcases List.mem_cons.mp h with rfl | h
          · exact ⟨by simp, hsingle⟩
          · exact ih (hwords ▸ h)
        · rcases List.mem_cons.mp h with rfl | h
          · exact ⟨by simp, hsingle.append hword.2⟩
          · exact ih (hwords ▸ List.mem_cons_of_mem _ h)
      · rcases List.mem_cons.mp h with rfl | h
        · exact ⟨by simp, hsingle⟩
        · exact ih h

/-! ## Word by word -/

/-- A text is empty, or begins with a blank, or begins with a word that ends in front of a blank. -/
theorem wordsInduction {motive : Text → Prop} (nil : motive [])
    (blank : ∀ c t, isBlank c = true → motive t → motive (c :: t))
    (word : ∀ w t, w ≠ [] → IsSolid w → (∀ c ∈ t.head?, isBlank c = true) → motive t →
      motive (w ++ t)) (t : Text) : motive t := by
  induction hn : t.length using Nat.strong_induction_on generalizing t with
  | _ n ih =>
    cases t with
    | nil => exact nil
    | cons c t =>
      by_cases hc : isBlank c = true
      · exact blank c t hc (ih t.length (by simp [← hn]) t rfl)
      · let solid := fun c => !isBlank c
        have hsolid : IsSolid ((c :: t).takeWhile solid) := fun d hd => by
          simpa [solid] using List.all_eq_true.mp List.all_takeWhile d hd
        have hhead : ∀ d ∈ ((c :: t).dropWhile solid).head?, isBlank d = true := fun d hd => by
          simpa [solid] using head?_dropWhile d hd
        have hcons : (c :: t).takeWhile solid = c :: t.takeWhile solid :=
          List.takeWhile_cons_of_pos (by simp [solid, hc])
        have hlength : ((c :: t).dropWhile solid).length < n := by
          rw [← hn, List.dropWhile_cons_of_pos (by simp [solid, hc]), List.length_cons]
          exact Nat.lt_succ_of_le (List.dropWhile_sublist _).length_le
        rw [← List.takeWhile_append_dropWhile (p := solid) (l := c :: t)]
        exact word _ _ (by simp [hcons]) hsolid hhead (ih _ hlength _ rfl)

def withoutBlanks (t : Text) : Text := t.filter fun c => !isBlank c

theorem withoutBlanks_append (t u : Text) : withoutBlanks (t ++ u) = withoutBlanks t ++ withoutBlanks u :=
  List.filter_append ..

theorem IsSolid.withoutBlanks {t : Text} (h : IsSolid t) : withoutBlanks t = t :=
  List.filter_eq_self.mpr fun c hc => by simpa using h c hc

theorem flatten_words (t : Text) : (words t).flatten = withoutBlanks t := by
  induction t using wordsInduction with
  | nil => rfl
  | blank c t hc ih =>
    rw [words_cons_of_isBlank hc, ih, withoutBlanks, withoutBlanks, List.filter_cons_of_neg (by simp [hc])]
  | word w t hne hw ht ih =>
    rw [words_append hne hw ht, List.flatten_cons, ih, withoutBlanks_append, hw.withoutBlanks]

end DateShorthand.Text
