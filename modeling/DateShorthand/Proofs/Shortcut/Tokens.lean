import DateShorthand.Proofs.Outcome
import DateShorthand.Proofs.Text.Numeral
import DateShorthand.Shortcut.Part

/-!
# Tokens

A token is a sign, digits and letters. Tokens hold no blanks, and the only token of that shape that
gives no part has too many digits.
-/

namespace DateShorthand

/-! ## Cutting -/

namespace Tokens

/-- Gluing loses nothing and adds nothing. -/
theorem flatten_glue {words tokens : List Text} (h : glue words = .ok tokens) :
    tokens.flatten = words.flatten := by
  fun_induction glue words generalizing tokens with
  | case1 => rw [← Except.ok.inj h]
  | case2 => simp at h
  | case3 => rw [← Except.ok.inj h]
  | case4 word next rest _ ih | case5 word next rest _ ih =>
    obtain ⟨more, hmore, rfl⟩ := map_eq_ok_iff.mp h
    simp [ih hmore]

theorem glue_solid {words tokens : List Text} (h : glue words = .ok tokens)
    (hwords : ∀ w ∈ words, Text.IsSolid w) : ∀ token ∈ tokens, Text.IsSolid token := by
  intro token htoken c hc
  have hmem : c ∈ words.flatten := flatten_glue h ▸ List.mem_flatten_of_mem htoken hc
  obtain ⟨w, hw, hcw⟩ := List.mem_flatten.mp hmem
  exact hwords w hw c hcw

theorem ofText_solid {t : Text} {tokens : List Text} (h : ofText t = .ok tokens) :
    ∀ token ∈ tokens, Text.IsSolid token :=
  glue_solid h fun _ hw => (Text.mem_words hw).2

end Tokens

/-! ## Signs -/

theorem Text.splitSign_eq (t : Text) :
    ∃ sign : Option Char, (∀ c ∈ sign, Tokens.isSign c = true) ∧ t = sign.toList ++ (splitSign t).2 := by
  unfold splitSign
  split
  · exact ⟨some '-', by simp [Tokens.isSign], rfl⟩
  · exact ⟨some '+', by simp [Tokens.isSign], rfl⟩
  · exact ⟨none, by simp, rfl⟩

theorem Text.splitSign_append {sign : Option Char} {body : Text}
    (hsign : ∀ c ∈ sign, Tokens.isSign c = true) (hbody : ∀ c ∈ body.head?, ¬ Tokens.isSign c = true) :
    splitSign (sign.toList ++ body) = (decide (sign = some '-'), body) := by
  match sign with
  | none =>
    rw [Option.toList_none, List.nil_append, splitSign_of_head?]
    · rfl
    · intro c hc
      have := hbody c hc
      simp only [Tokens.isSign, Bool.or_eq_true, beq_iff_eq, not_or] at this
      exact ⟨this.2, this.1⟩
  | some c =>
    have hc := hsign c rfl
    simp only [Tokens.isSign, Bool.or_eq_true, beq_iff_eq] at hc
    rcases hc with rfl | rfl <;> rfl

/-! ## Reading -/

namespace Part

/-- A sign, perhaps, then digits, then letters. -/
structure IsWord (sign : Option Char) (digits letters : Text) : Prop where
  isSign : ∀ c ∈ sign, Tokens.isSign c = true
  isDecimal : ∀ c ∈ digits, Text.isDecimal c = true
  isLetter : ∀ c ∈ letters, Text.isLetter c = true
  ne_nil : letters ≠ []

theorem not_isSign_of_isDecimal {c : Char} (h : Text.isDecimal c = true) :
    ¬ Tokens.isSign c = true := by
  intro hsign
  simp only [Tokens.isSign, Bool.or_eq_true, beq_iff_eq] at hsign
  rcases hsign with rfl | rfl <;> exact absurd h (by decide)

theorem not_isSign_of_isLetter {c : Char} (h : Text.isLetter c = true) :
    ¬ Tokens.isSign c = true := by
  intro hsign
  simp only [Tokens.isSign, Bool.or_eq_true, beq_iff_eq] at hsign
  rcases hsign with rfl | rfl <;> exact absurd h (by decide)

theorem keywordOf?_of_isLetter {letters : Text} (hne : letters ≠ [])
    (h : ∀ c ∈ letters, Text.isLetter c = true) : keywordOf? letters = some letters := by
  have hbreak : letters.getLast? ≠ some '\n' := by
    intro hlast
    exact absurd (h '\n' (List.mem_of_getLast? hlast)) (by decide)
  have hall : letters.all Text.isLetter = true := List.all_eq_true.mpr h
  unfold keywordOf?
  simp [hbreak, hne, hall]

theorem eq_of_keywordOf? {t letters : Text} (ht : Text.IsSolid t) (h : keywordOf? t = some letters) :
    t = letters ∧ letters ≠ [] ∧ ∀ c ∈ letters, Text.isLetter c = true := by
  have hbreak : t.getLast? ≠ some '\n' := by
    intro hlast
    exact ht '\n' (List.mem_of_getLast? hlast) (by decide)
  unfold keywordOf? at h
  simp only [hbreak, if_false, Option.ite_none_right_eq_some, Option.some.injEq, Bool.and_eq_true,
    Bool.not_eq_true', List.isEmpty_eq_false_iff, List.all_eq_true] at h
  obtain ⟨⟨hne, hall⟩, rfl⟩ := h
  exact ⟨rfl, hne, hall⟩

namespace IsWord

variable {sign : Option Char} {digits letters : Text}

theorem body_ne_nil (h : IsWord sign digits letters) : digits ++ letters ≠ [] :=
  List.append_ne_nil_of_right_ne_nil _ h.ne_nil

theorem body (h : IsWord sign digits letters) :
    ∀ c ∈ digits ++ letters, ¬ Tokens.isSign c = true ∧ ¬ Text.isBlank c = true := by
  intro c hc
  rcases List.mem_append.mp hc with hc | hc
  · have := h.isDecimal c hc
    exact ⟨not_isSign_of_isDecimal this, Text.not_isBlank_of_isDecimal this⟩
  · have := h.isLetter c hc
    exact ⟨not_isSign_of_isLetter this, Text.not_isBlank_of_isLetter this⟩

theorem parse (h : IsWord sign digits letters) :
    Part.parse (sign.toList ++ (digits ++ letters)) = (magnitudeOf digits).map fun magnitude =>
      ⟨sign.toList ++ (digits ++ letters), decide (sign = some '-'), magnitude, Text.lower letters⟩ := by
  have hbody : ∀ c ∈ (digits ++ letters).head?, ¬ Tokens.isSign c = true :=
    fun c hc => (h.body c (List.mem_of_head? hc)).1
  have hstop : ∀ c ∈ letters.head?, ¬ Text.isDecimal c = true := fun c hc =>
    Text.not_isDecimal_of_isLetter (h.isLetter c (List.mem_of_head? hc))
  have htake : (digits ++ letters).takeWhile Text.isDecimal = digits := by
    rw [List.takeWhile_append_of_pos h.isDecimal]
    obtain ⟨c, rest, rfl⟩ := List.exists_cons_of_ne_nil h.ne_nil
    rw [List.takeWhile_cons_of_neg (hstop c rfl), List.append_nil]
  have hdrop : (digits ++ letters).dropWhile Text.isDecimal = letters := by
    rw [List.dropWhile_append_of_pos h.isDecimal, Text.dropWhile_of_head? hstop]
  unfold Part.parse
  simp only [Text.splitSign_append h.isSign hbody, htake, hdrop,
    keywordOf?_of_isLetter h.ne_nil h.isLetter]

end IsWord

/-- Where letters are found behind the digits, the token is a word. -/
theorem exists_isWord {token letters : Text} (htoken : Text.IsSolid token)
    (h : keywordOf? ((Text.splitSign token).2.dropWhile Text.isDecimal) = some letters) :
    ∃ sign, IsWord sign ((Text.splitSign token).2.takeWhile Text.isDecimal) letters ∧
      token = sign.toList ++ ((Text.splitSign token).2.takeWhile Text.isDecimal ++ letters) := by
  obtain ⟨sign, hsign, heq⟩ := Text.splitSign_eq token
  have hsplit := List.takeWhile_append_dropWhile (p := Text.isDecimal) (l := (Text.splitSign token).2)
  have hsolid : Text.IsSolid ((Text.splitSign token).2.dropWhile Text.isDecimal) := by
    intro c hc
    refine htoken c ?_
    rw [heq, List.mem_append, ← hsplit, List.mem_append]
    exact Or.inr (Or.inr hc)
  obtain ⟨hrest, hne, hall⟩ := eq_of_keywordOf? hsolid h
  refine ⟨sign, ⟨hsign, fun c hc => List.all_eq_true.mp List.all_takeWhile c hc, hall, hne⟩, ?_⟩
  rw [← hrest, hsplit]
  exact heq

/-- More digits than a number may have, between a sign and letters. -/
def IsOverlong (token : Text) : Prop :=
  ∃ sign digits letters, IsWord sign digits letters ∧ Text.digitLimit < digits.length ∧
    token = sign.toList ++ (digits ++ letters)

theorem magnitudeOf_eq {digits : Text} (h : ∀ c ∈ digits, Text.isDecimal c = true) :
    magnitudeOf digits = if Text.digitLimit < digits.length then
        .error (.number (.tooLong digits.length))
      else .ok (if digits = [] then 1 else TrailingTime.numberOf digits) := by
  unfold magnitudeOf
  match digits with
  | [] => rfl
  | c :: digits =>
    have hdigits : Text.IsDigits (c :: digits) := ⟨by simp, h⟩
    simp only [List.isEmpty_cons, Bool.false_eq_true, if_false, Text.toIntOrFail, hdigits.toInt]
    split <;> rfl

theorem parse_eq_error {token : Text} {e : Failure} (htoken : Text.IsSolid token)
    (h : parse token = .error e) :
    e = .fault (.invalidPart token) ∨
      IsOverlong token ∧ ∃ n, Text.digitLimit < n ∧ e = .number (.tooLong n) := by
  unfold parse at h
  simp only at h
  split at h
  · left
    rw [Except.error.injEq] at h
    exact h.symm
  · rename_i letters hletters
    right
    obtain ⟨sign, hword, heq⟩ := exists_isWord htoken hletters
    rw [map_eq_error_iff, magnitudeOf_eq hword.isDecimal] at h
    split at h
    · rename_i hlong
      rw [Except.error.injEq] at h
      exact ⟨⟨sign, _, letters, hword, hlong, heq⟩, _, hlong, h.symm⟩
    · simp at h

theorem parse_eq_ok_iff {token : Text} {p : Part} : parse token = .ok p ↔ ∃ letters magnitude,
    keywordOf? ((Text.splitSign token).2.dropWhile Text.isDecimal) = some letters ∧
    magnitudeOf ((Text.splitSign token).2.takeWhile Text.isDecimal) = .ok magnitude ∧
    p = ⟨token, (Text.splitSign token).1, magnitude, Text.lower letters⟩ := by
  unfold parse
  simp only
  split
  · rename_i hnone
    simp [hnone]
  · rename_i letters hletters
    rw [map_eq_ok_iff]
    constructor
    · rintro ⟨magnitude, hmagnitude, rfl⟩
      exact ⟨letters, magnitude, hletters, hmagnitude, rfl⟩
    · rintro ⟨letters', magnitude, hletters', hmagnitude, rfl⟩
      obtain rfl := Option.some.inj (hletters.symm.trans hletters')
      exact ⟨magnitude, hmagnitude, rfl⟩

/-- A token that gives a part is a word. -/
theorem isWord_of_parse {token : Text} {p : Part} (htoken : Text.IsSolid token)
    (h : parse token = .ok p) : ∃ sign digits letters, IsWord sign digits letters ∧
      token = sign.toList ++ (digits ++ letters) := by
  obtain ⟨letters, magnitude, hletters, -, -⟩ := parse_eq_ok_iff.mp h
  obtain ⟨sign, hword, heq⟩ := exists_isWord htoken hletters
  exact ⟨sign, _, letters, hword, heq⟩

theorem IsOverlong.parse_eq_error {token : Text} (h : IsOverlong token) :
    ∃ n, Text.digitLimit < n ∧ parse token = .error (.number (.tooLong n)) := by
  obtain ⟨sign, digits, letters, hword, hlong, rfl⟩ := h
  exact ⟨digits.length, hlong, by rw [hword.parse, magnitudeOf_eq hword.isDecimal, if_pos hlong]; rfl⟩

end Part

end DateShorthand
