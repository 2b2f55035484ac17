import DateShorthand.Proofs.Text.Classes
import DateShorthand.Proofs.Text.Words
import DateShorthand.Shortcut.DefaultTime
import DateShorthand.Shortcut.TrailingTime
import Mathlib.Algebra.Group.Nat.Defs

/-!
# Numerals of digits

A text of digits alone is a numeral unless it has too many of them. Between blanks it stays one
unless one of the four separators is among the blanks. A number that is written is read back, with or
without zeros in front.
-/

namespace DateShorthand.Text

/-- Decimal digits of any script, at least one. -/
structure IsDigits (t : Text) : Prop where
  ne_nil : t ≠ []
  decimal : ∀ c ∈ t, isDecimal c = true

theorem IsDigits.of_length_pos {t : Text} (h : ∀ c ∈ t, isDecimal c = true) (hpos : 0 < t.length) :
    IsDigits t := ⟨List.ne_nil_of_length_pos hpos, h⟩

theorem IsDigits.length_pos {t : Text} (h : IsDigits t) : 0 < t.length :=
  List.length_pos_iff.mpr h.ne_nil

theorem IsDigits.isSolid {t : Text} (h : IsDigits t) : IsSolid t :=
  fun c hc => not_isBlank_of_isDecimal (h.decimal c hc)

/-! ## Reading digits -/

theorem digitsOf?_of_isDigits {t : Text} (h : IsDigits t) :
    digitsOf? t = some (t.filterMap digitValue?) := by
  obtain ⟨hne, hdecimal⟩ := h
  induction t with
  | nil => exact absurd rfl hne
  | cons c t ih =>
    obtain ⟨v, hv⟩ := Option.isSome_iff_exists.mp (hdecimal c List.mem_cons_self)
    match t with
    | [] => simp [digitsOf?, hv]
    | d :: t =>
      have hd : d ≠ '_' := by
        rintro rfl
        exact absurd (hdecimal '_' (by simp)) (by decide)
      have hrest := ih (by simp) fun e he => hdecimal e (List.mem_cons_of_mem _ he)
      rw [digitsOf?.eq_4 c (d :: t) (by simp) (by simpa using hd), hrest, hv,
        List.filterMap_cons_some hv]
      rfl

theorem length_filterMap_digitValue? {t : Text} (h : ∀ c ∈ t, isDecimal c = true) :
    (t.filterMap digitValue?).length = t.length := by
  rw [List.length_filterMap_eq_countP, List.countP_eq_length]
  exact h

theorem digitsOf?_eq_none {t : Text} {c : Char} (hc : c ∈ t) (hdecimal : ¬ isDecimal c = true)
    (hunderscore : c ≠ '_') : digitsOf? t = none := by
  have hvalue : digitValue? c = none := by simpa [isDecimal] using hdecimal
  fun_induction digitsOf? t with
  | case1 => simp at hc
  | case2 d =>
    rw [List.mem_singleton.mp hc] at hvalue
    simp [hvalue]
  | case3 d rest ih =>
    rcases List.mem_cons.mp hc with rfl | hc
    · simp [hvalue]
    · rcases List.mem_cons.mp hc with rfl | hc
      · exact absurd rfl hunderscore
      · simp [ih hc]
  | case4 d rest hne hnot ih =>
    rcases List.mem_cons.mp hc with rfl | hc
    · simp [hvalue]
    · simp [ih hc]

/-! ## Numbers -/

theorem splitSign_of_head? {t : Text} (h : ∀ c ∈ t.head?, c ≠ '-' ∧ c ≠ '+') :
    splitSign t = (false, t) := by
  unfold splitSign
  split
  · exact absurd rfl (h '-' rfl).1
  · exact absurd rfl (h '+' rfl).2
  · rfl

theorem IsDigits.splitSign {t : Text} (h : IsDigits t) : splitSign t = (false, t) := by
  refine splitSign_of_head? fun c hc => ?_
  have hdecimal := h.decimal c (List.mem_of_head? hc)
  constructor <;> rintro rfl <;> exact absurd hdecimal (by decide)

theorem IsSolid.trimNumeral {t : Text} (h : IsSolid t) :
    ((t.dropWhile isNumeralBlank).reverse.dropWhile isNumeralBlank).reverse = t := by
  have hnot : ∀ c ∈ t, ¬ isNumeralBlank c = true := fun c hc hblank =>
    h c hc (Bool.and_eq_true _ _ ▸ hblank).1
  rw [dropWhile_of_head? fun c hc => hnot c (List.mem_of_head? hc),
    dropWhile_of_head? fun c hc => hnot c (by simpa using List.mem_of_head? hc),
    List.reverse_reverse]

/-- The number that digits write, unless there are too many of them. -/
theorem IsDigits.toInt {t : Text} (h : IsDigits t) :
    t.toInt = if digitLimit < t.length then .error (.tooLong t.length)
      else .ok (TrailingTime.numberOf t) := by
  unfold Text.toInt
  simp only [h.isSolid.trimNumeral, h.splitSign, digitsOf?_of_isDigits h,
    length_filterMap_digitValue? h.decimal]
  rfl

/-! ## Digits between blanks -/

/-- The blanks that may not stand around a numeral. -/
def isSeparator (c : Char) : Bool := 0x1c ≤ c.toNat && c.toNat ≤ 0x1f

theorem isNumeralBlank_of_not_isSeparator {c : Char} (hblank : isBlank c = true)
    (h : ¬ isSeparator c = true) : isNumeralBlank c = true := by
  have : isSeparator c = false := by simpa using h
  unfold isSeparator at this
  simp only [isNumeralBlank, hblank, this]
  rfl

theorem not_isNumeralBlank_of_isSeparator {c : Char} (h : isSeparator c = true) :
    ¬ isNumeralBlank c = true := by
  unfold isSeparator at h
  simp only [isNumeralBlank, h]
  simp

theorem isBlank_of_isSeparator {c : Char} (h : isSeparator c = true) : isBlank c = true := by
  have hrange : 0x1c ≤ c.toNat ∧ c.toNat ≤ 0x1f := by simpa [isSeparator] using h
  have hcovers : ∀ n < 0x20, 0x1c ≤ n → blankRanges.covers n = true := by decide
  exact hcovers _ (by omega) hrange.1

theorem mem_dropWhile {p : Char → Bool} {t : Text} {c : Char} (hc : c ∈ t) (h : ¬ p c = true) :
    c ∈ t.dropWhile p := by
  rw [← List.takeWhile_append_dropWhile (p := p) (l := t), List.mem_append] at hc
  rcases hc with hc | hc
  · exact absurd (List.all_eq_true.mp List.all_takeWhile c hc) h
  · exact hc

theorem mem_splitSign {t : Text} {c : Char} (hc : c ∈ t) (hminus : c ≠ '-') (hplus : c ≠ '+') :
    c ∈ (splitSign t).2 := by
  unfold splitSign
  split
  · simpa [hminus] using hc
  · simpa [hplus] using hc
  · exact hc

/-- A separator spoils a numeral wherever it stands. -/
theorem toInt_of_isSeparator {t : Text} {c : Char} (hc : c ∈ t) (h : isSeparator c = true) :
    t.toInt = .error (.notDecimal t) := by
  have hnot := not_isNumeralBlank_of_isSeparator h
  have hcore : c ∈ ((t.dropWhile isNumeralBlank).reverse.dropWhile isNumeralBlank).reverse := by
    rw [List.mem_reverse]
    exact mem_dropWhile (List.mem_reverse.mpr (mem_dropWhile hc hnot)) hnot
  have hplain : ∀ d, isSeparator d = false → c ≠ d := by
    rintro d hd rfl
    rw [h] at hd
    simp at hd
  have hdecimal : ¬ isDecimal c = true := fun hd =>
    not_isBlank_of_isDecimal hd (isBlank_of_isSeparator h)
  have hnone := digitsOf?_eq_none
    (mem_splitSign hcore (hplain '-' (by decide)) (hplain '+' (by decide))) hdecimal
    (hplain '_' (by decide))
  unfold Text.toInt
  simp only [hnone]

theorem toInt_gaps {gap t gap' : Text} (hgap : IsGap gap) (hgap' : IsGap gap') (ht : IsDigits t)
    (hplain : ∀ c ∈ gap ++ t ++ gap', ¬ isSeparator c = true) :
    (gap ++ t ++ gap').toInt = t.toInt := by
  have hnumeral : ∀ g, IsGap g → (∀ c ∈ g, c ∈ gap ++ t ++ gap') → ∀ c ∈ g, isNumeralBlank c = true :=
    fun g hg hsub c hc => isNumeralBlank_of_not_isSeparator (hg c hc) (hplain c (hsub c hc))
  have hcore : (((gap ++ t ++ gap').dropWhile isNumeralBlank).reverse.dropWhile isNumeralBlank).reverse
      = t := by
    have hstart := hnumeral gap hgap (by simp +contextual)
    have hend := hnumeral gap' hgap' (by simp +contextual)
    obtain ⟨c, t, rfl⟩ := List.exists_cons_of_ne_nil ht.ne_nil
    have hc : ¬ isNumeralBlank c = true := fun hblank =>
      ht.isSolid c List.mem_cons_self (Bool.and_eq_true _ _ ▸ hblank).1
    have hcore := ht.isSolid.trimNumeral
    rw [List.append_assoc, List.dropWhile_append_of_pos hstart, List.cons_append,
      List.dropWhile_cons_of_neg hc, ← List.cons_append, List.reverse_append,
      List.dropWhile_append_of_pos fun d hd => hend d (by simpa using hd)]
    rwa [List.dropWhile_cons_of_neg hc] at hcore
  unfold Text.toInt
  simp only [hcore, ht.isSolid.trimNumeral, ht.splitSign, digitsOf?_of_isDigits ht]

theorem toInt_trim {t : Text} (h : IsDigits (trim t)) (hplain : ∀ c ∈ t, ¬ isSeparator c = true) :
    t.toInt = (trim t).toInt := by
  obtain ⟨gap, gap', hgap, hgap', -, ht⟩ := exists_trim t
  rw [ht] at hplain
  have htoInt := toInt_gaps hgap hgap' h hplain
  rwa [← ht] at htoInt

theorem isDigits_trim_iff {piece : Text} :
    IsDigits (trim piece) ↔ DefaultTime.isNumeral piece = true := by
  simp only [DefaultTime.isNumeral, Bool.and_eq_true, Bool.not_eq_true', List.isEmpty_eq_false_iff,
    List.all_eq_true]
  exact ⟨fun h => ⟨h.ne_nil, h.decimal⟩, fun h => ⟨h.1, h.2⟩⟩

/-- Exactly these pieces of a default time pass as numerals and have no number. -/
theorem exists_toInt_error_iff {piece : Text} (h : DefaultTime.isNumeral piece = true) :
    (∃ e, piece.toInt = .error e) ↔
      (∃ c ∈ piece, isSeparator c = true) ∨ digitLimit < (trim piece).length := by
  have hdigits := isDigits_trim_iff.mpr h
  by_cases hseparator : ∃ c ∈ piece, isSeparator c = true
  · obtain ⟨c, hc, hcs⟩ := hseparator
    exact ⟨fun _ => Or.inl ⟨c, hc, hcs⟩, fun _ => ⟨_, toInt_of_isSeparator hc hcs⟩⟩
  · rw [toInt_trim hdigits fun c hc hcs => hseparator ⟨c, hc, hcs⟩, hdigits.toInt]
    split
    · rename_i hlong
      exact ⟨fun _ => Or.inr hlong, fun _ => ⟨_, rfl⟩⟩
    · rename_i hshort
      constructor
      · rintro ⟨e, he⟩
        exact absurd he (by simp)
      · rintro (h | h)
        · exact absurd h hseparator
        · exact absurd h hshort

/-! ## Written numbers -/

variable {width n : Nat}

theorem isDigit_of_mem_padded {c : Char} (h : c ∈ padded width n) : c.isDigit = true := by
  rcases List.mem_append.mp h with hc | hc
  · rw [List.eq_of_mem_replicate hc]
    rfl
  · exact Nat.isDigit_of_mem_toDigits (by decide) (by decide) hc

theorem ofDigits_padded (width n : Nat) :
    ofDigits ((padded width n).map fun c => c.toNat - '0'.toNat) = n := by
  have hchars : Nat.ofDigitChars 10 (padded width n) 0 = n := by
    rw [padded, Nat.ofDigitChars_append, Nat.ofDigitChars_replicate_zero, Nat.mul_zero]
    exact Nat.ofDigitChars_ten_toDigits
  rw [ofDigits, List.foldl_map, ← Nat.ofDigitChars_eq_foldl, hchars]

theorem length_padded_le {most : Nat} (hpos : 0 < most) (hwidth : width ≤ most) (h : n < 10 ^ most) :
    (padded width n).length ≤ most := by
  have hlength : (ofNat n).length ≤ most := (Nat.length_toDigits_le_iff (by decide) hpos).mpr h
  rw [padded, List.length_append, List.length_replicate]
  omega

theorem length_padded (hpos : 0 < width) (h : n < 10 ^ width) : (padded width n).length = width := by
  have hle := length_padded_le hpos (Nat.le_refl width) h
  rw [padded, List.length_append, List.length_replicate] at hle ⊢
  omega

/-- A number that fits is written with exactly so many ASCII digits. -/
theorem padded_spec (hpos : 0 < width) (h : n < 10 ^ width) :
    (padded width n).length = width ∧ (∀ c ∈ padded width n, c.isDigit = true) ∧
      ofDigits ((padded width n).map fun c => c.toNat - '0'.toNat) = n :=
  ⟨length_padded hpos h, fun _ => isDigit_of_mem_padded, ofDigits_padded width n⟩

theorem digitValue?_of_isDigit {c : Char} (h : c.isDigit = true) :
    digitValue? c = some (c.toNat - '0'.toNat) := by
  have hrange : 48 ≤ c.toNat ∧ c.toNat ≤ 57 := by
    simpa [Char.isDigit, UInt32.le_iff_toNat_le] using h
  have hzero : '0'.toNat = 48 := rfl
  rw [digitValue?, zeros, digitAfter, if_neg (by omega), if_pos (by omega), hzero]

theorem isDigits_padded (width n : Nat) : (padded width n).IsDigits where
  ne_nil := by simp [padded, ofNat, Nat.toDigits_ne_nil]
  decimal c hc := by
    rw [isDecimal, digitValue?_of_isDigit (isDigit_of_mem_padded hc)]
    rfl

theorem numberOf_padded (width n : Nat) : TrailingTime.numberOf (padded width n) = n := by
  have hvalues : (padded width n).filterMap digitValue?
      = (padded width n).map fun c => c.toNat - '0'.toNat := by
    rw [← List.filterMap_eq_map]
    exact List.filterMap_congr fun c hc => digitValue?_of_isDigit (isDigit_of_mem_padded hc)
  rw [TrailingTime.numberOf, hvalues, ofDigits_padded]

end DateShorthand.Text
