import DateShorthand.Text.Blank
import DateShorthand.Text.Letter
import DateShorthand.Text.Lowercase
import Mathlib.Tactic.Common

/-!
# Classes of characters

Digits, letters and blanks have no character in common, and digits and blanks are left alone by
lower-casing.
-/

namespace DateShorthand

/-! ## Ranges -/

namespace CodeRanges

def Holds (ranges : CodeRanges) (n : Nat) : Prop := ∃ r ∈ ranges, r.1 ≤ n ∧ n ≤ r.2

theorem holds_of_covers {ranges : CodeRanges} {n : Nat} (h : ranges.covers n = true) :
    ranges.Holds n := by
  induction ranges with
  | nil => simp [covers] at h
  | cons r rest ih =>
    rw [covers] at h
    split at h
    · simp at h
    · simp only [Bool.or_eq_true, decide_eq_true_eq] at h
      rcases h with h | h
      · exact ⟨r, List.mem_cons_self, by omega, h⟩
      · obtain ⟨s, hs, hmem⟩ := ih h
        exact ⟨s, List.mem_cons_of_mem _ hs, hmem⟩

/-- The ranges begin one after the other. -/
def ascending : CodeRanges → Bool
  | r :: s :: rest => Nat.ble r.1 s.1 && ascending (s :: rest)
  | _ => true

theorem first_le_of_ascending {r : Nat × Nat} {rest : CodeRanges} {n : Nat}
    (hup : ascending (r :: rest) = true) (h : Holds (r :: rest) n) : r.1 ≤ n := by
  induction rest generalizing r with
  | nil =>
    obtain ⟨s, hs, hn⟩ := h
    rw [List.mem_singleton.mp hs] at hn
    exact hn.1
  | cons s rest ih =>
    simp only [ascending, Bool.and_eq_true, Nat.ble_eq] at hup
    obtain ⟨t, ht, hn⟩ := h
    rcases List.mem_cons.mp ht with rfl | ht
    · exact hn.1
    · exact Nat.le_trans hup.1 (ih hup.2 ⟨t, ht, hn⟩)

/-- Nothing from `first` to `last` is in the ranges. The search stops at the first range that is not
below. -/
def clear : CodeRanges → Nat → Nat → Bool
  | [], _, _ => true
  | r :: rest, first, last => bif Nat.blt r.2 first then clear rest first last else Nat.blt last r.1

theorem not_holds_of_clear {ranges : CodeRanges} (hup : ascending ranges = true) {first last n : Nat}
    (h : clear ranges first last = true) (hfirst : first ≤ n) (hlast : n ≤ last) :
    ¬ ranges.Holds n := by
  induction ranges with
  | nil =>
    rintro ⟨r, hr, -⟩
    exact absurd hr List.not_mem_nil
  | cons r rest ih =>
    intro hholds
    rw [clear] at h
    cases hbelow : Nat.blt r.2 first with
    | false =>
      rw [hbelow, cond_false, Nat.blt_eq] at h
      have := first_le_of_ascending hup hholds
      omega
    | true =>
      rw [hbelow, cond_true] at h
      rw [Nat.blt_eq] at hbelow
      have hup' : ascending rest = true := by
        cases rest with
        | nil => rfl
        | cons s rest =>
          simp only [ascending, Bool.and_eq_true] at hup
          exact hup.2
      obtain ⟨s, hs, hn⟩ := hholds
      rcases List.mem_cons.mp hs with rfl | hs
      · omega
      · exact ih hup' h ⟨s, hs, hn⟩

/-- No range of one list meets a range of the other. -/
def apart (a b : CodeRanges) : Bool := ascending b && a.all fun r => clear b r.1 r.2

theorem not_holds_of_apart {a b : CodeRanges} (h : apart a b = true) {n : Nat} (ha : a.Holds n) :
    ¬ b.Holds n := by
  obtain ⟨r, hr, hn⟩ := ha
  simp only [apart, Bool.and_eq_true, List.all_eq_true] at h
  exact not_holds_of_clear h.1 (h.2 r hr) hn.1 hn.2

end CodeRanges

namespace Text

/-! ## Digits, letters, blanks -/

def decimalRanges : CodeRanges := zeros.map fun first => (first, first + 9)

theorem digitAfter_eq_some {firsts : List Nat} {n v : Nat} (h : digitAfter firsts n = some v) :
    v < 10 ∧ ∃ first ∈ firsts, n = first + v := by
  induction firsts with
  | nil => simp [digitAfter] at h
  | cons first rest ih =>
    rw [digitAfter] at h
    split_ifs at h with hbelow hin
    · rw [Option.some.injEq] at h
      exact ⟨by omega, first, List.mem_cons_self, by omega⟩
    · obtain ⟨hv, other, hother, hn⟩ := ih h
      exact ⟨hv, other, List.mem_cons_of_mem _ hother, hn⟩

theorem holds_of_isDecimal {c : Char} (h : isDecimal c = true) : decimalRanges.Holds c.toNat := by
  obtain ⟨v, hv⟩ := Option.isSome_iff_exists.mp h
  obtain ⟨hlt, first, hfirst, hn⟩ := digitAfter_eq_some hv
  exact ⟨(first, first + 9), List.mem_map.mpr ⟨first, hfirst, rfl⟩, by simp; omega⟩

set_option maxRecDepth 5000 in
/-- Digits, letters and blanks have no character in common. -/
theorem classes_apart : CodeRanges.apart decimalRanges letterRanges = true ∧
    CodeRanges.apart blankRanges letterRanges = true ∧
      CodeRanges.apart decimalRanges blankRanges = true := by decide

theorem not_isDecimal_of_isLetter {c : Char} (h : isLetter c = true) : ¬ isDecimal c = true :=
  fun hd => CodeRanges.not_holds_of_apart classes_apart.1 (holds_of_isDecimal hd)
    (CodeRanges.holds_of_covers h)

theorem not_isBlank_of_isLetter {c : Char} (h : isLetter c = true) : ¬ isBlank c = true :=
  fun hb => CodeRanges.not_holds_of_apart classes_apart.2.1 (CodeRanges.holds_of_covers hb)
    (CodeRanges.holds_of_covers h)

theorem not_isBlank_of_isDecimal {c : Char} (h : isDecimal c = true) : ¬ isBlank c = true :=
  fun hb => CodeRanges.not_holds_of_apart classes_apart.2.2 (holds_of_isDecimal h)
    (CodeRanges.holds_of_covers hb)

/-! ## Characters without case -/

theorem lowerAfter_eq (runs : List CaseRun) (n : Nat) :
    lowerAfter runs n = n ∨ ∃ run ∈ runs, run.first ≤ n ∧ n ≤ run.last ∧
      (n - run.first) % run.step = 0 ∧ lowerAfter runs n = run.image + (n - run.first) := by
  induction runs with
  | nil => exact Or.inl rfl
  | cons run rest ih =>
    rw [lowerAfter]
    split_ifs with hbelow hin
    · exact Or.inl rfl
    · exact Or.inr ⟨run, List.mem_cons_self, by omega, hin.1, hin.2, rfl⟩
    · rcases ih with ih | ⟨other, hother, hmem⟩
      · exact Or.inl ih
      · exact Or.inr ⟨other, List.mem_cons_of_mem _ hother, hmem⟩

/-- No character of the ranges has another case, or is one. -/
def caseFree (ranges : CodeRanges) : Bool :=
  CodeRanges.apart (caseRuns.map fun run => (run.first, run.last)) ranges &&
    CodeRanges.apart (caseRuns.map fun run => (run.image, run.image + (run.last - run.first))) ranges

theorem lowerAfter_eq_self {ranges : CodeRanges} (hfree : caseFree ranges = true) {n : Nat}
    (h : ranges.Holds n ∨ ranges.Holds (lowerAfter caseRuns n)) : lowerAfter caseRuns n = n := by
  simp only [caseFree, Bool.and_eq_true] at hfree
  rcases lowerAfter_eq caseRuns n with heq | ⟨run, hrun, hfirst, hlast, -, heq⟩
  · exact heq
  · rcases h with h | h
    · refine absurd h (CodeRanges.not_holds_of_apart hfree.1 ⟨_, List.mem_map.mpr ⟨run, hrun, rfl⟩, ?_⟩)
      exact ⟨hfirst, hlast⟩
    · refine absurd h (CodeRanges.not_holds_of_apart hfree.2 ⟨_, List.mem_map.mpr ⟨run, hrun, rfl⟩, ?_⟩)
      simp only
      omega

/-- No run begins, goes on or ends at `first`, `first + step`, … `last`. The search stops at the first
run that is not below. -/
def passedOver (first last step : Nat) : List CaseRun → Bool
  | [] => true
  | run :: rest =>
    bif Nat.blt last run.first then true
    else bif Nat.blt run.last first then passedOver first last step rest
    -- one run that skips every other character may lie in the gaps of another
    else (Nat.beq first last || Nat.beq (step % 2) 0) && Nat.beq (run.step % 2) 0 &&
      Nat.beq ((first + run.first) % 2) 1 && passedOver first last step rest

theorem lowerAfter_of_passedOver {first last step n : Nat} {runs : List CaseRun}
    (h : passedOver first last step runs = true) (hfirst : first ≤ n) (hlast : n ≤ last)
    (hstep : (n - first) % step = 0) : lowerAfter runs n = n := by
  induction runs with
  | nil => rfl
  | cons run rest ih =>
    rw [passedOver, Bool.cond_eq_ite, Bool.cond_eq_ite] at h
    rw [lowerAfter]
    split_ifs with hbelow hin
    · rfl
    · split_ifs at h with hbeyond hpast
      · rw [Nat.blt_eq] at hbeyond
        omega
      · rw [Nat.blt_eq] at hpast
        omega
      · simp only [Bool.and_eq_true, Bool.or_eq_true, Nat.beq_eq] at h
        obtain ⟨⟨⟨hsparse, heven⟩, hodd⟩, -⟩ := h
        have hgap : (n - run.first) % 2 = 0 := Nat.mod_mod_of_dvd _ (Nat.dvd_of_mod_eq_zero heven) ▸
          congrArg (· % 2) hin.2
        rcases hsparse with heq | hsparse
        · omega
        · have : (n - first) % 2 = 0 := Nat.mod_mod_of_dvd _ (Nat.dvd_of_mod_eq_zero hsparse) ▸
            congrArg (· % 2) hstep
          omega
    · split_ifs at h with hbeyond
      · rw [Nat.blt_eq] at hbeyond
        omega
      · exact ih h
      · rw [Bool.and_eq_true] at h
        exact ih h.2

set_option maxRecDepth 5000 in
/-- The image of a run lies among the characters, and no run moves it on. -/
theorem caseRuns_images : ∀ run ∈ caseRuns,
    (run.image + (run.last - run.first) < 0xd800 ∨
      0xdfff < run.image ∧ run.image + (run.last - run.first) < 0x110000) ∧
        passedOver run.image (run.image + (run.last - run.first)) run.step caseRuns = true := by
  decide

theorem isValidChar_lowerAfter {n : Nat} (h : n.isValidChar) :
    (lowerAfter caseRuns n).isValidChar := by
  rcases lowerAfter_eq caseRuns n with heq | ⟨run, hrun, hfirst, hlast, -, heq⟩
  · rwa [heq]
  · have := (caseRuns_images run hrun).1
    rw [heq]
    simp only [Nat.isValidChar]
    omega

theorem toNat_lowerChar (c : Char) : (lowerChar c).toNat = lowerAfter caseRuns c.toNat := by
  have hvalid : (lowerAfter caseRuns c.toNat).isValidChar := isValidChar_lowerAfter c.valid
  rw [lowerChar, Char.ofNat, dif_pos hvalid]
  rfl

theorem lowerChar_eq_self {ranges : CodeRanges} (hfree : caseFree ranges = true) {c : Char}
    (h : ranges.Holds c.toNat ∨ ranges.Holds (lowerChar c).toNat) : lowerChar c = c := by
  rw [toNat_lowerChar] at h
  rw [lowerChar, lowerAfter_eq_self hfree h, Char.ofNat_toNat]

theorem lowerAfter_lowerAfter (n : Nat) :
    lowerAfter caseRuns (lowerAfter caseRuns n) = lowerAfter caseRuns n := by
  rcases lowerAfter_eq caseRuns n with heq | ⟨run, hrun, hfirst, hlast, hstep, heq⟩
  · rw [heq, heq]
  · rw [heq]
    refine lowerAfter_of_passedOver (caseRuns_images run hrun).2 (by omega) (by omega) ?_
    rwa [Nat.add_sub_cancel_left]

theorem lowerChar_lowerChar (c : Char) : lowerChar (lowerChar c) = lowerChar c := by
  rw [lowerChar, toNat_lowerChar, lowerAfter_lowerAfter]
  rfl

set_option maxRecDepth 5000 in
theorem caseFree_classes : caseFree decimalRanges = true ∧ caseFree blankRanges = true := by decide

theorem lowerChar_of_isDecimal {c : Char} (h : isDecimal c = true) : lowerChar c = c :=
  lowerChar_eq_self caseFree_classes.1 (Or.inl (holds_of_isDecimal h))

theorem lowerChar_of_isBlank {c : Char} (h : isBlank c = true) : lowerChar c = c :=
  lowerChar_eq_self caseFree_classes.2 (Or.inl (CodeRanges.holds_of_covers h))

/-- The companions of a letter stand outside the ranges. -/
def companionFree (ranges : CodeRanges) : Bool :=
  companions.all fun entry => (entry.1 :: entry.2).all fun n =>
    ranges.all fun r => Nat.blt n r.1 || Nat.blt r.2 n

theorem not_holds_of_companionFree {ranges : CodeRanges} (hfree : companionFree ranges = true)
    {entry : Nat × List Nat} (hentry : entry ∈ companions) {n : Nat} (hn : n ∈ entry.1 :: entry.2) :
    ¬ ranges.Holds n := by
  rintro ⟨r, hr, hmem⟩
  simp only [companionFree, List.all_eq_true, Bool.or_eq_true, Nat.blt_eq] at hfree
  have := hfree entry hentry n hn r hr
  omega

/-- In such ranges a character stands for itself alone. -/
theorem eq_of_sameLetter {ranges : CodeRanges} (hcase : caseFree ranges = true)
    (hcompanion : companionFree ranges = true) {p c : Char} (h : sameLetter p c = true)
    (hmem : ranges.Holds p.toNat ∨ ranges.Holds c.toNat) : p = c := by
  simp only [sameLetter, Bool.or_eq_true, beq_iff_eq, List.contains_iff_mem] at h
  rcases h with h | h
  · rcases hmem with hp | hc
    · have hself := lowerChar_eq_self hcase (Or.inl hp)
      rw [← hself, h] at hp ⊢
      exact lowerChar_eq_self hcase (Or.inr hp)
    · have hself := lowerChar_eq_self hcase (Or.inl hc)
      rw [← hself, ← h] at hc ⊢
      exact (lowerChar_eq_self hcase (Or.inr hc)).symm
  · cases hlookup : companions.lookup (lowerChar p).toNat with
    | none =>
      rw [hlookup] at h
      exact absurd h List.not_mem_nil
    | some others =>
      rw [hlookup, Option.getD_some] at h
      have hentry : ((lowerChar p).toNat, others) ∈ companions := by
        obtain ⟨before, after, hsplit, -⟩ := List.lookup_eq_some_iff.mp hlookup
        simp [hsplit]
      rcases hmem with hp | hc
      · rw [← lowerChar_eq_self hcase (Or.inl hp)] at hp
        exact absurd hp (not_holds_of_companionFree hcompanion hentry List.mem_cons_self)
      · rw [← lowerChar_eq_self hcase (Or.inl hc)] at hc
        exact absurd hc (not_holds_of_companionFree hcompanion hentry (List.mem_cons_of_mem _ h))

theorem companionFree_classes : companionFree decimalRanges = true ∧ companionFree blankRanges = true := by
  decide

theorem eq_of_sameLetter_of_isDecimal {p c : Char} (h : sameLetter p c = true) (hc : isDecimal c = true) :
    p = c :=
  eq_of_sameLetter caseFree_classes.1 companionFree_classes.1 h (Or.inr (holds_of_isDecimal hc))

theorem eq_of_sameLetter_of_isBlank {p c : Char} (h : sameLetter p c = true) (hc : isBlank c = true) : p = c :=
  eq_of_sameLetter caseFree_classes.2 companionFree_classes.2 h (Or.inr (CodeRanges.holds_of_covers hc))

/-! ## Texts in lower case -/

def IsLower (t : Text) : Prop := ∀ c ∈ t, lowerChar c = c

instance (t : Text) : Decidable (IsLower t) := List.decidableBAll (fun c => lowerChar c = c) t

theorem IsLower.cons {c : Char} {t : Text} (hc : lowerChar c = c) (ht : IsLower t) :
    IsLower (c :: t) := List.forall_mem_cons.mpr ⟨hc, ht⟩

theorem IsLower.append {t u : Text} (ht : IsLower t) (hu : IsLower u) : IsLower (t ++ u) :=
  List.forall_mem_append.mpr ⟨ht, hu⟩

theorem isLower_of_isDecimal {t : Text} (h : ∀ c ∈ t, isDecimal c = true) : IsLower t :=
  fun c hc => lowerChar_of_isDecimal (h c hc)

theorem isLower_of_isBlank {t : Text} (h : ∀ c ∈ t, isBlank c = true) : IsLower t :=
  fun c hc => lowerChar_of_isBlank (h c hc)

@[simp] theorem lowerFrom_nil (before : Text) : lowerFrom before [] = [] := rfl

theorem lowerFrom_cons (before : Text) (c : Char) (t : Text) :
    lowerFrom before (c :: t) =
      (if c = 'Σ' then [if endsWord before t then 'ς' else 'σ']
        else if c = 'İ' then ['i', '\u0307']
        else [lowerChar c]) ++ lowerFrom (c :: before) t := rfl

theorem lowerFrom_cons_of_lowerChar {c : Char} (h : lowerChar c = c) (before t : Text) :
    lowerFrom before (c :: t) = c :: lowerFrom (c :: before) t := by
  have hcapital : lowerChar 'Σ' ≠ 'Σ' ∧ lowerChar 'İ' ≠ 'İ' := by decide
  have hsigma : c ≠ 'Σ' := by
    rintro rfl
    exact hcapital.1 h
  have hdotted : c ≠ 'İ' := by
    rintro rfl
    exact hcapital.2 h
  rw [lowerFrom_cons, if_neg hsigma, if_neg hdotted, h]
  rfl

theorem lowerFrom_of_isLower {t : Text} (h : IsLower t) (before : Text) : lowerFrom before t = t := by
  induction t generalizing before with
  | nil => rfl
  | cons c t ih =>
    obtain ⟨hc, ht⟩ := List.forall_mem_cons.mp h
    rw [lowerFrom_cons_of_lowerChar hc, ih ht]

theorem lower_of_isLower {t : Text} (h : IsLower t) : lower t = t := lowerFrom_of_isLower h []

end Text
end DateShorthand
