import DateShorthand.Proofs.Outcome
import DateShorthand.Proofs.Text.Numeral

/-!
# Digits of every script

Every decimal digit has a counterpart of the same value in ASCII. Texts are trimmed, cut and put in lower
case at the same places when each digit gives way to its counterpart, and numerals keep their value.
-/

namespace DateShorthand

namespace Text

/-! ## Counterparts -/

/-- The ASCII digit of the same value. Every other character stays. -/
def plainDigit (c : Char) : Char :=
  match digitValue? c with
  | some v => Nat.digitChar v
  | none => c

example : ("٣/１٤ Ⅳ" : Text).map plainDigit = "3/14 Ⅳ" := by decide

theorem plainDigit_of_not_isDecimal {c : Char} (h : ¬ isDecimal c = true) : plainDigit c = c := by
  unfold isDecimal at h
  unfold plainDigit
  rw [Option.not_isSome_iff_eq_none.mp h]

@[simp] theorem digitValue?_plainDigit (c : Char) : digitValue? (plainDigit c) = digitValue? c := by
  have hplain : ∀ v < 10, digitValue? (Nat.digitChar v) = some v := by decide
  unfold plainDigit
  cases h : digitValue? c with
  | none => exact h
  | some v => exact hplain v (digitAfter_eq_some h).1

@[simp] theorem isDecimal_plainDigit (c : Char) : isDecimal (plainDigit c) = isDecimal c := by
  rw [isDecimal, isDecimal, digitValue?_plainDigit]

/-- What is said of all decimal digits alike is said of a digit and of its counterpart. -/
theorem eq_plainDigit_of_decimals {α : Type} {g : Char → α} {a : α} (h : ∀ c, isDecimal c = true → g c = a)
    (c : Char) : g (plainDigit c) = g c := by
  by_cases hc : isDecimal c = true
  · rw [h c hc, h _ (isDecimal_plainDigit c ▸ hc)]
  · rw [plainDigit_of_not_isDecimal hc]

theorem plainDigit_eq_iff {c d : Char} (hd : ¬ isDecimal d = true) : plainDigit c = d ↔ c = d := by
  by_cases hc : isDecimal c = true
  · have hplain : isDecimal (plainDigit c) = true := isDecimal_plainDigit c ▸ hc
    constructor
    · rintro rfl
      exact absurd hplain hd
    · rintro rfl
      exact absurd hc hd
  · rw [plainDigit_of_not_isDecimal hc]

theorem beq_plainDigit {d : Char} (hd : ¬ isDecimal d = true) (c : Char) : (plainDigit c == d) = (c == d) := by
  rw [Bool.eq_iff_iff, beq_iff_eq, beq_iff_eq, plainDigit_eq_iff hd]

/-! ## Texts that differ in the scripts of their digits -/

/-- The same character, or two decimal digits of the same value. -/
def IsSameOrDigit (c d : Char) : Prop := c = d ∨ isDecimal c = true ∧ digitValue? c = digitValue? d

/-- The texts differ at most in the scripts of their decimal digits. -/
def EqUpToScript (t u : Text) : Prop := List.Forall₂ IsSameOrDigit t u

instance (c d : Char) : Decidable (IsSameOrDigit c d) :=
  inferInstanceAs (Decidable (c = d ∨ isDecimal c = true ∧ digitValue? c = digitValue? d))

instance (t u : Text) : Decidable (EqUpToScript t u) :=
  inferInstanceAs (Decidable (List.Forall₂ IsSameOrDigit t u))

theorem EqUpToScript.map_eq {t u : Text} (h : EqUpToScript t u) : t.map plainDigit = u.map plainDigit := by
  have hchar : ∀ c d, IsSameOrDigit c d → plainDigit c = plainDigit d := by
    rintro c d (rfl | ⟨hc, hvalue⟩)
    · rfl
    · obtain ⟨v, hv⟩ := Option.isSome_iff_exists.mp hc
      simp only [plainDigit, ← hvalue, hv]
  induction h with
  | nil => rfl
  | cons hcd _ ih => rw [List.map_cons, List.map_cons, hchar _ _ hcd, ih]

/-! ## Classes of characters -/

theorem covers_plainDigit {ranges : CodeRanges} (h : CodeRanges.apart decimalRanges ranges = true) (c : Char) :
    ranges.covers (plainDigit c).toNat = ranges.covers c.toNat := by
  refine eq_plainDigit_of_decimals (g := fun c => ranges.covers c.toNat) (a := false) (fun c hc => ?_) c
  rw [Bool.eq_false_iff]
  intro hcovers
  exact CodeRanges.not_holds_of_apart h (holds_of_isDecimal hc) (CodeRanges.holds_of_covers hcovers)

@[simp] theorem isBlank_plainDigit (c : Char) : isBlank (plainDigit c) = isBlank c :=
  covers_plainDigit classes_apart.2.2 c

@[simp] theorem isLetter_plainDigit (c : Char) : isLetter (plainDigit c) = isLetter c :=
  covers_plainDigit classes_apart.1 c

@[simp] theorem isWordChar_plainDigit (c : Char) : isWordChar (plainDigit c) = isWordChar c := by
  refine eq_plainDigit_of_decimals (a := true) (fun c hc => ?_) c
  simp [isWordChar, hc]

@[simp] theorem isNumeralBlank_plainDigit (c : Char) : isNumeralBlank (plainDigit c) = isNumeralBlank c := by
  refine eq_plainDigit_of_decimals (a := false) (fun c hc => ?_) c
  simp [isNumeralBlank, not_isBlank_of_isDecimal hc]

set_option maxRecDepth 5000 in
/-- A digit has no case, and a search for the end of a word does not skip it. -/
theorem decimals_apart_cased : CodeRanges.apart decimalRanges casedRanges = true ∧
    CodeRanges.apart decimalRanges caseIgnorableRanges = true := by decide

theorem sameLetter_plainDigit {p : Char} (hp : ¬ isDecimal p = true) (c : Char) :
    sameLetter p (plainDigit c) = sameLetter p c := by
  refine eq_plainDigit_of_decimals (a := false) (fun c hc => ?_) c
  rw [Bool.eq_false_iff]
  exact fun hsame => hp (eq_of_sameLetter_of_isDecimal hsame hc ▸ hc)

theorem lowerChar_plainDigit (c : Char) : lowerChar (plainDigit c) = plainDigit (lowerChar c) := by
  by_cases hc : isDecimal c = true
  · rw [lowerChar_of_isDecimal hc, lowerChar_of_isDecimal (isDecimal_plainDigit c ▸ hc)]
  · have hlower : ¬ isDecimal (lowerChar c) = true := by
      intro h
      rw [lowerChar_eq_self caseFree_classes.1 (Or.inr (holds_of_isDecimal h))] at h
      exact hc h
    rw [plainDigit_of_not_isDecimal hc, plainDigit_of_not_isDecimal hlower]

/-! ## Cutting -/

variable {t u : Text}

theorem dropWhile_map_plainDigit {p : Char → Bool} (hp : ∀ c, p (plainDigit c) = p c) (t : Text) :
    (t.map plainDigit).dropWhile p = (t.dropWhile p).map plainDigit := by
  rw [List.dropWhile_map]
  exact congrArg (fun p => (t.dropWhile p).map plainDigit) (funext hp)

theorem takeWhile_map_plainDigit {p : Char → Bool} (hp : ∀ c, p (plainDigit c) = p c) (t : Text) :
    (t.map plainDigit).takeWhile p = (t.takeWhile p).map plainDigit := by
  rw [List.takeWhile_map]
  exact congrArg (fun p => (t.takeWhile p).map plainDigit) (funext hp)

@[simp] theorem trimStart_map (t : Text) : trimStart (t.map plainDigit) = (trimStart t).map plainDigit :=
  dropWhile_map_plainDigit isBlank_plainDigit t

@[simp] theorem trim_map (t : Text) : trim (t.map plainDigit) = (trim t).map plainDigit := by
  unfold trim trimEnd
  rw [trimStart_map, ← List.map_reverse, dropWhile_map_plainDigit isBlank_plainDigit, List.map_reverse]

@[simp] theorem words_map (t : Text) : words (t.map plainDigit) = (words t).map (·.map plainDigit) := by
  induction t with
  | nil => rfl
  | cons c rest ih =>
    rw [List.map_cons, words_cons, words_cons, isBlank_plainDigit, List.head?_map, ih]
    split
    · rfl
    · cases rest.head? <;> cases words rest <;> simp [isBlank_plainDigit, apply_ite (List.map _)]

/-- A text without digits is the same in every script. -/
theorem map_plainDigit_eq_iff (hu : ∀ c ∈ u, ¬ isDecimal c = true) : t.map plainDigit = u ↔ t = u := by
  induction u generalizing t with
  | nil => simp
  | cons d u ih =>
    obtain ⟨hd, hu⟩ := List.forall_mem_cons.mp hu
    cases t with
    | nil => simp
    | cons c t => simp [plainDigit_eq_iff hd, ih hu]

theorem getLast?_map_eq_some_iff {d : Char} (hd : ¬ isDecimal d = true) (t : Text) :
    (t.map plainDigit).getLast? = some d ↔ t.getLast? = some d := by
  rw [List.getLast?_map]
  cases t.getLast? with
  | none => simp
  | some c => simp [plainDigit_eq_iff hd]

theorem contains_map {ts : List Text} (h : ∀ u ∈ ts, ∀ c ∈ u, ¬ isDecimal c = true) (t : Text) :
    ts.contains (t.map plainDigit) = ts.contains t := by
  rw [Bool.eq_iff_iff, List.contains_iff_mem, List.contains_iff_mem]
  constructor
  · intro hmem
    rwa [← (map_plainDigit_eq_iff (h _ hmem)).mp rfl] at hmem
  · intro hmem
    rwa [(map_plainDigit_eq_iff (h _ hmem)).mpr rfl]

theorem isPrefixOf_map (hu : ∀ c ∈ u, ¬ isDecimal c = true) (t : Text) :
    u.isPrefixOf (t.map plainDigit) = u.isPrefixOf t := by
  induction u generalizing t with
  | nil => rfl
  | cons d u ih =>
    obtain ⟨hd, hu⟩ := List.forall_mem_cons.mp hu
    cases t with
    | nil => rfl
    | cons c t =>
      rw [List.map_cons, List.isPrefixOf_cons_cons, List.isPrefixOf_cons_cons, ih hu, BEq.comm,
        beq_plainDigit hd, BEq.comm]

/-! ## Lower case -/

@[simp] theorem meetsCased_map (t : Text) : meetsCased (t.map plainDigit) = meetsCased t := by
  have hignorable : ∀ c, isCaseIgnorable (plainDigit c) = isCaseIgnorable c :=
    covers_plainDigit decimals_apart_cased.2
  have hcased : ∀ c, isCased (plainDigit c) = isCased c := covers_plainDigit decimals_apart_cased.1
  unfold meetsCased
  rw [dropWhile_map_plainDigit hignorable, List.head?_map]
  cases (t.dropWhile isCaseIgnorable).head? with
  | none => rfl
  | some c => exact hcased c

theorem lowerFrom_map (before t : Text) :
    lowerFrom (before.map plainDigit) (t.map plainDigit) = (lowerFrom before t).map plainDigit := by
  have hends : ∀ t u : Text, endsWord (t.map plainDigit) (u.map plainDigit) = endsWord t u := by
    intro t u
    simp [endsWord]
  have hsigma : ∀ c, plainDigit c = 'Σ' ↔ c = 'Σ' := fun c => plainDigit_eq_iff (by decide)
  have hdotted : ∀ c, plainDigit c = 'İ' ↔ c = 'İ' := fun c => plainDigit_eq_iff (by decide)
  have hletters : (['ς', 'σ', 'i', '\u0307'] : Text).map plainDigit = ['ς', 'σ', 'i', '\u0307'] := by decide
  induction t generalizing before with
  | nil => rfl
  | cons c t ih =>
    have hrest := ih (c :: before)
    rw [List.map_cons] at hrest
    rw [List.map_cons, lowerFrom_cons, lowerFrom_cons, hrest, hends]
    simp only [hsigma, hdotted, List.map_append]
    simp only [List.map_cons, List.cons.injEq] at hletters
    split
    · split <;> simp [hletters]
    · split <;> simp [hletters, lowerChar_plainDigit]

@[simp] theorem lower_map (t : Text) : lower (t.map plainDigit) = (lower t).map plainDigit := lowerFrom_map [] t

@[simp] theorem normalize_map (t : Text) : normalize (t.map plainDigit) = (normalize t).map plainDigit := by
  simp [normalize]

/-! ## Numerals -/

theorem splitSign_map (t : Text) :
    splitSign (t.map plainDigit) = ((splitSign t).1, (splitSign t).2.map plainDigit) := by
  have hminus : ∀ c, plainDigit c = '-' ↔ c = '-' := fun c => plainDigit_eq_iff (by decide)
  have hplus : ∀ c, plainDigit c = '+' ↔ c = '+' := fun c => plainDigit_eq_iff (by decide)
  cases t with
  | nil => rfl
  | cons c t =>
    by_cases hc : c = '-'
    · subst hc
      rfl
    · by_cases hc' : c = '+'
      · subst hc'
        rfl
      · rw [splitSign_of_head? (t := c :: t) (by simp [hc, hc'])]
        exact splitSign_of_head? (by simp [hminus, hplus, hc, hc'])

@[simp] theorem digitsOf?_map (t : Text) : digitsOf? (t.map plainDigit) = digitsOf? t := by
  have hunderscore : ∀ c, plainDigit c = '_' ↔ c = '_' := fun c => plainDigit_eq_iff (by decide)
  fun_induction digitsOf? t with
  | case1 => rfl
  | case2 c => simp [digitsOf?]
  | case3 c rest ih =>
    rw [List.map_cons, List.map_cons, (hunderscore '_').mpr rfl, digitsOf?, digitValue?_plainDigit, ih]
  | case4 c rest hne hnot ih =>
    have hne' : rest.map plainDigit ≠ [] := by simpa using hne
    have hnot' : ∀ rest', rest.map plainDigit ≠ '_' :: rest' := by
      intro rest' heq
      obtain ⟨d, more, rfl, hd, -⟩ := List.map_eq_cons_iff.mp heq
      exact hnot more (by rw [(hunderscore d).mp hd])
    rw [List.map_cons, digitsOf?, digitValue?_plainDigit, ih]
    · exact hne'
    · exact hnot'

end Text

/-- The fault as it quotes a text in plain digits. -/
def NumberFault.inPlainDigits : NumberFault → NumberFault
  | .notDecimal t => .notDecimal (t.map Text.plainDigit)
  | f => f

theorem Text.toInt_map (t : Text) :
    toInt (t.map plainDigit) = t.toInt.mapError NumberFault.inPlainDigits := by
  unfold toInt
  rw [dropWhile_map_plainDigit isNumeralBlank_plainDigit, ← List.map_reverse,
    dropWhile_map_plainDigit isNumeralBlank_plainDigit, ← List.map_reverse]
  simp only [splitSign_map, digitsOf?_map]
  split
  · rfl
  · split <;> rfl

@[simp] theorem TrailingTime.numberOf_map (t : Text) : numberOf (t.map Text.plainDigit) = numberOf t := by
  unfold numberOf
  rw [List.filterMap_map]
  exact congrArg (fun value => Text.ofDigits (t.filterMap value)) (funext Text.digitValue?_plainDigit)

end DateShorthand
