import DateShorthand.Proofs.Shortcut.Stages
import DateShorthand.Proofs.Shortcut.Tokens
import DateShorthand.Proofs.Shortcut.Written

/-!
# Rendered parts

The tokens of a text of parts are the parts, whatever its gaps, and they move an instant as the
parts do.
-/

namespace DateShorthand

/-! ## Plain localizations -/

/-- Keywords and twelve-hour markers are words of letters in lower case, and no keyword ends in a
marker. -/
structure Localization.IsPlain (l : Localization) : Prop where
  markers : TrailingTime.IsPlain l.markers
  keywords : ∀ unit ∈ CalendarUnit.all, ∀ k ∈ l.keywords unit, k ≠ [] ∧
    (∀ c ∈ k, Text.isLetter c = true ∧ Text.lowerChar c = c) ∧ ∀ w ∈ l.markers, ¬ w <:+ k

theorem Localization.isPlain_of_mem {l : Localization} {separator : Char} {order : FieldOrder}
    (h : (l, separator, order) ∈ layouts) : l.IsPlain := by
  simp only [layouts, List.mem_cons, Prod.mk.injEq, List.not_mem_nil, or_false] at h
  rcases h with ⟨rfl, -⟩ | ⟨rfl, -⟩ | ⟨rfl, -⟩ | ⟨rfl, -⟩
  all_goals exact ⟨by decide, by decide⟩

variable {l : Localization}

namespace Localization.IsPlain

variable {unit : CalendarUnit} {k : Text}

theorem ne_nil (h : l.IsPlain) (hk : k ∈ l.keywords unit) : k ≠ [] :=
  (h.keywords unit unit.mem_all k hk).1

theorem isLetter (h : l.IsPlain) (hk : k ∈ l.keywords unit) : ∀ c ∈ k, Text.isLetter c = true :=
  fun c hc => ((h.keywords unit unit.mem_all k hk).2.1 c hc).1

theorem isSolid (h : l.IsPlain) (hk : k ∈ l.keywords unit) : Text.IsSolid k :=
  fun c hc => Text.not_isBlank_of_isLetter (h.isLetter hk c hc)

theorem not_isDecimal (h : l.IsPlain) (hk : k ∈ l.keywords unit) : ∀ c ∈ k.head?, ¬ Text.isDecimal c = true :=
  fun c hc => Text.not_isDecimal_of_isLetter (h.isLetter hk c (List.mem_of_head? hc))

theorem isLower (h : l.IsPlain) (hk : k ∈ l.keywords unit) : Text.IsLower k :=
  fun c hc => ((h.keywords unit unit.mem_all k hk).2.1 c hc).2

theorem not_suffix (h : l.IsPlain) (hk : k ∈ l.keywords unit) : ∀ w ∈ l.markers, ¬ w <:+ k :=
  (h.keywords unit unit.mem_all k hk).2.2

end Localization.IsPlain

/-! ## Reading one part -/

namespace WrittenPart

theorem keyword_mem (p : WrittenPart l) : p.keyword ∈ l.keywords p.unit :=
  Localization.mem_of_firstUnit? p.firstUnit

theorem isWord (hplain : l.IsPlain) (p : WrittenPart l) : Part.IsWord p.sign p.digits p.keyword :=
  ⟨p.isSign, p.isDecimal, hplain.isLetter p.keyword_mem, hplain.ne_nil p.keyword_mem⟩

theorem parse_text (p : WrittenPart l) (hword : Part.IsWord p.sign p.digits p.keyword)
    (hlower : Text.IsLower p.keyword) : Part.parse p.text = .ok p.toPart := by
  rw [text, hword.parse, Part.magnitudeOf_eq p.isDecimal, if_neg (Nat.not_lt.mpr p.digits_le),
    Text.lower_of_isLower hlower]
  rfl

theorem unitOf?_keyword (p : WrittenPart l) (hlower : Text.IsLower p.keyword) :
    l.unitOf? p.keyword = some p.unit := by
  rw [Localization.unitOf?_eq, Text.lower_of_isLower hlower]
  exact p.firstUnit

theorem step_text (hplain : l.IsPlain) (p : WrittenPart l) (i : Instant) :
    Part.step l i p.text = (p.apply i).map fun moved => (moved, p.toPart, p.unit) := by
  have hlower := hplain.isLower p.keyword_mem
  have hunit : l.unitOf? p.toPart.keyword = some p.unit := p.unitOf?_keyword hlower
  unfold Part.step
  simp only [p.parse_text (p.isWord hplain) hlower, hunit, bind, Except.bind]
  rfl

theorem applyTokens_text (hplain : l.IsPlain) (parts : List (WrittenPart l)) (i : Instant) :
    Part.applyTokens l i (parts.map text) = parts.foldlM (fun i p => p.apply i) i := by
  induction parts generalizing i with
  | nil => rfl
  | cons p parts ih =>
    rw [List.map_cons, Part.applyTokens, step_text hplain, List.foldlM_cons]
    cases p.apply i with
    | error => rfl
    | ok moved => exact ih moved

end WrittenPart

/-! ## Cutting -/

namespace Tokens

theorem not_isSign_of_isBlank {c : Char} (h : Text.isBlank c = true) : ¬ isSign c = true := by
  intro hsign
  simp only [isSign, Bool.or_eq_true, beq_iff_eq] at hsign
  rcases hsign with rfl | rfl <;> exact absurd h (by decide)

theorem spaced_append (t u : Text) : spaced (t ++ u) = spaced t ++ spaced u := List.flatMap_append

theorem spaced_cons_of_isSign {c : Char} {t : Text} (h : isSign c = true) :
    spaced (c :: t) = ' ' :: c :: spaced t := by
  simp [spaced, h]

theorem spaced_cons_of_not_isSign {c : Char} {t : Text} (h : ¬ isSign c = true) :
    spaced (c :: t) = c :: spaced t := by
  simp [spaced, h]

theorem spaced_of_forall {t : Text} (h : ∀ c ∈ t, ¬ isSign c = true) : spaced t = t := by
  induction t with
  | nil => rfl
  | cons c t ih =>
    obtain ⟨hc, ht⟩ := List.forall_mem_cons.mp h
    rw [spaced_cons_of_not_isSign hc, ih ht]

theorem spaced_of_isGap {gap : Text} (h : Text.IsGap gap) : spaced gap = gap :=
  spaced_of_forall fun c hc => not_isSign_of_isBlank (h c hc)

/-- A sign never begins the spaced text: a blank stands before it. -/
theorem mem_head?_spaced {t : Text} {c : Char} (hc : c ∈ (spaced t).head?) :
    c = ' ' ∨ c ∈ t.head? ∧ ¬ isSign c = true := by
  cases t with
  | nil => simp [spaced] at hc
  | cons d t =>
    by_cases hd : isSign d = true
    · rw [spaced_cons_of_isSign hd, List.head?_cons, Option.mem_some_iff] at hc
      exact .inl hc.symm
    · rw [spaced_cons_of_not_isSign hd, List.head?_cons, Option.mem_some_iff] at hc
      exact .inr ⟨congrArg some hc, hc ▸ hd⟩

theorem head?_spaced {t : Text} (h : ∀ c ∈ t.head?, Text.isBlank c = true ∨ isSign c = true) :
    ∀ c ∈ (spaced t).head?, Text.isBlank c = true := by
  intro c hc
  rcases mem_head?_spaced hc with rfl | ⟨hmem, hsign⟩
  · decide
  · exact (h c hmem).resolve_right hsign

/-- The gap at the head of a text does not show in its tokens. -/
theorem ofText_trimStart (t : Text) : ofText (Text.trimStart t) = ofText t := by
  have ht : t = t.takeWhile Text.isBlank ++ Text.trimStart t := List.takeWhile_append_dropWhile.symm
  have hgap : Text.IsGap (t.takeWhile Text.isBlank) :=
    fun c hc => List.all_eq_true.mp List.all_takeWhile c hc
  conv_rhs => rw [ht, ofText, spaced_append, spaced_of_isGap hgap, Text.words_gap_append hgap]
  rfl

theorem isLoneSign_of_forall {w : Text} (h : ∀ c ∈ w, ¬ isSign c = true) : isLoneSign w = false := by
  match w with
  | [] => rfl
  | [c] => simpa [isLoneSign] using h c List.mem_cons_self
  | _ :: _ :: _ => rfl

theorem isLoneSign_cons {c : Char} {t : Text} (h : t ≠ []) : isLoneSign (c :: t) = false := by
  cases t with
  | nil => exact absurd rfl h
  | cons => rfl

theorem glue_cons {w : Text} {words : List Text} (h : isLoneSign w = false) :
    glue (w :: words) = (glue words).map (w :: ·) := by
  cases words with
  | nil => simp [glue, h, Except.map]
  | cons => simp [glue, h]

theorem glue_sign {c : Char} {w : Text} {words : List Text} (h : isSign c = true) :
    glue ([c] :: w :: words) = (glue words).map ((c :: w) :: ·) := by
  simp [glue, isLoneSign, h]

section

variable {gap inner body rest : Text} {tokens : List Text} {c : Char}

theorem ofText_unsigned (hgap : Text.IsGap gap) (hne : body ≠ [])
    (hbody : ∀ c ∈ body, ¬ isSign c = true ∧ ¬ Text.isBlank c = true)
    (hrest : ∀ c ∈ rest.head?, Text.isBlank c = true ∨ isSign c = true)
    (h : ofText rest = .ok tokens) : ofText (gap ++ (body ++ rest)) = .ok (body :: tokens) := by
  unfold ofText at h ⊢
  rw [spaced_append, spaced_append, spaced_of_isGap hgap, spaced_of_forall fun c hc => (hbody c hc).1,
    Text.words_gap_append hgap, Text.words_append hne (fun c hc => (hbody c hc).2) (head?_spaced hrest),
    glue_cons (isLoneSign_of_forall fun c hc => (hbody c hc).1), h]
  rfl

theorem ofText_signed (hsign : isSign c = true) (hgap : Text.IsGap gap) (hinner : Text.IsGap inner)
    (hne : body ≠ []) (hbody : ∀ c ∈ body, ¬ isSign c = true ∧ ¬ Text.isBlank c = true)
    (hrest : ∀ c ∈ rest.head?, Text.isBlank c = true ∨ isSign c = true)
    (h : ofText rest = .ok tokens) :
    ofText (gap ++ c :: (inner ++ (body ++ rest))) = .ok ((c :: body) :: tokens) := by
  have hblank : ¬ Text.isBlank c = true := fun h => not_isSign_of_isBlank h hsign
  have hsolid : Text.IsSolid body := fun d hd => (hbody d hd).2
  have hspaced : spaced (c :: (inner ++ (body ++ rest))) = ' ' :: c :: (inner ++ (body ++ spaced rest)) := by
    rw [spaced_cons_of_isSign hsign, spaced_append, spaced_append, spaced_of_isGap hinner,
      spaced_of_forall fun d hd => (hbody d hd).1]
  unfold ofText at h ⊢
  rw [spaced_append, spaced_of_isGap hgap, hspaced, Text.words_gap_append hgap,
    Text.words_cons_of_isBlank (by decide)]
  -- the sign is a word by itself only if a gap follows it
  by_cases hempty : inner = []
  · have hword : Text.IsSolid (c :: body) := List.forall_mem_cons.mpr ⟨hblank, hsolid⟩
    rw [hempty, List.nil_append, ← List.cons_append,
      Text.words_append (List.cons_ne_nil _ _) hword (head?_spaced hrest),
      glue_cons (isLoneSign_cons hne), h]
    rfl
  · have hhead : ∀ d ∈ (inner ++ (body ++ spaced rest)).head?, Text.isBlank d = true := by
      intro d hd
      rw [List.head?_append_of_ne_nil _ hempty] at hd
      exact hinner d (List.mem_of_head? hd)
    rw [← List.singleton_append, Text.words_append (List.cons_ne_nil _ _)
      (by simpa [Text.IsSolid] using hblank) hhead, Text.words_gap_append hinner,
      Text.words_append hne hsolid (head?_spaced hrest), glue_sign hsign, h]
    rfl

end

end Tokens

namespace RendersParts

variable {follows : Bool} {parts : List (WrittenPart l)} {t : Text}

theorem head (h : RendersParts true parts t) :
    ∀ c ∈ t.head?, Text.isBlank c = true ∨ Tokens.isSign c = true := by
  intro d hd
  cases h with
  | nil => simp at hd
  | @signed _ p rest gap inner t c hsign hgap _ _ _ =>
    cases gap with
    | nil =>
      rw [List.nil_append, List.head?_cons, Option.mem_some_iff] at hd
      exact Or.inr (hd ▸ p.isSign c hsign)
    | cons e gap =>
      rw [List.cons_append, List.head?_cons, Option.mem_some_iff] at hd
      exact Or.inl (hd ▸ hgap e List.mem_cons_self)
  | @unsigned _ p rest gap t _ hgap hfirst _ =>
    obtain ⟨e, gap, rfl⟩ := List.exists_cons_of_ne_nil (mt hfirst.mpr (by simp))
    rw [List.cons_append, List.head?_cons, Option.mem_some_iff] at hd
    exact Or.inl (hd ▸ hgap e List.mem_cons_self)

theorem head_append {gap : Text} (h : RendersParts true parts t) (hgap : Text.IsGap gap) :
    ∀ c ∈ (t ++ gap).head?, Text.isBlank c = true ∨ Tokens.isSign c = true := by
  intro c hc
  cases t with
  | nil => exact Or.inl (hgap c (List.mem_of_head? hc))
  | cons d t => exact h.head c hc

theorem ofText (hplain : l.IsPlain) {gap : Text} (h : RendersParts follows parts t)
    (hgap : Text.IsGap gap) : Tokens.ofText (t ++ gap) = .ok (parts.map WrittenPart.text) := by
  induction h with
  | nil =>
    rw [List.nil_append, Tokens.ofText, Tokens.spaced_of_isGap hgap, Text.words_of_isGap hgap]
    rfl
  | @signed _ p rest gap₁ inner t c hsign hgap₁ hinner _ ht ih =>
    have htext : p.text = c :: (p.digits ++ p.keyword) := by simp [WrittenPart.text, hsign]
    have := Tokens.ofText_signed (p.isSign c hsign) hgap₁ hinner (p.isWord hplain).body_ne_nil
      (p.isWord hplain).body (ht.head_append hgap) ih
    simpa only [List.append_assoc, List.cons_append, List.map_cons, htext] using this
  | @unsigned _ p rest gap₁ t hsign hgap₁ _ ht ih =>
    have htext : p.text = p.digits ++ p.keyword := by simp [WrittenPart.text, hsign]
    have := Tokens.ofText_unsigned hgap₁ (p.isWord hplain).body_ne_nil (p.isWord hplain).body
      (ht.head_append hgap) ih
    simpa only [List.append_assoc, List.map_cons, htext] using this

end RendersParts

/-! ## Characters -/

theorem Tokens.lowerChar_of_isSign {c : Char} (h : isSign c = true) : Text.lowerChar c = c := by
  simp only [isSign, Bool.or_eq_true, beq_iff_eq] at h
  rcases h with rfl | rfl <;> decide

theorem Tokens.not_isLetter_of_isSign {c : Char} (h : isSign c = true) : ¬ Text.isLetter c = true :=
  fun hletter => Part.not_isSign_of_isLetter hletter h

theorem RendersParts.isLower (hplain : l.IsPlain) {follows : Bool} {parts : List (WrittenPart l)}
    {t : Text} (h : RendersParts follows parts t) : Text.IsLower t := by
  induction h with
  | nil => simp [Text.IsLower]
  | @signed _ p rest gap inner t c hsign hgap hinner _ _ ih =>
    have hword := (Text.isLower_of_isDecimal p.isDecimal).append
      ((hplain.isLower p.keyword_mem).append ih)
    exact (Text.isLower_of_isBlank hgap).append
      (.cons (Tokens.lowerChar_of_isSign (p.isSign c hsign)) ((Text.isLower_of_isBlank hinner).append hword))
  | @unsigned _ p rest gap t _ hgap _ _ ih =>
    have hword := (Text.isLower_of_isDecimal p.isDecimal).append
      ((hplain.isLower p.keyword_mem).append ih)
    exact (Text.isLower_of_isBlank hgap).append hword

/-- The text ends in a keyword, and not in the middle of a word. -/
def Localization.EndsInKeyword (l : Localization) (t : Text) : Prop :=
  ∃ before k unit, t = before ++ k ∧ k ∈ l.keywords unit ∧
    ∀ c ∈ before.getLast?, ¬ Text.isLetter c = true

namespace Localization.EndsInKeyword

variable {t : Text}

theorem exists_letter (h : l.EndsInKeyword t) (hplain : l.IsPlain) :
    ∃ c ∈ t.getLast?, Text.isLetter c = true := by
  obtain ⟨before, k, unit, rfl, hk, -⟩ := h
  have hne := hplain.ne_nil hk
  refine ⟨k.getLast hne, ?_, hplain.isLetter hk _ (List.getLast_mem hne)⟩
  rw [List.getLast?_append, List.getLast?_eq_some_getLast hne]
  rfl

/-- No marker at the end of the text reaches back into its last keyword, or beyond it. -/
theorem not_suffix (h : l.EndsInKeyword t) (hplain : l.IsPlain) : ∀ w ∈ l.markers, ¬ w <:+ t := by
  obtain ⟨before, k, unit, rfl, hk, hbefore⟩ := h
  intro w hw hsuffix
  rcases List.suffix_or_suffix_of_suffix hsuffix (List.suffix_append before k) with hle | ⟨u, rfl⟩
  · exact hplain.not_suffix hk w hw hle
  · have hu : u <:+ before := by
      obtain ⟨v, hv⟩ := hsuffix
      rw [← List.append_assoc] at hv
      exact ⟨v, List.append_cancel_right hv⟩
    rcases List.eq_nil_or_concat u with rfl | ⟨v, d, rfl⟩
    · exact hplain.not_suffix hk _ hw List.suffix_rfl
    · obtain ⟨x, rfl⟩ := hu
      refine hbefore d (by simp) ((hplain.markers _ hw).2 d (by simp)).1

theorem find?_eq_none (h : l.EndsInKeyword t) (hplain : l.IsPlain) (hlower : Text.IsLower t) :
    TrailingTime.find? l t = none := by
  obtain ⟨c, hc, hletter⟩ := h.exists_letter hplain
  exact TrailingTime.find?_eq_none_of_last hplain.markers hlower hc
    (Text.not_isBlank_of_isLetter hletter) (Text.not_isDecimal_of_isLetter hletter)
    (h.not_suffix hplain)

end Localization.EndsInKeyword

theorem not_isLetter_of_mem {gap digits : Text} (hgap : Text.IsGap gap)
    (hdigits : ∀ c ∈ digits, Text.isDecimal c = true) {c : Char} (hc : c ∈ gap ++ digits) :
    ¬ Text.isLetter c = true := by
  intro hletter
  rcases List.mem_append.mp hc with hc | hc
  · exact Text.not_isBlank_of_isLetter hletter (hgap c hc)
  · exact Text.not_isDecimal_of_isLetter hletter (hdigits c hc)

theorem RendersParts.endsInKeyword {follows : Bool} {parts : List (WrittenPart l)} {t u : Text}
    (h : RendersParts follows parts t) (hne : parts ≠ []) (hu : follows = false → u = []) :
    l.EndsInKeyword (u ++ t) := by
  induction h generalizing u with
  | nil => exact absurd rfl hne
  | @signed _ p rest gap inner t c hsign hgap hinner _ ht ih =>
    by_cases hrest : rest = []
    · subst hrest
      cases ht
      refine ⟨u ++ (gap ++ c :: (inner ++ p.digits)), p.keyword, p.unit, by simp, p.keyword_mem, ?_⟩
      intro d hd
      rw [← List.append_assoc] at hd
      rcases Text.mem_getLast?_append hd with ⟨hnil, -⟩ | hlast
      · simp at hnil
      · rcases List.mem_cons.mp (List.mem_of_getLast? hlast) with rfl | hmem
        · exact Tokens.not_isLetter_of_isSign (p.isSign d hsign)
        · exact not_isLetter_of_mem hinner p.isDecimal hmem
    · have := ih (u := u ++ (gap ++ c :: (inner ++ (p.digits ++ p.keyword)))) hrest (by simp)
      simpa only [List.append_assoc, List.cons_append] using this
  | @unsigned _ p rest gap t _ hgap hfirst ht ih =>
    by_cases hrest : rest = []
    · subst hrest
      cases ht
      refine ⟨u ++ (gap ++ p.digits), p.keyword, p.unit, by simp, p.keyword_mem, ?_⟩
      intro d hd
      rcases Text.mem_getLast?_append hd with ⟨hnil, hlast⟩ | hlast
      · rw [hu (hfirst.mpr (List.append_eq_nil_iff.mp hnil).1)] at hlast
        simp at hlast
      · exact not_isLetter_of_mem hgap p.isDecimal (List.mem_of_getLast? hlast)
    · have := ih (u := u ++ (gap ++ (p.digits ++ p.keyword))) hrest (by simp)
      simpa only [List.append_assoc] using this

theorem RendersParts.last (hplain : l.IsPlain) {follows : Bool} {parts : List (WrittenPart l)}
    {t : Text} (h : RendersParts follows parts t) : ∀ c ∈ t.getLast?, Text.isLetter c = true := by
  intro c hc
  by_cases hparts : parts = []
  · subst hparts
    cases h
    simp at hc
  · obtain ⟨d, hd, hletter⟩ := (h.endsInKeyword (u := []) hparts fun _ => rfl).exists_letter hplain
    rwa [Option.mem_unique hc hd]

end DateShorthand
