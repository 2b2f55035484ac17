import DateShorthand.Proofs.Regex.Literal
import DateShorthand.Proofs.Text.Numeral

/-!
# Times at the end

A match of the time pattern runs from a gap, or from the start, to the end of the text. It holds no
digit after a blank but those that follow its first gap, so no other match can begin before it.
-/

namespace DateShorthand

open Regex

namespace TrailingTime

/-! ## Twelve-hour markers -/

/-- Words of letters in lower case, none of which has another letter in its place. -/
def IsPlain (markers : List Text) : Prop :=
  ∀ w ∈ markers, w ≠ [] ∧ ∀ c ∈ w, Text.isLetter c = true ∧ Text.lowerChar c = c ∧
    Text.companions.lookup c.toNat = none

instance (markers : List Text) : Decidable (IsPlain markers) := by
  unfold IsPlain
  infer_instance

theorem eq_of_sameText {w u : Text}
    (hw : ∀ c ∈ w, Text.lowerChar c = c ∧ Text.companions.lookup c.toNat = none)
    (hu : Text.IsLower u) (h : SameText w u) : u = w := by
  induction h with
  | nil => rfl
  | @cons c d w u hsame h ih =>
    obtain ⟨hself, hlookup⟩ := hw c List.mem_cons_self
    have hd : Text.lowerChar d = d := hu d List.mem_cons_self
    simp only [Text.sameLetter, hself, hd, hlookup, Option.getD_none, Bool.or_eq_true, beq_iff_eq,
      List.contains_nil, Bool.false_eq_true, or_false] at hsame
    rw [hsame, ih (fun e he => hw e (List.mem_cons_of_mem _ he))
      fun e he => hu e (List.mem_cons_of_mem _ he)]

theorem IsPlain.isSolid {markers : List Text} (h : IsPlain markers) {w : Text} (hw : w ∈ markers) :
    Text.IsSolid w := fun c hc => Text.not_isBlank_of_isLetter ((h w hw).2 c hc).1

/-! ## What a match covers -/

/-- Digits and colons, with a digit at either end. -/
structure IsReading (t : Text) : Prop where
  head : ∃ c ∈ t.head?, Text.isDecimal c = true
  last : ∃ c ∈ t.getLast?, Text.isDecimal c = true
  chars : ∀ c ∈ t, Text.isDecimal c = true ∨ c = ':'

theorem IsReading.of_isDigits {t : Text} (h : t.IsDigits) : IsReading t := by
  refine ⟨?_, ?_, fun c hc => Or.inl (h.decimal c hc)⟩
  · exact ⟨t.head h.ne_nil, List.head?_eq_some_head h.ne_nil, h.decimal _ (List.head_mem h.ne_nil)⟩
  · exact ⟨t.getLast h.ne_nil, List.getLast?_eq_some_getLast h.ne_nil,
      h.decimal _ (List.getLast_mem h.ne_nil)⟩

theorem IsReading.append_field {t f : Text} (h : IsReading t) (hf : f.IsDigits) :
    IsReading (t ++ ':' :: f) := by
  obtain ⟨c, hc, hdecimal⟩ := h.head
  obtain ⟨d, hd, hdecimal'⟩ := (IsReading.of_isDigits hf).last
  refine ⟨⟨c, by rw [List.head?_append, hc]; rfl, hdecimal⟩, ⟨d, ?_, hdecimal'⟩, ?_⟩
  · rw [List.getLast?_append, List.getLast?_cons, hd]
    rfl
  · intro e he
    rcases List.mem_append.mp he with he | he
    · exact h.chars e he
    · rcases List.mem_cons.mp he with rfl | he
      · exact Or.inr rfl
      · exact Or.inl (hf.decimal e he)

theorem IsReading.isSolid {t : Text} (h : IsReading t) : Text.IsSolid t := by
  intro c hc
  rcases h.chars c hc with hdecimal | rfl
  · exact Text.not_isBlank_of_isDecimal hdecimal
  · decide

theorem eq_colon {c : Char} (h : charHolds true ':' c = true) : c = ':' :=
  (Text.eq_of_sameLetter (show Text.caseFree [(0x3a, 0x3a)] = true by decide)
    (by decide) h (Or.inl ⟨_, List.mem_singleton_self _, by decide, by decide⟩)).symm

variable {s t : State} {index : Nat} {markers : List Text}

/-- A colon and two digits, or nothing. -/
def IsField (u : Text) : Prop := u = [] ∨ ∃ f, Text.IsDigits f ∧ f.length = 2 ∧ u = ':' :: f

theorem mem_outcomes_sexagesimal (h : t ∈ outcomes true (sexagesimal index) s) :
    ∃ u, s.cursor.ahead = u ++ t.cursor.ahead ∧ IsField u := by
  rw [sexagesimal, outcomes_optional, List.mem_append, List.mem_singleton] at h
  rcases h with h | rfl
  · simp only [outcomes_ofList_cons, outcomes_ofList_nil, List.mem_flatMap, List.mem_singleton] at h
    obtain ⟨s₁, hcolon, s₂, hfield, rfl⟩ := h
    obtain ⟨c, rest, hc, hholds, rfl⟩ := mem_outcomes_char hcolon
    obtain ⟨f, rest', hf, hlo, hhi, hahead, rfl⟩ := mem_outcomes_decimals (by decide) hfield
    have hrest : rest = f ++ rest' := (State.ahead_read (t := [c]) _ hc).symm.trans hahead
    refine ⟨':' :: f, ?_, Or.inr ⟨f, .of_length_pos hf (by omega), by omega, rfl⟩⟩
    rw [State.ahead_read _ hahead, hc, hrest, eq_colon hholds]
    rfl
  · exact ⟨[], rfl, Or.inl rfl⟩

theorem mem_outcomes_lead (h : t ∈ outcomes true (.alt (.anchor .start) (blanks 1)) s) :
    ∃ gap, s.cursor.ahead = gap ++ t.cursor.ahead ∧ Text.IsGap gap ∧
      (gap = [] → s.cursor.position = 0) := by
  rw [outcomes, List.mem_append] at h
  rcases h with h | h
  · rw [outcomes] at h
    split at h
    · rename_i hstart
      rw [List.mem_singleton.mp h]
      exact ⟨[], rfl, Text.isGap_nil, fun _ => by simpa [anchorHolds] using hstart⟩
    · simp at h
  · obtain ⟨gap, hgap, hlength, hahead⟩ := mem_outcomes_ofClass h
    refine ⟨gap, hahead, hgap, ?_⟩
    rintro rfl
    simp at hlength

def ending (markers : List Text) : List Regex :=
  (if markers.isEmpty then []
    else [blanks 0, .optional (.group 4 (.oneOf (markers.map .literal)))]) ++ [.anchor .finish]

theorem timeRegex_eq (markers : List Text) : timeRegex markers = .ofList
    (.alt (.anchor .start) (blanks 1) :: .group 1 (.decimals 1 2) :: sexagesimal 2 :: sexagesimal 3 ::
      ending markers) := by
  rw [timeRegex, List.append_assoc]
  rfl

theorem mem_outcomes_ending (h : t ∈ outcomes true (ofList (ending markers)) s) :
    ∃ gap marker tail, s.cursor.ahead = gap ++ (marker ++ tail) ∧ Text.IsGap gap ∧
      (marker = [] ∨ ∃ w ∈ markers, SameText w marker) ∧ (tail = [] ∨ tail = ['\n']) := by
  unfold ending at h
  split at h
  · simp only [List.nil_append, outcomes_ofList_cons, outcomes_ofList_nil, List.flatMap_singleton'] at h
    obtain ⟨rfl, htail⟩ := mem_outcomes_finish h
    exact ⟨[], [], _, rfl, Text.isGap_nil, Or.inl rfl, htail⟩
  · rename_i hne
    have hne' : markers.map Regex.literal ≠ [] := by simpa using hne
    simp only [List.cons_append, List.nil_append, outcomes_ofList_cons, outcomes_ofList_nil,
      List.flatMap_singleton', List.mem_flatMap, outcomes_optional, List.mem_append,
      List.mem_singleton] at h
    obtain ⟨s₁, hblanks, s₂, hmarker, hfinish⟩ := h
    obtain ⟨gap, hgap, -, hahead⟩ := mem_outcomes_ofClass hblanks
    obtain ⟨-, htail⟩ := mem_outcomes_finish hfinish
    rcases hmarker with hmarker | rfl
    · rw [outcomes, List.mem_map] at hmarker
      obtain ⟨s₃, hmarker, rfl⟩ := hmarker
      obtain ⟨r, hr, hmarker⟩ := (mem_outcomes_oneOf hne').mp hmarker
      obtain ⟨w, hw, rfl⟩ := List.mem_map.mp hr
      obtain ⟨u, rest, hu, hahead', rfl⟩ := mem_outcomes_literal hmarker
      have hrest : s₁.cursor.ahead = u ++ (s₁.capture 4 (s₁.read u.length [])).cursor.ahead :=
        hahead'.trans (congrArg (u ++ ·) (State.ahead_read [] hahead').symm)
      exact ⟨gap, u, _, by rw [hahead, ← hrest], hgap, Or.inr ⟨w, hw, hu⟩, htail⟩
    · exact ⟨gap, [], _, hahead, hgap, Or.inl rfl, htail⟩

/-- The pieces of a match, one after the other. -/
theorem mem_outcomes_pieces (h : t ∈ outcomes true (timeRegex markers) s) :
    ∃ gap hour minute second gap' marker tail,
      s.cursor.ahead = gap ++ (hour ++ (minute ++ (second ++ (gap' ++ (marker ++ tail))))) ∧
      Text.IsGap gap ∧ (gap = [] → s.cursor.position = 0) ∧ (hour.IsDigits ∧ hour.length ≤ 2) ∧
      IsField minute ∧ IsField second ∧ Text.IsGap gap' ∧
      (marker = [] ∨ ∃ w ∈ markers, SameText w marker) ∧ (tail = [] ∨ tail = ['\n']) := by
  simp only [timeRegex_eq, outcomes_ofList_cons, List.mem_flatMap] at h
  obtain ⟨s₁, hlead, s₂, hhour, s₃, hminute, s₄, hsecond, hending⟩ := h
  obtain ⟨gap, hahead, hgap, hstart⟩ := mem_outcomes_lead hlead
  obtain ⟨hour, rest, hdigits, hlo, hhi, hahead₁, rfl⟩ := mem_outcomes_decimals (by decide) hhour
  obtain ⟨minute, hahead₂, hminute⟩ := mem_outcomes_sexagesimal hminute
  obtain ⟨second, hahead₃, hsecond⟩ := mem_outcomes_sexagesimal hsecond
  obtain ⟨gap', marker, tail, hahead₄, hgap', hmarker, htail⟩ := mem_outcomes_ending hending
  refine ⟨gap, hour, minute, second, gap', marker, tail, ?_, hgap, hstart,
    ⟨.of_length_pos hdigits hlo, hhi⟩, hminute, hsecond, hgap', hmarker, htail⟩
  rw [State.ahead_read _ hahead₁] at hahead₂
  simp only [hahead, hahead₁, hahead₂, hahead₃, hahead₄]

theorem IsReading.append_isField {t u : Text} (h : IsReading t) (hu : IsField u) : IsReading (t ++ u) := by
  rcases hu with rfl | ⟨f, hf, -, rfl⟩
  · rwa [List.append_nil]
  · exact h.append_field hf

theorem mem_outcomes_timeRegex (h : t ∈ outcomes true (timeRegex markers) s) :
    ∃ gap reading gap' marker tail,
      s.cursor.ahead = gap ++ (reading ++ (gap' ++ (marker ++ tail))) ∧ Text.IsGap gap ∧
      (gap = [] → s.cursor.position = 0) ∧ IsReading reading ∧ Text.IsGap gap' ∧
      (marker = [] ∨ ∃ w ∈ markers, SameText w marker) ∧ (tail = [] ∨ tail = ['\n']) := by
  obtain ⟨gap, hour, minute, second, gap', marker, tail, hahead, hgap, hstart, hhour, hminute, hsecond,
    hgap', hmarker, htail⟩ := mem_outcomes_pieces h
  refine ⟨gap, hour ++ minute ++ second, gap', marker, tail, ?_, hgap, hstart, ?_, hgap', hmarker, htail⟩
  · simp only [hahead, List.append_assoc]
  · exact ((IsReading.of_isDigits hhour.1).append_isField hminute).append_isField hsecond

theorem exists_of_matchAt? {t : Text} {n : Nat} {m : Match}
    (h : (timeRegex markers).matchAt? true (Cursor.after t n) = some m) :
    ∃ gap reading gap' marker tail, t.drop n = gap ++ (reading ++ (gap' ++ (marker ++ tail))) ∧
      Text.IsGap gap ∧ (gap = [] → n = 0) ∧ IsReading reading ∧ Text.IsGap gap' ∧
      (marker = [] ∨ ∃ w ∈ markers, SameText w marker) ∧ (tail = [] ∨ tail = ['\n']) := by
  rw [matchAt?_eq_head?] at h
  obtain ⟨s, hs, -⟩ := Option.map_eq_some_iff.mp h
  exact mem_outcomes_timeRegex (List.mem_of_head? hs)

theorem not_isDecimal_of_sameText {w u : Text} (hw : ∀ c ∈ w, ¬ Text.isDecimal c = true)
    (h : SameText w u) : ∀ c ∈ u, ¬ Text.isDecimal c = true := by
  intro c hc hdecimal
  obtain ⟨p, hp, hsame⟩ := h.exists_of_mem hc
  exact hw p hp (Text.eq_of_sameLetter_of_isDecimal hsame hdecimal ▸ hdecimal)

theorem IsPlain.not_isDecimal (h : IsPlain markers) :
    ∀ w ∈ markers, ∀ c ∈ w, ¬ Text.isDecimal c = true :=
  fun w hw c hc => Text.not_isDecimal_of_isLetter ((h w hw).2 c hc).1

theorem not_isDecimal_of_mem (hdigits : ∀ w ∈ markers, ∀ c ∈ w, ¬ Text.isDecimal c = true)
    {gap marker tail : Text} (hgap : Text.IsGap gap)
    (hmarker : marker = [] ∨ ∃ w ∈ markers, SameText w marker) (htail : tail = [] ∨ tail = ['\n'])
    {c : Char} (hc : c ∈ gap ++ (marker ++ tail)) : ¬ Text.isDecimal c = true := by
  rcases List.mem_append.mp hc with hc | hc
  · exact fun hdecimal => Text.not_isBlank_of_isDecimal hdecimal (hgap c hc)
  rcases List.mem_append.mp hc with hc | hc
  · rcases hmarker with rfl | ⟨w, hw, hsame⟩
    · simp at hc
    · exact not_isDecimal_of_sameText (hdigits w hw) hsame c hc
  · rcases htail with rfl | rfl
    · simp at hc
    · rw [List.mem_singleton.mp hc]
      decide

/-! ## Characters that no time holds -/

structure IsForeign (markers : List Text) (c : Char) : Prop where
  not_isBlank : ¬ Text.isBlank c = true
  not_isDecimal : ¬ Text.isDecimal c = true
  ne_colon : c ≠ ':'
  not_sameLetter : ∀ w ∈ markers, ∀ p ∈ w, ¬ Text.sameLetter p c = true

/-- The signs and the workday marker. -/
def symbolRanges : CodeRanges := [(0x2b, 0x2b), (0x2d, 0x2e)]

set_option maxRecDepth 5000 in
/-- Signs and the marker are no letters, blanks or digits. -/
theorem symbols_apart : CodeRanges.apart symbolRanges Text.letterRanges = true ∧
    CodeRanges.apart symbolRanges Text.blankRanges = true ∧
      CodeRanges.apart symbolRanges Text.decimalRanges = true := by decide

theorem isForeign_of_symbol (hplain : IsPlain markers) {c : Char}
    (hc : symbolRanges.covers c.toNat = true) : IsForeign markers c := by
  have hsymbol := CodeRanges.holds_of_covers hc
  have hletter : ¬ Text.isLetter c = true := fun h =>
    CodeRanges.not_holds_of_apart symbols_apart.1 hsymbol (CodeRanges.holds_of_covers h)
  refine ⟨fun h => ?_, fun h => ?_, ?_, fun w hw p hp hsame => ?_⟩
  · exact CodeRanges.not_holds_of_apart symbols_apart.2.1 hsymbol (CodeRanges.holds_of_covers h)
  · exact CodeRanges.not_holds_of_apart symbols_apart.2.2 hsymbol (Text.holds_of_isDecimal h)
  · rintro rfl
    exact absurd hc (by decide)
  · have heq := Text.eq_of_sameLetter (by decide) (by decide) hsame (Or.inr hsymbol)
    exact hletter (heq ▸ ((hplain w hw).2 p hp).1)

theorem IsForeign.not_mem_ahead {c : Char} (hc : IsForeign markers c)
    (h : t ∈ outcomes true (timeRegex markers) s) : c ∉ s.cursor.ahead ∧ s.cursor.ahead ≠ [] := by
  obtain ⟨gap, reading, gap', marker, tail, hahead, hgap, -, hreading, hgap', hmarker, htail⟩ :=
    mem_outcomes_timeRegex h
  rw [hahead]
  constructor
  · simp only [List.mem_append, not_or]
    refine ⟨fun h => hc.not_isBlank (hgap c h), fun h => ?_, fun h => hc.not_isBlank (hgap' c h), fun h => ?_,
      fun h => ?_⟩
    · exact (hreading.chars c h).elim hc.not_isDecimal hc.ne_colon
    · rcases hmarker with rfl | ⟨w, hw, hsame⟩
      · simp at h
      · obtain ⟨p, hp, hsame⟩ := hsame.exists_of_mem h
        exact hc.not_sameLetter w hw p hp hsame
    · rcases htail with rfl | rfl
      · simp at h
      · exact hc.not_isBlank (List.mem_singleton.mp h ▸ by decide)
  · obtain ⟨d, hd, -⟩ := hreading.head
    simp [List.ne_nil_of_mem (List.mem_of_head? hd)]

theorem IsForeign.matchAt?_eq_none {c : Char} (hc : IsForeign markers c) {t : Text} {n : Nat}
    (h : t.drop n ≠ [] → c ∈ t.drop n) : (timeRegex markers).matchAt? true (Cursor.after t n) = none := by
  rw [matchAt?_eq_head?, Option.map_eq_none_iff, List.head?_eq_none_iff, List.eq_nil_iff_forall_not_mem]
  intro s hs
  obtain ⟨hmem, hne⟩ := hc.not_mem_ahead hs
  exact hmem (h hne)

/-! ## No match -/

/-- A match that ends in no blank ends in a marker or in its reading. -/
theorem cases_of_getLast? (hplain : IsPlain markers) {gap reading gap' marker tail : Text}
    (hreading : IsReading reading) (hgap' : Text.IsGap gap') (hmarker : marker = [] ∨ marker ∈ markers)
    (htail : tail = [] ∨ tail = ['\n']) {c : Char}
    (hc : c ∈ (gap ++ (reading ++ (gap' ++ (marker ++ tail)))).getLast?)
    (hblank : ¬ Text.isBlank c = true) :
    tail = [] ∧ (marker ∈ markers ∧ Text.isLetter c = true ∨
      gap' = [] ∧ marker = [] ∧ Text.isDecimal c = true) := by
  simp only [← List.append_assoc] at hc
  rcases Text.mem_getLast?_append hc with ⟨rfl, hc₁⟩ | hc₁
  · refine ⟨rfl, ?_⟩
    rcases Text.mem_getLast?_append hc₁ with ⟨rfl, hc₂⟩ | hc₂
    · right
      rcases Text.mem_getLast?_append hc₂ with ⟨rfl, hc₃⟩ | hc₃
      · obtain ⟨d, hd, hdecimal⟩ := hreading.last
        rcases Text.mem_getLast?_append hc₃ with ⟨rfl, -⟩ | hc₄
        · simp at hd
        · exact ⟨rfl, rfl, by rwa [Option.mem_unique hc₄ hd]⟩
      · exact absurd (hgap' c (List.mem_of_getLast? hc₃)) hblank
    · left
      have hmem := List.mem_of_getLast? hc₂
      rcases hmarker with rfl | hmarker
      · simp at hmem
      · exact ⟨hmarker, ((hplain _ hmarker).2 c hmem).1⟩
  · rcases htail with rfl | rfl
    · simp at hc₁
    · rw [List.getLast?_singleton, Option.mem_some_iff] at hc₁
      exact absurd (hc₁ ▸ by decide) hblank

variable {l : Localization}

theorem find?_eq_none_of_forall (hplain : IsPlain l.markers) {t : Text} (hlower : Text.IsLower t)
    (h : ∀ n gap reading gap' marker tail,
      t.drop n = gap ++ (reading ++ (gap' ++ (marker ++ tail))) → (gap = [] → n = 0) →
      Text.IsGap gap → IsReading reading → Text.IsGap gap' → (marker = [] ∨ marker ∈ l.markers) →
      (tail = [] ∨ tail = ['\n']) → False) : find? l t = none := by
  refine (search?_eq_none_iff _ _ t).mpr fun n _ => Option.eq_none_iff_forall_ne_some.mpr ?_
  intro m hm
  obtain ⟨gap, reading, gap', marker, tail, ht, hgap, hstart, hreading, hgap', hmarker, htail⟩ :=
    exists_of_matchAt? hm
  have hmem : marker = [] ∨ marker ∈ l.markers := by
    refine hmarker.imp_right ?_
    rintro ⟨w, hw, hsame⟩
    rw [eq_of_sameText (fun c hc => ((hplain w hw).2 c hc).2) (fun c hc => ?_) hsame]
    · exact hw
    · exact hlower c (List.mem_of_mem_drop (i := n) (by simp [ht, hc]))
  exact h n gap reading gap' marker tail ht hstart hgap hreading hgap' hmem htail

theorem mem_getLast?_drop {t : Text} {n : Nat} {c : Char} (hc : c ∈ t.getLast?) (hne : t.drop n ≠ []) :
    c ∈ (t.drop n).getLast? := by
  rw [List.getLast?_drop, if_neg (by simpa using hne)]
  exact hc

theorem IsForeign.find?_eq_none {t : Text} {c : Char} (hc : IsForeign l.markers c)
    (hlast : c ∈ t.getLast?) : find? l t = none :=
  (search?_eq_none_iff _ _ t).mpr fun _ _ =>
    hc.matchAt?_eq_none fun hne => List.mem_of_getLast? (mem_getLast?_drop hlast hne)

/-- No time ends in another character than a digit or the last one of a marker. -/
theorem find?_eq_none_of_last (hplain : IsPlain l.markers) {t : Text} (hlower : Text.IsLower t)
    {c : Char} (hc : c ∈ t.getLast?) (hblank : ¬ Text.isBlank c = true)
    (hdecimal : ¬ Text.isDecimal c = true) (hmarkers : ∀ w ∈ l.markers, ¬ w <:+ t) :
    find? l t = none := by
  refine find?_eq_none_of_forall hplain hlower ?_
  intro n gap reading gap' marker tail ht _ _ hreading hgap' hmarker htail
  have hne : t.drop n ≠ [] := by
    obtain ⟨d, hd, -⟩ := hreading.head
    rw [ht]
    rintro h
    simp_all
  have hlast := mem_getLast?_drop hc hne
  rw [ht] at hlast
  obtain ⟨rfl, ⟨hmem, -⟩ | ⟨-, -, h⟩⟩ :=
    cases_of_getLast? hplain hreading hgap' hmarker htail hlast hblank
  · refine hmarkers marker hmem (List.IsSuffix.trans ?_ (List.drop_suffix n t))
    rw [ht, List.append_nil, ← List.append_assoc, ← List.append_assoc]
    exact List.suffix_append _ _
  · exact hdecimal h

/-- Without blanks a match is the whole text, and one that ends in a digit is all digits and colons. -/
theorem find?_eq_none_of_isSolid (hplain : IsPlain l.markers) {t : Text} (hlower : Text.IsLower t)
    (hsolid : Text.IsSolid t) {c d : Char} (hc : c ∈ t.getLast?) (hdecimal : Text.isDecimal c = true)
    (hd : d ∈ t) (hd' : ¬ Text.isDecimal d = true) (hcolon : d ≠ ':') : find? l t = none := by
  refine find?_eq_none_of_forall hplain hlower ?_
  intro n gap reading gap' marker tail ht hstart hgap hreading hgap' hmarker htail
  have hempty : gap = [] := by
    cases gap with
    | nil => rfl
    | cons e gap =>
      refine absurd (hgap e List.mem_cons_self) (hsolid e ?_)
      exact List.mem_of_mem_drop (i := n) (ht ▸ List.mem_cons_self)
  rw [hstart hempty, List.drop_zero] at ht
  obtain ⟨rfl, ⟨-, hletter⟩ | ⟨rfl, rfl, -⟩⟩ := cases_of_getLast? hplain hreading hgap' hmarker htail
    (ht ▸ hc) (Text.not_isBlank_of_isDecimal hdecimal)
  · exact Text.not_isDecimal_of_isLetter hletter hdecimal
  · rw [hempty, List.nil_append, List.append_nil, List.append_nil, List.append_nil] at ht
    exact (hreading.chars d (ht ▸ hd)).elim hd' hcolon

end TrailingTime

end DateShorthand
