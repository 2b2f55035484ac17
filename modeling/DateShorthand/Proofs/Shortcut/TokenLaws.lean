import DateShorthand.Proofs.Shortcut.Seams
import Mathlib.Data.List.Chain

/-!
# Laws of cutting

Cutting a text into tokens loses nothing but the blanks and invents nothing, and what stands behind a
blank does not change the tokens before it. It fails for one reason only, a sign at the end without a
partner.
-/

namespace DateShorthand.Tokens

/-! ## Words -/

/-- A blank before every sign but one that begins the text. -/
def IsSpaced (t : Text) : Prop := t.IsChain fun c d => isSign d = true → Text.isBlank c = true

/-- Not empty, and no sign but perhaps the first character. -/
structure IsWord (w : Text) : Prop where
  ne_nil : w ≠ []
  isSolid : Text.IsSolid w
  tail : ∀ c ∈ w.tail, ¬ isSign c = true

theorem not_isSign_head?_spaced (t : Text) : ∀ c ∈ (spaced t).head?, ¬ isSign c = true := by
  intro c hc
  rcases mem_head?_spaced hc with rfl | ⟨-, hsign⟩
  · decide
  · exact hsign

theorem isSpaced_spaced (t : Text) : IsSpaced (spaced t) := by
  induction t with
  | nil => exact List.isChain_nil
  | cons c t ih =>
    have hcons : IsSpaced (c :: spaced t) := List.isChain_cons.mpr
      ⟨fun d hd hsign => absurd hsign (not_isSign_head?_spaced t d hd), ih⟩
    by_cases hc : isSign c = true
    · rw [spaced_cons_of_isSign hc]
      exact List.isChain_cons_cons.mpr ⟨fun _ => by decide, hcons⟩
    · rwa [spaced_cons_of_not_isSign hc]

theorem IsSpaced.isWord {w : Text} (h : IsSpaced w) (hne : w ≠ []) (hsolid : Text.IsSolid w) : IsWord w := by
  refine ⟨hne, hsolid, ?_⟩
  obtain ⟨c, w, rfl⟩ := List.exists_cons_of_ne_nil hne
  clear hne
  rw [List.tail_cons]
  induction w generalizing c with
  | nil => simp
  | cons d w ih =>
    obtain ⟨hcd, hrest⟩ := List.isChain_cons_cons.mp h
    obtain ⟨hc, hsolid⟩ := List.forall_mem_cons.mp hsolid
    exact List.forall_mem_cons.mpr ⟨fun hd => hc (hcd hd), ih d hrest hsolid⟩

theorem IsSpaced.isWord_of_mem {t : Text} (h : IsSpaced t) : ∀ w ∈ Text.words t, IsWord w := by
  induction t using Text.wordsInduction with
  | nil => simp
  | blank c t hc ih =>
    rw [Text.words_cons_of_isBlank hc]
    exact ih h.tail
  | word w t hne hw ht ih =>
    obtain ⟨hfirst, hrest, -⟩ := List.isChain_append.mp h
    rw [Text.words_append hne hw ht]
    exact List.forall_mem_cons.mpr ⟨IsSpaced.isWord hfirst hne hw, ih hrest⟩

theorem withoutBlanks_spaced (t : Text) : Text.withoutBlanks (spaced t) = Text.withoutBlanks t := by
  induction t with
  | nil => rfl
  | cons c t ih =>
    have hcons : Text.withoutBlanks (c :: spaced t) = Text.withoutBlanks (c :: t) := by
      rw [← List.singleton_append, Text.withoutBlanks_append, ih, ← Text.withoutBlanks_append]
      rfl
    by_cases hc : isSign c = true
    · rw [spaced_cons_of_isSign hc, ← hcons]
      exact List.filter_cons_of_neg (by decide)
    · rw [spaced_cons_of_not_isSign hc, hcons]

/-- The words that are glued. -/
def wordsOf (t : Text) : List Text := Text.words (spaced t)

theorem isWord_of_mem_wordsOf (t : Text) : ∀ w ∈ wordsOf t, IsWord w := (isSpaced_spaced t).isWord_of_mem

theorem flatten_wordsOf (t : Text) : (wordsOf t).flatten = Text.withoutBlanks t := by
  rw [wordsOf, Text.flatten_words, withoutBlanks_spaced]

/-! ## Tokens -/

/-- At most two signs, and no other behind them. -/
def SignsInFront (token : Text) : Prop :=
  ∃ signs body, token = signs ++ body ∧ signs.length ≤ 2 ∧ (∀ c ∈ signs, isSign c = true) ∧
    ∀ c ∈ body, ¬ isSign c = true

/-- A word that is no lone sign, or a sign with the word that it belongs to. -/
inductive IsToken : Text → Prop
  | word {w : Text} (hw : IsWord w) (hlone : isLoneSign w = false) : IsToken w
  | pair {c : Char} {w : Text} (hc : isSign c = true) (hw : IsWord w) : IsToken (c :: w)

theorem isLoneSign_iff {w : Text} : isLoneSign w = true ↔ ∃ c, isSign c = true ∧ w = [c] := by
  unfold isLoneSign
  split
  · rename_i c
    exact ⟨fun h => ⟨c, h, rfl⟩, fun ⟨d, hd, h⟩ => List.singleton_inj.mp h ▸ hd⟩
  · rename_i h
    exact ⟨fun h => by simp at h, fun ⟨c, _, heq⟩ => absurd heq (h c)⟩

theorem IsWord.signsInFront {w : Text} (hw : IsWord w) :
    ∃ signs body, w = signs ++ body ∧ signs.length ≤ 1 ∧ (∀ c ∈ signs, isSign c = true) ∧
      ∀ c ∈ body, ¬ isSign c = true := by
  obtain ⟨c, w, rfl⟩ := List.exists_cons_of_ne_nil hw.ne_nil
  by_cases hc : isSign c = true
  · exact ⟨[c], w, rfl, by simp, by simpa using hc, hw.tail⟩
  · exact ⟨[], c :: w, rfl, by simp, by simp, List.forall_mem_cons.mpr ⟨hc, hw.tail⟩⟩

theorem IsToken.signsInFront {token : Text} (h : IsToken token) : token ≠ [] ∧ SignsInFront token := by
  cases h with
  | word hw =>
    obtain ⟨signs, body, hsplit, hlength, h⟩ := hw.signsInFront
    exact ⟨hw.ne_nil, signs, body, hsplit, by omega, h⟩
  | @pair c w hc hw =>
    obtain ⟨signs, body, rfl, hlength, hsigns, hbody⟩ := hw.signsInFront
    have hlength' : (c :: signs).length ≤ 2 := by simpa using hlength
    exact ⟨by simp, c :: signs, body, rfl, hlength', List.forall_mem_cons.mpr ⟨hc, hsigns⟩, hbody⟩

/-- A part is a word. -/
theorem isWord_of_part {sign : Option Char} {digits letters : Text} (h : Part.IsWord sign digits letters) :
    IsWord (sign.toList ++ (digits ++ letters)) ∧ isLoneSign (sign.toList ++ (digits ++ letters)) = false := by
  have hsolid : Text.IsSolid (digits ++ letters) := fun c hc => (h.body c hc).2
  have hsigns : ∀ c ∈ digits ++ letters, ¬ isSign c = true := fun c hc => (h.body c hc).1
  cases sign with
  | none =>
    exact ⟨⟨h.body_ne_nil, hsolid, fun c hc => hsigns c (List.mem_of_mem_tail hc)⟩,
      isLoneSign_of_forall hsigns⟩
  | some c =>
    have hblank : ¬ Text.isBlank c = true := fun hb => not_isSign_of_isBlank hb (h.isSign c rfl)
    exact ⟨⟨List.cons_ne_nil c _, List.forall_mem_cons.mpr ⟨hblank, hsolid⟩, hsigns⟩,
      isLoneSign_cons h.body_ne_nil⟩

theorem glue_tokens {words tokens : List Text} (h : glue words = .ok tokens)
    (hwords : ∀ w ∈ words, IsWord w) : ∀ token ∈ tokens, IsToken token := by
  fun_induction glue words generalizing tokens with
  | case1 =>
    rw [Except.ok.injEq] at h
    simp [← h]
  | case2 => simp at h
  | case3 word hlone =>
    rw [Except.ok.injEq] at h
    have hword : IsToken word := .word (hwords word List.mem_cons_self) (by simpa using hlone)
    simp [← h, hword]
  | case4 word next rest hlone ih =>
    obtain ⟨more, hmore, rfl⟩ := map_eq_ok_iff.mp h
    obtain ⟨c, hc, rfl⟩ := isLoneSign_iff.mp hlone
    simp only [List.forall_mem_cons] at hwords
    exact List.forall_mem_cons.mpr ⟨.pair hc hwords.2.1, ih hmore hwords.2.2⟩
  | case5 word next rest hlone ih =>
    obtain ⟨more, hmore, rfl⟩ := map_eq_ok_iff.mp h
    obtain ⟨hword, hrest⟩ := List.forall_mem_cons.mp hwords
    exact List.forall_mem_cons.mpr ⟨.word hword (by simpa using hlone), ih hmore hrest⟩

/-! ## Cutting again -/

theorem IsWord.exists_spaced {w : Text} (hw : IsWord w) : ∃ gap, Text.IsGap gap ∧ spaced w = gap ++ w := by
  obtain ⟨c, w, rfl⟩ := List.exists_cons_of_ne_nil hw.ne_nil
  have hrest : spaced w = w := spaced_of_forall hw.tail
  by_cases hc : isSign c = true
  · exact ⟨[' '], Written.isGap_space, by rw [spaced_cons_of_isSign hc, hrest]; rfl⟩
  · exact ⟨[], Text.isGap_nil, by rw [spaced_cons_of_not_isSign hc, hrest]; rfl⟩

theorem words_of_isSolid {w : Text} (hne : w ≠ []) (hw : Text.IsSolid w) : Text.words w = [w] := by
  have h := Text.words_append hne hw (t := []) (by simp)
  rwa [List.append_nil] at h

/-- A word that is no lone sign is the first token, also where a sign follows it. -/
theorem ofText_word_append {w rest : Text} (hw : IsWord w) (hlone : isLoneSign w = false)
    (hrest : ∀ c ∈ rest.head?, Text.isBlank c = true ∨ isSign c = true) :
    ofText (w ++ rest) = (ofText rest).map (w :: ·) := by
  obtain ⟨gap, hgap, hspaced⟩ := hw.exists_spaced
  rw [Tokens.ofText, spaced_append, hspaced, List.append_assoc, Text.words_gap_append hgap,
    Text.words_append hw.ne_nil hw.isSolid (head?_spaced hrest), glue_cons hlone]
  rfl

theorem IsToken.ofText {token : Text} (h : IsToken token) : ofText token = .ok [token] := by
  cases h with
  | word hw hlone =>
    have h : Tokens.ofText (token ++ []) = _ := ofText_word_append hw hlone (by simp)
    rwa [List.append_nil] at h
  | @pair c w hc hw =>
    obtain ⟨gap, hgap, hspaced⟩ := hw.exists_spaced
    have hblank : Text.IsSolid [c] := by
      simpa [Text.IsSolid] using fun h => not_isSign_of_isBlank h hc
    rw [Tokens.ofText, spaced_cons_of_isSign hc, hspaced, Text.words_cons_of_isBlank (by decide)]
    -- the sign and the word are one word, unless the word has a sign of its own
    by_cases hempty : gap = []
    · rw [hempty, List.nil_append, words_of_isSolid (List.cons_ne_nil c w) (hblank.append hw.isSolid),
        glue_cons (isLoneSign_cons hw.ne_nil)]
      rfl
    · have hhead : ∀ d ∈ (gap ++ w).head?, Text.isBlank d = true := by
        intro d hd
        rw [List.head?_append_of_ne_nil _ hempty] at hd
        exact hgap d (List.mem_of_head? hd)
      rw [← List.singleton_append, Text.words_append (by simp) hblank hhead, Text.words_gap_append hgap,
        words_of_isSolid hw.ne_nil hw.isSolid, glue_sign hc]
      rfl

theorem ofText_joined {tokens : List Text} (h : ∀ token ∈ tokens, IsToken token) :
    ofText (Text.joined [' '] tokens) = .ok tokens := by
  fun_induction Text.joined [' '] tokens with
  | case1 => rfl
  | case2 token => exact (h token List.mem_cons_self).ofText
  | case3 token rest _ ih =>
    obtain ⟨hfirst, hrest⟩ := List.forall_mem_cons.mp h
    rw [List.append_assoc, List.singleton_append, ofText_append hfirst.ofText (by decide), ih hrest]
    rfl

theorem ofText_append_gap {t gap : Text} {tokens : List Text} (h : ofText t = .ok tokens)
    (hgap : Text.IsGap gap) (hne : gap ≠ []) (u : Text) :
    ofText (t ++ (gap ++ u)) = (ofText u).map (tokens ++ ·) := by
  obtain ⟨c, gap, rfl⟩ := List.exists_cons_of_ne_nil hne
  obtain ⟨hc, hgap⟩ := List.forall_mem_cons.mp hgap
  rw [List.cons_append, ofText_append h hc, ofText, spaced_append, spaced_of_isGap hgap,
    Text.words_gap_append hgap]
  rfl

/-! ## Signs without a partner -/

/-- A sign that waits takes the next word for its partner, whatever that is. Otherwise a lone sign begins
to wait. -/
def pairNext (waiting : Option Text) (w : Text) : Option Text :=
  if waiting.isSome then none else if isLoneSign w then some w else none

/-- The lone sign that has no partner when they are paired from left to right. -/
def unpaired (words : List Text) : Option Text := words.foldl pairNext none

theorem unpaired_concat (words : List Text) (w : Text) :
    unpaired (words ++ [w]) = pairNext (unpaired words) w := by
  rw [unpaired, List.foldl_append]
  rfl

theorem glue_eq_error_iff {words : List Text} {e : Fault} :
    glue words = .error e ↔ ∃ w, unpaired words = some w ∧ e = .invalidPart w := by
  fun_induction glue words with
  | case1 => simp [unpaired]
  | case2 word hlone => simp [unpaired, pairNext, hlone, eq_comm]
  | case3 word hlone => simp [unpaired, pairNext, hlone]
  | case4 word next rest hlone ih =>
    have hrest : unpaired (word :: next :: rest) = unpaired rest := by simp [unpaired, pairNext, hlone]
    rw [map_eq_error_iff, ih, hrest]
  | case5 word next rest hlone ih =>
    have hrest : unpaired (word :: next :: rest) = unpaired (next :: rest) := by
      simp [unpaired, pairNext, hlone]
    rw [map_eq_error_iff, ih, hrest]

theorem unpaired_eq_some {words : List Text} {w : Text} (h : unpaired words = some w) :
    isLoneSign w = true ∧ words.getLast? = some w := by
  rcases List.eq_nil_or_concat words with rfl | ⟨words, v, rfl⟩
  · simp [unpaired] at h
  · rw [List.concat_eq_append, unpaired_concat, pairNext] at h
    split_ifs at h with hwaiting hlone
    obtain rfl := Option.some.inj h
    exact ⟨hlone, by simp⟩

/-- How many signs stand at the end. -/
def endSigns (t : Text) : Nat := (t.reverse.takeWhile isSign).length

theorem endSigns_append_sign {c : Char} (hc : isSign c = true) (t : Text) :
    endSigns (t ++ [c]) = endSigns t + 1 := by
  simp [endSigns, hc]

theorem endSigns_append_of_not_isSign {w : Text} (hne : w ≠ [])
    (h : ∀ c ∈ w.getLast?, ¬ isSign c = true) (t : Text) : endSigns (t ++ w) = 0 := by
  obtain ⟨w, c, rfl⟩ := (List.eq_nil_or_concat w).resolve_left hne
  have hc : ¬ isSign c = true := h c (by simp)
  simp [endSigns, hc]

theorem IsWord.not_isSign_last {w : Text} (hw : IsWord w) (hlone : ¬ isLoneSign w = true) :
    ∀ c ∈ w.getLast?, ¬ isSign c = true := by
  obtain ⟨d, w, rfl⟩ := List.exists_cons_of_ne_nil hw.ne_nil
  intro c hlast
  rw [← List.singleton_append] at hlast
  rcases Text.mem_getLast?_append hlast with ⟨rfl, hc⟩ | hc
  · obtain rfl : d = c := by simpa using hc
    exact hlone
  · exact hw.tail c (List.mem_of_getLast? hc)

/-- Behind a word that is no lone sign nothing waits, so the lone signs at the end pair up among
themselves. -/
theorem isSome_unpaired_iff {words : List Text} (hwords : ∀ w ∈ words, IsWord w) :
    (unpaired words).isSome ↔ endSigns words.flatten % 2 = 1 := by
  induction words using List.reverseRecOn with
  | nil => simp [unpaired, endSigns]
  | append_singleton words w ih =>
    have ih := ih fun v hv => hwords v (List.mem_append_left _ hv)
    have hw := hwords w (by simp)
    rw [unpaired_concat, pairNext, List.flatten_append, List.flatten_singleton]
    by_cases hlone : isLoneSign w = true
    · obtain ⟨c, hc, rfl⟩ := isLoneSign_iff.mp hlone
      have hflip : (endSigns words.flatten + 1) % 2 = 1 ↔ ¬ endSigns words.flatten % 2 = 1 := by omega
      rw [endSigns_append_sign hc, if_pos hlone, hflip, ← ih]
      cases unpaired words <;> simp
    · rw [endSigns_append_of_not_isSign hw.ne_nil (hw.not_isSign_last hlone)]
      simp [hlone]

/-! ## The laws -/

theorem flatten_ofText {t : Text} {tokens : List Text} (h : ofText t = .ok tokens) :
    tokens.flatten = Text.withoutBlanks t := (flatten_glue h).trans (flatten_wordsOf t)

/-- Cutting takes the blanks away and nothing else, it is undone and done again with single blanks between
the tokens, and behind a gap it goes on as in a text by itself. It fails when the pairing of the lone signs
leaves one at the end, which it quotes, that is when the number of signs at the end is odd. -/
theorem ofText_laws (t : Text) :
    (∀ tokens, ofText t = .ok tokens →
      tokens.flatten = Text.withoutBlanks t ∧ (∀ token ∈ tokens, token ≠ [] ∧ SignsInFront token) ∧
      ofText (Text.joined [' '] tokens) = .ok tokens ∧
      ∀ gap u, Text.IsGap gap → gap ≠ [] → ofText (t ++ (gap ++ u)) = (ofText u).map (tokens ++ ·)) ∧
    (∀ e, ofText t = .error e ↔ ∃ sign, unpaired (wordsOf t) = some [sign] ∧ isSign sign = true ∧
      (Text.withoutBlanks t).getLast? = some sign ∧ e = .invalidPart [sign]) ∧
    ((∃ e, ofText t = .error e) ↔ endSigns (Text.withoutBlanks t) % 2 = 1) := by
  have hwords := isWord_of_mem_wordsOf t
  have herror : ∀ e, ofText t = .error e ↔ ∃ w, unpaired (wordsOf t) = some w ∧ e = .invalidPart w :=
    fun e => glue_eq_error_iff
  refine ⟨fun tokens htokens => ?_, fun e => ?_, ?_⟩
  · have htoken := glue_tokens htokens hwords
    exact ⟨flatten_ofText htokens, fun token hmem => (htoken token hmem).signsInFront,
      ofText_joined htoken, fun gap u hgap hne => ofText_append_gap htokens hgap hne u⟩
  · rw [herror]
    constructor
    · rintro ⟨w, hw, rfl⟩
      obtain ⟨hlone, hlast⟩ := unpaired_eq_some hw
      obtain ⟨sign, hsign, rfl⟩ := isLoneSign_iff.mp hlone
      obtain ⟨words, hwords⟩ : ∃ words, wordsOf t = words ++ [[sign]] :=
        List.getLast?_eq_some_iff.mp hlast
      refine ⟨sign, hw, hsign, ?_, rfl⟩
      rw [← flatten_wordsOf, hwords, List.flatten_append, List.flatten_singleton, List.getLast?_concat]
    · rintro ⟨sign, hw, -, -, rfl⟩
      exact ⟨_, hw, rfl⟩
  · simp only [herror]
    rw [← flatten_wordsOf, ← isSome_unpaired_iff hwords, Option.isSome_iff_exists]
    exact ⟨fun ⟨_, w, hw, _⟩ => ⟨w, hw⟩, fun ⟨w, hw⟩ => ⟨_, w, hw, rfl⟩⟩

/-- The first of three signs is glued to the second, and the third to its word. One more sign behind them
is left over. -/
theorem ofText_laws_signs :
    ofText "1y+ - -2d" = .ok ["1y", "+-", "-2d"] ∧ ofText "1y +- -2d" = .ok ["1y", "+-", "-2d"] ∧
      ofText "1y+ - -2d\t+" = .error (.invalidPart "+") := by
  have htokens : ofText "1y+ - -2d" = .ok ["1y", "+-", "-2d"] := by decide
  obtain ⟨-, -, hjoined, hgap⟩ := (ofText_laws "1y+ - -2d").1 _ htokens
  have hsign : ofText "+" = .error (.invalidPart "+") :=
    ((ofText_laws "+").2.1 _).mpr ⟨'+', by decide, by decide, by decide, rfl⟩
  have htab : Text.IsGap ['\t'] := by
    unfold Text.IsGap
    decide
  have h := hgap ['\t'] "+" htab (by simp)
  rw [hsign] at h
  exact ⟨htokens, hjoined, h⟩

end DateShorthand.Tokens
