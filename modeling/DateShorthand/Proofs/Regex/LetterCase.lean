import DateShorthand.Proofs.Regex.Replacement
import Mathlib.Tactic.Common

/-!
# Letter case

An expression whose tests treat both cases of an ASCII letter alike finds the same places in texts that
differ in the case of such letters. Under `caseless` every expression is of that kind.
-/

namespace DateShorthand

/-! ## Texts that differ in case -/

namespace Text

/-- The texts differ at most in the case of ASCII letters. -/
def EqUpToCase (t u : Text) : Prop := t.map Char.toLower = u.map Char.toLower

instance (t u : Text) : Decidable (EqUpToCase t u) := by
  unfold EqUpToCase
  infer_instance

/-- The ASCII letters that have a lower case. -/
def capitals : Text := (List.range' 0x41 26).map Char.ofNat

theorem toLower_eq_or_mem_capitals (c : Char) : c.toLower = c ∨ c ∈ capitals := by
  unfold Char.toLower
  split
  · rename_i h
    right
    have hlo : 0x41 ≤ c.toNat := h.1
    have hhi : c.toNat ≤ 0x5a := h.2
    refine List.mem_map.mpr ⟨c.toNat, List.mem_range'_1.mpr ?_, Char.ofNat_toNat c⟩
    omega
  · exact Or.inl rfl

/-- What a function says of the capitals and their lower case alike it says of all characters. -/
theorem eq_toLower_of_capitals {α : Type} {f : Char → α} (h : ∀ c ∈ capitals, f c.toLower = f c)
    (c : Char) : f c.toLower = f c := by
  rcases toLower_eq_or_mem_capitals c with hc | hc
  · rw [hc]
  · exact h c hc

theorem lowerChar_toLower (c : Char) : lowerChar c.toLower = lowerChar c :=
  eq_toLower_of_capitals (by decide) c

theorem sameLetter_toLower (p c : Char) : sameLetter p c.toLower = sameLetter p c := by
  rw [sameLetter, sameLetter, lowerChar_toLower]

end Text

namespace Regex

theorem charClass_toLower (k : CharClass) (c : Char) : k.holds c.toLower = k.holds c := by
  cases k with
  | decimal => exact Text.eq_toLower_of_capitals (by decide) c
  | word => exact Text.eq_toLower_of_capitals (by decide) c
  | blank => exact Text.eq_toLower_of_capitals (by decide) c

theorem itemHolds_toLower (c : Char) (item : SetItem) : itemHolds true c.toLower item = itemHolds true c item := by
  cases item with
  | char p =>
    simp only [itemHolds, charHolds, Text.lowerChar_toLower, Text.sameLetter_toLower, if_true]
  | range first last => simp only [itemHolds, Text.sameLetter_toLower, if_true]
  | ofClass k negated => rw [itemHolds, itemHolds, charClass_toLower]

/-! ## Expressions -/

/-- Every test treats both cases of an ASCII letter alike. -/
def IgnoresCase (caseless : Bool) : Regex → Prop
  | .char p => ∀ c : Char, charHolds caseless p c.toLower = charHolds caseless p c
  | .set items _ => ∀ c : Char, setHolds caseless items c.toLower = setHolds caseless items c
  | .seq first second => IgnoresCase caseless first ∧ IgnoresCase caseless second
  | .alt first second => IgnoresCase caseless first ∧ IgnoresCase caseless second
  | .group _ body => IgnoresCase caseless body
  | .rep body _ _ _ => IgnoresCase caseless body
  | .empty => True
  | .any => True
  | .anchor _ => True

theorem ignoresCase_of_caseless (r : Regex) : r.IgnoresCase true := by
  induction r with
  | empty | any | anchor => trivial
  | char p => exact Text.sameLetter_toLower p
  | set items negated =>
    intro c
    unfold setHolds
    split
    · exact Text.sameLetter_toLower _ c
    · exact congrArg (List.any _) (funext (itemHolds_toLower c))
  | seq first second ihFirst ihSecond => exact ⟨ihFirst, ihSecond⟩
  | alt first second ihFirst ihSecond => exact ⟨ihFirst, ihSecond⟩
  | group index body ih => exact ih
  | rep body min max greed ih => exact ih

variable {caseless : Bool}

/-- A character that is no ASCII letter has no other case. -/
theorem ignoresCase_char {p : Char} (hp : ¬ p.isAlpha = true) : (char p).IgnoresCase false := by
  have hcapitals : ∀ c ∈ Text.capitals, c.isAlpha = true ∧ c.toLower.isAlpha = true := by decide
  refine Text.eq_toLower_of_capitals fun c hc => ?_
  have hlower : p ≠ c.toLower := fun heq => hp (heq ▸ (hcapitals c hc).2)
  have hupper : p ≠ c := fun heq => hp (heq ▸ (hcapitals c hc).1)
  simp [charHolds, hlower, hupper]

/-! ## The search -/

theorem keepsEdges_toLower : KeepsEdges Char.toLower where
  isWordChar_eq := charClass_toLower .word
  eq_break := Text.eq_toLower_of_capitals (f := (· == '\n')) (by decide)

theorem ignoresCase_iff_isBlindTo {r : Regex} : r.IgnoresCase caseless ↔ r.IsBlindTo Char.toLower caseless := by
  induction r with
  | empty | any | anchor => exact Iff.rfl
  | char p => exact Iff.rfl
  | set items negated => exact Iff.rfl
  | seq first second ihFirst ihSecond => exact and_congr ihFirst ihSecond
  | alt first second ihFirst ihSecond => exact and_congr ihFirst ihSecond
  | group index body ih => exact ih
  | rep body min max greed ih => exact ih

theorem marks_toLower {r : Regex} (hr : r.IgnoresCase caseless) (t : Text) :
    marks (t.map Char.toLower) caseless r = marks t caseless r :=
  marks_map keepsEdges_toLower (ignoresCase_iff_isBlindTo.mp hr) t

/-- A match ends at the same place in both texts, and so do its groups. -/
theorem places?_of_eqUpToCase {r : Regex} (hr : r.IgnoresCase caseless) {t u : Text}
    (h : Text.EqUpToCase t u) : r.places? caseless t = r.places? caseless u := by
  rw [places?, places?, ← marks_toLower hr t, ← marks_toLower hr u, h]

/-! ## Parts -/

/-- The expression itself and all that it is made of. -/
def parts : Regex → List Regex
  | .seq first second => .seq first second :: (parts first ++ parts second)
  | .alt first second => .alt first second :: (parts first ++ parts second)
  | .group index body => .group index body :: parts body
  | .rep body min max greed => .rep body min max greed :: parts body
  | r => [r]

theorem IgnoresCase.of_mem_parts {r part : Regex} (hr : r.IgnoresCase caseless) (hpart : part ∈ r.parts) :
    part.IgnoresCase caseless := by
  induction r with
  | empty | any | char | set | anchor => exact List.mem_singleton.mp hpart ▸ hr
  | seq first second ihFirst ihSecond =>
    rcases List.mem_cons.mp hpart with rfl | hpart
    · exact hr
    · exact (List.mem_append.mp hpart).elim (ihFirst hr.1) (ihSecond hr.2)
  | alt first second ihFirst ihSecond =>
    rcases List.mem_cons.mp hpart with rfl | hpart
    · exact hr
    · exact (List.mem_append.mp hpart).elim (ihFirst hr.1) (ihSecond hr.2)
  | group index body ih =>
    rcases List.mem_cons.mp hpart with rfl | hpart
    · exact hr
    · exact ih hr hpart
  | rep body min max greed ih =>
    rcases List.mem_cons.mp hpart with rfl | hpart
    · exact hr
    · exact ih hr hpart

/-- The expression and its parts find the same places in texts that differ in case. -/
def SamePlaces (caseless : Bool) (r : Regex) : Prop :=
  ∀ t u, Text.EqUpToCase t u → r.places? caseless t = r.places? caseless u

theorem eq_of_step {test : Char → Bool} {r : Regex}
    (hr : ∀ t m, marks t caseless r m = (m.step t test).toList) (h : SamePlaces caseless r) (c : Char) :
    test c.toLower = test c := by
  have hfirst : ∀ d, (r.places? caseless [d]).isSome = test d := by
    intro d
    rw [places?, hr]
    cases htest : test d <;> simp [Mark.step, Option.filter, htest]
  have hcase : Text.EqUpToCase [c.toLower] [c] :=
    congrArg (fun d => [d]) (Text.eq_toLower_of_capitals (f := Char.toLower) (by decide) c)
  rw [← hfirst, ← hfirst, h _ _ hcase]

/-- An expression ignores case just when it and its parts find the same places in either case. -/
theorem ignoresCase_iff {r : Regex} :
    r.IgnoresCase caseless ↔ ∀ part ∈ r.parts, SamePlaces caseless part := by
  refine ⟨fun h part hpart t u htu => places?_of_eqUpToCase (h.of_mem_parts hpart) htu, fun h => ?_⟩
  induction r with
  | empty | any | anchor => trivial
  | char p => exact fun c => eq_of_step (fun _ _ => rfl) (h _ List.mem_cons_self) c
  | set items negated =>
    intro c
    have hsame := eq_of_step (fun _ _ => rfl) (h _ List.mem_cons_self) c
    simpa using hsame
  | seq first second ihFirst ihSecond =>
    obtain ⟨-, h⟩ := List.forall_mem_cons.mp h
    obtain ⟨hfirst, hsecond⟩ := List.forall_mem_append.mp h
    exact ⟨ihFirst hfirst, ihSecond hsecond⟩
  | alt first second ihFirst ihSecond =>
    obtain ⟨-, h⟩ := List.forall_mem_cons.mp h
    obtain ⟨hfirst, hsecond⟩ := List.forall_mem_append.mp h
    exact ⟨ihFirst hfirst, ihSecond hsecond⟩
  | group index body ih => exact ih (List.forall_mem_cons.mp h).2
  | rep body min max greed ih => exact ih (List.forall_mem_cons.mp h).2

end Regex

end DateShorthand
