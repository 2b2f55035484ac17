import DateShorthand.Proofs.Regex.Places
import Mathlib.Tactic.Common

/-!
# Replaced characters

When every test of an expression says the same of a character and of the one that replaces it, the
expression finds the same places in the replaced text. A match there covers and captures the replaced
characters.
-/

namespace DateShorthand.Regex

variable {f : Char → Char} {caseless : Bool} {r : Regex}

/-- The replacement keeps line breaks and the characters of words. -/
structure KeepsEdges (f : Char → Char) : Prop where
  isWordChar_eq : ∀ c, Text.isWordChar (f c) = Text.isWordChar c
  eq_break : ∀ c, (f c == '\n') = (c == '\n')

/-- No test tells a character from the one that replaces it. -/
def IsBlindTo (f : Char → Char) (caseless : Bool) : Regex → Prop
  | .char p => ∀ c, charHolds caseless p (f c) = charHolds caseless p c
  | .set items _ => ∀ c, setHolds caseless items (f c) = setHolds caseless items c
  | .seq first second => IsBlindTo f caseless first ∧ IsBlindTo f caseless second
  | .alt first second => IsBlindTo f caseless first ∧ IsBlindTo f caseless second
  | .group _ body => IsBlindTo f caseless body
  | .rep body _ _ _ => IsBlindTo f caseless body
  | .empty => True
  | .any => True
  | .anchor _ => True

/-! ## Expressions in common forms -/

theorem isBlindTo_ofList {rs : List Regex} :
    (ofList rs).IsBlindTo f caseless ↔ ∀ r ∈ rs, r.IsBlindTo f caseless := by
  induction rs with
  | nil => simp [ofList, IsBlindTo]
  | cons r rs ih => rw [List.forall_mem_cons, ← ih, ofList, List.foldr_cons, IsBlindTo, ofList]

theorem isBlindTo_oneOf {rs : List Regex} (h : ∀ r ∈ rs, r.IsBlindTo f caseless) :
    (oneOf rs).IsBlindTo f caseless := by
  induction rs with
  | nil => trivial
  | cons r rs ih =>
    obtain ⟨hr, hrs⟩ := List.forall_mem_cons.mp h
    cases rs with
    | nil => exact hr
    | cons r' rs => exact ⟨hr, ih hrs⟩

theorem isBlindTo_literal {t : Text} (h : ∀ p ∈ t, (char p).IsBlindTo f caseless) :
    (literal t).IsBlindTo f caseless := by
  unfold literal
  simpa [isBlindTo_ofList] using h

theorem isBlindTo_ofClass {k : CharClass} (h : ∀ c, k.holds (f c) = k.holds c) (negated : Bool) :
    (ofClass k negated).IsBlindTo f caseless := by
  intro c
  simp [setHolds, itemHolds, h]

theorem isBlindTo_decimals (h : ∀ c, Text.isDecimal (f c) = Text.isDecimal c) (min max : Nat) :
    (decimals min max).IsBlindTo f caseless :=
  isBlindTo_ofClass (k := .decimal) h false

/-! ## The same places -/

theorem KeepsEdges.anchorHolds_map (hf : KeepsEdges f) (a : Anchor) (t : Text) (n : Nat) :
    anchorHolds a (Cursor.after (t.map f) n) = anchorHolds a (Cursor.after t n) := by
  rw [Cursor.after, Cursor.after, ← List.map_take, ← List.map_drop, List.getLast?_map]
  generalize (t.take n).getLast? = behind
  generalize t.drop n = ahead
  have hword : ∀ c : Option Char, (c.map f).any Text.isWordChar = c.any Text.isWordChar := by
    intro c
    cases c with
    | none => rfl
    | some c => exact hf.isWordChar_eq c
  have hempty : (ahead.map f == []) = (ahead == []) := by cases ahead <;> rfl
  have hbreak : (ahead.map f == ['\n']) = (ahead == ['\n']) := by
    rcases ahead with _ | ⟨c, _ | _⟩
    · rfl
    · simpa using hf.eq_break c
    · simp
  cases a with
  | start => rfl
  | finish => simp only [anchorHolds, hempty, hbreak]
  | strictFinish => simp only [anchorHolds, hempty]
  | wordEdge => simp only [anchorHolds, List.head?_map, hword]
  | notWordEdge => simp only [anchorHolds, List.head?_map, hword]

theorem Mark.step_map {test : Char → Bool} (h : ∀ c, test (f c) = test c) (t : Text) (m : Mark) :
    m.step (t.map f) test = m.step t test := by
  rw [Mark.step, Mark.step, List.getElem?_map]
  cases t[m.position]? with
  | none => rfl
  | some c => simp [Option.filter, h c]

theorem marks_map (hf : KeepsEdges f) (hr : r.IsBlindTo f caseless) (t : Text) :
    marks (t.map f) caseless r = marks t caseless r := by
  induction r with
  | empty => rfl
  | char p => exact funext fun m => congrArg Option.toList (Mark.step_map hr t m)
  | any =>
    have hany : ∀ c, (f c != '\n') = (c != '\n') := fun c => congrArg not (hf.eq_break c)
    exact funext fun m => congrArg Option.toList (Mark.step_map hany t m)
  | set items negated =>
    have hset : ∀ c, (setHolds caseless items (f c) != negated) = (setHolds caseless items c != negated) :=
      fun c => congrArg (· != negated) (hr c)
    exact funext fun m => congrArg Option.toList (Mark.step_map hset t m)
  | anchor a =>
    funext m
    rw [marks, marks, hf.anchorHolds_map]
  | seq first second ihFirst ihSecond =>
    funext m
    rw [marks, marks, ihFirst hr.1, ihSecond hr.2]
  | alt first second ihFirst ihSecond =>
    funext m
    rw [marks, marks, ihFirst hr.1, ihSecond hr.2]
  | group index body ih =>
    funext m
    rw [marks, marks, ih hr]
  | rep body min max greed ih =>
    funext m
    cases greed <;> simp only [marks, ih hr, List.length_map]

/-! ## Matches -/

/-- The match in the replaced text. -/
def Match.map (f : Char → Char) (m : Match) : Match where
  start := m.start
  covered := m.covered.map f
  after := m.after.map f
  captures := m.captures.map fun (index, u) => (index, u.map f)

@[simp] theorem Match.start_map (m : Match) : (m.map f).start = m.start := rfl

@[simp] theorem Match.covered_map (m : Match) : (m.map f).covered = m.covered.map f := rfl

@[simp] theorem Match.after_map (m : Match) : (m.map f).after = m.after.map f := rfl

@[simp] theorem Match.group?_map (m : Match) (index : Nat) :
    (m.map f).group? index = (m.group? index).map (·.map f) := by
  unfold Match.group? Match.map
  induction m.captures with
  | nil => rfl
  | cons entry entries ih =>
    obtain ⟨other, u⟩ := entry
    rw [List.map_cons, List.lookup_cons, List.lookup_cons, ih]
    cases index == other <;> rfl

theorem Match.ofOutcome_state_map (t : Text) (n : Nat) (m : Mark) :
    Match.ofOutcome (Cursor.after (t.map f) n) (m.state (t.map f))
      = (Match.ofOutcome (Cursor.after t n) (m.state t)).map f := by
  have hcapture : ∀ g : Span, g.capture (t.map f) = (fun (index, u) => (index, u.map f)) (g.capture t) := by
    intro g
    simp [Span.capture, List.map_take, List.map_drop]
  simp [Match.ofOutcome, Match.map, Mark.state, Cursor.after, hcapture]

theorem matchAt?_map (hf : KeepsEdges f) (hr : r.IsBlindTo f caseless) (t : Text) (n : Nat) :
    r.matchAt? caseless (Cursor.after (t.map f) n)
      = (r.matchAt? caseless (Cursor.after t n)).map (Match.map f) := by
  have hstate : ∀ u : Text, State.mk (Cursor.after u n) [] = Mark.state u ⟨n, []⟩ := fun _ => rfl
  rw [matchAt?_eq_head?, matchAt?_eq_head?, hstate, hstate, outcomes_state, outcomes_state, marks_map hf hr]
  cases marks t caseless r ⟨n, []⟩ with
  | nil => rfl
  | cons m more => exact congrArg some (Match.ofOutcome_state_map t n m)

theorem matchStart?_map (hf : KeepsEdges f) (hr : r.IsBlindTo f caseless) (t : Text) :
    r.matchStart? caseless (t.map f) = (r.matchStart? caseless t).map (Match.map f) :=
  matchAt?_map hf hr t 0

theorem search?_map (hf : KeepsEdges f) (hr : r.IsBlindTo f caseless) (t : Text) :
    r.search? caseless (t.map f) = (r.search? caseless t).map (Match.map f) := by
  rw [search?_eq, search?_eq, List.length_map]
  generalize List.range (t.length + 1) = ns
  induction ns with
  | nil => rfl
  | cons n ns ih =>
    rw [List.findSome?_cons, List.findSome?_cons, matchAt?_map hf hr, ih]
    cases r.matchAt? caseless (Cursor.after t n) <;> rfl

end DateShorthand.Regex
