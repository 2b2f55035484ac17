import DateShorthand.Proofs.Regex.Repetition
import Mathlib.Data.List.Forall2

/-!
# Literals and choices

What a match leaves of the text ahead, for literals, choices between them and the other members
that take no group. Where the captures do not matter, the characters ahead tell a match apart.
-/

namespace DateShorthand.Regex

/-! ## Literals -/

/-- The texts agree letter by letter when case is ignored. -/
def SameText (t u : Text) : Prop := List.Forall₂ (fun p c => Text.sameLetter p c = true) t u

theorem SameText.refl (t : Text) : SameText t t := by
  rw [SameText, List.forall₂_same]
  intro c _
  simp [Text.sameLetter]

theorem SameText.exists_of_mem {t u : Text} (h : SameText t u) {c : Char} (hc : c ∈ u) :
    ∃ p ∈ t, Text.sameLetter p c = true := by
  induction h with
  | nil => simp at hc
  | cons hsame _ ih =>
    rcases List.mem_cons.mp hc with rfl | hc
    · exact ⟨_, List.mem_cons_self, hsame⟩
    · obtain ⟨p, hp, hsame⟩ := ih hc
      exact ⟨p, List.mem_cons_of_mem _ hp, hsame⟩

theorem mem_outcomes_literal {w : Text} {s t : State} (h : t ∈ outcomes true (literal w) s) :
    ∃ u rest, SameText w u ∧ s.cursor.ahead = u ++ rest ∧ t = s.read u.length [] := by
  induction w generalizing s with
  | nil =>
    rw [literal, List.map_nil, outcomes_ofList_nil, List.mem_singleton] at h
    exact ⟨[], _, .nil, rfl, by rw [h, List.length_nil, State.read_zero]⟩
  | cons p w ih =>
    rw [literal, List.map_cons, outcomes_ofList_cons, List.mem_flatMap] at h
    obtain ⟨s₁, hfirst, h⟩ := h
    obtain ⟨c, rest, hc, hholds, rfl⟩ := mem_outcomes_char hfirst
    obtain ⟨u, rest', hu, hahead, rfl⟩ := ih h
    have hrest : rest = u ++ rest' := (State.ahead_read (t := [c]) [] hc).symm.trans hahead
    refine ⟨c :: u, rest', .cons hholds hu, by rw [hc, hrest, List.cons_append], ?_⟩
    rw [State.read_read, List.length_cons, Nat.add_comm]
    rfl

theorem outcomes_literal {w u rest : Text} {s : State} (h : SameText w u)
    (hahead : s.cursor.ahead = u ++ rest) : outcomes true (literal w) s = [s.read u.length []] := by
  induction h generalizing s with
  | nil => rw [literal, List.map_nil, outcomes_ofList_nil, List.length_nil, State.read_zero]
  | @cons p c w u hsame _ ih =>
    have hrest : (s.read 1 []).cursor.ahead = u ++ rest := State.ahead_read (t := [c]) [] hahead
    have hholds : charHolds true p c = true := hsame
    rw [literal, List.map_cons, outcomes_ofList_cons, outcomes_char_of_holds hahead hholds,
      List.flatMap_singleton]
    change outcomes true (literal w) _ = _
    rw [ih hrest, State.read_read, List.length_cons, Nat.add_comm]
    rfl

/-- A literal matches in one way or in none, and takes its own length. -/
theorem outcomes_literal_eq (w : Text) (s : State) :
    outcomes true (literal w) s = if (outcomes true (literal w) s).isEmpty then []
      else [s.read w.length []] := by
  induction w generalizing s with
  | nil =>
    rw [literal, List.map_nil, outcomes_ofList_nil, List.length_nil, State.read_zero]
    rfl
  | cons p w ih =>
    rw [literal, List.map_cons, outcomes_ofList_cons, outcomes]
    cases hstep : step (charHolds true p) s with
    | none => rfl
    | some t =>
      obtain ⟨c, rest, -, -, rfl⟩ := mem_step_toList (Option.mem_toList.mpr hstep)
      have hnext := ih (s.read 1 [])
      rw [State.read_read, Nat.add_comm] at hnext
      rw [Option.toList_some, List.flatMap_singleton]
      exact hnext

/-! ## Choices -/

theorem outcomes_oneOf {caseless : Bool} {rs : List Regex} (hne : rs ≠ []) (s : State) :
    outcomes caseless (oneOf rs) s = rs.flatMap fun r => outcomes caseless r s := by
  induction rs with
  | nil => exact absurd rfl hne
  | cons r rs ih =>
    match rs with
    | [] => rw [oneOf, List.flatMap_singleton]
    | r' :: rs =>
      rw [oneOf, outcomes, ih (by simp)]
      · rfl
      · simp

theorem mem_outcomes_oneOf {caseless : Bool} {rs : List Regex} (hne : rs ≠ []) {s t : State} :
    t ∈ outcomes caseless (oneOf rs) s ↔ ∃ r ∈ rs, t ∈ outcomes caseless r s := by
  rw [outcomes_oneOf hne, List.mem_flatMap]

/-- The lengths of the texts that match ahead, in the given order. -/
def matchingLengths (s : State) (ws : List Text) : List Nat :=
  (ws.filter fun w => !(outcomes true (literal w) s).isEmpty).map List.length

theorem outcomes_oneOf_literal {ws : List Text} (hne : ws ≠ []) (s : State) :
    outcomes true (oneOf (ws.map literal)) s = (matchingLengths s ws).map fun n => s.read n [] := by
  rw [outcomes_oneOf (by simpa using hne), List.flatMap_map, matchingLengths, List.map_map]
  clear hne
  induction ws with
  | nil => rfl
  | cons w ws ih =>
    rw [List.flatMap_cons, ih, outcomes_literal_eq w s, List.filter_cons]
    cases (outcomes true (literal w) s).isEmpty <;> rfl

/-- Literals of one length that match lead to one state. So with the longest first, it does not matter
in which order literals of one length are tried. -/
theorem outcomes_oneOf_literal_congr {ws ws' : List Text} (hperm : ws.Perm ws')
    (hws : ws.Pairwise fun t u => u.length ≤ t.length)
    (hws' : ws'.Pairwise fun t u => u.length ≤ t.length) (s : State) :
    outcomes true (oneOf (ws.map literal)) s = outcomes true (oneOf (ws'.map literal)) s := by
  by_cases hne : ws = []
  · obtain rfl : ws' = [] := (hne ▸ hperm).nil_eq.symm
    rw [hne]
  · have hne' : ws' ≠ [] := fun h => hne (h ▸ hperm).eq_nil
    have hlengths : matchingLengths s ws = matchingLengths s ws' :=
      ((hperm.filter _).map _).eq_of_pairwise (fun _ _ _ _ h h' => Nat.le_antisymm h' h)
        (List.pairwise_map.mpr (hws.filter _)) (List.pairwise_map.mpr (hws'.filter _))
    rw [outcomes_oneOf_literal hne, outcomes_oneOf_literal hne', hlengths]

/-! ## Anchors and blanks -/

theorem mem_outcomes_finish {caseless : Bool} {s t : State}
    (h : t ∈ outcomes caseless (.anchor .finish) s) :
    t = s ∧ (s.cursor.ahead = [] ∨ s.cursor.ahead = ['\n']) := by
  rw [outcomes] at h
  split at h
  · rename_i hholds
    exact ⟨List.mem_singleton.mp h, by simpa [anchorHolds] using hholds⟩
  · simp at h

theorem outcomes_finish {caseless : Bool} {s : State} (hahead : s.cursor.ahead = []) :
    outcomes caseless (.anchor .finish) s = [s] := by
  simp [outcomes, anchorHolds, hahead]

theorem mem_outcomes_ofClass {caseless : Bool} {k : CharClass} {min : Nat} {max : Option Nat}
    {s t : State} (h : t ∈ outcomes caseless (.rep (ofClass k false) min max .greedy) s) :
    ∃ u, (∀ c ∈ u, k.holds c = true) ∧ min ≤ u.length ∧ s.cursor.ahead = u ++ t.cursor.ahead := by
  obtain ⟨n, rfl, hn, -⟩ := mem_outcomes_rep_ofClass h
  have hlength : (s.cursor.ahead.take (min + n)).length = min + n := by
    rw [List.length_take]
    exact Nat.min_eq_left (Nat.le_trans hn (leading_le_length _ _))
  refine ⟨s.cursor.ahead.take (min + n), take_leading hn, by omega, ?_⟩
  exact (List.take_append_drop _ _).symm

theorem head?_flatMap_ofClass {caseless : Bool} {k : CharClass} {min : Nat} {s : State}
    {t rest : Text} {β : Type} {f : State → List β} {b : β} (ht : ∀ c ∈ t, k.holds c = true)
    (hmin : min ≤ t.length) (hahead : s.cursor.ahead = t ++ rest)
    (hrest : ∀ c ∈ rest.head?, ¬ k.holds c = true) (h : (f (s.read t.length [])).head? = some b) :
    ((outcomes caseless (.rep (ofClass k false) min none .greedy) s).flatMap f).head? = some b := by
  have hleading : leading k.holds s.cursor.ahead = t.length := by rw [hahead, leading_append ht hrest]
  refine head?_flatMap_outcomes_rep_ofClass (by omega) ?_
  rw [hleading, show min + allowed none min (t.length - min) = t.length by simp [allowed]; omega]
  exact h

end DateShorthand.Regex
