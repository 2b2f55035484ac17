import DateShorthand.Proofs.Regex.Outcomes
import Mathlib.Data.List.Basic

/-!
# Places

The same search over the places of one text: a state is the number of characters behind it, and a group
keeps where it began and where it ended. What a match covers and captures is read off these places.
-/

namespace DateShorthand.Regex

/-! ## Marks -/

/-- Where a group began and where it ended. -/
structure Span where
  index : Nat
  first : Nat
  last : Nat
deriving DecidableEq, Repr

/-- A place in a text, and where each group has matched, newest first. -/
structure Mark where
  position : Nat
  spans : List Span
deriving DecidableEq, Repr

def Span.capture (t : Text) (g : Span) : Nat × Text := (g.index, (t.drop g.first).take (g.last - g.first))

namespace Mark

/-- The place as the search sees it. -/
def state (t : Text) (m : Mark) : State := ⟨Cursor.after t m.position, m.spans.map (Span.capture t)⟩

/-- Past the next character, if it passes the test. -/
def step (t : Text) (test : Char → Bool) (m : Mark) : Option Mark :=
  (t[m.position]?.filter test).map fun _ => { m with position := m.position + 1 }

/-- The group `index` has matched what lies between the two places. -/
def close (index : Nat) (before after : Mark) : Mark :=
  { after with spans := ⟨index, before.position, after.position⟩ :: after.spans }

/-- What a match up to here covers, and what is behind it. -/
def toMatch (t : Text) (m : Mark) : Match :=
  ⟨0, t.take m.position, t.drop m.position, m.spans.map (Span.capture t)⟩

end Mark

/-! ## The search -/

section Rounds

variable {σ τ : Type}

/-- The rounds of a repetition. -/
def roundsFrom (place : σ → Nat) (body : σ → List σ) (min : Nat) (max : Option Nat) (lazy : Bool) :
    (rounds count : Nat) → (last : Option Nat) → σ → List σ
  | 0, _, _, s => [s]
  | rounds + 1, count, last, s =>
    if count < min then
      (body s).flatMap (roundsFrom place body min max lazy rounds (count + 1) last)
    else
      let more :=
        if max.all (count < ·) && last != some (place s) then
          (body s).flatMap (roundsFrom place body min max lazy rounds (count + 1) (some (place s)))
        else []
      if lazy then s :: more else more ++ [s]

theorem repeatedOutcomes_eq (body : State → List State) (min : Nat) (max : Option Nat) (lazy : Bool)
    (rounds count : Nat) (last : Option Nat) : repeatedOutcomes body min max lazy rounds count last
      = roundsFrom (·.cursor.position) body min max lazy rounds count last := by
  induction rounds generalizing count last with
  | zero => rfl
  | succ rounds ih =>
    funext s
    rw [repeatedOutcomes, roundsFrom, ih, ih]

theorem roundsFrom_map {place : σ → Nat} {place' : τ → Nat} {body : σ → List σ} {body' : τ → List τ}
    {f : σ → τ} (hplace : ∀ s, place' (f s) = place s) (hbody : ∀ s, body' (f s) = (body s).map f)
    (min : Nat) (max : Option Nat) (lazy : Bool) (rounds count : Nat) (last : Option Nat) (s : σ) :
    roundsFrom place' body' min max lazy rounds count last (f s)
      = (roundsFrom place body min max lazy rounds count last s).map f := by
  induction rounds generalizing count last s with
  | zero => rfl
  | succ rounds ih =>
    have hmore : ∀ count last, (body' (f s)).flatMap (roundsFrom place' body' min max lazy rounds count last)
        = ((body s).flatMap (roundsFrom place body min max lazy rounds count last)).map f := by
      intro count last
      rw [hbody, List.flatMap_map, List.map_flatMap]
      exact List.flatMap_congr fun u _ => ih count last u
    rw [roundsFrom, roundsFrom, hmore, hmore, hplace]
    split
    · rfl
    · cases lazy <;> simp [apply_ite (List.map f)]

end Rounds

/-- The places at which a match can end, in the order in which the search reaches them. -/
def marks (t : Text) (caseless : Bool) : Regex → Mark → List Mark
  | .empty, m => [m]
  | .char p, m => (m.step t (charHolds caseless p)).toList
  | .any, m => (m.step t (· != '\n')).toList
  | .set items negated, m => (m.step t fun c => setHolds caseless items c != negated).toList
  | .anchor a, m => if anchorHolds a (Cursor.after t m.position) then [m] else []
  | .seq first second, m => (marks t caseless first m).flatMap (marks t caseless second)
  | .alt first second, m => marks t caseless first m ++ marks t caseless second m
  | .group index body, m => (marks t caseless body m).map (m.close index)
  | .rep body min max greed, m =>
    let rounds := min + (t.length - m.position) + 1
    match greed with
    | .greedy => roundsFrom (·.position) (marks t caseless body) min max false rounds 0 none m
    | .lazy => roundsFrom (·.position) (marks t caseless body) min max true rounds 0 none m
    | .possessive =>
      (roundsFrom (·.position) (marks t caseless body) min max false rounds 0 none m).head?.toList

theorem step_state (t : Text) (test : Char → Bool) (m : Mark) :
    Regex.step test (m.state t) = (m.step t test).map (Mark.state t) := by
  have hhead : t[m.position]? = (t.drop m.position).head? := (List.head?_drop ..).symm
  rw [Mark.step, hhead]
  change (match t.drop m.position with | c :: rest => _ | [] => _) = _
  cases hahead : t.drop m.position with
  | nil => rfl
  | cons c rest =>
    have hrest : t.drop (m.position + 1) = rest := by
      rw [← List.tail_drop, hahead]
      rfl
    have hafter : Cursor.after t (m.position + 1) = ⟨m.position + 1, some c, rest⟩ := by
      rw [Cursor.after, List.take_add_one, hhead, hahead, hrest]
      simp
    have hstate : Mark.state t { m with position := m.position + 1 }
        = ⟨⟨m.position + 1, some c, rest⟩, m.spans.map (Span.capture t)⟩ := by
      rw [Mark.state, hafter]
    by_cases hc : test c = true
    · simp only [hc, List.head?_cons, Option.filter, if_true, Option.map_some, hstate]
      rfl
    · simp [hc, Option.filter]

theorem outcomes_state (t : Text) (caseless : Bool) (r : Regex) (m : Mark) :
    outcomes caseless r (m.state t) = (marks t caseless r m).map (Mark.state t) := by
  have hstep : ∀ test m, (Regex.step test (Mark.state t m)).toList
      = (m.step t test).toList.map (Mark.state t) := by
    intro test m
    rw [step_state]
    cases m.step t test <;> rfl
  induction r generalizing m with
  | empty => rfl
  | char p => exact hstep _ m
  | any => exact hstep _ m
  | set items negated => exact hstep _ m
  | anchor a =>
    rw [outcomes, marks]
    change (if anchorHolds a (Cursor.after t m.position) then _ else _) = _
    split <;> rfl
  | seq first second ihFirst ihSecond =>
    rw [outcomes, marks, ihFirst, List.flatMap_map, List.map_flatMap]
    exact List.flatMap_congr fun u _ => ihSecond u
  | alt first second ihFirst ihSecond => rw [outcomes, marks, ihFirst, ihSecond, List.map_append]
  | group index body ih =>
    rw [outcomes, marks, ih, List.map_map, List.map_map]
    rfl
  | rep body min max greed ih =>
    have hlength : (m.state t).cursor.ahead.length = t.length - m.position := List.length_drop
    have hrounds : ∀ lazy rounds count last,
        roundsFrom (·.cursor.position) (outcomes caseless body) min max lazy rounds count last (m.state t)
          = (roundsFrom (·.position) (marks t caseless body) min max lazy rounds count last m).map
              (Mark.state t) :=
      fun lazy rounds count last => roundsFrom_map (fun _ => rfl) ih min max lazy rounds count last m
    cases greed with
    | greedy | lazy => simp only [outcomes, marks, repeatedOutcomes_eq, hlength, hrounds]
    | possessive =>
      simp only [outcomes, marks, repeatedOutcomes_eq, hlength, hrounds, List.head?_map]
      cases (roundsFrom (·.position) (marks t caseless body) min max false
        (min + (t.length - m.position) + 1) 0 none m).head? <;> rfl

/-! ## Matches -/

/-- Where a match that begins where the text does ends, and where its groups matched. -/
def places? (r : Regex) (caseless : Bool) (t : Text) : Option Mark := (marks t caseless r ⟨0, []⟩).head?

/-- A match is what the places say about the text. -/
theorem matchStart?_eq_places? (r : Regex) (caseless : Bool) (t : Text) :
    r.matchStart? caseless t = (r.places? caseless t).map (Mark.toMatch t) := by
  have hstart : (Mark.mk 0 []).state t = ⟨⟨0, none, t⟩, []⟩ := rfl
  rw [matchStart?, matchAt?_eq_head?, ← hstart, outcomes_state, List.head?_map, Option.map_map]
  rfl

end DateShorthand.Regex
