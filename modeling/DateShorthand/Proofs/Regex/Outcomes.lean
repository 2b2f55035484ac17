import DateShorthand.Regex.Basic
import Mathlib.Tactic.Common

/-!
# The outcomes of a match

The states in which a match can end, in the order in which the search reaches them. The search
hands them on one by one until the rest of the expression matches, so its answer is the first
outcome that the rest accepts.
-/

namespace DateShorthand.Regex

/-! ## The list of outcomes -/

/-- The group `index` has matched what lies between the two states. -/
def State.capture (index : Nat) (before after : State) : State :=
  { after with captures :=
      (index, before.cursor.ahead.take (after.cursor.position - before.cursor.position))
        :: after.captures }

def repeatedOutcomes (body : State → List State) (min : Nat) (max : Option Nat) (lazy : Bool) :
    (rounds count : Nat) → (last : Option Nat) → State → List State
  | 0, _, _, s => [s]
  | rounds + 1, count, last, s =>
    if count < min then
      (body s).flatMap (repeatedOutcomes body min max lazy rounds (count + 1) last)
    else
      let more :=
        if max.all (count < ·) && last != some s.cursor.position then
          (body s).flatMap
            (repeatedOutcomes body min max lazy rounds (count + 1) (some s.cursor.position))
        else []
      if lazy then s :: more else more ++ [s]

def outcomes (caseless : Bool) : Regex → State → List State
  | .empty, s => [s]
  | .char p, s => (step (charHolds caseless p) s).toList
  | .any, s => (step (· != '\n') s).toList
  | .set items negated, s => (step (fun c => setHolds caseless items c != negated) s).toList
  | .anchor a, s => if anchorHolds a s.cursor then [s] else []
  | .seq first second, s => (outcomes caseless first s).flatMap (outcomes caseless second)
  | .alt first second, s => outcomes caseless first s ++ outcomes caseless second s
  | .group index body, s => (outcomes caseless body s).map (s.capture index)
  | .rep body min max greed, s =>
    let rounds := min + s.cursor.ahead.length + 1
    match greed with
    | .greedy => repeatedOutcomes (outcomes caseless body) min max false rounds 0 none s
    | .lazy => repeatedOutcomes (outcomes caseless body) min max true rounds 0 none s
    | .possessive =>
      (repeatedOutcomes (outcomes caseless body) min max false rounds 0 none s).head?.toList

/-! ## The search finds the first outcome that is accepted -/

theorem findSome?_singleton {α β : Type} (f : α → Option β) (a : α) : [a].findSome? f = f a := by
  simp [List.findSome?_cons]
  cases f a <;> rfl

theorem findSome?_some {α : Type} (xs : List α) : xs.findSome? some = xs.head? := by
  cases xs <;> rfl

theorem findSome?_toList {α β : Type} (x : Option α) (f : α → Option β) :
    x.toList.findSome? f = x.bind f := by
  cases x with
  | none => rfl
  | some a => exact findSome?_singleton f a

theorem findSome?_flatMap {α β γ : Type} (xs : List α) (g : α → List β) (f : β → Option γ) :
    (xs.flatMap g).findSome? f = xs.findSome? fun x => (g x).findSome? f := by
  induction xs with
  | nil => rfl
  | cons x xs ih =>
    rw [List.flatMap_cons, List.findSome?_append, ih, List.findSome?_cons]
    cases (g x).findSome? f <;> rfl

theorem repeated_eq_findSome? {run : Run} {body : State → List State}
    (hbody : ∀ s k, run s k = (body s).findSome? k) (min : Nat) (max : Option Nat) (lazy : Bool)
    (rounds count : Nat) (last : Option Nat) (s : State) (k : State → Option State) :
    repeated run min max lazy rounds count last s k
      = (repeatedOutcomes body min max lazy rounds count last s).findSome? k := by
  induction rounds generalizing count last s with
  | zero => rw [repeated, repeatedOutcomes, findSome?_singleton]
  | succ rounds ih =>
    rw [repeated, repeatedOutcomes]
    simp only [hbody, ih]
    split
    · rw [findSome?_flatMap]
    · rename_i hmin
      have hmore : (if max.all (count < ·) && last != some s.cursor.position then
            (body s).findSome? fun next => (repeatedOutcomes body min max lazy rounds (count + 1)
              (some s.cursor.position) next).findSome? k
          else none)
          = (if max.all (count < ·) && last != some s.cursor.position then
              (body s).flatMap (repeatedOutcomes body min max lazy rounds (count + 1)
                (some s.cursor.position))
            else []).findSome? k := by
        split
        · rw [findSome?_flatMap]
        · rfl
      rw [hmore]
      cases lazy with
      | false => simp [List.findSome?_append]
      | true =>
        simp only [if_true, List.findSome?_cons]
        cases k s <;> rfl

theorem run_eq_findSome? (caseless : Bool) (r : Regex) (s : State) (k : State → Option State) :
    run caseless r s k = (outcomes caseless r s).findSome? k := by
  induction r generalizing s k with
  | empty => rw [run, outcomes, findSome?_singleton]
  | char p => rw [run, outcomes, findSome?_toList]
  | any => rw [run, outcomes, findSome?_toList]
  | set items negated => rw [run, outcomes, findSome?_toList]
  | anchor a =>
    rw [run, outcomes]
    split
    · rw [findSome?_singleton]
    · rfl
  | seq first second ihFirst ihSecond =>
    rw [run, outcomes, ihFirst, findSome?_flatMap]
    simp only [ihSecond]
  | alt first second ihFirst ihSecond =>
    rw [run, outcomes, ihFirst, ihSecond, List.findSome?_append]
    simp
  | group index body ih =>
    rw [run, outcomes, ih, List.findSome?_map]
    rfl
  | rep body min max greed ih =>
    cases greed with
    | greedy => simp only [run, outcomes, repeated_eq_findSome? ih]
    | lazy => simp only [run, outcomes, repeated_eq_findSome? ih]
    | possessive =>
      simp only [run, outcomes, repeated_eq_findSome? ih, findSome?_toList]
      rw [findSome?_some]

/-- What the outcome `s` says about a match that began at `place`. -/
def Match.ofOutcome (place : Cursor) (s : State) : Match :=
  ⟨place.position, place.ahead.take (s.cursor.position - place.position), s.cursor.ahead, s.captures⟩

theorem matchAt?_eq_head? (r : Regex) (caseless : Bool) (place : Cursor) :
    r.matchAt? caseless place
      = (outcomes caseless r ⟨place, []⟩).head?.map (Match.ofOutcome place) := by
  rw [matchAt?, run_eq_findSome?, findSome?_some]
  rfl

/-! ## The leftmost match -/

/-- The place behind the first `n` characters of `t`. -/
def Cursor.after (t : Text) (n : Nat) : Cursor := ⟨n, (t.take n).getLast?, t.drop n⟩

theorem Cursor.after_append (before ahead : Text) :
    Cursor.after (before ++ ahead) before.length
      = ⟨before.length, before.getLast?, ahead⟩ := by
  simp [Cursor.after]

theorem searchFrom?_eq (r : Regex) (caseless : Bool) (before ahead : Text) :
    r.searchFrom? caseless before.length before.getLast? ahead
      = (List.range' before.length (ahead.length + 1)).findSome? fun n =>
          r.matchAt? caseless (Cursor.after (before ++ ahead) n) := by
  induction ahead generalizing before with
  | nil => rw [searchFrom?, List.length_nil, List.range'_one, findSome?_singleton,
      Cursor.after_append]
  | cons c rest ih =>
    have hrest := ih (before ++ [c])
    simp only [List.length_append, List.length_singleton, List.append_assoc,
      List.singleton_append, List.getLast?_concat] at hrest
    rw [searchFrom?, hrest, List.length_cons, List.range'_succ (n := rest.length + 1),
      List.findSome?_cons, Cursor.after_append]
    cases r.matchAt? caseless ⟨before.length, before.getLast?, c :: rest⟩ <;> rfl

theorem search?_eq (r : Regex) (caseless : Bool) (t : Text) :
    r.search? caseless t = (List.range (t.length + 1)).findSome? fun n =>
      r.matchAt? caseless (Cursor.after t n) := by
  rw [List.range_eq_range']
  exact searchFrom?_eq r caseless [] t

theorem search?_congr {r r' : Regex} {caseless : Bool} (h : outcomes caseless r = outcomes caseless r')
    (t : Text) : r.search? caseless t = r'.search? caseless t := by
  simp only [search?_eq, matchAt?_eq_head?, h]

theorem search?_eq_none_iff (r : Regex) (caseless : Bool) (t : Text) :
    r.search? caseless t = none ↔
      ∀ n ≤ t.length, r.matchAt? caseless (Cursor.after t n) = none := by
  simp only [search?_eq, List.findSome?_eq_none_iff, List.mem_range, Nat.lt_succ_iff]

theorem search?_eq_some {r : Regex} {caseless : Bool} {t : Text} {n : Nat} {m : Match}
    (hn : n ≤ t.length) (hearlier : ∀ i < n, r.matchAt? caseless (Cursor.after t i) = none)
    (hm : r.matchAt? caseless (Cursor.after t n) = some m) : r.search? caseless t = some m := by
  rw [search?_eq, List.findSome?_eq_some_iff]
  refine ⟨List.range n, n, List.range' (n + 1) (t.length - n), ?_, hm, ?_⟩
  · rw [List.range_eq_range', List.range_eq_range', ← List.range'_succ]
    rw [show t.length + 1 = n + (t.length - n + 1) by omega, ← List.range'_append_1]
    simp
  · simpa using hearlier

end DateShorthand.Regex
