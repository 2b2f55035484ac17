import DateShorthand.Proofs.Regex.Outcomes
import Mathlib.Logic.Basic

/-!
# Repetitions of one class

A greedy repetition of a class takes all characters that it may, then one less, down to its
minimum. What comes after it decides which of these is the match.
-/

namespace DateShorthand.Regex

/-! ## Single characters -/

def State.skip (s : State) (n : Nat) : State :=
  { s with cursor :=
      ⟨s.cursor.position + n, (s.cursor.ahead.take n).getLast?.or s.cursor.behind,
       s.cursor.ahead.drop n⟩ }

theorem State.skip_zero (s : State) : s.skip 0 = s := by simp [skip]

theorem State.skip_skip (s : State) (n m : Nat) : (s.skip n).skip m = s.skip (n + m) := by
  have hlast : ((s.cursor.ahead.drop n).take m).getLast?.or (s.cursor.ahead.take n).getLast?
      = (s.cursor.ahead.take (n + m)).getLast? := by
    rw [List.take_add, List.getLast?_append]
  simp [skip, ← hlast, Option.or_assoc, Nat.add_assoc]

/-- How many characters at the head pass the test. -/
def leading (test : Char → Bool) (t : Text) : Nat := (t.takeWhile test).length

theorem leading_nil (test : Char → Bool) : leading test [] = 0 := rfl

theorem leading_cons_of_pos {test : Char → Bool} {c : Char} {t : Text} (h : test c = true) :
    leading test (c :: t) = leading test t + 1 := by
  simp [leading, h]

theorem leading_cons_of_neg {test : Char → Bool} {c : Char} {t : Text} (h : ¬ test c = true) :
    leading test (c :: t) = 0 := by
  simp [leading, h]

theorem step_nil {test : Char → Bool} {s : State} (hahead : s.cursor.ahead = []) :
    step test s = none := by
  rw [step, hahead]

theorem step_cons {test : Char → Bool} {s : State} {c : Char} {rest : Text}
    (hahead : s.cursor.ahead = c :: rest) :
    step test s = if test c then some (s.skip 1) else none := by
  unfold step
  rw [hahead]
  simp [State.skip, hahead]

theorem step_of_leading_pos {test : Char → Bool} {s : State} (h : 0 < leading test s.cursor.ahead) :
    step test s = some (s.skip 1) := by
  match hahead : s.cursor.ahead with
  | [] =>
    rw [hahead, leading_nil] at h
    omega
  | c :: rest =>
    by_cases hc : test c = true
    · rw [step_cons hahead, if_pos hc]
    · rw [hahead, leading_cons_of_neg hc] at h
      omega

theorem step_of_leading_zero {test : Char → Bool} {s : State} (h : leading test s.cursor.ahead = 0) :
    step test s = none := by
  match hahead : s.cursor.ahead with
  | [] => exact step_nil hahead
  | c :: rest =>
    by_cases hc : test c = true
    · rw [hahead, leading_cons_of_pos hc] at h
      omega
    · rw [step_cons hahead, if_neg hc]

theorem leading_drop {test : Char → Bool} {t : Text} {n : Nat} (h : n ≤ leading test t) :
    leading test (t.drop n) = leading test t - n := by
  induction t generalizing n with
  | nil => simp [leading]
  | cons c t ih =>
    cases n with
    | zero => rfl
    | succ n =>
      by_cases hc : test c = true
      · rw [leading_cons_of_pos hc] at h ⊢
        rw [List.drop_succ_cons, ih (by omega)]
        omega
      · rw [leading_cons_of_neg hc] at h
        omega

theorem leading_le_length (test : Char → Bool) (t : Text) : leading test t ≤ t.length :=
  (List.takeWhile_sublist _).length_le

theorem mem_step_toList {test : Char → Bool} {s t : State} (h : t ∈ (step test s).toList) :
    ∃ c rest, s.cursor.ahead = c :: rest ∧ test c = true ∧ t = s.skip 1 := by
  match hahead : s.cursor.ahead with
  | [] => simp [step_nil hahead] at h
  | c :: rest =>
    rw [step_cons hahead] at h
    by_cases hc : test c = true
    · rw [if_pos hc] at h
      exact ⟨c, rest, rfl, hc, by simpa using h⟩
    · simp [hc] at h

theorem take_leading {test : Char → Bool} {t : Text} {n : Nat} (h : n ≤ leading test t) :
    ∀ c ∈ t.take n, test c = true := by
  induction t generalizing n with
  | nil => simp
  | cons c t ih =>
    cases n with
    | zero => simp
    | succ n =>
      by_cases hc : test c = true
      · rw [leading_cons_of_pos hc] at h
        intro d hd
        rcases List.mem_cons.mp hd with rfl | hd
        · exact hc
        · exact ih (by omega) d hd
      · rw [leading_cons_of_neg hc] at h
        omega

theorem leading_append {test : Char → Bool} {t rest : Text} (ht : ∀ c ∈ t, test c = true)
    (hrest : ∀ c ∈ rest.head?, ¬ test c = true) : leading test (t ++ rest) = t.length := by
  unfold leading
  rw [List.takeWhile_append_of_pos ht]
  cases rest with
  | nil => simp
  | cons c rest => simp [hrest c rfl]

/-! ## Greedy rounds -/

/-- How many of the `available` characters a repetition may still take after `count` rounds. -/
def allowed (max : Option Nat) (count available : Nat) : Nat :=
  match max with
  | none => available
  | some m => Nat.min available (m - count)

theorem allowed_succ {max : Option Nat} {count available : Nat} (h : max.all (count < ·) = true) :
    allowed max count (available + 1) = allowed max (count + 1) available + 1 := by
  cases max with
  | none => rfl
  | some m =>
    simp only [Option.all_some, decide_eq_true_eq] at h
    simp only [allowed, Nat.min_def]
    split_ifs <;> omega

theorem allowed_of_full {max : Option Nat} {count available : Nat}
    (h : ¬ max.all (count < ·) = true) : allowed max count available = 0 := by
  cases max with
  | none => simp at h
  | some m =>
    simp only [Option.all_some, decide_eq_true_eq] at h
    simp only [allowed, Nat.min_def]
    split_ifs <;> omega

theorem allowed_zero (max : Option Nat) (count : Nat) : allowed max count 0 = 0 := by
  cases max with
  | none => rfl
  | some m => exact Nat.zero_min _

/-- A greedy round past the minimum: one more, or stop here. -/
theorem repeatedOutcomes_succ {body : State → List State} {min count : Nat} (hcount : min ≤ count)
    (max : Option Nat) (rounds : Nat) {last : Option Nat} {s : State}
    (hlast : last ≠ some s.cursor.position) :
    repeatedOutcomes body min max false (rounds + 1) count last s
      = (if max.all (count < ·) then
          (body s).flatMap
            (repeatedOutcomes body min max false rounds (count + 1) (some s.cursor.position))
        else []) ++ [s] := by
  rw [repeatedOutcomes, if_neg (by omega)]
  have hplace : (last != some s.cursor.position) = true := by simpa using hlast
  simp only [hplace, Bool.and_true, Bool.false_eq_true, if_false]

section
variable {test : Char → Bool} {body : State → List State}
  (hbody : ∀ s, body s = (step test s).toList)
include hbody

/-- Past the minimum a greedy repetition takes all that it may, then one less, down to none. -/
theorem repeatedOutcomes_past_min {min count : Nat} (hcount : min ≤ count) (max : Option Nat)
    (rounds : Nat) (last : Option Nat) (s : State) (hrounds : s.cursor.ahead.length < rounds)
    (hlast : ∀ p, last = some p → p < s.cursor.position) :
    repeatedOutcomes body min max false rounds count last s
      = (List.range (allowed max count (leading test s.cursor.ahead) + 1)).reverse.map s.skip := by
  induction rounds generalizing count last s with
  | zero => omega
  | succ rounds ih =>
    rw [repeatedOutcomes_succ hcount _ _ (fun h => Nat.lt_irrefl _ (hlast _ h)), hbody]
    have hlength := leading_le_length test s.cursor.ahead
    rcases Nat.eq_zero_or_pos (leading test s.cursor.ahead) with hzero | hpos
    · rw [step_of_leading_zero hzero, hzero, allowed_zero]
      simp [State.skip_zero]
    · obtain ⟨available, havailable⟩ : ∃ n, leading test s.cursor.ahead = n + 1 :=
        ⟨_, (Nat.succ_pred_eq_of_pos hpos).symm⟩
      by_cases hmax : max.all (count < ·) = true
      · have hnext := ih (Nat.le_succ_of_le hcount) (some s.cursor.position) (s.skip 1)
          (by simp [State.skip]; omega) (by simp [State.skip])
        rw [show (s.skip 1).cursor.ahead = s.cursor.ahead.drop 1 from rfl, leading_drop (by omega),
          havailable, Nat.add_sub_cancel] at hnext
        rw [if_pos hmax, step_of_leading_pos hpos, havailable, allowed_succ hmax,
          Option.toList_some, List.flatMap_singleton, hnext, List.range_succ_eq_map (n := _ + 1)]
        simp [State.skip_skip, State.skip_zero, Function.comp_def, Nat.add_comm]
      · rw [if_neg hmax, allowed_of_full hmax]
        simp [State.skip_zero]

theorem repeatedOutcomes_below_min (max : Option Nat) (rounds count missing : Nat)
    (last : Option Nat) (s : State) :
    repeatedOutcomes body (count + missing) max false (rounds + missing) count last s
      = if missing ≤ leading test s.cursor.ahead then
          repeatedOutcomes body (count + missing) max false rounds (count + missing) last
            (s.skip missing)
        else [] := by
  induction missing generalizing count s with
  | zero => simp [State.skip_zero]
  | succ missing ih =>
    rw [← Nat.add_assoc rounds, repeatedOutcomes, if_pos (by omega), hbody]
    rcases Nat.eq_zero_or_pos (leading test s.cursor.ahead) with hzero | hpos
    · rw [step_of_leading_zero hzero, if_neg (by omega)]
      rfl
    · have hnext := ih (count + 1) (s.skip 1)
      rw [show count + 1 + missing = count + (missing + 1) by omega, State.skip_skip,
        show (s.skip 1).cursor.ahead = s.cursor.ahead.drop 1 from rfl, leading_drop (by omega),
        Nat.add_comm 1 missing] at hnext
      rw [step_of_leading_pos hpos, Option.toList_some, List.flatMap_singleton, hnext]
      exact if_congr (by omega) rfl rfl

end

/-! ## A class of characters -/

theorem outcomes_ofClass (caseless : Bool) (k : CharClass) (s : State) :
    outcomes caseless (ofClass k false) s = (step k.holds s).toList := by
  simp [ofClass, outcomes, setHolds, itemHolds]

/-- All that it may take comes first, and the minimum last. -/
theorem outcomes_rep_ofClass (caseless : Bool) (k : CharClass) (min : Nat) (max : Option Nat)
    (s : State) :
    outcomes caseless (.rep (ofClass k false) min max .greedy) s
      = if min ≤ leading k.holds s.cursor.ahead then
          (List.range (allowed max min (leading k.holds s.cursor.ahead - min) + 1)).reverse.map
            fun n => s.skip (min + n)
        else [] := by
  have hbody := outcomes_ofClass caseless k
  have hbelow := repeatedOutcomes_below_min hbody max (s.cursor.ahead.length + 1) 0 min none s
  rw [Nat.zero_add] at hbelow
  simp only [outcomes]
  rw [show min + s.cursor.ahead.length + 1 = s.cursor.ahead.length + 1 + min by omega, hbelow]
  refine ite_congr rfl (fun hmin => ?_) (fun _ => rfl)
  have hrounds : (s.skip min).cursor.ahead.length < s.cursor.ahead.length + 1 := by
    simp only [State.skip, List.length_drop]
    omega
  rw [repeatedOutcomes_past_min hbody (Nat.le_refl min) _ _ _ _ hrounds (by simp),
    show (s.skip min).cursor.ahead = s.cursor.ahead.drop min from rfl, leading_drop hmin]
  simp [State.skip_skip]

theorem allowed_le (max : Option Nat) (count available : Nat) :
    allowed max count available ≤ available := by
  cases max with
  | none => exact Nat.le_refl _
  | some m => exact Nat.min_le_left _ _

theorem mem_outcomes_rep_ofClass {caseless : Bool} {k : CharClass} {min : Nat} {max : Option Nat}
    {s t : State} (h : t ∈ outcomes caseless (.rep (ofClass k false) min max .greedy) s) :
    ∃ n, t = s.skip (min + n) ∧ min + n ≤ leading k.holds s.cursor.ahead ∧
      ∀ m, max = some m → n ≤ m - min := by
  rw [outcomes_rep_ofClass] at h
  split at h
  · rename_i hmin
    simp only [List.mem_map, List.mem_reverse, List.mem_range, Nat.lt_succ_iff] at h
    obtain ⟨n, hn, rfl⟩ := h
    have hle := allowed_le max min (leading k.holds s.cursor.ahead - min)
    refine ⟨n, rfl, by omega, ?_⟩
    rintro m rfl
    exact Nat.le_trans hn (Nat.min_le_right _ _)
  · simp at h

/-- When what follows accepts the longest repetition, that is the match. -/
theorem head?_flatMap_outcomes_rep_ofClass {caseless : Bool} {k : CharClass} {min : Nat}
    {max : Option Nat} {s : State} {β : Type} {f : State → List β} {b : β}
    (hmin : min ≤ leading k.holds s.cursor.ahead)
    (h : (f (s.skip (min + allowed max min (leading k.holds s.cursor.ahead - min)))).head? = some b) :
    ((outcomes caseless (.rep (ofClass k false) min max .greedy) s).flatMap f).head? = some b := by
  rw [outcomes_rep_ofClass, if_pos hmin, List.range_succ, List.reverse_append]
  simp only [List.reverse_singleton, List.singleton_append, List.map_cons, List.flatMap_cons,
    List.head?_append, h, Option.some_or]

/-! ## Members in a row -/

theorem outcomes_ofList_nil (caseless : Bool) : outcomes caseless (ofList []) = fun s => [s] := rfl

theorem outcomes_ofList_cons (caseless : Bool) (r : Regex) (rs : List Regex) (s : State) :
    outcomes caseless (ofList (r :: rs)) s
      = (outcomes caseless r s).flatMap (outcomes caseless (ofList rs)) := rfl

theorem outcomes_ofList_append_congr {caseless : Bool} {rs rs' : List Regex}
    (h : outcomes caseless (ofList rs) = outcomes caseless (ofList rs')) (front : List Regex) :
    outcomes caseless (ofList (front ++ rs)) = outcomes caseless (ofList (front ++ rs')) := by
  induction front with
  | nil => exact h
  | cons r front ih =>
    funext s
    rw [List.cons_append, List.cons_append, outcomes_ofList_cons, outcomes_ofList_cons, ih]

theorem outcomes_ofList_singleton (caseless : Bool) (r : Regex) :
    outcomes caseless (ofList [r]) = outcomes caseless r := by
  funext s
  rw [outcomes_ofList_cons, outcomes_ofList_nil, List.flatMap_singleton']

theorem outcomes_group_ofList (caseless : Bool) (index : Nat) (r : Regex) (s : State) :
    outcomes caseless (.group index (ofList [r])) s = outcomes caseless (.group index r) s := by
  rw [outcomes, outcomes, outcomes_ofList_singleton]

theorem outcomes_optional (caseless : Bool) (r : Regex) (s : State) :
    outcomes caseless (optional r) s = outcomes caseless r s ++ [s] := by
  have hstop : ∀ rounds last, repeatedOutcomes (outcomes caseless r) 0 (some 1) false rounds 1 last
      = fun s => [s] := by
    intro rounds last
    funext t
    cases rounds with
    | zero => rfl
    | succ rounds => simp [repeatedOutcomes]
  simp only [optional, outcomes]
  rw [Nat.zero_add, repeatedOutcomes_succ (Nat.le_refl 0) _ _ (by simp), hstop]
  simp

/-! ## Reading a text -/

/-- The state `n` characters on, with more captures. -/
def State.read (s : State) (n : Nat) (captures : Captures) : State :=
  { s.skip n with captures := captures ++ s.captures }

theorem State.read_zero (s : State) : s.read 0 [] = s := by
  rw [read, skip_zero]
  rfl

theorem State.read_read (s : State) (n m : Nat) (captures more : Captures) :
    (s.read n captures).read m more = s.read (n + m) (more ++ captures) := by
  unfold read
  change { (s.skip n).skip m with captures := more ++ (captures ++ s.captures) } = _
  rw [skip_skip, List.append_assoc]

theorem State.ahead_read {s : State} {t rest : Text} (captures : Captures)
    (h : s.cursor.ahead = t ++ rest) : (s.read t.length captures).cursor.ahead = rest := by
  simp [read, skip, h]

theorem State.capture_skip {s : State} {t rest : Text} (h : s.cursor.ahead = t ++ rest)
    (index : Nat) : s.capture index (s.skip t.length) = s.read t.length [(index, t)] := by
  simp [capture, skip, read, h]

theorem Match.ofOutcome_read {place : Cursor} {t rest : Text} (captures : Captures)
    (hahead : place.ahead = t ++ rest) :
    Match.ofOutcome place ((State.mk place []).read t.length captures)
      = ⟨place.position, t, rest, captures⟩ := by
  simp [ofOutcome, State.read, State.skip, hahead]

theorem mem_outcomes_char {caseless : Bool} {p : Char} {s t : State}
    (h : t ∈ outcomes caseless (.char p) s) :
    ∃ c rest, s.cursor.ahead = c :: rest ∧ charHolds caseless p c = true ∧ t = s.read 1 [] :=
  mem_step_toList h

theorem outcomes_char_of_holds {caseless : Bool} {p c : Char} {s : State} {rest : Text}
    (hahead : s.cursor.ahead = c :: rest) (hholds : charHolds caseless p c = true) :
    outcomes caseless (.char p) s = [s.read 1 []] := by
  rw [outcomes, step_cons hahead, if_pos hholds]
  rfl

theorem outcomes_char {caseless : Bool} {p : Char} {s : State} {rest : Text}
    (hahead : s.cursor.ahead = p :: rest) : outcomes caseless (.char p) s = [s.read 1 []] :=
  outcomes_char_of_holds hahead (by cases caseless <;> simp [charHolds, Text.sameLetter])

theorem mem_outcomes_decimals {caseless : Bool} {index lo hi : Nat} {s t : State} (hle : lo ≤ hi)
    (h : t ∈ outcomes caseless (.group index (decimals lo hi)) s) :
    ∃ digits rest, (∀ c ∈ digits, Text.isDecimal c = true) ∧ lo ≤ digits.length ∧
      digits.length ≤ hi ∧ s.cursor.ahead = digits ++ rest ∧
      t = s.read digits.length [(index, digits)] := by
  rw [outcomes, List.mem_map] at h
  obtain ⟨u, hu, rfl⟩ := h
  obtain ⟨n, rfl, hn, hmax⟩ := mem_outcomes_rep_ofClass hu
  have hlength : (s.cursor.ahead.take (lo + n)).length = lo + n := by
    rw [List.length_take]
    exact Nat.min_eq_left (Nat.le_trans hn (leading_le_length _ _))
  have hahead := (List.take_append_drop (lo + n) s.cursor.ahead).symm
  have := hmax hi rfl
  refine ⟨s.cursor.ahead.take (lo + n), _, take_leading hn, by omega, by omega, hahead, ?_⟩
  rw [← State.capture_skip hahead, hlength]

theorem head?_flatMap_decimals {caseless : Bool} {index lo hi : Nat} {s : State}
    {digits rest : Text} {β : Type} {f : State → List β} {b : β}
    (hdigits : ∀ c ∈ digits, Text.isDecimal c = true) (hlo : lo ≤ digits.length)
    (hhi : digits.length ≤ hi) (hahead : s.cursor.ahead = digits ++ rest)
    (hrest : digits.length < hi → ∀ c ∈ rest.head?, ¬ Text.isDecimal c = true)
    (h : (f (s.read digits.length [(index, digits)])).head? = some b) :
    ((outcomes caseless (.group index (decimals lo hi)) s).flatMap f).head? = some b := by
  have hleading : digits.length ≤ leading Text.isDecimal s.cursor.ahead := by
    rw [hahead]
    unfold leading
    rw [List.takeWhile_append_of_pos hdigits, List.length_append]
    omega
  have hallowed : lo + allowed (some hi) lo (leading Text.isDecimal s.cursor.ahead - lo)
      = digits.length := by
    rcases Nat.lt_or_ge digits.length hi with hlt | hge
    · rw [hahead, leading_append hdigits (hrest hlt)]
      simp only [allowed, Nat.min_def]
      split_ifs <;> omega
    · simp only [allowed, Nat.min_def]
      split_ifs <;> omega
  rw [outcomes, List.flatMap_map]
  refine head?_flatMap_outcomes_rep_ofClass (Nat.le_trans hlo hleading) ?_
  change (f (s.capture index (s.skip (lo + allowed _ lo (leading Text.isDecimal _ - lo))))).head? = _
  rw [hallowed, State.capture_skip hahead]
  exact h

end DateShorthand.Regex
