import DateShorthand.Proofs.Regex.Literal
import Mathlib.Data.List.Basic

/-!
# What a match sees

A match reads on from where it begins, and what it captures is what it reads. Off the start of the
text it does not see how much is behind it, and it does not see what follows a text that it cannot
read on into.
-/

namespace DateShorthand.Regex

variable {caseless : Bool} {s t : State}

/-! ## Groups -/

/-- The groups of an expression. -/
def groupsIn : Regex → List Nat
  | .group index body => index :: groupsIn body
  | .seq first second => groupsIn first ++ groupsIn second
  | .alt first second => groupsIn first ++ groupsIn second
  | .rep body _ _ _ => groupsIn body
  | _ => []

theorem groupsIn_ofList (rs : List Regex) : groupsIn (ofList rs) = rs.flatMap groupsIn := by
  induction rs with
  | nil => rfl
  | cons r rs ih => exact congrArg (groupsIn r ++ ·) ih

theorem groupsIn_literal (w : Text) : groupsIn (literal w) = [] := by
  rw [literal, groupsIn_ofList, List.flatMap_map]
  exact List.flatMap_eq_nil_iff.mpr fun _ _ => rfl

theorem groupsIn_oneOf (rs : List Regex) : groupsIn (oneOf rs) = rs.flatMap groupsIn := by
  fun_induction oneOf rs with
  | case1 => rfl
  | case2 => simp
  | case3 r rest _ ih => rw [groupsIn, ih, List.flatMap_cons]

/-! ## Reading on -/

/-- The state `t` lies behind some of the text ahead of `s`. -/
def State.ReadsTo (s t : State) : Prop :=
  ∃ u, s.cursor.ahead = u ++ t.cursor.ahead ∧ t.cursor.position = s.cursor.position + u.length

theorem State.ReadsTo.refl (s : State) : s.ReadsTo s := ⟨[], rfl, rfl⟩

theorem State.ReadsTo.trans {s t u : State} (h : s.ReadsTo t) (h' : t.ReadsTo u) : s.ReadsTo u := by
  obtain ⟨v, hahead, hposition⟩ := h
  obtain ⟨w, hahead', hposition'⟩ := h'
  refine ⟨v ++ w, by rw [hahead, hahead', List.append_assoc], ?_⟩
  rw [hposition', hposition, List.length_append]
  omega

theorem State.ReadsTo.position_le (h : s.ReadsTo t) : s.cursor.position ≤ t.cursor.position := by
  obtain ⟨u, -, hposition⟩ := h
  omega

theorem State.ReadsTo.take_ahead (h : s.ReadsTo t) (u : Text) :
    (s.cursor.ahead ++ u).take (t.cursor.position - s.cursor.position)
      = s.cursor.ahead.take (t.cursor.position - s.cursor.position) := by
  obtain ⟨v, hahead, hposition⟩ := h
  refine List.take_append_of_le_length ?_
  rw [hahead, List.length_append]
  omega

theorem readsTo_of_step {test : Char → Bool} (h : t ∈ (step test s).toList) : s.ReadsTo t := by
  obtain ⟨c, rest, hahead, -, rfl⟩ := mem_step_toList h
  exact ⟨[c], by simp [hahead, State.skip], rfl⟩

/-- What goes on from state to state goes on from round to round. -/
theorem repeatedOutcomes_induction {R : State → State → Prop} (refl : ∀ s, R s s)
    (trans : ∀ {s t u}, R s t → R t u → R s u) {body : State → List State}
    (hbody : ∀ s, ∀ t ∈ body s, R s t) {min : Nat} {max : Option Nat} {lazy : Bool}
    {rounds count : Nat} {last : Option Nat}
    (h : t ∈ repeatedOutcomes body min max lazy rounds count last s) : R s t := by
  induction rounds generalizing count last s with
  | zero => exact List.mem_singleton.mp h ▸ refl s
  | succ rounds ih =>
    have hmore : ∀ {count last}, t ∈ (body s).flatMap
        (repeatedOutcomes body min max lazy rounds count last) → R s t := by
      intro count last h
      obtain ⟨u, hu, h⟩ := List.mem_flatMap.mp h
      exact trans (hbody s u hu) (ih h)
    have hthis : t = s → R s t := by
      rintro rfl
      exact refl t
    rw [repeatedOutcomes] at h
    split at h
    · exact hmore h
    · dsimp only at h
      split at h <;> split at h
      · exact (List.mem_cons.mp h).elim hthis hmore
      · exact hthis (List.mem_singleton.mp h)
      · exact (List.mem_append.mp h).elim hmore fun h => hthis (List.mem_singleton.mp h)
      · exact hthis (List.mem_singleton.mp h)

/-- What holds between the states before and after a character, is left alone by the captures of an
expression and goes on from state to state holds between the states before and after a match. -/
theorem outcomes_induction {R : State → State → Prop} (refl : ∀ s, R s s)
    (trans : ∀ {s t u}, R s t → R t u → R s u)
    (step : ∀ {test s t}, t ∈ (step test s).toList → R s t) {r : Regex}
    (capture : ∀ index ∈ groupsIn r, ∀ {s t}, R s t → R s (s.capture index t))
    (h : t ∈ outcomes caseless r s) : R s t := by
  induction r generalizing s t with
  | empty => exact List.mem_singleton.mp h ▸ refl s
  | char | any | set => exact step h
  | anchor a =>
    rw [outcomes] at h
    split at h
    · exact List.mem_singleton.mp h ▸ refl s
    · simp at h
  | seq first second ihFirst ihSecond =>
    obtain ⟨hfirst, hsecond⟩ := List.forall_mem_append.mp capture
    obtain ⟨u, hu, h⟩ := List.mem_flatMap.mp h
    exact trans (ihFirst hfirst hu) (ihSecond hsecond h)
  | alt first second ihFirst ihSecond =>
    obtain ⟨hfirst, hsecond⟩ := List.forall_mem_append.mp capture
    exact (List.mem_append.mp h).elim (ihFirst hfirst) (ihSecond hsecond)
  | group index body ih =>
    obtain ⟨hindex, hbody⟩ := List.forall_mem_cons.mp capture
    rw [outcomes, List.mem_map] at h
    obtain ⟨u, hu, rfl⟩ := h
    exact hindex (ih hbody hu)
  | rep body min max greed ih =>
    cases greed with
    | greedy | lazy => exact repeatedOutcomes_induction refl trans (fun _ _ => ih capture) h
    | possessive =>
      rw [outcomes, Option.mem_toList] at h
      exact repeatedOutcomes_induction refl trans (fun _ _ => ih capture) (List.mem_of_head? h)

theorem readsTo_of_mem_outcomes {r : Regex} (h : t ∈ outcomes caseless r s) : s.ReadsTo t :=
  outcomes_induction .refl .trans readsTo_of_step (fun _ _ _ _ h => h) h

/-! ## What is captured -/

/-- What is captured at `t` and not at `s` stands in the text ahead of `s`. -/
structure State.CapturesTo (s t : State) : Prop where
  readsTo : s.ReadsTo t
  stands : ∀ entry ∈ t.captures, entry ∈ s.captures ∨ entry.2 <:+: s.cursor.ahead

namespace State.CapturesTo

theorem refl (s : State) : s.CapturesTo s := ⟨.refl s, fun _ h => Or.inl h⟩

theorem trans {s t u : State} (h : s.CapturesTo t) (h' : t.CapturesTo u) : s.CapturesTo u := by
  refine ⟨h.readsTo.trans h'.readsTo, fun entry hentry => ?_⟩
  rcases h'.stands entry hentry with hentry | hinside
  · exact h.stands entry hentry
  · obtain ⟨v, hahead, -⟩ := h.readsTo
    exact Or.inr (hinside.trans ⟨v, [], by rw [hahead, List.append_nil]⟩)

theorem capture (index : Nat) {s t : State} (h : s.CapturesTo t) : s.CapturesTo (s.capture index t) := by
  refine ⟨h.readsTo, fun entry hentry => ?_⟩
  rcases List.mem_cons.mp hentry with rfl | hentry
  · exact Or.inr (List.take_prefix ..).isInfix
  · exact h.stands entry hentry

end State.CapturesTo

theorem capturesTo_of_step {test : Char → Bool} (h : t ∈ (step test s).toList) : s.CapturesTo t := by
  refine ⟨readsTo_of_step h, fun entry hentry => Or.inl ?_⟩
  obtain ⟨c, rest, -, -, rfl⟩ := mem_step_toList h
  exact hentry

theorem capturesTo_of_mem_outcomes {r : Regex} (h : t ∈ outcomes caseless r s) : s.CapturesTo t :=
  outcomes_induction .refl .trans capturesTo_of_step (fun index _ _ _ => .capture index) h

/-- An expression leaves a group that it does not hold as it is. -/
theorem lookup_of_mem_outcomes {r : Regex} {index : Nat} (hindex : index ∉ groupsIn r)
    (h : t ∈ outcomes caseless r s) : t.captures.lookup index = s.captures.lookup index := by
  refine outcomes_induction (R := fun s t => t.captures.lookup index = s.captures.lookup index)
    (fun _ => rfl) (fun h h' => h'.trans h) (fun h => ?_) (fun index' hmem s t h => ?_) h
  · obtain ⟨c, rest, -, -, rfl⟩ := mem_step_toList h
    rfl
  · have hne : index ≠ index' := fun heq => hindex (heq ▸ hmem)
    rw [State.capture, List.lookup_cons, beq_false_of_ne hne]
    exact h

/-- A group of a match has matched a part of the text. -/
theorem isInfix_of_group? {r : Regex} {text u : Text} {m : Match} {index : Nat}
    (hm : r.search? caseless text = some m) (hu : m.group? index = some u) : u <:+: text := by
  rw [search?_eq] at hm
  obtain ⟨n, -, hn⟩ := List.exists_of_findSome?_eq_some hm
  rw [matchAt?_eq_head?] at hn
  obtain ⟨s, hs, rfl⟩ := Option.map_eq_some_iff.mp hn
  have hmem : (index, u) ∈ s.captures := by
    obtain ⟨before, after, hsplit, -⟩ := List.lookup_eq_some_iff.mp hu
    simp [show s.captures = _ from hsplit]
  have hstands := (capturesTo_of_mem_outcomes (List.mem_of_head? hs)).stands _ hmem
  exact (hstands.resolve_left List.not_mem_nil).trans (List.drop_suffix n text).isInfix

/-! ## Text behind -/

/-- The same state with `d` more characters behind it. -/
def State.shift (d : Nat) (s : State) : State :=
  { s with cursor := { s.cursor with position := s.cursor.position + d } }

theorem step_shift (test : Char → Bool) (d : Nat) (s : State) :
    (step test (s.shift d)).toList = (step test s).toList.map (State.shift d) := by
  rcases Nat.eq_zero_or_pos (leading test s.cursor.ahead) with hzero | hpos
  · rw [step_of_leading_zero hzero, step_of_leading_zero (s := s.shift d) hzero]
    rfl
  · rw [step_of_leading_pos hpos, step_of_leading_pos (s := s.shift d) hpos]
    simp [State.skip, State.shift, Nat.add_right_comm]

theorem State.capture_shift (index d : Nat) (s t : State) :
    (s.shift d).capture index (t.shift d) = (s.capture index t).shift d := by
  simp [capture, shift, Nat.add_sub_add_right]

/-- Rounds are compared with each other, never with the start of the text. -/
theorem repeatedOutcomes_shift {body : State → List State} {d : Nat}
    (hreads : ∀ s, ∀ t ∈ body s, s.ReadsTo t)
    (hbody : ∀ s, 0 < s.cursor.position → body (s.shift d) = (body s).map (State.shift d))
    (min : Nat) (max : Option Nat) (lazy : Bool) (rounds count : Nat) (last : Option Nat)
    (hs : 0 < s.cursor.position) :
    repeatedOutcomes body min max lazy rounds count (last.map (· + d)) (s.shift d)
      = (repeatedOutcomes body min max lazy rounds count last s).map (State.shift d) := by
  induction rounds generalizing count last s with
  | zero => rfl
  | succ rounds ih =>
    have hmore : ∀ count (last : Option Nat), (body (s.shift d)).flatMap
        (repeatedOutcomes body min max lazy rounds count (last.map (· + d)))
        = ((body s).flatMap (repeatedOutcomes body min max lazy rounds count last)).map
          (State.shift d) := by
      intro count last
      rw [hbody s hs, List.flatMap_map, List.map_flatMap]
      -- a round that has read something is off the start as well
      refine List.flatMap_congr fun t ht => ih count last ?_
      have := (hreads s t ht).position_le
      omega
    have hlast : (last.map (· + d) != some (s.shift d).cursor.position)
        = (last != some s.cursor.position) := by
      cases last <;> simp [State.shift, bne, Bool.beq_eq_decide_eq]
    have hthis : some (s.shift d).cursor.position = (some s.cursor.position).map (· + d) := rfl
    rw [repeatedOutcomes, repeatedOutcomes]
    simp only [hlast]
    rw [hthis, hmore, hmore]
    split_ifs <;> simp

theorem anchorHolds_shift (a : Anchor) {d : Nat} (hs : 0 < s.cursor.position) :
    anchorHolds a (s.shift d).cursor = anchorHolds a s.cursor := by
  cases a with
  | start =>
    simp [anchorHolds, State.shift, Nat.pos_iff_ne_zero.mp hs]
  | finish | strictFinish | wordEdge | notWordEdge => rfl

/-- Off the start of the text a match goes the same way wherever it begins. -/
theorem outcomes_shift (r : Regex) (d : Nat) (hs : 0 < s.cursor.position) :
    outcomes caseless r (s.shift d) = (outcomes caseless r s).map (State.shift d) := by
  induction r generalizing s with
  | empty => rfl
  | char | any | set => exact step_shift _ d s
  | anchor a =>
    rw [outcomes, outcomes, anchorHolds_shift a hs]
    split <;> rfl
  | seq first second ihFirst ihSecond =>
    rw [outcomes, outcomes, ihFirst hs, List.flatMap_map, List.map_flatMap]
    refine List.flatMap_congr fun t ht => ihSecond ?_
    have := (readsTo_of_mem_outcomes ht).position_le
    omega
  | alt first second ihFirst ihSecond =>
    rw [outcomes, outcomes, ihFirst hs, ihSecond hs, List.map_append]
  | group index body ih =>
    rw [outcomes, outcomes, ih hs, List.map_map, List.map_map]
    exact List.map_congr_left fun t _ => State.capture_shift index d s t
  | rep body min max greed ih =>
    have hrep := fun lazy => repeatedOutcomes_shift (fun _ _ => readsTo_of_mem_outcomes)
      (fun s hs => ih hs) min max lazy (min + s.cursor.ahead.length + 1) 0 none hs
    cases greed with
    | greedy => exact hrep false
    | lazy => exact hrep true
    | possessive =>
      have hhead := congrArg List.head? (hrep false)
      rw [List.head?_map] at hhead
      simp only [outcomes]
      refine (congrArg Option.toList hhead).trans ?_
      cases (repeatedOutcomes (outcomes caseless body) min max false
        (min + s.cursor.ahead.length + 1) 0 none s).head? <;> rfl

def Match.shift (d : Nat) (m : Match) : Match := { m with start := m.start + d }

theorem Cursor.after_append_left (front : Text) {t : Text} {n : Nat} (hn : 0 < n) (hle : n ≤ t.length) :
    Cursor.after (front ++ t) (front.length + n)
      = { Cursor.after t n with position := (Cursor.after t n).position + front.length } := by
  have htake : (t.take n).getLast? ≠ none := by
    simp only [ne_eq, List.getLast?_eq_none_iff, List.take_eq_nil_iff, not_or]
    refine ⟨by omega, ?_⟩
    rintro rfl
    simp at hle
    omega
  obtain ⟨c, hc⟩ := Option.ne_none_iff_exists'.mp htake
  rw [Cursor.after, List.drop_length_add_append, List.take_length_add_append, List.getLast?_append, hc,
    Nat.add_comm]
  simp [Cursor.after, hc]

/-- Behind the head of a text a match is found as it is in any longer text that ends in it. -/
theorem matchAt?_after_append (r : Regex) (front : Text) {t : Text} {n : Nat} (hn : 0 < n)
    (hle : n ≤ t.length) : r.matchAt? caseless (Cursor.after (front ++ t) (front.length + n))
      = (r.matchAt? caseless (Cursor.after t n)).map (Match.shift front.length) := by
  let s : State := ⟨Cursor.after t n, []⟩
  have hshift : outcomes caseless r (s.shift front.length) = _ := outcomes_shift r front.length hn
  rw [matchAt?_eq_head?, matchAt?_eq_head?, Cursor.after_append_left front hn hle]
  refine (congrArg (fun xs => (List.head? xs).map _) hshift).trans ?_
  rw [List.head?_map, Option.map_map, Option.map_map]
  refine congrArg (Option.map · _) (funext fun t => ?_)
  simp [Match.ofOutcome, Match.shift, State.shift, Nat.add_sub_add_right]

theorem findSome?_congr {α β : Type} {xs : List α} {f g : α → Option β} (h : ∀ x ∈ xs, f x = g x) :
    xs.findSome? f = xs.findSome? g := by
  induction xs with
  | nil => rfl
  | cons x xs ih =>
    rw [List.findSome?_cons, List.findSome?_cons, h x List.mem_cons_self,
      ih fun y hy => h y (List.mem_cons_of_mem _ hy)]

/-- When no match begins in `front` or where it ends, the search goes on in the rest as if that were
the text. -/
theorem search?_append {r : Regex} {front t : Text}
    (hfront : ∀ n ≤ front.length, r.matchAt? caseless (Cursor.after (front ++ t) n) = none)
    (hstart : r.matchAt? caseless (Cursor.after t 0) = none) :
    r.search? caseless (front ++ t) = (r.search? caseless t).map (Match.shift front.length) := by
  have hnone : (List.range' 0 (front.length + 1)).findSome? (fun n =>
      r.matchAt? caseless (Cursor.after (front ++ t) n)) = none := by
    rw [List.findSome?_eq_none_iff]
    intro n hn
    rw [List.mem_range'_1] at hn
    exact hfront n (by omega)
  rw [search?_eq, search?_eq, List.range_eq_range', List.range_eq_range', List.length_append,
    Nat.add_right_comm, ← List.range'_append_1, List.findSome?_append, hnone, Option.none_or,
    List.range'_succ, List.findSome?_cons, hstart, List.map_findSome?, Nat.zero_add,
    Nat.add_comm front.length 1, Nat.add_comm 1 front.length, ← List.map_add_range',
    List.findSome?_map]
  refine findSome?_congr fun n hn => ?_
  rw [List.mem_range'_1] at hn
  exact matchAt?_after_append r front (by omega) (by omega)

/-! ## Text ahead -/

/-- The same state with `u` after all that is ahead. -/
def State.extend (u : Text) (s : State) : State :=
  { s with cursor := { s.cursor with ahead := s.cursor.ahead ++ u } }

/-- The expression matches no otherwise when `u` follows the text. -/
def Ignores (u : Text) (caseless : Bool) (r : Regex) : Prop :=
  ∀ s, outcomes caseless r (s.extend u) = (outcomes caseless r s).map (State.extend u)

theorem State.skip_extend {n : Nat} (hn : n ≤ s.cursor.ahead.length) (u : Text) :
    (s.extend u).skip n = (s.skip n).extend u := by
  simp [skip, extend, List.take_append_of_le_length hn, List.drop_append_of_le_length hn]

theorem leading_append_of_head? {test : Char → Bool} {u : Text}
    (hu : ∀ c ∈ u.head?, ¬ test c = true) (t : Text) :
    leading test (t ++ u) = leading test t := by
  induction t with
  | nil =>
    cases u with
    | nil => rfl
    | cons c u => exact leading_cons_of_neg (hu c rfl)
  | cons c t ih =>
    by_cases hc : test c = true
    · rw [List.cons_append, leading_cons_of_pos hc, leading_cons_of_pos hc, ih]
    · rw [List.cons_append, leading_cons_of_neg hc, leading_cons_of_neg hc]

namespace Ignores

variable {u : Text} {first second r : Regex}

theorem empty : Ignores u caseless .empty := fun _ => rfl

theorem start : Ignores u caseless (.anchor .start) := by
  intro s
  rw [outcomes, outcomes]
  change (if (s.cursor.position == 0) = true then _ else _) = _
  split <;> simp [anchorHolds, *]

theorem seq (hfirst : Ignores u caseless first) (hsecond : Ignores u caseless second) :
    Ignores u caseless (.seq first second) := by
  intro s
  rw [outcomes, outcomes, hfirst, List.flatMap_map, List.map_flatMap]
  exact List.flatMap_congr fun t _ => hsecond t

theorem group (index : Nat) (h : Ignores u caseless r) : Ignores u caseless (.group index r) := by
  intro s
  rw [outcomes, outcomes, h, List.map_map, List.map_map]
  refine List.map_congr_left fun t ht => ?_
  have htake := (readsTo_of_mem_outcomes ht).take_ahead u
  simp [State.capture, State.extend, htake]

theorem optional (h : Ignores u caseless r) : Ignores u caseless (.optional r) := by
  intro s
  rw [outcomes_optional, outcomes_optional, h, List.map_append, List.map_singleton]

theorem rep_ofClass {k : CharClass} {min : Nat} {max : Option Nat}
    (hu : ∀ c ∈ u.head?, ¬ k.holds c = true) :
    Ignores u caseless (.rep (ofClass k false) min max .greedy) := by
  intro s
  have hleading : leading k.holds (s.extend u).cursor.ahead = leading k.holds s.cursor.ahead :=
    leading_append_of_head? hu s.cursor.ahead
  have hlength := leading_le_length k.holds s.cursor.ahead
  rw [outcomes_rep_ofClass, outcomes_rep_ofClass, hleading]
  split
  · rw [List.map_map]
    refine List.map_congr_left fun n hn => State.skip_extend ?_ u
    have := allowed_le max min (leading k.holds s.cursor.ahead - min)
    simp only [List.mem_reverse, List.mem_range] at hn
    omega
  · rfl

/-- Where the text ends before the character, what follows it in `u` must not match. -/
theorem char_seq {p : Char} (h : Ignores u caseless r)
    (hu : ∀ c v, u = c :: v → charHolds caseless p c = true →
      ∀ s : State, s.cursor.ahead = v → outcomes caseless r s = []) :
    Ignores u caseless (.seq (.char p) r) := by
  intro s
  rw [outcomes, outcomes, outcomes, outcomes]
  cases hahead : s.cursor.ahead with
  | nil =>
    have hnone : step (charHolds caseless p) s = none := by simp [step, hahead]
    rw [hnone, Option.toList_none, List.flatMap_nil, List.map_nil, List.flatMap_eq_nil_iff]
    intro t ht
    obtain ⟨c, v, hahead', hc, rfl⟩ := mem_step_toList ht
    have huv : u = c :: v := by simpa [State.extend, hahead] using hahead'
    exact hu c v huv hc _ (by simp [State.skip, hahead'])
  | cons c rest =>
    have hahead' : (s.extend u).cursor.ahead = c :: (rest ++ u) := by simp [State.extend, hahead]
    rw [step_cons hahead, step_cons hahead', State.skip_extend (by simp [hahead])]
    split
    · simpa using h (s.skip 1)
    · rfl

end Ignores

theorem matchStart?_append {r : Regex} {u : Text} (h : Ignores u caseless r) (t : Text) :
    r.matchStart? caseless (t ++ u)
      = (r.matchStart? caseless t).map fun m => { m with after := m.after ++ u } := by
  rw [matchStart?, matchStart?, matchAt?_eq_head?, matchAt?_eq_head?]
  refine (congrArg (fun xs => (List.head? xs).map _) (h ⟨⟨0, none, t⟩, []⟩)).trans ?_
  rw [List.head?_map]
  cases hhead : (outcomes caseless r ⟨⟨0, none, t⟩, []⟩).head? with
  | none => rfl
  | some s =>
    have htake := (readsTo_of_mem_outcomes (List.mem_of_head? hhead)).take_ahead u
    simpa [Match.ofOutcome, State.extend] using htake

end DateShorthand.Regex
