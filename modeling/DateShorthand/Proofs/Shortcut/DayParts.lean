import DateShorthand.Locale.Builtin
import DateShorthand.Proofs.Shortcut.Seams
import DateShorthand.Proofs.Shortcut.SingleParts
import Mathlib.Algebra.BigOperators.Group.List.Basic
import Mathlib.Algebra.Ring.Int.Defs

/-!
# Parts in days and weeks

Parts in days and weeks add up. They lead to an instant exactly when no partial sum leaves the
calendar, and then only their sum counts: not their order, and not whether several are one.
-/

namespace DateShorthand

/-! ## Partial sums -/

/-- From day `start` on, all partial sums of the counts are days of the calendar. -/
def StaysInCalendar (start : Int) (counts : List Int) : Prop :=
  ∀ k ≤ counts.length, 1 ≤ start + (counts.take k).sum ∧ start + (counts.take k).sum ≤ Date.lastNumber

instance (start : Int) (counts : List Int) : Decidable (StaysInCalendar start counts) :=
  inferInstanceAs (Decidable (∀ k ≤ counts.length, _))

namespace StaysInCalendar

variable {start count : Int} {counts more : List Int}

theorem start_mem (h : StaysInCalendar start counts) : 1 ≤ start ∧ start ≤ Date.lastNumber := by
  simpa using h 0 (Nat.zero_le _)

theorem nil_iff : StaysInCalendar start [] ↔ 1 ≤ start ∧ start ≤ Date.lastNumber := by
  simp [StaysInCalendar]

theorem cons_iff : StaysInCalendar start (count :: counts) ↔
    (1 ≤ start ∧ start ≤ Date.lastNumber) ∧ StaysInCalendar (start + count) counts := by
  constructor
  · intro h
    refine ⟨h.start_mem, fun k hk => ?_⟩
    simpa [Int.add_assoc] using h (k + 1) (Nat.succ_le_succ hk)
  · rintro ⟨hstart, h⟩ k hk
    cases k with
    | zero => simpa using hstart
    | succ k => simpa [Int.add_assoc] using h k (Nat.le_of_succ_le_succ hk)

theorem append_iff : StaysInCalendar start (counts ++ more) ↔
    StaysInCalendar start counts ∧ StaysInCalendar (start + counts.sum) more := by
  induction counts generalizing start with
  | nil =>
    rw [List.nil_append, List.sum_nil, Int.add_zero, nil_iff]
    exact (and_iff_right_of_imp start_mem).symm
  | cons count counts ih =>
    rw [List.cons_append, cons_iff, cons_iff, ih, List.sum_cons, Int.add_assoc, and_assoc (c := StaysInCalendar _ more)]

/-- Counts that are taken together pass fewer days on the way. -/
theorem map_sum {groups : List (List Int)} (h : StaysInCalendar start groups.flatten) :
    StaysInCalendar start (groups.map List.sum) := by
  induction groups generalizing start with
  | nil => exact h
  | cons group groups ih =>
    rw [List.flatten_cons, append_iff] at h
    exact cons_iff.mpr ⟨h.1.start_mem, ih h.2⟩

theorem sum_back (counts : List Int) : ((counts.map Neg.neg).reverse).sum = -counts.sum := by
  rw [List.sum_reverse, List.sum_neg]

/-- The way back passes the same days. -/
theorem back (h : StaysInCalendar start counts) :
    StaysInCalendar (start + counts.sum) (counts.map Neg.neg).reverse := by
  induction counts generalizing start with
  | nil => simpa using h
  | cons count counts ih =>
    obtain ⟨hstart, h⟩ := cons_iff.mp h
    rw [List.map_cons, List.reverse_cons, append_iff, List.sum_cons, ← Int.add_assoc, sum_back,
      cons_iff, nil_iff]
    have := h.start_mem
    exact ⟨ih h, by omega, by omega⟩

end StaysInCalendar

/-! ## Tokens of days and weeks -/

/-- The days that a part moves by, when its unit is a day or a week. -/
def Part.days? (p : Part) : CalendarUnit → Option Int
  | .day => some p.amount
  | .week => some (7 * p.amount)
  | _ => none

/-- The days that a token stands for, when its keyword means days or weeks. -/
def Localization.daysOf? (l : Localization) (token : Text) : Option Int :=
  (Part.parse token).toOption.bind fun p => (l.unitOf? p.keyword).bind p.days?

namespace Tokens

/-- Each token behind a blank. -/
def toText (tokens : List Text) : Text := tokens.flatMap (' ' :: ·)

/-- The token with the other sign. -/
def negated (token : Text) : Text :=
  (if (Text.splitSign token).1 then '+' else '-') :: (Text.splitSign token).2

/-- The negated tokens, the last one first. -/
def back (tokens : List Text) : List Text := (tokens.map negated).reverse

end Tokens

variable {l : Localization} {token : Text} {tokens : List Text} {count : Int} {i : Instant}

namespace Part

theorem days?_eq_some {p : Part} {unit : CalendarUnit} (h : p.days? unit = some count) (i : Instant) :
    p.applyTo unit i = CalendarFault.guard p.raw (i.addDays count) := by
  cases unit with
  | day | week =>
    rw [days?, Option.some.injEq] at h
    rw [applyTo, h]
  | year | month | today | weekday => simp [days?] at h

theorem daysOf?_eq_some (h : l.daysOf? token = some count) : ∃ p unit, parse token = .ok p ∧
    l.unitOf? p.keyword = some unit ∧ p.days? unit = some count := by
  unfold Localization.daysOf? at h
  cases hparse : parse token with
  | error e => simp [hparse, Except.toOption] at h
  | ok p =>
    obtain ⟨unit, hunit, hdays⟩ := Option.bind_eq_some_iff.mp (by simpa [hparse, Except.toOption] using h)
    exact ⟨p, unit, rfl, hunit, hdays⟩

/-- One token moves the date by its days, or it is the one that is out of range. -/
theorem applyTokens_cons_days (h : l.daysOf? token = some count) (i : Instant) (rest : List Text) :
    applyTokens l i (token :: rest) = (do
      let moved ← CalendarFault.guard token (i.addDays count)
      applyTokens l moved rest) := by
  obtain ⟨p, unit, hparse, hunit, hdays⟩ := daysOf?_eq_some h
  obtain ⟨letters, magnitude, -, -, rfl⟩ := parse_eq_ok_iff.mp hparse
  have hmove := days?_eq_some hdays i
  rw [applyTokens, step, hparse]
  simp only [ok_bind, hunit, hmove]
  cases CalendarFault.guard token (i.addDays count) <;> rfl

theorem applyTokens_days (h : ∀ token ∈ tokens, (l.daysOf? token).isSome)
    (hstays : StaysInCalendar i.date.number (tokens.filterMap l.daysOf?)) :
    ∃ e : Date, applyTokens l i tokens = .ok { i with date := e } ∧
      (e.number : Int) = i.date.number + (tokens.filterMap l.daysOf?).sum := by
  induction tokens generalizing i with
  | nil => exact ⟨i.date, rfl, by simp⟩
  | cons token rest ih =>
    obtain ⟨hfirst, hrest⟩ := List.forall_mem_cons.mp h
    obtain ⟨count, hcount⟩ := Option.isSome_iff_exists.mp hfirst
    rw [List.filterMap_cons_some hcount] at hstays ⊢
    obtain ⟨-, hstays⟩ := StaysInCalendar.cons_iff.mp hstays
    obtain ⟨d, hd⟩ := (Date.exists_addDays_iff i.date count).mpr hstays.start_mem
    have hmoved : CalendarFault.guard token (i.addDays count) = .ok { i with date := d } :=
      guard_onDate_eq_ok_iff.mpr ⟨d, hd, rfl⟩
    rw [Date.addDays_eq_ok_iff] at hd
    rw [← hd] at hstays
    obtain ⟨e, he, hnumber⟩ := ih (i := { i with date := d }) hrest hstays
    refine ⟨e, ?_, ?_⟩
    · rw [applyTokens_cons_days hcount, hmoved]
      exact he
    · rw [hnumber, List.sum_cons, ← Int.add_assoc, ← hd]

/-- The fault quotes the first token with which the sum leaves the calendar. -/
theorem applyTokens_days_eq_error (h : ∀ token ∈ tokens, (l.daysOf? token).isSome)
    (hleaves : ¬ StaysInCalendar i.date.number (tokens.filterMap l.daysOf?)) :
    ∃ before token after, tokens = before ++ token :: after ∧
      StaysInCalendar i.date.number (before.filterMap l.daysOf?) ∧
      ¬ StaysInCalendar i.date.number ((before ++ [token]).filterMap l.daysOf?) ∧
      applyTokens l i tokens = .error (.fault (.dateOutOfRange token)) := by
  have hstart : 1 ≤ (i.date.number : Int) ∧ (i.date.number : Int) ≤ Date.lastNumber := by
    have := i.date.number_bounds
    omega
  induction tokens generalizing i with
  | nil => exact absurd (StaysInCalendar.nil_iff.mpr hstart) hleaves
  | cons token rest ih =>
    obtain ⟨hfirst, hrest⟩ := List.forall_mem_cons.mp h
    obtain ⟨count, hcount⟩ := Option.isSome_iff_exists.mp hfirst
    rw [List.filterMap_cons_some hcount, StaysInCalendar.cons_iff] at hleaves
    rw [applyTokens_cons_days hcount]
    by_cases hmove : ∃ d, i.date.addDays count = .ok d
    · obtain ⟨d, hd⟩ := hmove
      have hmoved : CalendarFault.guard token (i.addDays count) = .ok { i with date := d } :=
        guard_onDate_eq_ok_iff.mpr ⟨d, hd, rfl⟩
      have hd := (Date.addDays_eq_ok_iff _ _ _).mp hd
      rw [← hd] at hleaves
      obtain ⟨before, later, after, rfl, hstays, hlater, herror⟩ :=
        ih (i := { i with date := d }) hrest (fun h => hleaves ⟨hstart, h⟩) (by
          have := d.number_bounds
          simp only
          omega)
      refine ⟨token :: before, later, after, rfl, ?_, ?_, ?_⟩
      · rw [List.filterMap_cons_some hcount, StaysInCalendar.cons_iff, ← hd]
        exact ⟨hstart, hstays⟩
      · rw [List.cons_append, List.filterMap_cons_some hcount, StaysInCalendar.cons_iff, ← hd]
        exact fun h => hlater h.2
      · rw [hmoved]
        exact herror
    · have herror : CalendarFault.guard token (i.addDays count) =
          .error (.fault (.dateOutOfRange token)) := guard_onDate_eq_error_iff.mpr ⟨rfl, hmove⟩
      refine ⟨[], token, rest, rfl, StaysInCalendar.nil_iff.mpr hstart, ?_, ?_⟩
      · rw [List.nil_append, List.filterMap_cons_some hcount, List.filterMap_nil, StaysInCalendar.cons_iff,
          StaysInCalendar.nil_iff, ← Date.exists_addDays_iff]
        exact fun h => hmove h.2
      · rw [herror]
        rfl

theorem applyAll_of_ofText {t : Text} (h : Tokens.ofText t = .ok tokens) (i : Instant) :
    applyAll l i t = applyTokens l i tokens := by
  rw [applyAll, h]
  rfl

/-- Where the partial sums stay in the calendar, the text moves the date by the sum. -/
theorem applyAll_of_sum {t : Text} {e : Date} (htokens : Tokens.ofText t = .ok tokens)
    (hdays : ∀ token ∈ tokens, (l.daysOf? token).isSome)
    (hstays : StaysInCalendar i.date.number (tokens.filterMap l.daysOf?))
    (he : (e.number : Int) = i.date.number + (tokens.filterMap l.daysOf?).sum) :
    applyAll l i t = .ok { i with date := e } := by
  obtain ⟨d, hd, hnumber⟩ := applyTokens_days hdays hstays
  obtain rfl : d = e := Date.number_injective (by omega)
  rw [applyAll_of_ofText htokens, hd]

end Part

/-! ## Negated tokens -/

namespace Part

theorem parse_negated {p : Part} (h : parse token = .ok p) : parse (Tokens.negated token) =
    .ok { p with raw := Tokens.negated token, negative := !p.negative } := by
  have hsplit : Text.splitSign (Tokens.negated token) =
      (!(Text.splitSign token).1, (Text.splitSign token).2) := by
    unfold Tokens.negated
    cases (Text.splitSign token).1 <;> rfl
  obtain ⟨letters, magnitude, hletters, hmagnitude, rfl⟩ := parse_eq_ok_iff.mp h
  rw [parse_eq_ok_iff, hsplit]
  exact ⟨letters, magnitude, hletters, hmagnitude, rfl⟩

theorem amount_negated (p : Part) (raw : Text) :
    amount { p with raw := raw, negative := !p.negative } = -p.amount := by
  unfold amount
  cases p.negative <;> simp

theorem daysOf?_negated (h : l.daysOf? token = some count) :
    l.daysOf? (Tokens.negated token) = some (-count) := by
  obtain ⟨p, unit, hparse, hunit, hdays⟩ := daysOf?_eq_some h
  rw [Localization.daysOf?, parse_negated hparse]
  simp only [Except.toOption, Option.bind_some, hunit]
  cases unit with
  | day | week =>
    simp only [days?, Option.some.injEq, amount_negated] at hdays ⊢
    omega
  | year | month | today | weekday => simp [days?] at hdays

theorem isSolid_negated (h : Text.IsSolid token) : Text.IsSolid (Tokens.negated token) := by
  obtain ⟨sign, -, heq⟩ := Text.splitSign_eq token
  refine List.forall_mem_cons.mpr ⟨by split <;> decide, fun c hc => h c ?_⟩
  rw [heq]
  exact List.mem_append_right _ hc

theorem forall_mem_back (hsolid : ∀ token ∈ tokens, Text.IsSolid token)
    (h : ∀ token ∈ tokens, (l.daysOf? token).isSome) :
    ∀ token ∈ Tokens.back tokens, Text.IsSolid token ∧ (l.daysOf? token).isSome := by
  intro token hmem
  obtain ⟨source, hsource, rfl⟩ := List.mem_map.mp (List.mem_reverse.mp hmem)
  obtain ⟨count, hcount⟩ := Option.isSome_iff_exists.mp (h source hsource)
  refine ⟨isSolid_negated (hsolid source hsource), ?_⟩
  rw [daysOf?_negated hcount]
  rfl

theorem filterMap_back (h : ∀ token ∈ tokens, (l.daysOf? token).isSome) :
    (Tokens.back tokens).filterMap l.daysOf? = ((tokens.filterMap l.daysOf?).map Neg.neg).reverse := by
  induction tokens with
  | nil => rfl
  | cons token rest ih =>
    obtain ⟨hfirst, hrest⟩ := List.forall_mem_cons.mp h
    obtain ⟨count, hcount⟩ := Option.isSome_iff_exists.mp hfirst
    rw [Tokens.back, List.map_cons, List.reverse_cons, List.filterMap_append, ← Tokens.back, ih hrest,
      List.filterMap_cons_some hcount, List.map_cons, List.reverse_cons,
      List.filterMap_cons_some (daysOf?_negated hcount), List.filterMap_nil]

end Part

/-! ## Tokens written out -/

namespace Tokens

theorem ofText_toText (hsolid : ∀ token ∈ tokens, Text.IsSolid token)
    (h : ∀ token ∈ tokens, (l.daysOf? token).isSome) : ofText (toText tokens) = .ok tokens := by
  induction tokens with
  | nil => rfl
  | cons token rest ih =>
    obtain ⟨hfirst, hrest⟩ := List.forall_mem_cons.mp h
    obtain ⟨hsolid, hsolids⟩ := List.forall_mem_cons.mp hsolid
    obtain ⟨count, hcount⟩ := Option.isSome_iff_exists.mp hfirst
    obtain ⟨p, -, hparse, -, -⟩ := Part.daysOf?_eq_some hcount
    obtain ⟨sign, digits, letters, hword, rfl⟩ := Part.isWord_of_parse hsolid hparse
    have hblank : ∀ c ∈ (toText rest).head?, Text.isBlank c = true ∨ isSign c = true := by
      cases rest with
      | nil => simp [toText]
      | cons => exact fun c hc => Or.inl (Option.mem_some_iff.mp hc ▸ by decide)
    have ih := ih hsolids hrest
    rw [toText, List.flatMap_cons, ← toText]
    cases sign with
    | none => exact ofText_unsigned Written.isGap_space hword.body_ne_nil hword.body hblank ih
    | some c =>
      have := ofText_signed (hword.isSign c rfl) Written.isGap_space Text.isGap_nil hword.body_ne_nil
        hword.body hblank ih
      simpa using this

theorem ofText_append_toText {t : Text} {more : List Text} (h : ofText t = .ok tokens)
    (hmore : ofText (toText more) = .ok more) : ofText (t ++ toText more) = .ok (tokens ++ more) := by
  cases more with
  | nil => simpa [toText] using h
  | cons token rest =>
    have htrim : ofText (token ++ toText rest) = .ok (token :: rest) := by
      rw [← ofText_trimStart, ← hmore, ← ofText_trimStart (toText _)]
      rfl
    rw [toText, List.flatMap_cons, ← toText, List.cons_append, ofText_append h (by decide), htrim]
    rfl

end Tokens

/-! ## Only the sum counts -/

namespace Part

/-- Tokens that each stand for the sum of a group. -/
theorem filterMap_merged {merged : List Text} {groups : List (List Text)}
    (h : merged.map l.daysOf? = groups.map fun group => some (group.filterMap l.daysOf?).sum) :
    (∀ token ∈ merged, (l.daysOf? token).isSome) ∧ merged.filterMap l.daysOf? =
      (groups.map fun group => group.filterMap l.daysOf?).map List.sum := by
  constructor
  · intro token hmem
    have hmem : l.daysOf? token ∈ merged.map l.daysOf? := List.mem_map_of_mem hmem
    rw [h] at hmem
    obtain ⟨group, -, hgroup⟩ := List.mem_map.mp hmem
    rw [← hgroup]
    rfl
  · change merged.filterMap (id ∘ l.daysOf?) = _
    rw [← List.filterMap_map, h, List.filterMap_map, List.map_map]
    exact congrFun List.filterMap_eq_map groups

/-- Parts in days and weeks lead to an instant exactly when all partial sums of their days stay in the
calendar: to the day that is their sum away, at the same time. So the same parts in another order, or
several taken together, lead there too, and with the negated parts behind them, the last one first,
they lead back. Otherwise the fault quotes the first part with which the sum leaves the calendar. -/
theorem applyAll_sums_days {t : Text} (i : Instant) (htokens : Tokens.ofText t = .ok tokens)
    (hdays : ∀ token ∈ tokens, (l.daysOf? token).isSome) :
    let counts := tokens.filterMap l.daysOf?
    ((∃ j, applyAll l i t = .ok j) ↔ StaysInCalendar i.date.number counts) ∧
      (StaysInCalendar i.date.number counts → ∃ e : Date,
        applyAll l i t = .ok { i with date := e } ∧ (e.number : Int) = i.date.number + counts.sum ∧
        (∀ u reordered, Tokens.ofText u = .ok reordered → reordered.Perm tokens →
          StaysInCalendar i.date.number (reordered.filterMap l.daysOf?) →
          applyAll l i u = .ok { i with date := e }) ∧
        (∀ u merged (groups : List (List Text)), Tokens.ofText u = .ok merged → groups.flatten = tokens →
          merged.map l.daysOf? = groups.map (fun group => some (group.filterMap l.daysOf?).sum) →
          applyAll l i u = .ok { i with date := e }) ∧
        Tokens.ofText (t ++ Tokens.toText (Tokens.back tokens)) = .ok (tokens ++ Tokens.back tokens) ∧
        ∀ u, Tokens.ofText u = .ok (tokens ++ Tokens.back tokens) → applyAll l i u = .ok i) ∧
      (¬ StaysInCalendar i.date.number counts → ∃ before token after,
        tokens = before ++ token :: after ∧
        StaysInCalendar i.date.number (before.filterMap l.daysOf?) ∧
        ¬ StaysInCalendar i.date.number ((before ++ [token]).filterMap l.daysOf?) ∧
        applyAll l i t = .error (.fault (.dateOutOfRange token))) := by
  intro counts
  rw [applyAll_of_ofText htokens]
  refine ⟨?iff, ?stays, ?leaves⟩
  case iff =>
    constructor
    · rintro ⟨j, hj⟩
      by_contra hleaves
      obtain ⟨before, token, after, -, -, -, herror⟩ := applyTokens_days_eq_error hdays hleaves
      rw [herror] at hj
      simp at hj
    · intro hstays
      obtain ⟨e, he, -⟩ := applyTokens_days hdays hstays
      exact ⟨_, he⟩
  case stays =>
    intro hstays
    obtain ⟨e, he, hnumber⟩ := applyTokens_days hdays hstays
    have hback := forall_mem_back (Tokens.ofText_solid htokens) hdays
    have htext : Tokens.ofText (Tokens.toText (Tokens.back tokens)) = .ok (Tokens.back tokens) :=
      Tokens.ofText_toText (fun token h => (hback token h).1) fun token h => (hback token h).2
    refine ⟨e, he, hnumber, ?reordered, ?merged, Tokens.ofText_append_toText htokens htext, ?back⟩
    case reordered =>
      intro u reordered hu hperm hstays'
      refine applyAll_of_sum hu (fun token h => hdays token (hperm.mem_iff.mp h)) hstays' ?_
      rw [hnumber, (hperm.filterMap l.daysOf?).sum_eq]
    case merged =>
      intro u merged groups hu hflatten hmerged
      obtain ⟨hsome, hsums⟩ := filterMap_merged hmerged
      have hflat : tokens.filterMap l.daysOf? = (groups.map fun group => group.filterMap l.daysOf?).flatten := by
        rw [← List.filterMap_flatten, hflatten]
      simp only [counts, hflat] at hstays hnumber
      refine applyAll_of_sum hu hsome ?_ ?_
      · rw [hsums]
        exact hstays.map_sum
      · rw [hsums, hnumber, List.sum_flatten]
    case back =>
      intro u hu
      have hcounts := filterMap_back hdays
      refine applyAll_of_sum (e := i.date) hu ?_ ?_ ?_
      · intro token h
        rcases List.mem_append.mp h with h | h
        · exact hdays token h
        · exact (hback token h).2
      · rw [List.filterMap_append, hcounts, StaysInCalendar.append_iff]
        exact ⟨hstays, hstays.back⟩
      · rw [List.filterMap_append, hcounts, List.sum_append, StaysInCalendar.sum_back]
        omega
  case leaves => exact applyTokens_days_eq_error hdays

/-- Eleven days before the end of the calendar the weeks back have to come first. -/
theorem applyAll_sums_days_at_calendar_end :
    let i : Instant := .ofDate ⟨9999, 12, 20, by decide, by decide, by decide⟩
    Tokens.ofText "-2w 15d" = .ok ["-2w", "15d"] ∧
      (∀ token ∈ (["-2w", "15d"] : List Text), (Localization.english.daysOf? token).isSome) ∧
      (∃ e : Date, applyAll .english i "-2w 15d" = .ok { i with date := e } ∧
        (e.number : Int) = i.date.number + 1 ∧ applyAll .english i "+d" = .ok { i with date := e } ∧
        applyAll .english i "-2w 15d -15d +2w" = .ok i) ∧
      Tokens.ofText "15d -2w" = .ok ["15d", "-2w"] ∧ ¬ ∃ j, applyAll .english i "15d -2w" = .ok j := by
  intro i
  have htokens : Tokens.ofText "-2w 15d" = .ok ["-2w", "15d"] := by decide
  have hdays : ∀ token ∈ (["-2w", "15d"] : List Text), (Localization.english.daysOf? token).isSome := by
    decide
  have hreordered : Tokens.ofText "15d -2w" = .ok ["15d", "-2w"] := by decide
  have hstays : StaysInCalendar i.date.number
      ((["-2w", "15d"] : List Text).filterMap Localization.english.daysOf?) := by decide
  obtain ⟨-, hsucceeds, -⟩ := applyAll_sums_days i htokens hdays
  obtain ⟨e, he, hnumber, -, hmerged, hwritten, hback⟩ := hsucceeds hstays
  obtain ⟨hiff, -⟩ := applyAll_sums_days (l := .english) i hreordered (by decide)
  refine ⟨htokens, hdays, ⟨e, he, ?_, ?_, ?_⟩, hreordered, ?_⟩
  · rw [hnumber]
    decide
  · exact hmerged "+d" ["+d"] [["-2w", "15d"]] (by decide) rfl (by decide)
  · exact hback _ hwritten
  · rw [hiff]
    decide

end Part

end DateShorthand
