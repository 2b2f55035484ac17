import DateShorthand.Proofs.Outcome
import DateShorthand.Shortcut.Resolver
import Mathlib.Tactic.Common

/-!
# Stages

What each stage of the resolver returns, in terms of the stages it calls.
-/

namespace DateShorthand

/-! ## Parts -/

namespace Part

theorem step_eq_ok_iff {l : Localization} {i i' : Instant} {token : Text} {p : Part}
    {unit : CalendarUnit} : step l i token = .ok (i', p, unit) ↔
      parse token = .ok p ∧ l.unitOf? p.keyword = some unit ∧ p.applyTo unit i = .ok i' := by
  unfold step
  rw [bind_eq_ok_iff]
  constructor
  · rintro ⟨part, hparse, h⟩
    split at h
    · simp at h
    · rename_i found hunit
      obtain ⟨moved, hmoved, heq⟩ := map_eq_ok_iff.mp h
      simp only [Prod.mk.injEq] at heq
      obtain ⟨rfl, rfl, rfl⟩ := heq
      exact ⟨hparse, hunit, hmoved⟩
  · rintro ⟨hparse, hunit, hmoved⟩
    refine ⟨p, hparse, ?_⟩
    simp only [hunit, hmoved]
    rfl

theorem applyTokens_cons_eq_ok_iff {l : Localization} {i j : Instant} {token : Text}
    {rest : List Text} : applyTokens l i (token :: rest) = .ok j ↔
      ∃ moved p unit, step l i token = .ok (moved, p, unit) ∧ applyTokens l moved rest = .ok j := by
  rw [applyTokens, bind_eq_ok_iff]
  constructor
  · rintro ⟨⟨moved, p, unit⟩, hstep, hrest⟩
    exact ⟨moved, p, unit, hstep, hrest⟩
  · rintro ⟨moved, p, unit, hstep, hrest⟩
    exact ⟨(moved, p, unit), hstep, hrest⟩

theorem step_eq_error_iff {l : Localization} {i : Instant} {token : Text} {e : Failure} :
    step l i token = .error e ↔ parse token = .error e ∨ ∃ p, parse token = .ok p ∧
      (l.unitOf? p.keyword = none ∧ e = .fault (.unknownUnit p.keyword) ∨
        ∃ unit, l.unitOf? p.keyword = some unit ∧ p.applyTo unit i = .error e) := by
  unfold step
  rw [bind_eq_error_iff]
  refine or_congr Iff.rfl (exists_congr fun p => and_congr Iff.rfl ?_)
  cases hunit : l.unitOf? p.keyword with
  | none => simp [eq_comm]
  | some unit => simp [map_eq_error_iff]

/-- The tokens fail at the first one that fails, and with what it fails with. -/
theorem applyTokens_eq_error_iff {l : Localization} {i : Instant} {tokens : List Text}
    {e : Failure} : applyTokens l i tokens = .error e ↔
      ∃ before token after moved, tokens = before ++ token :: after ∧
        applyTokens l i before = .ok moved ∧ step l moved token = .error e := by
  induction tokens generalizing i with
  | nil =>
    refine ⟨fun h => by simp [applyTokens] at h, ?_⟩
    rintro ⟨before, token, after, moved, h, -⟩
    simp at h
  | cons first rest ih =>
    rw [applyTokens, bind_eq_error_iff]
    constructor
    · rintro (h | ⟨⟨moved, p, unit⟩, hstep, h⟩)
      · exact ⟨[], first, rest, i, rfl, rfl, h⟩
      · obtain ⟨before, token, after, j, rfl, hbefore, htoken⟩ := ih.mp h
        refine ⟨first :: before, token, after, j, rfl, ?_, htoken⟩
        exact applyTokens_cons_eq_ok_iff.mpr ⟨moved, p, unit, hstep, hbefore⟩
    · rintro ⟨before, token, after, j, h, hbefore, htoken⟩
      cases before with
      | nil =>
        rw [List.nil_append, List.cons.injEq] at h
        rw [applyTokens, Except.ok.injEq] at hbefore
        rw [h.1, hbefore]
        exact Or.inl htoken
      | cons first' before =>
        rw [List.cons_append, List.cons.injEq] at h
        obtain ⟨rfl, rfl⟩ := h
        obtain ⟨moved, p, unit, hstep, hbefore⟩ := applyTokens_cons_eq_ok_iff.mp hbefore
        exact Or.inr ⟨(moved, p, unit), hstep, ih.mpr ⟨before, token, after, j, rfl, hbefore, htoken⟩⟩

end Part

/-! ## The time -/

theorem TrailingTime.eq_of_split_none {l : Localization} {t rest : Text}
    (h : TrailingTime.split l t = .ok (none, rest)) : rest = t := by
  unfold TrailingTime.split at h
  split at h
  · simp only [Except.ok.injEq, Prod.mk.injEq, true_and] at h
    exact h.symm
  · obtain ⟨time, -, heq⟩ := map_eq_ok_iff.mp h
    simp at heq

/-- No time is found at the end of the shortcut. -/
def TrailingTime.IsAbsent (l : Localization) (shortcut : Text) : Prop :=
  TrailingTime.find? l (Text.normalize shortcut) = none

/-! ## Building -/

namespace Resolver

theorem build_eq_ok {l : Localization} {reference : Instant} {defaultTime : Text} {r : Resolver}
    (h : build l reference defaultTime = .ok r) :
    r.localization = l ∧ reference.toUtc = .ok r.reference ∧
      (if defaultTime.isEmpty then .ok none else (DefaultTime.parse defaultTime).map some)
        = .ok r.defaultTime := by
  unfold build at h
  obtain ⟨utc, hutc, h⟩ := bind_eq_ok_iff.mp h
  rw [mapError_eq_ok_iff] at hutc
  split at h
  · rename_i hempty
    rw [Except.ok.injEq] at h
    rw [← h, if_pos hempty]
    exact ⟨rfl, hutc, rfl⟩
  · rename_i hempty
    obtain ⟨time, htime, h⟩ := bind_eq_ok_iff.mp h
    rw [Except.ok.injEq] at h
    rw [← h, if_neg hempty, htime]
    exact ⟨rfl, hutc, rfl⟩

theorem build_of_eq_ok {reference : Instant} {defaultTime : Text} {r : Resolver}
    (hutc : reference.toUtc = .ok r.reference)
    (htime : (if defaultTime.isEmpty then .ok none else (DefaultTime.parse defaultTime).map some)
      = .ok r.defaultTime) : build r.localization reference defaultTime = .ok r := by
  obtain ⟨l, utc, time⟩ := r
  rw [build, hutc]
  split at htime
  · rename_i hempty
    obtain rfl : none = time := Except.ok.inj htime
    simp only [mapError_ok, hempty, if_true]
    rfl
  · rename_i hempty
    obtain ⟨time, hparse, rfl⟩ := map_eq_ok_iff.mp htime
    simp only [mapError_ok, hempty, hparse]
    rfl

/-! ## Cutting the text -/

theorem split_eq_ok_iff {r : Resolver} {shortcut dateText : Text} {time : Option TimeOfDay} :
    r.split shortcut = .ok (time, dateText) ↔ ¬ (Text.normalize shortcut).isEmpty ∧
      TrailingTime.split r.localization (Text.normalize shortcut) = .ok (time, dateText) := by
  by_cases ht : (Text.normalize shortcut).isEmpty <;> simp [split, ht, mapError_eq_ok_iff]

/-- Without a time the date text is the whole shortcut, so it is not empty. -/
theorem split_eq_ok {r : Resolver} {shortcut dateText : Text} {time : Option TimeOfDay}
    (h : r.split shortcut = .ok (time, dateText)) : dateText.isEmpty → time.isSome := by
  intro hempty
  obtain ⟨ht, h⟩ := split_eq_ok_iff.mp h
  cases time with
  | some => rfl
  | none =>
    rw [TrailingTime.eq_of_split_none h] at hempty
    exact absurd hempty ht

/-! ## The date and the whole -/

/-- The instant that a date text leads to, before its time is settled; none is the reference. -/
def instantOf (r : Resolver) (dateText : Text) : Except Failure Instant :=
  if dateText.isEmpty then .ok r.reference else r.resolveDate dateText

theorem resolve_eq (r : Resolver) (shortcut : Text) :
    r.resolve shortcut = (do
      let (time, dateText) ← r.split shortcut
      (r.instantOf dateText).map (r.settleTime time)) := by
  unfold resolve instantOf
  refine congrArg _ (funext fun ⟨time, dateText⟩ => ?_)
  by_cases h : dateText.isEmpty <;> simp only [h] <;> rfl

theorem date_settleTime (r : Resolver) (time : Option TimeOfDay) (i : Instant) :
    (r.settleTime time i).date = i.date := by
  unfold settleTime
  split <;> rfl

theorem offset_settleTime (r : Resolver) (time : Option TimeOfDay) (i : Instant) :
    (r.settleTime time i).offset = i.offset := by
  unfold settleTime
  split <;> rfl

theorem atTime_settleTime (r : Resolver) (time : Option TimeOfDay) (i : Instant) (t : TimeOfDay) :
    (r.settleTime time i).atTime t = i.atTime t := by
  unfold settleTime
  split <;> rfl

theorem resolve_of_isAbsent {r : Resolver} {shortcut : Text} (hne : Text.normalize shortcut ≠ [])
    (h : TrailingTime.IsAbsent r.localization shortcut) :
    r.resolve shortcut = (r.resolveDate (Text.normalize shortcut)).map (r.settleTime none) := by
  have hempty : ¬ (Text.normalize shortcut).isEmpty = true := by simpa using hne
  have hsplit : r.split shortcut = .ok (none, Text.normalize shortcut) := by
    rw [split_eq_ok_iff, TrailingTime.split, h]
    exact ⟨hempty, rfl⟩
  rw [resolve_eq, hsplit]
  change (r.instantOf _).map _ = _
  rw [instantOf, if_neg hempty]

theorem base_eq_ok_iff {r : Resolver} {t rest : Text} {start : Instant} {workday : Bool} :
    r.base t = .ok (start, rest, workday) ↔ ∃ date tail,
      AbsoluteDate.split r.localization r.reference.date.year (dropToday r.localization t)
        = .ok (date, tail) ∧
      (date.map Instant.ofDate).getD r.startOfDay = start ∧ splitMarker tail = (rest, workday) := by
  unfold base
  rw [bind_eq_ok_iff]
  constructor
  · rintro ⟨⟨date, tail⟩, hsplit, h⟩
    simp only [Except.ok.injEq, Prod.mk.injEq] at h
    exact ⟨date, tail, hsplit, h⟩
  · rintro ⟨date, tail, hsplit, rfl, hmarker⟩
    exact ⟨(date, tail), hsplit, by rw [← hmarker]⟩

/-- The instant from which the parts count, with the date that is written or without. -/
def startOf (r : Resolver) (date : Option Date) : Instant :=
  (date.map Instant.ofDate).getD r.startOfDay

/-- What the text behind the date makes of the instant. -/
def finish (l : Localization) (start : Instant) (rest : Text) : Except Failure Instant := do
  let moved ← Part.applyAll l start (splitMarker rest).1
  toWorkday moved (splitMarker rest).2

theorem resolveDate_eq_finish (r : Resolver) (t : Text) : r.resolveDate t = (do
    let (date, rest) ←
      AbsoluteDate.split r.localization r.reference.date.year (dropToday r.localization t)
    finish r.localization (r.startOf date) rest) := by
  unfold resolveDate base
  cases AbsoluteDate.split r.localization r.reference.date.year (dropToday r.localization t) <;> rfl

end Resolver

end DateShorthand
