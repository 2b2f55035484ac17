import DateShorthand.Locale.Record
import DateShorthand.Proofs.Calendar.Moves
import DateShorthand.Proofs.Shortcut.AbsoluteDate
import DateShorthand.Proofs.Shortcut.Stages
import DateShorthand.Proofs.Shortcut.Tokens

/-!
# Failures that are no faults

Where a shortcut comes to nothing without a fault that names the reason: the reference, the default
time, a date whose groups hold no numbers, or a token with too many digits.
-/

namespace DateShorthand

/-! ## Building -/

/-- In UTC the day is outside the calendar. -/
def Instant.LeavesCalendar (i : Instant) : Prop :=
  ∃ offset, i.offset = some offset ∧
    ¬ (1 ≤ i.date.number + (i.time.seconds - offset) / 86400 ∧
      i.date.number + (i.time.seconds - offset) / 86400 ≤ Date.lastNumber)

theorem Instant.toUtc_eq_error_iff (i : Instant) : (∃ e, i.toUtc = .error e) ↔ i.LeavesCalendar := by
  unfold toUtc LeavesCalendar
  cases hoffset : i.offset with
  | none => simp
  | some offset =>
    have hdays := Date.exists_addDays_iff i.date ((i.time.seconds - offset) / 86400)
    cases hmoved : i.date.addDays ((i.time.seconds - offset) / 86400) with
    | error e =>
      simp only [hmoved, reduceCtorEq, exists_false, false_iff] at hdays
      simpa [hmoved, Except.map] using hdays
    | ok moved =>
      simp only [hmoved, Except.ok.injEq, exists_eq', true_iff] at hdays
      simpa [hmoved, Except.map] using hdays

namespace DefaultTime

/-- The fields of a default time, and one of them passes for a numeral but has no number. -/
def IsUnreadable (value : Text) : Prop :=
  let fields := (Text.trim value).pieces ':'
  fields.length ≤ 3 ∧ (∀ field ∈ fields, isNumeral field = true) ∧
    ∃ field ∈ fields, (∃ c ∈ field, Text.isSeparator c = true) ∨
      Text.digitLimit < (Text.trim field).length

theorem escapes_toIntOrFail_iff (t : Text) :
    Escapes t.toIntOrFail ↔ ∃ e, t.toInt = .error e := by
  unfold Text.toIntOrFail
  cases t.toInt <;> simp [Escapes, mapError_ok, mapError_error]

theorem escapes_mapM_iff (fields : List Text) :
    Escapes (fields.mapM Text.toIntOrFail) ↔ ∃ field ∈ fields, ∃ e, field.toInt = .error e := by
  induction fields with
  | nil => simp [not_escapes_ok, pure, Except.pure]
  | cons field rest ih =>
    rw [List.mapM_cons, escapes_bind_iff, escapes_toIntOrFail_iff]
    simp only [escapes_bind_iff, ih, List.mem_cons, exists_eq_or_imp]
    cases hfield : field.toInt with
    | error e => simp
    | ok n => simp [Text.toIntOrFail, hfield, mapError_ok, pure, Except.pure, not_escapes_ok]

theorem escapes_parse_iff (value : Text) : Escapes (parse value) ↔ IsUnreadable value := by
  unfold parse IsUnreadable
  simp only
  split
  · rename_i h
    refine iff_of_false (not_escapes_fault _) ?_
    rintro ⟨hlength, hnumeral, -⟩
    rcases h with h | h
    · omega
    · simp only [Bool.not_eq_true', List.all_eq_false] at h
      obtain ⟨field, hfield, hnot⟩ := h
      exact hnot (hnumeral field hfield)
  · rename_i h
    simp only [not_or, Nat.not_lt, Bool.not_eq_true', Bool.not_eq_false, List.all_eq_true] at h
    rw [escapes_bind_iff, escapes_mapM_iff]
    constructor
    · rintro (⟨field, hfield, he⟩ | ⟨numbers, -, hvalue⟩)
      · exact ⟨h.1, h.2, field, hfield, (Text.exists_toInt_error_iff (h.2 field hfield)).mp he⟩
      · split at hvalue
        · exact absurd hvalue (not_escapes_ok _)
        · exact absurd hvalue (not_escapes_fault _)
    · rintro ⟨-, -, field, hfield, he⟩
      exact Or.inl ⟨field, hfield, (Text.exists_toInt_error_iff (h.2 field hfield)).mpr he⟩

end DefaultTime

namespace Resolver

theorem escapes_build_iff (l : Localization) (reference : Instant) (defaultTime : Text) :
    Escapes (build l reference defaultTime) ↔
      reference.LeavesCalendar ∨ DefaultTime.IsUnreadable defaultTime := by
  have hreference : Escapes (reference.toUtc.mapError Failure.calendar) ↔ reference.LeavesCalendar := by
    rw [← Instant.toUtc_eq_error_iff]
    cases reference.toUtc <;> simp [Escapes, mapError_ok, mapError_error]
  have htime : ∀ utc, Escapes (if defaultTime.isEmpty then .ok ⟨l, utc, none⟩ else do
      let time ← DefaultTime.parse defaultTime
      .ok ⟨l, utc, some time⟩ : Except Failure Resolver) ↔ DefaultTime.IsUnreadable defaultTime := by
    intro utc
    split
    · rename_i hempty
      rw [List.isEmpty_iff] at hempty
      refine iff_of_false (not_escapes_ok _) ?_
      rw [hempty]
      rintro ⟨-, hnumeral, -⟩
      exact absurd (hnumeral [] (by decide)) (by decide)
    · rw [escapes_bind_iff, DefaultTime.escapes_parse_iff]
      simp [not_escapes_ok]
  unfold build
  rw [escapes_bind_iff, hreference]
  simp only [htime, mapError_eq_ok_iff]
  constructor
  · rintro (h | ⟨-, -, h⟩)
    · exact Or.inl h
    · exact Or.inr h
  · rintro (h | h)
    · exact Or.inl h
    · cases hutc : reference.toUtc with
      | error e => exact Or.inl ((Instant.toUtc_eq_error_iff _).mp ⟨e, hutc⟩)
      | ok utc => exact Or.inr ⟨utc, rfl, h⟩

end Resolver

/-! ## Parts -/

namespace Part

theorem not_escapes_applyTo (p : Part) (unit : CalendarUnit) (i : Instant) :
    ¬ Escapes (p.applyTo unit i) := by
  cases unit with
  | today => exact not_escapes_ok _
  | weekday => exact not_escapes_mapError
  | year | month | week | day => exact not_escapes_guard

theorem escapes_step_iff {l : Localization} {i : Instant} {token : Text}
    (htoken : Text.IsSolid token) : Escapes (step l i token) ↔ IsOverlong token := by
  constructor
  · rintro ⟨e, h, hfault⟩
    rcases step_eq_error_iff.mp h with h | ⟨p, -, ⟨-, rfl⟩ | ⟨unit, -, h⟩⟩
    · rcases parse_eq_error htoken h with rfl | ⟨hlong, -⟩
      · exact absurd rfl (hfault _)
      · exact hlong
    · exact absurd rfl (hfault _)
    · exact absurd ⟨e, h, hfault⟩ (not_escapes_applyTo p unit i)
  · intro h
    obtain ⟨n, -, hparse⟩ := h.parse_eq_error
    exact ⟨_, step_eq_error_iff.mpr (Or.inl hparse), by simp⟩

theorem escapes_applyTokens_iff {l : Localization} {i : Instant} {tokens : List Text}
    (htokens : ∀ token ∈ tokens, Text.IsSolid token) :
    Escapes (applyTokens l i tokens) ↔ ∃ before token after moved,
      tokens = before ++ token :: after ∧ applyTokens l i before = .ok moved ∧ IsOverlong token := by
  constructor
  · rintro ⟨e, h, hfault⟩
    obtain ⟨before, token, after, moved, rfl, hbefore, hstep⟩ := applyTokens_eq_error_iff.mp h
    exact ⟨before, token, after, moved, rfl, hbefore,
      (escapes_step_iff (htokens token (by simp))).mp ⟨e, hstep, hfault⟩⟩
  · rintro ⟨before, token, after, moved, rfl, hbefore, hlong⟩
    obtain ⟨e, hstep, hfault⟩ := (escapes_step_iff (l := l) (i := moved) (htokens token (by simp))).mpr hlong
    exact ⟨e, applyTokens_eq_error_iff.mpr ⟨before, token, after, moved, rfl, hbefore, hstep⟩, hfault⟩

end Part

/-! ## Dates -/

namespace AbsoluteDate

/-- The group took no part, or what it matched is no numeral. -/
def HasNoNumber (group : Option Text) : Prop := ∀ t ∈ group, ∃ e, t.toInt = .error e

/-- A match that names no date, because of one of its groups. -/
def IsUnreadable (m : Regex.Match) : Prop :=
  HasNoNumber (m.group? 1) ∨ HasNoNumber (m.group? 2) ∨
    ∃ t, m.group? 3 = some t ∧ t ≠ [] ∧ ∃ e, t.toInt = .error e

theorem escapes_required_iff (group : Option Text) : Escapes (required group) ↔ HasNoNumber group := by
  cases group with
  | none => simp [required, Escapes, HasNoNumber]
  | some t => simp [required, DefaultTime.escapes_toIntOrFail_iff, HasNoNumber]

theorem escapes_yearOf_iff (default : Nat) (group : Option Text) :
    Escapes (yearOf default group) ↔ ∃ t, group = some t ∧ t ≠ [] ∧ ∃ e, t.toInt = .error e := by
  match group with
  | none => simp [yearOf, not_escapes_ok]
  | some [] => simp [yearOf, not_escapes_ok]
  | some (c :: t) => simp [yearOf, escapes_map_iff, DefaultTime.escapes_toIntOrFail_iff]

theorem exists_required_of_not {group : Option Text} (h : ¬ HasNoNumber group) :
    ∃ n, required group = .ok n := by
  cases group with
  | none => exact absurd (by simp [HasNoNumber]) h
  | some t =>
    cases ht : t.toInt with
    | error e => exact absurd (by simp [HasNoNumber, ht]) h
    | ok n => exact ⟨n, by simp [required, Text.toIntOrFail, ht, mapError_ok]⟩

theorem escapes_read_iff (defaultYear : Nat) (p : DatePattern) (m : Regex.Match) :
    Escapes (read defaultYear p m) ↔ IsUnreadable m := by
  unfold read IsUnreadable
  simp only [escapes_bind_iff, escapes_required_iff, escapes_yearOf_iff, not_escapes_guard, and_false,
    exists_false, or_false]
  by_cases hfirst : HasNoNumber (m.group? 1)
  · simp [hfirst]
  · obtain ⟨n, hn⟩ := exists_required_of_not hfirst
    by_cases hsecond : HasNoNumber (m.group? 2)
    · simp [hsecond, hn]
    · obtain ⟨k, hk⟩ := exists_required_of_not hsecond
      simp [hfirst, hsecond, hn, hk]

theorem escapes_split_iff (l : Localization) (defaultYear : Nat) (t : Text) :
    Escapes (split l defaultYear t) ↔ ∃ p m, find? l t = some (p, m) ∧ IsUnreadable m := by
  unfold split
  split
  · rename_i hnone
    simp [hnone, not_escapes_ok]
  · rename_i p m hfind
    simp [hfind, escapes_map_iff, escapes_read_iff]

end AbsoluteDate

/-! ## Shortcuts -/

namespace Resolver

def StopsAtDate (r : Resolver) (shortcut : Text) : Prop :=
  ∃ time dateText p m, r.split shortcut = .ok (time, dateText) ∧ dateText ≠ [] ∧
    AbsoluteDate.find? r.localization (dropToday r.localization dateText) = some (p, m) ∧
    AbsoluteDate.IsUnreadable m

/-- The shortcut is not blank, nothing is wrong with its time and its date, the rest falls into
tokens, and the first token that is not applied has too many digits. -/
def StopsAtToken (r : Resolver) (shortcut : Text) : Prop :=
  ¬ Text.IsGap shortcut ∧ ∃ time dateText start parts workday before token after moved,
    r.split shortcut = .ok (time, dateText) ∧ dateText ≠ [] ∧
    r.base dateText = .ok (start, parts, workday) ∧
    Tokens.ofText parts = .ok (before ++ token :: after) ∧
    Part.applyTokens r.localization start before = .ok moved ∧ Part.IsOverlong token

theorem escapes_applyAll_iff (l : Localization) (start : Instant) (parts : Text) :
    Escapes (Part.applyAll l start parts) ↔ ∃ before token after moved,
      Tokens.ofText parts = .ok (before ++ token :: after) ∧
      Part.applyTokens l start before = .ok moved ∧ Part.IsOverlong token := by
  unfold Part.applyAll
  simp only [escapes_bind_iff, not_escapes_mapError, false_or, mapError_eq_ok_iff]
  constructor
  · rintro ⟨tokens, htokens, h⟩
    obtain ⟨before, token, after, moved, rfl, hmoved, hlong⟩ :=
      (Part.escapes_applyTokens_iff (Tokens.ofText_solid htokens)).mp h
    exact ⟨before, token, after, moved, htokens, hmoved, hlong⟩
  · rintro ⟨before, token, after, moved, htokens, hmoved, hlong⟩
    exact ⟨_, htokens, (Part.escapes_applyTokens_iff (Tokens.ofText_solid htokens)).mpr
      ⟨before, token, after, moved, rfl, hmoved, hlong⟩⟩

theorem not_escapes_toWorkday (i : Instant) (wanted : Bool) : ¬ Escapes (toWorkday i wanted) := by
  unfold toWorkday
  split
  · exact not_escapes_guard
  · exact not_escapes_ok _

theorem not_isGap_of_split {r : Resolver} {shortcut dateText : Text} {time : Option TimeOfDay}
    (h : r.split shortcut = .ok (time, dateText)) : ¬ Text.IsGap shortcut := by
  intro hgap
  refine (split_eq_ok_iff.mp h).1 ?_
  rw [Text.normalize, Text.trim_of_isGap hgap]
  rfl

theorem not_escapes_split (r : Resolver) (shortcut : Text) : ¬ Escapes (r.split shortcut) := by
  unfold split
  simp only
  split
  · exact not_escapes_fault _
  · exact not_escapes_mapError

theorem escapes_base_iff (r : Resolver) (t : Text) :
    Escapes (r.base t) ↔ ∃ p m,
      AbsoluteDate.find? r.localization (dropToday r.localization t) = some (p, m) ∧
      AbsoluteDate.IsUnreadable m := by
  unfold base
  simp only [escapes_bind_iff, AbsoluteDate.escapes_split_iff, not_escapes_ok, and_false, exists_false,
    or_false]

theorem escapes_resolve_iff (r : Resolver) (shortcut : Text) :
    Escapes (r.resolve shortcut) ↔ r.StopsAtDate shortcut ∨ r.StopsAtToken shortcut := by
  have hdate : ∀ dateText, Escapes (r.instantOf dateText) ↔ dateText ≠ [] ∧
      (Escapes (r.base dateText) ∨ ∃ start parts workday,
        r.base dateText = .ok (start, parts, workday) ∧
        Escapes (Part.applyAll r.localization start parts)) := by
    intro dateText
    unfold instantOf resolveDate
    cases dateText with
    | nil => simp [not_escapes_ok]
    | cons c t => simp [escapes_bind_iff, not_escapes_toWorkday]
  rw [resolve_eq, escapes_bind_iff]
  simp only [not_escapes_split, false_or, escapes_map_iff, Prod.exists, hdate, escapes_base_iff,
    escapes_applyAll_iff]
  constructor
  · rintro ⟨time, dateText, hsplit, hne, ⟨p, m, h⟩ | ⟨start, parts, workday, hbase, h⟩⟩
    · exact Or.inl ⟨time, dateText, p, m, hsplit, hne, h⟩
    · obtain ⟨before, token, after, moved, h⟩ := h
      exact Or.inr ⟨not_isGap_of_split hsplit, time, dateText, start, parts, workday, before, token,
        after, moved, hsplit, hne, hbase, h⟩
  · rintro (⟨time, dateText, p, m, hsplit, hne, h⟩ |
      ⟨-, time, dateText, start, parts, workday, before, token, after, moved, hsplit, hne, hbase, h⟩)
    · exact ⟨time, dateText, hsplit, hne, Or.inl ⟨p, m, h⟩⟩
    · exact ⟨time, dateText, hsplit, hne, Or.inr ⟨start, parts, workday, hbase, before, token, after,
        moved, h⟩⟩

/-! ## One shortcut from scratch -/

def resolveOnce (l : Localization) (reference : Instant) (defaultTime shortcut : Text) :
    Except Failure Instant := do
  let r ← build l reference defaultTime
  r.resolve shortcut

/-- There are four ways to fail without a fault, and no other. -/
theorem escapes_resolveOnce_iff (l : Localization) (reference : Instant)
    (defaultTime shortcut : Text) :
    Escapes (resolveOnce l reference defaultTime shortcut) ↔
      reference.LeavesCalendar ∨ DefaultTime.IsUnreadable defaultTime ∨
        ∃ r, build l reference defaultTime = .ok r ∧
          (r.StopsAtDate shortcut ∨ r.StopsAtToken shortcut) := by
  unfold resolveOnce
  rw [escapes_bind_iff, escapes_build_iff, or_assoc]
  simp only [escapes_resolve_iff]

/-- A reference before the first day in UTC, a default time with a separator in it, and a pattern
whose second group may be left out. -/
theorem resolveOnce_without_fault :
    resolveOnce .english ⟨⟨1, 1, 1, by decide, by decide, by decide⟩, .midnight, .zero, some 3600⟩
        "" "t" = .error (.calendar .overflow) ∧
      resolveOnce .english (.ofDate ⟨2024, 1, 1, by decide, by decide, by decide⟩)
        "9:\x1c30" "t" = .error (.number (.notDecimal "\x1c30")) ∧
      (Localization.ofMembers "custom" [("datePatterns", .arr [.obj [("regex", .str "(\\d)(x)?")]])]
        |>.toOption.map fun l =>
          resolveOnce l (.ofDate ⟨2024, 1, 1, by decide, by decide, by decide⟩) "" "1a")
        = some (.error (.number .absent)) := by
  refine ⟨?_, ?_, ?_⟩
  · decide
  · decide
  · decide +kernel

end Resolver

end DateShorthand
