import DateShorthand.Proofs.Shortcut.Escapes
import DateShorthand.Proofs.Shortcut.Midnight

/-!
# What a resolver answers

A resolver answers with an instant of UTC or with one of eight faults. In the built-in
localizations only a token with too many digits gives anything else.
-/

namespace DateShorthand

/-! ## Faults of shortcuts -/

/-- The faults that are about a shortcut, not about a locale tag or a setting. -/
def Fault.OfShortcut : Fault → Prop
  | emptyShortcut _ => True
  | invalidPart _ => True
  | unknownUnit _ => True
  | invalidTime _ _ => True
  | invalidHour _ => True
  | invalidMarkedHour _ => True
  | weekdayNotFound _ _ => True
  | dateOutOfRange _ => True
  | _ => False

/-- The faults that are about a date text. -/
def Fault.OfDateText : Fault → Prop
  | invalidPart _ => True
  | unknownUnit _ => True
  | weekdayNotFound _ _ => True
  | dateOutOfRange _ => True
  | _ => False

theorem Fault.OfDateText.ofShortcut {f : Fault} (h : f.OfDateText) : f.OfShortcut := by
  cases f <;> first | exact h | trivial

/-- Only faults of this kind come out. -/
def FaultsIn {α : Type} (kind : Fault → Prop) (x : Except Failure α) : Prop :=
  ∀ f, x = .error (.fault f) → kind f

/-- Only faults of shortcuts come out. -/
def FaultsOfShortcut {α : Type} (x : Except Failure α) : Prop :=
  ∀ f, x = .error (.fault f) → f.OfShortcut

namespace FaultsIn

variable {α β : Type} {kind kind' : Fault → Prop}

theorem ok (a : α) : FaultsIn kind (.ok a) := by
  intro f h
  simp at h

theorem mono {x : Except Failure α} (h : ∀ f, kind f → kind' f) (hx : FaultsIn kind x) :
    FaultsIn kind' x := fun f hf => h f (hx f hf)

theorem bind_of {x : Except Failure α} {f : α → Except Failure β} (hx : FaultsIn kind x)
    (hf : ∀ a, x = .ok a → FaultsIn kind (f a)) : FaultsIn kind (x >>= f) := by
  intro fault h
  rcases bind_eq_error_iff.mp h with h | ⟨a, ha, h⟩
  · exact hx fault h
  · exact hf a ha fault h

theorem bind {x : Except Failure α} {f : α → Except Failure β} (hx : FaultsIn kind x)
    (hf : ∀ a, FaultsIn kind (f a)) : FaultsIn kind (x >>= f) := bind_of hx fun a _ => hf a

theorem map {x : Except Failure α} {f : α → β} (hx : FaultsIn kind x) : FaultsIn kind (x.map f) :=
  fun fault h => hx fault (map_eq_error_iff.mp h)

theorem guard {fragment : Text} (h : kind (.dateOutOfRange fragment)) (x : Except CalendarFault α) :
    FaultsIn kind (CalendarFault.guard fragment x) := by
  intro fault heq
  cases x with
  | ok a => simp [CalendarFault.guard] at heq
  | error e =>
    simp only [CalendarFault.guard, Except.error.injEq, Failure.fault.injEq] at heq
    exact heq ▸ h

theorem mapError {x : Except Fault α} (hx : ∀ f, x = .error f → kind f) :
    FaultsIn kind (x.mapError .fault) := by
  intro fault h
  obtain ⟨f, hf, heq⟩ := mapError_eq_error_iff.mp h
  rw [Failure.fault.injEq] at heq
  exact heq ▸ hx f hf

theorem fault {f : Fault} (h : kind f) : FaultsIn kind (.error (.fault f) : Except Failure α) := by
  intro fault heq
  simp only [Except.error.injEq, Failure.fault.injEq] at heq
  exact heq ▸ h

end FaultsIn

/-! ## The stages -/

namespace TrailingTime

theorem markedHour_eq_error {l : Localization} {written : Text} {marker : Option Text} {f : Fault}
    (h : markedHour l written marker = .error f) : f = .invalidMarkedHour written := by
  unfold markedHour at h
  split at h
  · simp at h
  · simp only at h
    split at h
    · simp at h
    · exact (Except.error.inj h).symm

/-- A time is refused for its minutes or seconds, for its hour with a marker, or for its hour. -/
theorem read_eq_error {l : Localization} {t : Text} {m : Regex.Match} {f : Fault}
    (h : read l t m = .error f) :
    f = .invalidTime t (some (Text.trim m.covered)) ∨
      f = .invalidMarkedHour ((m.group? 1).getD []) ∨ f = .invalidHour ((m.group? 1).getD []) := by
  unfold read at h
  simp only at h
  split at h
  · exact .inl (Except.error.inj h).symm
  · rcases bind_eq_error_iff.mp h with h | ⟨hour, -, h⟩
    · exact .inr (.inl (markedHour_eq_error h))
    · split at h
      · simp at h
      · exact .inr (.inr (Except.error.inj h).symm)

theorem ofShortcut_of_read {l : Localization} {t : Text} {m : Regex.Match} {f : Fault}
    (h : read l t m = .error f) : f.OfShortcut := by
  rcases read_eq_error h with rfl | rfl | rfl <;> trivial

theorem ofShortcut_of_split {l : Localization} {t : Text} {f : Fault} (h : split l t = .error f) :
    f.OfShortcut := by
  unfold split at h
  split at h
  · simp at h
  · exact ofShortcut_of_read (map_eq_error_iff.mp h)

end TrailingTime

theorem Text.toIntOrFail_ne_fault {t : Text} {f : Fault} : t.toIntOrFail ≠ .error (.fault f) := by
  unfold toIntOrFail
  cases t.toInt <;> simp [mapError_ok, mapError_error]

namespace AbsoluteDate

variable {kind : Fault → Prop}

theorem faultsIn_required (group : Option Text) : FaultsIn kind (required group) := by
  intro f h
  cases group with
  | none => simp [required] at h
  | some t => exact absurd h Text.toIntOrFail_ne_fault

theorem faultsIn_yearOf (default : Nat) (group : Option Text) :
    FaultsIn kind (yearOf default group) := by
  intro f h
  match group with
  | none => simp [yearOf] at h
  | some [] => simp [yearOf] at h
  | some (c :: t) => exact absurd (map_eq_error_iff.mp h) Text.toIntOrFail_ne_fault

theorem faultsIn_read (defaultYear : Nat) (p : DatePattern) (m : Regex.Match) :
    FaultsIn Fault.OfDateText (read defaultYear p m) :=
  .bind (faultsIn_required _) fun _ => .bind (faultsIn_required _) fun _ =>
    .bind (faultsIn_yearOf _ _) fun _ => .guard trivial _

theorem faultsIn_split (l : Localization) (defaultYear : Nat) (t : Text) :
    FaultsIn Fault.OfDateText (split l defaultYear t) := by
  unfold split
  split
  · exact .ok _
  · exact .map (faultsIn_read _ _ _)

end AbsoluteDate

theorem Tokens.ofDateText_of_glue {words : List Text} {f : Fault} (h : glue words = .error f) :
    f.OfDateText := by
  fun_induction glue words with
  | case1 => simp at h
  | case2 =>
    rw [Except.error.injEq] at h
    rw [← h]
    trivial
  | case3 => simp at h
  | case4 word next rest _ ih => exact ih (map_eq_error_iff.mp h)
  | case5 word next rest _ ih => exact ih (map_eq_error_iff.mp h)

theorem Instant.nthBusinessDay_eq_error {i : Instant} {n : Int} {fromEnd : Bool} {f : Fault}
    (h : i.nthBusinessDay n fromEnd = .error f) :
    f = .weekdayNotFound (Text.ofInt n ++ ordinalSuffix n) (monthText i.date) := by
  unfold nthBusinessDay at h
  split at h
  · simp at h
  · exact (Except.error.inj h).symm

namespace Part

theorem faultsIn_parse (token : Text) : FaultsIn Fault.OfDateText (parse token) := by
  unfold parse
  simp only
  split
  · exact .fault trivial
  · refine .map fun f h => ?_
    unfold magnitudeOf at h
    split at h
    · simp at h
    · exact absurd (map_eq_error_iff.mp h) Text.toIntOrFail_ne_fault

theorem faultsIn_applyTo (p : Part) (unit : CalendarUnit) (i : Instant) :
    FaultsIn Fault.OfDateText (p.applyTo unit i) := by
  cases unit with
  | today => exact .ok _
  | year | month | week | day => exact .guard trivial _
  | weekday =>
    refine .mapError fun f h => ?_
    rw [Instant.nthBusinessDay_eq_error h]
    trivial

theorem faultsIn_step (l : Localization) (i : Instant) (token : Text) :
    FaultsIn Fault.OfDateText (step l i token) := by
  refine .bind (faultsIn_parse token) fun p => ?_
  split
  · exact .fault trivial
  · exact .map (faultsIn_applyTo _ _ _)

theorem faultsIn_applyTokens (l : Localization) (i : Instant) (tokens : List Text) :
    FaultsIn Fault.OfDateText (applyTokens l i tokens) := by
  intro f h
  obtain ⟨before, token, after, moved, -, -, hstep⟩ := applyTokens_eq_error_iff.mp h
  exact faultsIn_step l moved token f hstep

theorem faultsIn_applyAll (l : Localization) (i : Instant) (t : Text) :
    FaultsIn Fault.OfDateText (applyAll l i t) :=
  .bind (.mapError fun _ h => Tokens.ofDateText_of_glue h) fun _ => faultsIn_applyTokens _ _ _

end Part

namespace Resolver

theorem faultsIn_finish (l : Localization) (start : Instant) (rest : Text) :
    FaultsIn Fault.OfDateText (finish l start rest) := by
  refine .bind (Part.faultsIn_applyAll _ _ _) fun moved => ?_
  unfold toWorkday
  split
  · exact .guard trivial _
  · exact .ok _

theorem faultsIn_resolveDate (r : Resolver) (t : Text) :
    FaultsIn Fault.OfDateText (r.resolveDate t) := by
  rw [resolveDate_eq_finish]
  exact .bind (AbsoluteDate.faultsIn_split _ _ _) fun (date, rest) => faultsIn_finish _ _ _

theorem faultsIn_instantOf (r : Resolver) (dateText : Text) :
    FaultsIn Fault.OfDateText (r.instantOf dateText) := by
  unfold instantOf
  split
  · exact .ok _
  · exact faultsIn_resolveDate r dateText

theorem faultsOfShortcut_resolve (r : Resolver) (shortcut : Text) :
    FaultsOfShortcut (r.resolve shortcut) := by
  have hsplit : FaultsIn Fault.OfShortcut (r.split shortcut) := by
    unfold split
    simp only
    split
    · exact .fault trivial
    · exact .mapError fun f h => TrailingTime.ofShortcut_of_split h
  change FaultsIn Fault.OfShortcut (r.resolve shortcut)
  rw [resolve_eq]
  exact .bind hsplit fun (time, dateText) =>
    .map (.mono (fun _ => Fault.OfDateText.ofShortcut) (faultsIn_instantOf r dateText))

end Resolver

/-! ## Instants of UTC -/

namespace Resolver

theorem offset_of_resolve {r : Resolver} {shortcut : Text} {i : Instant}
    (hr : r.reference.offset = some 0) (h : r.resolve shortcut = .ok i) : i.offset = some 0 := by
  rw [resolve_eq] at h
  obtain ⟨⟨time, dateText⟩, -, h⟩ := bind_eq_ok_iff.mp h
  obtain ⟨date, hdate, rfl⟩ := map_eq_ok_iff.mp h
  rw [offset_settleTime]
  unfold instantOf at hdate
  split at hdate
  · rw [Except.ok.injEq] at hdate
    rw [← hdate, hr]
  · rw [eq_ofDate_of_resolveDate hr hdate]
    rfl

/-! ## The built-in localizations -/

theorem not_stopsAtDate {r : Resolver} {separator : Char} {order : FieldOrder}
    (h : r.localization.HasLayout separator order) (shortcut : Text) : ¬ r.StopsAtDate shortcut := by
  rintro ⟨time, dateText, p, m, -, -, hfind, hunreadable⟩
  rcases AbsoluteDate.find?_cases h (dropToday r.localization dateText) with
    hnone | ⟨p', d, rest, -, -, hsome⟩
  · rw [hnone] at hfind
    simp at hfind
  · rw [hsome, Option.some.injEq, Prod.mk.injEq] at hfind
    obtain ⟨-, rfl⟩ := hfind
    rw [← AbsoluteDate.escapes_read_iff 0 p, WrittenDate.read_toMatch] at hunreadable
    exact not_escapes_guard hunreadable

theorem eq_tooLong_of_applyAll {l : Localization} {start : Instant} {parts : Text} {e : Failure}
    (h : Part.applyAll l start parts = .error e) (hfault : ∀ f, e ≠ .fault f) :
    ∃ n, Text.digitLimit < n ∧ e = .number (.tooLong n) := by
  rcases bind_eq_error_iff.mp h with h | ⟨tokens, htokens, h⟩
  · exact absurd ⟨e, h, hfault⟩ not_escapes_mapError
  · obtain ⟨before, token, after, moved, rfl, -, hstep⟩ := Part.applyTokens_eq_error_iff.mp h
    have hsolid := Tokens.ofText_solid (mapError_eq_ok_iff.mp htokens) token (by simp)
    rcases Part.step_eq_error_iff.mp hstep with h | ⟨p, -, ⟨-, h⟩ | ⟨unit, -, h⟩⟩
    · rcases Part.parse_eq_error hsolid h with h | ⟨-, hlong⟩
      · exact absurd h (hfault _)
      · exact hlong
    · exact absurd h (hfault _)
    · exact absurd ⟨e, h, hfault⟩ (Part.not_escapes_applyTo p unit moved)

theorem eq_tooLong_of_resolve {r : Resolver} {separator : Char} {order : FieldOrder}
    (hlayout : r.localization.HasLayout separator order) {shortcut : Text} {e : Failure}
    (h : r.resolve shortcut = .error e) (hfault : ∀ f, e ≠ .fault f) :
    ∃ n, Text.digitLimit < n ∧ e = .number (.tooLong n) := by
  rw [resolve_eq] at h
  rcases bind_eq_error_iff.mp h with h | ⟨⟨time, dateText⟩, hsplit, h⟩
  · exact absurd ⟨e, h, hfault⟩ (not_escapes_split r shortcut)
  · rw [map_eq_error_iff] at h
    unfold instantOf at h
    split at h
    · simp at h
    · rename_i hne
      rcases bind_eq_error_iff.mp h with h | ⟨⟨start, parts, workday⟩, -, h⟩
      · obtain ⟨p, m, hfind⟩ := (escapes_base_iff r dateText).mp ⟨e, h, hfault⟩
        exact absurd ⟨time, dateText, p, m, hsplit, by simpa using hne, hfind⟩
          (not_stopsAtDate hlayout shortcut)
      · rcases bind_eq_error_iff.mp h with h | ⟨moved, -, h⟩
        · exact eq_tooLong_of_applyAll h hfault
        · exact absurd ⟨e, h, hfault⟩ (not_escapes_toWorkday moved workday)

/-- Over a built-in localization a token with too many digits is the only way to end without an
instant of UTC and without a fault of the shortcut, and the shift to a workday never fails. -/
theorem resolve_answers {tag : Text} {l : Localization} {reference : Instant} {defaultTime : Text}
    {r : Resolver} (hl : (tag, l) ∈ Localization.builtin)
    (h : build l reference defaultTime = .ok r) (shortcut : Text) :
    (Escapes (r.resolve shortcut) ↔ r.StopsAtToken shortcut) ∧
      (∀ e, r.resolve shortcut = .error e → (∀ f, e ≠ .fault f) →
        ∃ n, Text.digitLimit < n ∧ e = .number (.tooLong n)) ∧
      (∀ i, r.resolve shortcut = .ok i → i.offset = some 0) ∧
      (∀ f, r.resolve shortcut = .error (.fault f) → f.OfShortcut) ∧
      ∀ i : Instant, ∃ j, i.closestWorkday = .ok j := by
  obtain ⟨hlocalization, hutc, -⟩ := build_eq_ok h
  obtain ⟨separator, order, hlayout⟩ := Localization.exists_layout hl
  rw [← hlocalization] at hlayout
  refine ⟨?_, ?_, ?_, faultsOfShortcut_resolve r shortcut, Instant.exists_closestWorkday⟩
  · rw [escapes_resolve_iff, or_iff_right (not_stopsAtDate hlayout shortcut)]
  · exact fun e he hfault => eq_tooLong_of_resolve hlayout he hfault
  · exact fun i hi => offset_of_resolve (Instant.toUtc_eq_ok hutc).1 hi

/-- A plain keyword for today holds no token with too many digits. -/
theorem resolve_answers_today :
    (("en" : Text), Localization.english) ∈ Localization.builtin ∧
      ∃ r, build .english (.ofDate ⟨2024, 1, 31, by decide, by decide, by decide⟩) "" = .ok r ∧
        ¬ r.StopsAtToken "today" := by
  have hl : (("en" : Text), Localization.english) ∈ Localization.builtin := List.mem_cons_self
  have h : build .english (.ofDate ⟨2024, 1, 31, by decide, by decide, by decide⟩) ""
      = .ok ⟨.english, .ofDate ⟨2024, 1, 31, by decide, by decide, by decide⟩, none⟩ := by
    set_option maxRecDepth 1000 in
    decide
  refine ⟨hl, _, h, ?_⟩
  have hresolve : resolve ⟨.english, .ofDate ⟨2024, 1, 31, by decide, by decide, by decide⟩, none⟩
      "today" = .ok (.ofDate ⟨2024, 1, 31, by decide, by decide, by decide⟩) := by
    decide
  rw [← (resolve_answers hl h "today").1, hresolve]
  exact not_escapes_ok _

end Resolver

end DateShorthand
