import DateShorthand.Proofs.Settings.Stored
import DateShorthand.Proofs.Shortcut.Escapes

/-!
# Resolvers from settings

What settings were checked for is what a resolver is built from: the locale is registered and the default
time can be read. The reference was not checked. Its day in UTC may lie outside the calendar, and then
there is no resolver.
-/

namespace DateShorthand

theorem Instant.toUtc_of_leavesCalendar {i : Instant} (h : i.LeavesCalendar) : i.toUtc = .error .overflow := by
  obtain ⟨e, he⟩ := i.toUtc_eq_error_iff.mpr h
  unfold toUtc at he ⊢
  split at he
  · cases he
  · simp only [map_eq_error_iff, Date.addDays] at he ⊢
    split at he
    · cases he
    · rfl

namespace Settings

variable {r : Registry} {s : Settings} {i : Instant}

theorem Valid.exists_get (h : Valid r s) : ∃ l, r.get s.locale = .ok l := by
  have hlocale := h.locale []
  rw [localeOf] at hlocale
  split at hlocale
  · rename_i l hget
    exact ⟨l, hget⟩
  · cases hlocale

theorem Valid.exists_parse (h : Valid r s) {t : Text} (ht : s.defaultTime = some t) :
    t.isEmpty = false ∧ ∃ time, DefaultTime.parse t = .ok time := by
  have htime := h.defaultTime []
  rw [ht] at htime
  simp only [optionalText, Option.map_some, Option.getD_some, defaultTimeOf] at htime
  split_ifs at htime with hempty
  · cases htime
  · split at htime
    · rename_i time hparse
      exact ⟨by simpa using hempty, time, hparse⟩
    · cases htime

/-- Of all that a resolver is built from, only the reference is not known to be good. -/
theorem Valid.resolver_eq (h : Valid r s) : ∃ l time, r.get s.locale = .ok l ∧
    ∀ i, s.resolver r i = (i.toUtc.mapError Failure.calendar).map fun utc => ⟨l, utc, time⟩ := by
  obtain ⟨l, hget⟩ := h.exists_get
  cases hdefault : s.defaultTime with
  | none =>
    refine ⟨l, none, hget, fun i => ?_⟩
    rw [resolver, hget, hdefault, mapError_ok, ok_bind, Resolver.build]
    cases i.toUtc <;> rfl
  | some t =>
    obtain ⟨hempty, time, hparse⟩ := h.exists_parse hdefault
    refine ⟨l, some time, hget, fun i => ?_⟩
    rw [resolver, hget, hdefault, mapError_ok, ok_bind, Resolver.build, Option.getD_some, hempty, hparse]
    cases i.toUtc <;> rfl

/-- Settings, however they came to be, make a resolver for a reference, be it the one that they fix or
another, unless the day of the reference in UTC is outside the calendar. Then there is none. -/
theorem resolver_eq_ok_iff {calls : List Registry.Call} (h : Obtained (Registry.run calls) s) (i : Instant) :
    let resolver := s.resolver (Registry.run calls) i
    ((∃ p, resolver = .ok p) ↔ ¬ i.LeavesCalendar) ∧
      (i.LeavesCalendar → resolver = .error (.calendar .overflow)) ∧
        ∀ p, resolver = .ok p →
          (Registry.run calls).get s.locale = .ok p.localization ∧ i.toUtc = .ok p.reference := by
  intro resolver
  obtain ⟨j, hj⟩ := h.exists_ofJson
  obtain ⟨l, time, hget, hresolver⟩ := (valid_of_ofJson (Registry.wellFormed_run calls) hj).resolver_eq
  cases hutc : i.toUtc with
  | error e =>
    have hleaves : i.LeavesCalendar := i.toUtc_eq_error_iff.mp ⟨e, hutc⟩
    have heq : resolver = .error (.calendar .overflow) :=
      (hresolver i).trans (by rw [Instant.toUtc_of_leavesCalendar hleaves]; rfl)
    refine ⟨iff_of_false ?_ (not_not_intro hleaves), fun _ => heq, ?_⟩
    · rintro ⟨p, hp⟩
      rw [heq] at hp
      cases hp
    · rintro p hp
      rw [heq] at hp
      cases hp
  | ok utc =>
    have hstays : ¬ i.LeavesCalendar := fun hleaves => by
      rw [Instant.toUtc_of_leavesCalendar hleaves] at hutc
      cases hutc
    have heq : resolver = .ok ⟨l, utc, time⟩ := (hresolver i).trans (by rw [hutc]; rfl)
    refine ⟨iff_of_true ⟨_, heq⟩ hstays, fun hleaves => absurd hleaves hstays, ?_⟩
    rintro p hp
    rw [heq] at hp
    cases hp
    exact ⟨hget, rfl⟩

/-- The last second of the calendar can be a reference. -/
theorem resolver_eq_ok_iff_last_second :
    let i : Instant := ⟨⟨9999, 12, 31, by decide, by decide, by decide⟩, ⟨23, 59, 59⟩, .zero, some 0⟩
    let s : Settings := ⟨"de", some "9:30", some i⟩
    Obtained (Registry.run []) s ∧ ¬ i.LeavesCalendar ∧ ∃ p, s.resolver (Registry.run []) i = .ok p ∧
      (Registry.run []).get s.locale = .ok p.localization ∧ i.toUtc = .ok p.reference := by
  intro i s
  have hs : Obtained (Registry.run []) s := by
    refine .checked (j := .obj [("parser", .obj [("locale", .str "DE"), ("default_time", .str " 9:30"),
      ("from_date", .str "9999-12-31T23:59:59Z")])]) ?_
    decide
  obtain ⟨hiff, -, hparts⟩ := resolver_eq_ok_iff hs i
  have hp : s.resolver (Registry.run []) i = .ok ⟨.german, i, some ⟨9, 30, 0⟩⟩ := by
    set_option maxRecDepth 1000 in
    decide
  exact ⟨hs, hiff.mp ⟨_, hp⟩, _, hp, hparts _ hp⟩

/-- Midnight of the first day, an hour ahead of UTC, passes every check and is no reference. -/
theorem resolver_before_first_day :
    let i : Instant := ⟨⟨1, 1, 1, by decide, by decide, by decide⟩, .midnight, .zero, some 3600⟩
    ∃ s, load .builtin (some "\x7b\"parser\": \x7b\"from_date\": \"0001-01-01T00:00:00+01:00\"\x7d\x7d") = .ok s ∧
      s.fromDate = some i ∧ s.resolver .builtin i = .error (.calendar .overflow) := by
  intro i
  refine ⟨⟨"en", none, some i⟩, ?_, rfl, ?_⟩
  · decide +kernel
  · decide

end Settings

end DateShorthand
