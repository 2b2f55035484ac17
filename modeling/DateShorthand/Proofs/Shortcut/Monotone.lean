import DateShorthand.Locale.Builtin
import DateShorthand.Proofs.Calendar.Order
import DateShorthand.Proofs.Shortcut.Stages

/-!
# Resolving keeps the order

Two resolvers that differ in their reference cut a shortcut alike, and every stage keeps the order
of the two days. So a later reference never leads to an earlier instant.
-/

namespace DateShorthand

/-! ## The date that is written -/

namespace AbsoluteDate

theorem yearOf_mono {year later : Nat} {group : Option Text} {y z : Int} (h : year ≤ later)
    (hy : yearOf year group = .ok y) (hz : yearOf later group = .ok z) : y ≤ z := by
  match group with
  | none | some [] =>
    simp only [yearOf, Except.ok.injEq] at hy hz
    omega
  | some (c :: t) =>
    simp only [yearOf] at hy hz
    rw [hy, Except.ok.injEq] at hz
    omega

theorem read_mono {year later : Nat} {p : DatePattern} {m : Regex.Match} {d e : Date}
    (h : year ≤ later) (hd : read year p m = .ok d) (he : read later p m = .ok e) :
    d.number ≤ e.number := by
  unfold read at hd he
  simp only [bind_eq_ok_iff, CalendarFault.guard_eq_ok_iff] at hd he
  obtain ⟨first, hfirst, second, hsecond, y, hy, hd⟩ := hd
  obtain ⟨first', hfirst', second', hsecond', z, hz, he⟩ := he
  obtain rfl : first = first' := by rwa [hfirst, Except.ok.injEq] at hfirst'
  obtain rfl : second = second' := by rwa [hsecond, Except.ok.injEq] at hsecond'
  have hyear := yearOf_mono h hy hz
  cases hp : p.order <;> simp only [hp] at hd he <;> exact Date.ofCalendar_mono hyear hd he

end AbsoluteDate

/-! ## One part, all parts -/

namespace Instant.NoLater

theorem nthBusinessDay {n : Int} {fromEnd : Bool} {i j i' j' : Instant} (h : NoLater i j)
    (hi : i.nthBusinessDay n fromEnd = .ok i') (hj : j.nthBusinessDay n fromEnd = .ok j') :
    NoLater i' j' := by
  unfold Instant.nthBusinessDay at hi hj
  split at hi
  · rename_i d hd
    split at hj
    · rename_i e he
      rw [Except.ok.injEq] at hi hj
      rw [← hi, ← hj]
      exact ⟨Date.nthBusinessDay?_mono h.number_le hd he, h.time_eq, h.microsecond_eq, h.offset_eq⟩
    · simp at hj
  · simp at hi

theorem applyTo {p : Part} {unit : CalendarUnit} {i j i' j' : Instant} (h : NoLater i j)
    (hi : p.applyTo unit i = .ok i') (hj : p.applyTo unit j = .ok j') : NoLater i' j' := by
  cases unit with
  | today =>
    rw [Part.applyTo, Except.ok.injEq] at hi hj
    rwa [← hi, ← hj]
  | year =>
    rw [Part.applyTo, CalendarFault.guard_eq_ok_iff] at hi hj
    exact h.onDate (Date.addYears_keepsOrder _) hi hj
  | month =>
    rw [Part.applyTo, CalendarFault.guard_eq_ok_iff] at hi hj
    exact h.onDate (Date.addMonths_keepsOrder _) hi hj
  | week =>
    rw [Part.applyTo, CalendarFault.guard_eq_ok_iff] at hi hj
    exact h.onDate (Date.addDays_keepsOrder _) hi hj
  | day =>
    rw [Part.applyTo, CalendarFault.guard_eq_ok_iff] at hi hj
    exact h.onDate (Date.addDays_keepsOrder _) hi hj
  | weekday =>
    rw [Part.applyTo, mapError_eq_ok_iff] at hi hj
    exact h.nthBusinessDay hi hj

theorem applyTokens {l : Localization} {tokens : List Text} {i j i' j' : Instant}
    (h : NoLater i j) (hi : Part.applyTokens l i tokens = .ok i') (hj : Part.applyTokens l j tokens = .ok j') :
    NoLater i' j' := by
  induction tokens generalizing i j with
  | nil =>
    rw [Part.applyTokens, Except.ok.injEq] at hi hj
    rwa [← hi, ← hj]
  | cons token rest ih =>
    obtain ⟨i₁, p, unit, hstep, hi⟩ := Part.applyTokens_cons_eq_ok_iff.mp hi
    obtain ⟨j₁, q, unit', hstep', hj⟩ := Part.applyTokens_cons_eq_ok_iff.mp hj
    obtain ⟨hp, hunit, hmove⟩ := Part.step_eq_ok_iff.mp hstep
    obtain ⟨hq, hunit', hmove'⟩ := Part.step_eq_ok_iff.mp hstep'
    obtain rfl : p = q := by rwa [hp, Except.ok.injEq] at hq
    obtain rfl : unit = unit' := by rwa [hunit, Option.some.injEq] at hunit'
    exact ih (applyTo h hmove hmove') hi hj

theorem applyAll {l : Localization} {t : Text} {i j i' j' : Instant}
    (h : NoLater i j) (hi : Part.applyAll l i t = .ok i') (hj : Part.applyAll l j t = .ok j') :
    NoLater i' j' := by
  obtain ⟨tokens, htokens, hi⟩ := bind_eq_ok_iff.mp hi
  obtain ⟨tokens', htokens', hj⟩ := bind_eq_ok_iff.mp hj
  obtain rfl : tokens = tokens' := by rwa [htokens, Except.ok.injEq] at htokens'
  exact applyTokens h hi hj

/-! ## The whole shortcut -/

variable {l : Localization} {reference reference' : Instant} {time : Option TimeOfDay}
  {shortcut : Text} {i j : Instant}

theorem toWorkday {i j i' j' : Instant} {wanted : Bool} (h : NoLater i j)
    (hi : Resolver.toWorkday i wanted = .ok i') (hj : Resolver.toWorkday j wanted = .ok j') : NoLater i' j' := by
  cases wanted with
  | false =>
    simp only [Resolver.toWorkday, Bool.false_eq_true, if_false, Except.ok.injEq] at hi hj
    rwa [← hi, ← hj]
  | true =>
    simp only [Resolver.toWorkday, if_true, CalendarFault.guard_eq_ok_iff] at hi hj
    exact h.onDate Date.closestWorkday_keepsOrder hi hj

theorem settleTime (h : NoLater i j) (written : Option TimeOfDay) :
    NoLater (Resolver.settleTime ⟨l, reference, time⟩ written i)
      (Resolver.settleTime ⟨l, reference', time⟩ written j) := by
  simp only [Resolver.settleTime]
  cases written.or time with
  | none => exact h
  | some t => exact atTime h.number_le h.offset_eq t

theorem base {t rest rest' : Text} {workday workday' : Bool}
    (hday : reference.date.number ≤ reference'.date.number)
    (hoffset : reference.offset = some 0) (hoffset' : reference'.offset = some 0)
    (hi : Resolver.base ⟨l, reference, time⟩ t = .ok (i, rest, workday))
    (hj : Resolver.base ⟨l, reference', time⟩ t = .ok (j, rest', workday')) :
    NoLater i j ∧ rest = rest' ∧ workday = workday' := by
  obtain ⟨date, tail, hsplit, rfl, hmarker⟩ := Resolver.base_eq_ok_iff.mp hi
  obtain ⟨date', tail', hsplit', rfl, hmarker'⟩ := Resolver.base_eq_ok_iff.mp hj
  unfold AbsoluteDate.split at hsplit hsplit'
  cases hfind : AbsoluteDate.find? l (Resolver.dropToday l t) with
  | none =>
    simp only [hfind, Except.ok.injEq, Prod.mk.injEq] at hsplit hsplit'
    obtain ⟨rfl, rfl⟩ := hsplit
    obtain ⟨rfl, rfl⟩ := hsplit'
    rw [hmarker, Prod.mk.injEq] at hmarker'
    exact ⟨atTime hday (by rw [hoffset, hoffset']) _, hmarker'⟩
  | some found =>
    simp only [hfind, map_eq_ok_iff, Prod.mk.injEq] at hsplit hsplit'
    obtain ⟨d, hd, rfl, rfl⟩ := hsplit
    obtain ⟨e, he, rfl, rfl⟩ := hsplit'
    have hyear : reference.date.year ≤ reference'.date.year := by
      have := (Date.number_le_iff _ _).mp hday
      rw [← Date.monthIndex_div, ← Date.monthIndex_div]
      omega
    rw [hmarker, Prod.mk.injEq] at hmarker'
    exact ⟨⟨AbsoluteDate.read_mono hyear hd he, rfl, rfl, rfl⟩, hmarker'⟩

theorem resolve (hday : reference.date.number ≤ reference'.date.number)
    (hoffset : reference.offset = some 0) (hoffset' : reference'.offset = some 0)
    (hi : Resolver.resolve ⟨l, reference, time⟩ shortcut = .ok i)
    (hj : Resolver.resolve ⟨l, reference', time⟩ shortcut = .ok j) : i.moment ≤ j.moment := by
  rw [Resolver.resolve_eq] at hi hj
  obtain ⟨⟨written, dateText⟩, hsplit, hi⟩ := bind_eq_ok_iff.mp hi
  obtain ⟨⟨written', dateText'⟩, hsplit', hj⟩ := bind_eq_ok_iff.mp hj
  -- The text is cut without a look at the reference.
  obtain ⟨rfl, rfl⟩ : written = written' ∧ dateText = dateText' := by
    change Resolver.split ⟨l, reference, time⟩ shortcut = _ at hsplit'
    simpa [hsplit] using hsplit'
  obtain ⟨d, hd, rfl⟩ := map_eq_ok_iff.mp hi
  obtain ⟨e, he, rfl⟩ := map_eq_ok_iff.mp hj
  unfold Resolver.instantOf at hd he
  split at hd
  · rename_i hempty
    obtain ⟨t, rfl⟩ := Option.isSome_iff_exists.mp (Resolver.split_eq_ok hsplit hempty)
    rw [if_pos hempty, Except.ok.injEq] at he
    rw [Except.ok.injEq] at hd
    subst hd he
    exact (atTime hday (by rw [hoffset, hoffset']) t).moment_le
  · rename_i hempty
    rw [if_neg hempty] at he
    obtain ⟨⟨start, parts, workday⟩, hbase, hd⟩ := bind_eq_ok_iff.mp hd
    obtain ⟨⟨start', parts', workday'⟩, hbase', he⟩ := bind_eq_ok_iff.mp he
    obtain ⟨hstart, rfl, rfl⟩ := base hday hoffset hoffset' hbase hbase'
    obtain ⟨moved, hmoved, hd⟩ := bind_eq_ok_iff.mp hd
    obtain ⟨moved', hmoved', he⟩ := bind_eq_ok_iff.mp he
    have hmove := applyAll hstart hmoved hmoved'
    have hend := toWorkday hmove hd he
    exact (settleTime hend written).moment_le

end Instant.NoLater

namespace Resolver

variable {l : Localization} {shortcut : Text}

/-- A later reference never leads to an earlier instant. -/
theorem resolve_moment_le {reference₁ reference₂ : Instant} {defaultTime : Text} {r₁ r₂ : Resolver}
    {i₁ i₂ : Instant} (h : reference₁.moment ≤ reference₂.moment)
    (h₁ : build l reference₁ defaultTime = .ok r₁) (h₂ : build l reference₂ defaultTime = .ok r₂)
    (hi₁ : r₁.resolve shortcut = .ok i₁) (hi₂ : r₂.resolve shortcut = .ok i₂) :
    i₁.moment ≤ i₂.moment := by
  obtain ⟨l₁, utc₁, time₁⟩ := r₁
  obtain ⟨l₂, utc₂, time₂⟩ := r₂
  obtain ⟨rfl, hutc₁, htime₁⟩ := build_eq_ok h₁
  obtain ⟨rfl, hutc₂, htime₂⟩ := build_eq_ok h₂
  obtain rfl : time₁ = time₂ := by rwa [htime₁, Except.ok.injEq] at htime₂
  obtain ⟨hoffset₁, hmoment₁⟩ := Instant.toUtc_eq_ok hutc₁
  obtain ⟨hoffset₂, hmoment₂⟩ := Instant.toUtc_eq_ok hutc₂
  have hday := Instant.number_le_of_moment_le hoffset₁ hoffset₂ (by omega)
  exact Instant.NoLater.resolve hday hoffset₁ hoffset₂ hi₁ hi₂

/-- The ends of January and of February, each moved by a month. -/
theorem resolve_moment_le_at_month_ends :
    ∃ r₁ r₂ i₁ i₂,
      build .english (.ofDate ⟨2023, 1, 31, by decide, by decide, by decide⟩) "9:30" = .ok r₁ ∧
      build .english (.ofDate ⟨2023, 2, 28, by decide, by decide, by decide⟩) "9:30" = .ok r₂ ∧
      r₁.resolve "+1m." = .ok i₁ ∧ r₂.resolve "+1m." = .ok i₂ ∧ i₁.moment ≤ i₂.moment := by
  let january : Date := ⟨2023, 1, 31, by decide, by decide, by decide⟩
  let february : Date := ⟨2023, 2, 28, by decide, by decide, by decide⟩
  let march : Date := ⟨2023, 3, 28, by decide, by decide, by decide⟩
  let time : TimeOfDay := ⟨9, 30, 0⟩
  have h₁ : build .english (.ofDate january) "9:30" = .ok ⟨.english, .ofDate january, time⟩ := by
    set_option maxRecDepth 1000 in
    decide
  have h₂ : build .english (.ofDate february) "9:30" = .ok ⟨.english, .ofDate february, time⟩ := by
    set_option maxRecDepth 1000 in
    decide
  have hi₁ : resolve ⟨.english, .ofDate january, time⟩ "+1m."
      = .ok ((Instant.ofDate february).atTime time) := by
    decide
  have hi₂ : resolve ⟨.english, .ofDate february, time⟩ "+1m."
      = .ok ((Instant.ofDate march).atTime time) := by
    decide
  exact ⟨_, _, _, _, h₁, h₂, hi₁, hi₂, resolve_moment_le (by decide) h₁ h₂ hi₁ hi₂⟩

end Resolver

end DateShorthand
