import DateShorthand.Proofs.Calendar.Shifts
import DateShorthand.Proofs.Shortcut.Midnight
import DateShorthand.Proofs.Shortcut.RenderedDay
import DateShorthand.Proofs.Text.Lowering

/-!
# Repeated keywords for today

The first keyword for today is dropped, and those behind it are parts. A part in days of today moves
nothing, but a keyword that is listed for years too is one for years there.
-/

namespace DateShorthand

variable {l : Localization} {separator : Char} {order : FieldOrder}

/-! ## Keywords as parts -/

theorem Localization.firstUnit?_today (h : (l, separator, order) ∈ layouts) :
    ∀ k ∈ l.today, l.firstUnit? k = some .today ∨ l.firstUnit? k = some .year := by
  simp only [layouts, List.mem_cons, Prod.mk.injEq, List.not_mem_nil, or_false] at h
  rcases h with ⟨rfl, -⟩ | ⟨rfl, -⟩ | ⟨rfl, -⟩ | ⟨rfl, -⟩ <;> decide

namespace WrittenPart

variable {parts : List (WrittenPart l)} {i j : Instant}

/-- A keyword for today by itself. -/
structure IsToday (p : WrittenPart l) : Prop where
  amount : p.toPart.amount = 1
  mem : p.keyword ∈ l.today

theorem IsToday.unit {p : WrittenPart l} (hl : (l, separator, order) ∈ Localization.layouts)
    (h : p.IsToday) : p.unit = .today ∨ p.unit = .year := by
  have hfirst := Localization.firstUnit?_today hl p.keyword h.mem
  rwa [p.firstUnit, Option.some.injEq, Option.some.injEq] at hfirst

theorem IsToday.year {p : WrittenPart l} (h : p.IsToday) (hunit : p.unit = .year)
    (hj : p.apply i = .ok j) : j.date.year = i.date.year + 1 := by
  rw [apply, hunit, Part.applyTo, h.amount, CalendarFault.guard_eq_ok_iff] at hj
  obtain ⟨e, he, rfl⟩ := Instant.onDate_eq_ok_iff.mp hj
  have := ((Date.addYears_eq_ok_iff_isInYear i.date e 1).mp he).1
  change e.year = i.date.year + 1
  omega

/-- As many years pass as there are keywords that mean years. -/
theorem year_of_foldlM (hl : (l, separator, order) ∈ Localization.layouts) (hparts : ∀ p ∈ parts, p.IsToday)
    (h : parts.foldlM (fun i p => p.apply i) i = .ok j) :
    j.date.year = i.date.year + parts.countP fun p => decide (p.unit = .year) := by
  induction parts generalizing i with
  | nil =>
    rw [List.foldlM_nil] at h
    obtain rfl := Except.ok.inj h
    rfl
  | cons p parts ih =>
    obtain ⟨hp, hparts⟩ := List.forall_mem_cons.mp hparts
    rw [List.foldlM_cons] at h
    obtain ⟨moved, hmoved, h⟩ := bind_eq_ok_iff.mp h
    have hrest := ih hparts h
    rcases hp.unit hl with hunit | hunit
    · rw [apply, hunit] at hmoved
      obtain rfl := Except.ok.inj hmoved
      rw [hrest, List.countP_cons_of_neg (by simp [hunit])]
    · rw [hrest, hp.year hunit hmoved, List.countP_cons_of_pos (by simp [hunit])]
      omega

theorem foldlM_of_today (h : ∀ p ∈ parts, p.unit = .today) (i : Instant) :
    parts.foldlM (fun i p => p.apply i) i = .ok i := by
  induction parts with
  | nil => rfl
  | cons p parts ih =>
    obtain ⟨hp, hparts⟩ := List.forall_mem_cons.mp h
    rw [List.foldlM_cons, apply, hp]
    exact ih hparts

end WrittenPart

/-! ## Keywords in a row -/

/-- Keywords for today, each of them behind a gap. -/
structure IsTodays (l : Localization) (later : List (Text × Text)) : Prop where
  isGap : ∀ entry ∈ later, Text.IsGap entry.1 ∧ entry.1 ≠ []
  mem : ∀ entry ∈ later, entry.2 ∈ l.today

def todaysText (later : List (Text × Text)) : Text := later.flatMap fun (gap, k) => gap ++ k

theorem IsTodays.exists_parts {later : List (Text × Text)} (h : IsTodays l later) :
    ∃ parts : List (WrittenPart l), RendersParts true parts (todaysText later) ∧
      (∀ p ∈ parts, p.IsToday) ∧ parts.map WrittenPart.keyword = later.map Prod.snd := by
  induction later with
  | nil => exact ⟨[], .nil, by simp, rfl⟩
  | cons entry later ih =>
    obtain ⟨gap, k⟩ := entry
    obtain ⟨⟨hgap, hne⟩, hgaps⟩ := List.forall_mem_cons.mp h.isGap
    obtain ⟨hk, hmems⟩ := List.forall_mem_cons.mp h.mem
    obtain ⟨parts, hparts, htoday, hkeywords⟩ := ih ⟨hgaps, hmems⟩
    have hkeyword : k ∈ l.keywords .today := hk
    obtain ⟨unit, hunit⟩ := Localization.exists_firstUnit? hkeyword
    let p : WrittenPart l := ⟨none, [], k, unit, by simp, by simp, Nat.zero_le _, hunit⟩
    refine ⟨p :: parts, ?_, List.forall_mem_cons.mpr ⟨⟨rfl, hk⟩, htoday⟩, congrArg (k :: ·) hkeywords⟩
    have : RendersParts true (p :: parts) _ := .unsigned rfl hgap (by simpa using hne) hparts
    simpa [todaysText, p] using this

namespace Resolver

/-- Without a time the day that is meant is resolved, and the default time is all that is added. -/
theorem resolve_of_rendersDay {r : Resolver}
    (hl : (r.localization, separator, order) ∈ Localization.layouts) {w : Written r.localization} {t : Text}
    (ht : w.RendersDay separator t) (hbare : w.isBare = false) :
    r.resolve t = (w.day r separator order).map (r.settleTime none) := by
  have hplain := Localization.isPlain_of_mem hl
  have hseparator := Localization.isDateSeparator_of_mem hl
  have htight : Text.IsTight t :=
    ⟨ht.not_isBlank_head hplain hseparator, ht.not_isBlank_last hplain hseparator⟩
  have hnormal : Text.normalize t = t := by
    rw [Text.normalize_of_trim_eq (Text.trim_of_isTight htight),
      Text.lower_of_isLower (ht.isLower hplain hseparator)]
  have hne : Text.normalize t ≠ [] := by
    rw [hnormal, Ne, ht.eq_nil_iff hplain, hbare]
    exact Bool.false_ne_true
  have habsent : TrailingTime.IsAbsent r.localization t := by
    rw [TrailingTime.IsAbsent, hnormal]
    exact ht.find?_eq_none hplain hseparator hbare
  rw [resolve_of_isAbsent hne habsent, hnormal,
    Written.resolveDate_eq hplain (Localization.hasLayout_of_mem hl) hseparator ht]

/-- The day of the reference, at the default time or at midnight. -/
def today (r : Resolver) : Instant :=
  (Instant.ofDate r.reference.date).atTime (r.defaultTime.getD .midnight)

/-- Keywords for today in a row are a part each but the first one. -/
theorem resolve_todaysText {r : Resolver}
    (hl : (r.localization, separator, order) ∈ Localization.layouts) {k : Text} (hk : k ∈ r.localization.today)
    {later : List (Text × Text)} {parts : List (WrittenPart r.localization)}
    (hparts : RendersParts true parts (todaysText later)) :
    r.resolve (k ++ todaysText later)
      = (parts.foldlM (fun i (p : WrittenPart _) => p.apply i) r.startOfDay).map (r.settleTime none) := by
  let w : Written r.localization :=
    { today := some k
      date := none
      parts := parts
      workday := false
      clock := none
      today_mem := by simpa using hk
      starts := by simp
      nonempty := by simp }
  have hday : w.RendersDay separator (k ++ todaysText later) := by
    have : w.RendersDay separator _ := .intro hparts Text.isGap_nil (by simp)
    simpa [w, Written.anchorText, Written.markerText] using this
  have hfold : w.day r separator order = parts.foldlM (fun i p => p.apply i) r.startOfDay := by
    unfold Written.day
    change (parts.foldlM (fun i p => p.apply i) r.startOfDay >>= fun moved => .ok moved) = _
    cases parts.foldlM (fun i p => p.apply i) r.startOfDay <;> rfl
  rw [resolve_of_rendersDay hl hday rfl, hfold]

/-- A keyword for today leads to the day of the reference. More of them behind it change nothing, unless
one of them is read as a keyword for another unit. -/
theorem resolve_todays {tag : Text} {l : Localization} (hl : (tag, l) ∈ Localization.builtin)
    {reference : Instant} {defaultTime : Text} {r : Resolver} (hr : build l reference defaultTime = .ok r)
    {k : Text} (hk : k ∈ l.today) {later : List (Text × Text)} (hlater : IsTodays l later) :
    reference.toUtc = .ok r.reference ∧ r.resolve k = .ok r.today ∧
      (r.resolve (k ++ todaysText later) = .ok r.today ↔
        ∀ entry ∈ later, l.unitOf? entry.2 = some .today) := by
  obtain ⟨rfl, hutc, -⟩ := build_eq_ok hr
  obtain ⟨separator, order, hlayout⟩ := Localization.exists_mem_layouts hl
  have hstart : r.startOfDay = Instant.ofDate r.reference.date :=
    startOf_eq (Instant.toUtc_eq_ok hutc).1 none
  have hsettle : r.settleTime none r.startOfDay = r.today := by
    rw [hstart]
    cases hdefault : r.defaultTime <;> simp [settleTime, today, hdefault, Instant.ofDate, Instant.atTime]
  have hfirst : r.resolve (k ++ todaysText []) = _ := resolve_todaysText hlayout hk .nil
  rw [todaysText, List.flatMap_nil, List.append_nil, List.foldlM_nil] at hfirst
  obtain ⟨parts, hparts, htodays, hkeywords⟩ := hlater.exists_parts
  have hunits : (∀ entry ∈ later, r.localization.unitOf? entry.2 = some .today) ↔
      ∀ p ∈ parts, p.unit = .today := by
    have hplain := Localization.isPlain_of_mem hlayout
    have hmap := List.forall_mem_map (l := later) (f := Prod.snd)
      (P := fun k => r.localization.unitOf? k = some .today)
    rw [← hmap, ← hkeywords, List.forall_mem_map]
    refine forall₂_congr fun p _ => ?_
    rw [p.unitOf?_keyword (hplain.isLower p.keyword_mem), Option.some.injEq]
  refine ⟨hutc, hfirst.trans (congrArg Except.ok hsettle), ?_⟩
  rw [hunits, resolve_todaysText hlayout hk hparts]
  constructor
  · intro h
    obtain ⟨j, hj, hsettled⟩ := map_eq_ok_iff.mp h
    have hyear := WrittenPart.year_of_foldlM hlayout htodays hj
    have hdate : j.date = r.startOfDay.date := by
      rw [← date_settleTime r none j, hsettled, ← hsettle, date_settleTime]
    rw [hdate, Nat.left_eq_add, List.countP_eq_zero] at hyear
    exact fun p hp => ((htodays p hp).unit hlayout).resolve_right (by simpa using hyear p hp)
  · intro h
    rw [WrittenPart.foldlM_of_today h]
    exact congrArg Except.ok hsettle

/-- The day begins an hour earlier in UTC than at the reference. -/
theorem resolve_todays_in_french :
    let reference : Instant :=
      ⟨⟨2024, 5, 15, by decide, by decide, by decide⟩, ⟨23, 30, 0⟩, .zero, some (-3600)⟩
    let later : List (Text × Text) := [(" \t", "maintenant"), ("  ", "aujourdhui")]
    ∃ r, (("fr" : Text), Localization.french) ∈ Localization.builtin ∧
      build .french reference "9:30" = .ok r ∧ ("a" : Text) ∈ Localization.french.today ∧
      IsTodays .french later ∧ r.resolve "a" = .ok r.today ∧
      r.resolve ("a" ++ todaysText later) = .ok r.today ∧
      r.today = (Instant.ofDate ⟨2024, 5, 16, by decide, by decide, by decide⟩).atTime ⟨9, 30, 0⟩ := by
  let reference : Instant :=
    ⟨⟨2024, 5, 15, by decide, by decide, by decide⟩, ⟨23, 30, 0⟩, .zero, some (-3600)⟩
  let later : List (Text × Text) := [(" \t", "maintenant"), ("  ", "aujourdhui")]
  let r : Resolver :=
    ⟨.french, ⟨⟨2024, 5, 16, by decide, by decide, by decide⟩, ⟨0, 30, 0⟩, .zero, some 0⟩, some ⟨9, 30, 0⟩⟩
  have hl : (("fr" : Text), Localization.french) ∈ Localization.builtin := by simp [Localization.builtin]
  have hr : build .french reference "9:30" = .ok r := by
    set_option maxRecDepth 10000 in
    decide
  have hlater : IsTodays .french later := by
    refine ⟨?_, by decide⟩
    simp only [later, Text.IsGap, List.forall_mem_cons]
    decide
  have hunits : ∀ entry ∈ later, Localization.french.unitOf? entry.2 = some .today := by decide
  obtain ⟨-, hfirst, hiff⟩ := resolve_todays hl hr (k := "a") (by decide) hlater
  exact ⟨r, hl, hr, by decide, hlater, hfirst, hiff.mpr hunits, rfl⟩

/-- The second `a` is read as a year. -/
theorem resolve_today_and_year :
    let reference : Instant := .ofDate ⟨2024, 5, 15, by decide, by decide, by decide⟩
    ∃ r, (("fr" : Text), Localization.french) ∈ Localization.builtin ∧ build .french reference "" = .ok r ∧
      ("a" : Text) ∈ Localization.french.today ∧ Text.isBlank ' ' = true ∧ r.resolve "a" = .ok reference ∧
      r.resolve "a a" = .ok (.ofDate ⟨2025, 5, 15, by decide, by decide, by decide⟩) := by
  let reference : Instant := .ofDate ⟨2024, 5, 15, by decide, by decide, by decide⟩
  let r : Resolver := ⟨.french, reference, none⟩
  have hr : build .french reference "" = .ok r := by
    set_option maxRecDepth 1000 in
    decide
  have hresolve : r.resolve "a a" = .ok (.ofDate ⟨2025, 5, 15, by decide, by decide, by decide⟩) := by
    set_option maxRecDepth 1000 in
    decide
  exact ⟨r, by simp [Localization.builtin], hr, by decide, by decide, by decide, hresolve⟩

end Resolver

end DateShorthand
