import DateShorthand.Proofs.Locale.KeywordLists
import DateShorthand.Proofs.Locale.Keywords
import DateShorthand.Proofs.Shortcut.Clock
import DateShorthand.Proofs.Shortcut.Escapes

/-!
# The order of keywords

The keyword lists of a localization count as sets: which keywords they hold decides on what a shortcut
means, and the order in which they are listed decides on nothing. The same goes for the markers that
the time at the end may carry.
-/

namespace DateShorthand

/-! ## Lists in another order -/

namespace Localization

variable {l l' : Localization}

/-- Each list holds the keywords of the other one's list, in an order of its own. -/
structure Reordered (l l' : Localization) : Prop where
  keywords : ∀ unit, (l.keywords unit).Perm (l'.keywords unit)
  am : l.am.Perm l'.am
  pm : l.pm.Perm l'.pm
  datePatterns : l.datePatterns = l'.datePatterns

theorem Reordered.unitOf?_eq (h : l.Reordered l') (keyword : Text) :
    l.unitOf? keyword = l'.unitOf? keyword := by
  rw [Localization.unitOf?_eq, Localization.unitOf?_eq, firstUnit?, firstUnit?]
  exact congrArg (CalendarUnit.all.find? ·) (funext fun unit => (h.keywords unit).contains_eq)

theorem Reordered.dropToday_eq (h : l.Reordered l') (t : Text) :
    Resolver.dropToday l t = Resolver.dropToday l' t := by
  have htoday : l.today.Perm l'.today := h.keywords .today
  -- which keyword is the longest one that fits is a question about the set
  have hfind : l.todayLongestFirst.find? (·.isPrefixOf t) = l'.todayLongestFirst.find? (·.isPrefixOf t) := by
    refine Option.ext fun k => ?_
    rw [todayLongestFirst, todayLongestFirst, find?_longestFirst_eq_some_iff,
      find?_longestFirst_eq_some_iff]
    simp only [htoday.mem_iff]
  rw [Resolver.dropToday, Resolver.dropToday, hfind]

/-! ## Markers -/

/-- The markers of both halves of the day, each of them once. -/
structure Enumerates (markers : List Text) (l : Localization) : Prop where
  nodup : markers.Nodup
  mem_iff : ∀ w, w ∈ markers ↔ w ∈ l.am ∨ w ∈ l.pm

theorem enumerates_eraseDups (l : Localization) : Enumerates (l.am ++ l.pm).eraseDups l :=
  ⟨nodup_eraseDups _, fun w => by rw [List.mem_eraseDups, List.mem_append]⟩

theorem Reordered.enumerates (h : l.Reordered l') {markers : List Text} (hm : Enumerates markers l) :
    Enumerates markers l' :=
  ⟨hm.nodup, fun w => by rw [hm.mem_iff, h.am.mem_iff, h.pm.mem_iff]⟩

theorem Enumerates.perm {markers markers' : List Text} (h : Enumerates markers l)
    (h' : Enumerates markers' l) : markers.Perm markers' :=
  (List.perm_ext_iff_of_nodup h.nodup h'.nodup).mpr fun w => by rw [h.mem_iff, h'.mem_iff]

end Localization

open DateShorthand.Localization

/-! ## The time -/

namespace TrailingTime

open Regex

variable {l l' : Localization} {markers markers' : List Text}

theorem outcomes_timeRegex_congr (hperm : markers.Perm markers') :
    outcomes true (timeRegex (longestFirst markers)) = outcomes true (timeRegex (longestFirst markers')) := by
  have hsorted : (longestFirst markers).Perm (longestFirst markers') :=
    (longestFirst_perm markers).trans (hperm.trans (longestFirst_perm markers').symm)
  have hending : outcomes true (ofList (ending (longestFirst markers)))
      = outcomes true (ofList (ending (longestFirst markers'))) := by
    by_cases hne : longestFirst markers = []
    · rw [hne] at hsorted
      rw [hne, ← hsorted.nil_eq]
    · have hne' : longestFirst markers' ≠ [] := fun h => hne (h ▸ hsorted).eq_nil
      have hmarker := outcomes_oneOf_literal_congr hsorted (pairwise_longestFirst markers)
        (pairwise_longestFirst markers')
      funext s
      rw [outcomes_ending_of_ne_nil hne, outcomes_ending_of_ne_nil hne']
      simp only [outcomes, hmarker]
  rw [timeRegex_eq, timeRegex_eq]
  exact outcomes_ofList_append_congr hending
    [.alt (.anchor .start) (blanks 1), .group 1 (.decimals 1 2), sexagesimal 2, sexagesimal 3]

/-- The search for a time when the markers come in the given order, the longest first. -/
def findAmong? (markers : List Text) (t : Text) : Option Match :=
  (timeRegex (longestFirst markers)).search? true t

/-- The cut before the time when the markers come in the given order, the longest first. -/
def splitAmong (markers : List Text) (l : Localization) (t : Text) :
    Except Fault (Option TimeOfDay × Text) :=
  match findAmong? markers t with
  | none => .ok (none, t)
  | some m => (read l t m).map fun time => (some time, Text.trim (t.take m.start))

theorem splitAmong_eraseDups (l : Localization) (t : Text) :
    splitAmong (l.am ++ l.pm).eraseDups l t = split l t := rfl

theorem splitAmong_congr (hperm : markers.Perm markers') (hpm : l.pm.Perm l'.pm) (t : Text) :
    splitAmong markers l t = splitAmong markers' l' t := by
  have hfind : findAmong? markers t = findAmong? markers' t :=
    search?_congr (outcomes_timeRegex_congr hperm) t
  have hread : ∀ m, read l t m = read l' t m := by
    intro m
    simp only [read, markedHour, hpm.contains_eq]
  rw [splitAmong, splitAmong, hfind]
  simp only [hread]

end TrailingTime

/-! ## The date -/

namespace Localization.Reordered

variable {l l' : Localization}

theorem step_eq (h : l.Reordered l') (i : Instant) (token : Text) :
    Part.step l i token = Part.step l' i token := by
  rw [Part.step, Part.step]
  simp only [h.unitOf?_eq]

theorem applyTokens_eq (h : l.Reordered l') (i : Instant) (tokens : List Text) :
    Part.applyTokens l i tokens = Part.applyTokens l' i tokens := by
  induction tokens generalizing i with
  | nil => rfl
  | cons token tokens ih =>
    rw [Part.applyTokens, Part.applyTokens, h.step_eq]
    simp only [ih]

theorem resolveDate_eq (h : l.Reordered l') (utc : Instant) (time : Option TimeOfDay) (t : Text) :
    Resolver.resolveDate ⟨l, utc, time⟩ t = Resolver.resolveDate ⟨l', utc, time⟩ t := by
  have hdate : ∀ year t, AbsoluteDate.split l year t = AbsoluteDate.split l' year t := by
    intro year t
    rw [AbsoluteDate.split, AbsoluteDate.split, AbsoluteDate.find?, AbsoluteDate.find?, h.datePatterns]
  have hfinish : ∀ start rest, Resolver.finish l start rest = Resolver.finish l' start rest := by
    intro start rest
    rw [Resolver.finish, Resolver.finish, Part.applyAll, Part.applyAll]
    simp only [h.applyTokens_eq]
  rw [Resolver.resolveDate_eq_finish, Resolver.resolveDate_eq_finish]
  simp only [h.dropToday_eq, hdate, hfinish]
  rfl

end Localization.Reordered

/-! ## Whole shortcuts -/

namespace Resolver

variable {l l' : Localization}

/-- The time and the date text of a shortcut when the markers come in the given order, the longest
first. -/
def splitAmong (markers : List Text) (r : Resolver) (shortcut : Text) :
    Except Failure (Option TimeOfDay × Text) :=
  let t := Text.normalize shortcut
  if t.isEmpty then .error (.fault (.emptyShortcut shortcut))
  else (TrailingTime.splitAmong markers r.localization t).mapError .fault

/-- The answer to a shortcut when the markers come in the given order, the longest first. -/
def resolveAmong (markers : List Text) (r : Resolver) (shortcut : Text) : Except Failure Instant := do
  let (time, dateText) ← r.splitAmong markers shortcut
  (r.instantOf dateText).map (r.settleTime time)

theorem resolveAmong_eraseDups (r : Resolver) (shortcut : Text) :
    r.resolveAmong (r.localization.am ++ r.localization.pm).eraseDups shortcut = r.resolve shortcut := by
  rw [resolve_eq, resolveAmong, splitAmong, TrailingTime.splitAmong_eraseDups]
  rfl

theorem resolveAmong_congr (h : l.Reordered l') {markers markers' : List Text}
    (hperm : markers.Perm markers') (utc : Instant) (time : Option TimeOfDay) (shortcut : Text) :
    resolveAmong markers ⟨l, utc, time⟩ shortcut = resolveAmong markers' ⟨l', utc, time⟩ shortcut := by
  have hinstant : instantOf ⟨l, utc, time⟩ = instantOf ⟨l', utc, time⟩ := by
    funext dateText
    simp only [instantOf, h.resolveDate_eq]
  have hsettle : settleTime ⟨l, utc, time⟩ = settleTime ⟨l', utc, time⟩ := rfl
  rw [resolveAmong, resolveAmong, splitAmong, splitAmong]
  simp only [TrailingTime.splitAmong_congr hperm h.pm, hinstant, hsettle]

/-- What a shortcut comes to from scratch when the markers come in the given order, the longest
first. -/
def resolveOnceAmong (markers : List Text) (l : Localization) (reference : Instant)
    (defaultTime shortcut : Text) : Except Failure Instant := do
  let r ← build l reference defaultTime
  r.resolveAmong markers shortcut

theorem resolveOnceAmong_eraseDups (l : Localization) (reference : Instant) (defaultTime shortcut : Text) :
    resolveOnceAmong (l.am ++ l.pm).eraseDups l reference defaultTime shortcut
      = resolveOnce l reference defaultTime shortcut := by
  rw [resolveOnceAmong, resolveOnce]
  cases hbuild : build l reference defaultTime with
  | error => rfl
  | ok r =>
    obtain rfl := (build_eq_ok hbuild).1
    exact resolveAmong_eraseDups r shortcut

/-- What a resolver holds besides its localization does not depend on that. -/
theorem build_eq_map (l l' : Localization) (reference : Instant) (defaultTime : Text) :
    build l' reference defaultTime
      = (build l reference defaultTime).map fun r => { r with localization := l' } := by
  rw [build, build]
  cases reference.toUtc with
  | error => rfl
  | ok utc =>
    by_cases hempty : defaultTime.isEmpty
    · simp only [mapError_ok, hempty, if_true]
      rfl
    · simp only [mapError_ok, hempty]
      cases DefaultTime.parse defaultTime <;> rfl

theorem resolveOnceAmong_congr (h : l.Reordered l') {markers markers' : List Text}
    (hperm : markers.Perm markers') (reference : Instant) (defaultTime shortcut : Text) :
    resolveOnceAmong markers l reference defaultTime shortcut
      = resolveOnceAmong markers' l' reference defaultTime shortcut := by
  rw [resolveOnceAmong, resolveOnceAmong, build_eq_map l l']
  cases hbuild : build l reference defaultTime with
  | error => rw [Except.map, error_bind, error_bind]
  | ok r =>
    obtain rfl := (build_eq_ok hbuild).1
    exact resolveAmong_congr h hperm r.reference r.defaultTime shortcut

/-- Neither the order of the keywords in their lists nor the one in which the markers come changes
the answer to a shortcut. -/
theorem resolveOnce_eq_of_reordered {l l' : Localization} (h : l.Reordered l') (reference : Instant)
    (defaultTime shortcut : Text) :
    resolveOnce l' reference defaultTime shortcut = resolveOnce l reference defaultTime shortcut ∧
      ∀ markers, Enumerates markers l' →
        resolveOnceAmong markers l' reference defaultTime shortcut
          = resolveOnce l reference defaultTime shortcut := by
  have hall : ∀ markers, Enumerates markers l' →
      resolveOnceAmong markers l' reference defaultTime shortcut
        = resolveOnce l reference defaultTime shortcut := by
    intro markers hmarkers
    have hperm := (h.enumerates (enumerates_eraseDups l)).perm hmarkers
    rw [← resolveOnceAmong_congr h hperm, resolveOnceAmong_eraseDups]
  exact ⟨resolveOnceAmong_eraseDups l' .. ▸ hall _ (enumerates_eraseDups l'), hall⟩

theorem resolveOnce_eq_of_reordered_overlapping :
    let l : Localization := { Localization.english with
      month := ["m", "y"], today := ["n", "no", "now"], am := ["a:", "p1", "p "], pm := ["A:", "pm", "p1"] }
    let l' : Localization := { Localization.english with
      month := ["y", "m"], today := ["now", "n", "no"], am := ["p ", "a:", "p1"], pm := ["p1", "A:", "pm"] }
    let reference := Instant.ofDate ⟨2024, 1, 31, by decide, by decide, by decide⟩
    l.Reordered l' ∧ Enumerates ["pm", "p1", "p ", "A:", "a:"] l' ∧
      resolveOnce l' reference "" "now+1m 3:15 P1" = resolveOnce l reference "" "now+1m 3:15 P1" ∧
      resolveOnceAmong ["pm", "p1", "p ", "A:", "a:"] l' reference "" "now+1m 3:15 P1"
        = resolveOnce l reference "" "now+1m 3:15 P1" := by
  intro l l' reference
  have h : l.Reordered l' :=
    ⟨fun unit => by cases unit <;> decide, by decide, by decide, rfl⟩
  have hmarkers : Enumerates ["pm", "p1", "p ", "A:", "a:"] l' := by
    refine ⟨by decide, fun w => ?_⟩
    simp only [l', List.mem_cons, List.not_mem_nil, or_false]
    grind
  have heq := resolveOnce_eq_of_reordered h reference "" "now+1m 3:15 P1"
  exact ⟨h, hmarkers, heq.1, heq.2 _ hmarkers⟩

end Resolver

end DateShorthand
