import DateShorthand.Locale.Basic
import DateShorthand.Proofs.Text.Classes
import Mathlib.Tactic.Common

/-!
# Keywords

A keyword means the first unit that lists it, and of the keywords that begin a text the longest one
comes first.
-/

namespace DateShorthand

theorem CalendarUnit.mem_all (unit : CalendarUnit) : unit ∈ all := by
  cases unit <;> decide

namespace Localization

variable {l : Localization}

/-! ## The meaning of a keyword -/

/-- The first unit, in the order of all units, that lists the keyword. -/
def firstUnit? (l : Localization) (keyword : Text) : Option CalendarUnit :=
  CalendarUnit.all.find? fun unit => (l.keywords unit).contains keyword

theorem lookup_foldl_addListing (listings meanings : List (Text × CalendarUnit)) (k : Text) :
    (listings.foldl addListing meanings).lookup k = (meanings.lookup k).or (listings.lookup k) := by
  induction listings generalizing meanings with
  | nil => simp
  | cons listing listings ih =>
    obtain ⟨keyword, unit⟩ := listing
    rw [List.foldl_cons, ih, addListing]
    by_cases hk : k = keyword
    · subst hk
      cases h : meanings.lookup k <;> simp [h, List.lookup_append]
    · have hbeq : (k == keyword) = false := by simpa using hk
      cases h : meanings.lookup keyword <;> simp [List.lookup_append, List.lookup_cons, hbeq]

theorem lookup_map_unit (keywords : List Text) (unit : CalendarUnit) (k : Text) :
    (keywords.map (·, unit)).lookup k = if keywords.contains k then some unit else none := by
  induction keywords with
  | nil => rfl
  | cons keyword keywords ih =>
    rw [List.map_cons, List.lookup_cons, ih, List.contains_cons]
    by_cases hk : k = keyword
    · simp [hk]
    · have hbeq : (k == keyword) = false := by simpa using hk
      simp [hbeq]

theorem lookup_flatMap_listings (units : List CalendarUnit) (k : Text) :
    (units.flatMap fun unit => (l.keywords unit).map (·, unit)).lookup k
      = units.find? fun unit => (l.keywords unit).contains k := by
  induction units with
  | nil => rfl
  | cons unit units ih =>
    rw [List.flatMap_cons, List.lookup_append, ih, List.find?_cons, lookup_map_unit]
    cases (l.keywords unit).contains k <;> rfl

theorem lookup_unitMap (l : Localization) (keyword : Text) : l.unitMap.lookup keyword = l.firstUnit? keyword := by
  rw [unitMap, lookup_foldl_addListing, listings, lookup_flatMap_listings]
  rfl

theorem unitOf?_eq (l : Localization) (keyword : Text) :
    l.unitOf? keyword = l.firstUnit? (Text.lower keyword) :=
  l.lookup_unitMap _

/-- Every keyword that some unit lists has a meaning. -/
theorem exists_firstUnit? {unit : CalendarUnit} {keyword : Text} (h : keyword ∈ l.keywords unit) :
    ∃ first, l.firstUnit? keyword = some first := by
  exact Option.isSome_iff_exists.mp (List.find?_isSome.mpr ⟨unit, unit.mem_all, by simpa using h⟩)

theorem mem_of_firstUnit? {unit : CalendarUnit} {keyword : Text} (h : l.firstUnit? keyword = some unit) :
    keyword ∈ l.keywords unit := by
  simpa using List.find?_some h

/-! ## The longest keyword -/

theorem insertByLength_perm (t : Text) (ts : List Text) : (insertByLength t ts).Perm (t :: ts) := by
  induction ts with
  | nil => exact .refl _
  | cons u ts ih =>
    rw [insertByLength]
    split
    · exact (ih.cons u).trans (.swap t u ts)
    · exact .refl _

theorem mem_insertByLength {t u : Text} {ts : List Text} :
    u ∈ insertByLength t ts ↔ u = t ∨ u ∈ ts := by
  rw [(insertByLength_perm t ts).mem_iff, List.mem_cons]

theorem longestFirst_perm (ts : List Text) : (longestFirst ts).Perm ts := by
  induction ts with
  | nil => exact .refl _
  | cons t ts ih => exact (insertByLength_perm t _).trans (ih.cons t)

theorem mem_longestFirst {ts : List Text} {t : Text} : t ∈ longestFirst ts ↔ t ∈ ts :=
  (longestFirst_perm ts).mem_iff

theorem pairwise_insertByLength {t : Text} {ts : List Text}
    (h : ts.Pairwise fun t u => u.length ≤ t.length) :
    (insertByLength t ts).Pairwise fun t u => u.length ≤ t.length := by
  induction ts with
  | nil => simp [insertByLength]
  | cons v ts ih =>
    obtain ⟨hfirst, hrest⟩ := List.pairwise_cons.mp h
    rw [insertByLength]
    split
    · rename_i hlt
      refine List.pairwise_cons.mpr ⟨fun u hu => ?_, ih hrest⟩
      rcases mem_insertByLength.mp hu with rfl | hu
      · omega
      · exact hfirst u hu
    · rename_i hle
      refine List.pairwise_cons.mpr ⟨fun u hu => ?_, h⟩
      rcases List.mem_cons.mp hu with rfl | hu
      · omega
      · have := hfirst u hu
        omega

theorem pairwise_longestFirst (ts : List Text) :
    (longestFirst ts).Pairwise fun t u => u.length ≤ t.length := by
  induction ts with
  | nil => exact List.Pairwise.nil
  | cons t ts ih => exact pairwise_insertByLength ih

/-- Of the keywords that begin a text, the longest is found. -/
theorem find?_longestFirst_eq_some_iff {ts : List Text} {t k : Text} :
    (longestFirst ts).find? (·.isPrefixOf t) = some k ↔
      k ∈ ts ∧ k <+: t ∧ ∀ u ∈ ts, u <+: t → u.length ≤ k.length := by
  have hlongest : ∀ {k : Text}, (longestFirst ts).find? (·.isPrefixOf t) = some k →
      k ∈ ts ∧ k <+: t ∧ ∀ u ∈ ts, u <+: t → u.length ≤ k.length := by
    intro k h
    obtain ⟨hpre, before, after, heq, hbefore⟩ := List.find?_eq_some_iff_append.mp h
    refine ⟨mem_longestFirst.mp (by simp [heq]), List.isPrefixOf_iff_prefix.mp hpre, fun u hu hbegins => ?_⟩
    -- what comes before the hit begins no text, and what comes after it is no longer
    have hpairwise := pairwise_longestFirst ts
    rw [← mem_longestFirst, heq] at hu
    rw [heq] at hpairwise
    rcases List.mem_append.mp hu with hu | hu
    · have := hbefore u hu
      simp [List.isPrefixOf_iff_prefix.mpr hbegins] at this
    · rcases List.mem_cons.mp hu with rfl | hu
      · exact Nat.le_refl _
      · exact (List.pairwise_cons.mp (List.pairwise_append.mp hpairwise).2.1).1 u hu
  refine ⟨hlongest, fun ⟨hk, hbegins, hmax⟩ => ?_⟩
  obtain ⟨u, hu⟩ : ∃ u, (longestFirst ts).find? (·.isPrefixOf t) = some u :=
    Option.isSome_iff_exists.mp <| List.find?_isSome.mpr
      ⟨k, mem_longestFirst.mpr hk, List.isPrefixOf_iff_prefix.mpr hbegins⟩
  obtain ⟨humem, hubegins, humax⟩ := hlongest hu
  have hlength : u.length = k.length := Nat.le_antisymm (hmax u humem hubegins) (humax k hk hbegins)
  rw [hu, (List.prefix_of_prefix_length_le hubegins hbegins (Nat.le_of_eq hlength)).eq_of_length hlength]

end Localization

end DateShorthand
