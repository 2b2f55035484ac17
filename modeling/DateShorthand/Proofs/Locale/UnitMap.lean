import DateShorthand.Proofs.Locale.KeywordLists
import DateShorthand.Proofs.Locale.Keywords
import DateShorthand.Proofs.Locale.Registry

/-!
# The map from keywords to units

The map holds each keyword once, where the six lists first name it, and with the first unit that
lists it. Reading the lists keeps this entry by entry.
-/

namespace DateShorthand.Localization

variable {l : Localization} {meanings : List (Text × CalendarUnit)} {unit : CalendarUnit} {keyword : Text}

/-- The unit lists the keyword, and no unit before it does. -/
def FirstLists (l : Localization) (unit : CalendarUnit) (keyword : Text) : Prop :=
  keyword ∈ l.keywords unit ∧
    ∃ before after, CalendarUnit.all = before ++ unit :: after ∧
      ∀ earlier ∈ before, keyword ∉ l.keywords earlier

theorem firstUnit?_eq_some_iff : l.firstUnit? keyword = some unit ↔ l.FirstLists unit keyword := by
  unfold firstUnit? FirstLists
  simp [List.find?_eq_some_iff_append]

theorem firstUnit?_eq_none_iff : l.firstUnit? keyword = none ↔ ∀ unit, keyword ∉ l.keywords unit := by
  unfold firstUnit?
  simp [CalendarUnit.mem_all]

/-! ## The keys -/

theorem keys_addListing (h : (meanings.map (·.1)).Nodup) (listing : Text × CalendarUnit) :
    (addListing meanings listing).map (·.1) = (meanings.map (·.1) ++ [listing.1]).eraseDups := by
  have hcontains : (meanings.lookup listing.1).isSome = (meanings.map (·.1)).contains listing.1 := by
    rw [Bool.eq_iff_iff, isSome_lookup_iff, List.contains_iff_mem]
  rw [eraseDups_concat h, addListing, hcontains]
  split <;> simp

/-- However far the lists are read, the keys are the first occurrences of what has been read. -/
theorem keys_foldl_addListing (listings : List (Text × CalendarUnit)) (h : (meanings.map (·.1)).Nodup) :
    (listings.foldl addListing meanings).map (·.1)
      = (meanings.map (·.1) ++ listings.map (·.1)).eraseDups := by
  induction listings generalizing meanings with
  | nil => simp [eraseDups_of_nodup h]
  | cons listing listings ih =>
    have hstep := keys_addListing h listing
    have hnodup : ((addListing meanings listing).map (·.1)).Nodup := by
      rw [hstep]
      exact nodup_eraseDups _
    rw [List.foldl_cons, ih hnodup, hstep, eraseDups_eraseDups_append, List.append_assoc]
    rfl

theorem keys_listings (l : Localization) :
    l.listings.map (·.1) = l.year ++ l.month ++ l.week ++ l.day ++ l.today ++ l.weekday := by
  simp [listings, CalendarUnit.all, keywords, Function.comp_def]

theorem keys_unitMap (l : Localization) :
    l.unitMap.map (·.1) = (l.year ++ l.month ++ l.week ++ l.day ++ l.today ++ l.weekday).eraseDups := by
  rw [unitMap, keys_foldl_addListing _ (by simp), keys_listings]
  rfl

theorem nodup_keys_unitMap (l : Localization) : (l.unitMap.map (·.1)).Nodup := by
  rw [keys_unitMap]
  exact nodup_eraseDups _

/-! ## The entries -/

theorem mem_unitMap_iff : (keyword, unit) ∈ l.unitMap ↔ l.FirstLists unit keyword := by
  rw [← firstUnit?_eq_some_iff, ← lookup_unitMap]
  refine ⟨fun hmem => ?_, mem_of_lookup_eq_some⟩
  have hkey : keyword ∈ l.unitMap.map (·.1) := List.mem_map.mpr ⟨(keyword, unit), hmem, rfl⟩
  obtain ⟨found, hfound⟩ := Option.isSome_iff_exists.mp (isSome_lookup_iff.mpr hkey)
  -- two entries with one key are the same entry
  have hsame : (keyword, found) = (keyword, unit) :=
    List.inj_on_of_nodup_map l.nodup_keys_unitMap (mem_of_lookup_eq_some hfound) hmem rfl
  rw [hfound, (Prod.mk.inj hsame).2]

/-- The map gives a keyword back to the first unit that lists it, whatever the lists share, and names
the keywords in the order in which the lists first do. -/
theorem unitMap_inverts_keywords (l : Localization) (keyword : Text) :
    (∀ unit, l.unitOf? keyword = some unit ↔ l.FirstLists unit (Text.lower keyword)) ∧
      (l.unitOf? keyword = none ↔ ∀ unit, Text.lower keyword ∉ l.keywords unit) ∧
      (∀ key unit, (key, unit) ∈ l.unitMap ↔ l.FirstLists unit key) ∧
      l.unitMap.map (·.1) = (l.year ++ l.month ++ l.week ++ l.day ++ l.today ++ l.weekday).eraseDups ∧
      (l.unitMap.map (·.1)).Nodup := by
  rw [unitOf?_eq]
  refine ⟨?_, ?_, ?_, l.keys_unitMap, l.nodup_keys_unitMap⟩
  · intro unit
    exact firstUnit?_eq_some_iff
  · exact firstUnit?_eq_none_iff
  · intro key unit
    exact mem_unitMap_iff

/-- Two keywords are listed twice, one of them by units that are far apart. -/
example : unitMap ⟨"xx", ["j", "a"], ["m", "j"], [], [], ["a", "h"], [], [], [], []⟩
    = [(['j'], .year), (['a'], .year), (['m'], .month), (['h'], .today)] := by decide

end DateShorthand.Localization
