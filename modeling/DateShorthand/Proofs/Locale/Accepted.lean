import DateShorthand.Locale.Builtin
import DateShorthand.Locale.Record
import DateShorthand.Proofs.Locale.KeywordLists
import DateShorthand.Proofs.Locale.Keywords

/-!
# Accepted localizations

A localization is accepted when some record passes the checks and gives it. Its keywords are
trimmed, in lower case and not empty, its twelve-hour markers among them. The built-in localizations
are accepted.
-/

namespace DateShorthand

/-! ## Keyword lists -/

namespace Keywords

/-- Not empty, and without blanks at the ends. -/
def IsTrimmed (keyword : Text) : Prop := keyword ≠ [] ∧ Text.IsTight keyword

theorem IsNormal.isTrimmed {keyword : Text} (h : IsNormal keyword) : IsTrimmed keyword :=
  ⟨h.ne_nil, h.normalize_eq ▸ Text.isTight_normalize keyword⟩

theorem IsNormal.isLower {keyword : Text} (h : IsNormal keyword) : Text.IsLower keyword :=
  h.normalize_eq ▸ Text.isLower_lower (Text.trim keyword)

end Keywords

/-! ## Localizations -/

namespace Localization

variable {l : Localization}

/-- Every part of the localization comes from the field of its name. -/
theorem ofMembers_eq_ok_iff {defaultName : Text} {members : List (Text × Json)} :
    ofMembers defaultName members = .ok l ↔ nameOfField defaultName members = .ok l.name ∧
      (∀ list, Keywords.ofField members (KeywordList.name list) = .ok (l.listOf list)) ∧
      DatePattern.listOfField members = .ok l.datePatterns := by
  simp only [ofMembers, Checked.apply_eq_ok_iff, map_eq_ok_iff]
  constructor
  · rintro ⟨_, _, ⟨_, _, ⟨_, _, h, ham, rfl⟩, hpm, rfl⟩, hpatterns, rfl⟩
    obtain ⟨_, _, ⟨_, _, h, htoday, rfl⟩, hweekday, rfl⟩ := h
    obtain ⟨_, _, ⟨_, _, ⟨_, _, ⟨_, _, ⟨_, hname, rfl⟩, hyear, rfl⟩, hmonth, rfl⟩, hweek, rfl⟩, hday, rfl⟩ := h
    refine ⟨hname, fun list => ?_, hpatterns⟩
    match list with
    | .unit .year => exact hyear
    | .unit .month => exact hmonth
    | .unit .week => exact hweek
    | .unit .day => exact hday
    | .unit .today => exact htoday
    | .unit .weekday => exact hweekday
    | .am => exact ham
    | .pm => exact hpm
  · rintro ⟨hname, hlists, hpatterns⟩
    exact ⟨_, _, ⟨_, _, ⟨_, _, ⟨_, _, ⟨_, _, ⟨_, _, ⟨_, _, ⟨_, _, ⟨_, _, ⟨_, hname, rfl⟩,
      hlists (.unit .year), rfl⟩, hlists (.unit .month), rfl⟩, hlists (.unit .week), rfl⟩,
      hlists (.unit .day), rfl⟩, hlists (.unit .today), rfl⟩, hlists (.unit .weekday), rfl⟩,
      hlists .am, rfl⟩, hlists .pm, rfl⟩, hpatterns, rfl⟩

def IsAccepted (l : Localization) : Prop := ∃ name members, ofMembers name members = .ok l

theorem mem_markers {w : Text} : w ∈ l.markers ↔ w ∈ l.am ++ l.pm := by
  rw [markers, mem_longestFirst, List.mem_eraseDups]

theorem IsAccepted.isNormal_of_mem_keywords (h : l.IsAccepted) {unit : CalendarUnit} {k : Text}
    (hk : k ∈ l.keywords unit) : Keywords.IsNormal k := by
  obtain ⟨name, members, h⟩ := h
  exact ((Keywords.isNormal_of_ofField ((ofMembers_eq_ok_iff.mp h).2.1 (.unit unit))).2 k hk).1

theorem IsAccepted.isNormal_of_mem_markers (h : l.IsAccepted) {w : Text} (hw : w ∈ l.markers) :
    Keywords.IsNormal w := by
  obtain ⟨name, members, h⟩ := h
  obtain ⟨-, hlists, -⟩ := ofMembers_eq_ok_iff.mp h
  rcases List.mem_append.mp (mem_markers.mp hw) with hw | hw
  · exact ((Keywords.isNormal_of_ofField (hlists .am)).2 w hw).1
  · exact ((Keywords.isNormal_of_ofField (hlists .pm)).2 w hw).1

theorem IsAccepted.isTrimmed_of_mem_markers (h : l.IsAccepted) {w : Text} (hw : w ∈ l.markers) :
    Keywords.IsTrimmed w := (h.isNormal_of_mem_markers hw).isTrimmed

theorem IsAccepted.nil_not_mem_markers (h : l.IsAccepted) : [] ∉ l.markers :=
  fun hnil => (h.isTrimmed_of_mem_markers hnil).1 rfl

/-- The record that says what the localization is. -/
def record (l : Localization) : List (Text × Json) :=
  [("name", .str l.name), ("year", .arr (l.year.map .str)), ("month", .arr (l.month.map .str)),
   ("week", .arr (l.week.map .str)), ("day", .arr (l.day.map .str)),
   ("today", .arr (l.today.map .str)), ("weekday", .arr (l.weekday.map .str)),
   ("am", .arr (l.am.map .str)), ("pm", .arr (l.pm.map .str)),
   ("datePatterns", .arr (l.datePatterns.map fun p =>
     .obj [("regex", .str p.source), ("field_order", .str p.order.name)]))]

/-- A language without words of its own. -/
def bare : Localization := ⟨unnamed, [], [], [], [], [], [], [], [], []⟩

theorem isAccepted_of_mem_builtin {tag : Text} (h : (tag, l) ∈ builtin) : l.IsAccepted := by
  refine ⟨unnamed, l.record, ?_⟩
  simp only [builtin, List.mem_cons, Prod.mk.injEq, List.not_mem_nil, or_false] at h
  rcases h with ⟨-, rfl⟩ | ⟨-, rfl⟩ | ⟨-, rfl⟩ | ⟨-, rfl⟩
  all_goals decide +kernel

end Localization

end DateShorthand
