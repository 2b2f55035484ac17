import DateShorthand.Proofs.Locale.Accepted

/-!
# Records in normal form

Checking a record puts it in a normal form: the record of what comes out passes the check again and gives
the same localization. A keyword list stands in the way for two reasons only: it is no list, or it has an
entry that is blank or a number.
-/

namespace DateShorthand

theorem mem_of_givenAs? {members : List (Text × Json)} {names : List Text} {name : Text} {value : Json}
    (h : givenAs? members names = some (name, value)) : name ∈ names := by
  obtain ⟨name', hname, hvalue⟩ := List.exists_of_findSome?_eq_some h
  obtain ⟨_, -, heq⟩ := Option.map_eq_some_iff.mp hvalue
  exact (Prod.mk.inj heq).1 ▸ hname

/-! ## Date patterns -/

namespace DatePattern

variable {members : List (Text × Json)}

def orderField (aliased : Bool) : Text := if aliased then "format" else "field_order"

/-- The record that says what the pattern is, with the order under its alias or under its own name. -/
def recordAs (aliased : Bool) (p : DatePattern) : Json :=
  .obj [("regex", .str p.source), (orderField aliased, .str p.order.name)]

theorem compile_of_sourceOfField {source : Text} {regex : { r : Regex.Compiled // 2 ≤ r.groups }}
    (h : sourceOfField members = .ok (source, regex)) : Regex.compile source = .ok regex.1 := by
  unfold sourceOfField at h
  dsimp only at h
  split at h
  · exact absurd h nofun
  · split at h
    · exact absurd h nofun
    · exact absurd h nofun
    · exact absurd h nofun
    · rename_i compiled hcompile
      split at h
      · obtain ⟨rfl, rfl⟩ := Prod.mk.inj (Except.ok.inj h)
        exact hcompile
      · exact absurd h nofun
  · exact absurd h nofun

/-- The regular expression of an accepted pattern is the one that its source stands for. -/
theorem compile_of_ofJson {j : Json} {p : DatePattern} (h : ofJson j = .ok p) :
    Regex.compile p.source = .ok p.regex := by
  unfold ofJson at h
  split at h
  · obtain ⟨make, order, hmake, -, rfl⟩ := Checked.apply_eq_ok_iff.mp h
    obtain ⟨⟨source, regex⟩, hsource, rfl⟩ := map_eq_ok_iff.mp hmake
    exact compile_of_sourceOfField hsource
  · exact absurd h nofun

theorem compile_of_listOfField {ps : List DatePattern} (h : listOfField members = .ok ps) :
    ∀ p ∈ ps, Regex.compile p.source = .ok p.regex := by
  unfold listOfField at h
  split at h
  · exact Except.ok.inj h ▸ by simp
  · exact Except.ok.inj h ▸ by simp
  · intro p hp
    obtain ⟨⟨item, index⟩, -, hitem⟩ := Checked.exists_of_mem_each h hp
    exact compile_of_ofJson (mapError_eq_ok_iff.mp hitem)
  · exact absurd h nofun

theorem ofJson_recordAs {p : DatePattern} (h : Regex.compile p.source = .ok p.regex) (aliased : Bool) :
    ofJson (p.recordAs aliased) = .ok p := by
  obtain ⟨source, regex, order, hgroups⟩ := p
  have hsource : ∀ name value, sourceOfField [("regex", .str source), (name, value)]
      = .ok (source, ⟨regex, hgroups⟩) := by
    intro name value
    have hgiven : given? [("regex", .str source), (name, value)] "regex" = some (.str source) := rfl
    unfold sourceOfField
    simp only [hgiven, h, dif_pos hgroups]
  have horder : orderOfField [("regex", .str source), (orderField aliased, .str order.name)]
      = .ok order := by
    cases aliased <;> cases order <;> rfl
  unfold ofJson recordAs
  exact Checked.apply_eq_ok_iff.mpr ⟨_, _, map_eq_ok_iff.mpr ⟨_, hsource _ _, rfl⟩, horder, rfl⟩

/-! ### What goes wrong with them -/

theorem breakdown?_orderOfField (members : List (Text × Json)) :
    (orderOfField members).breakdown? = none := by
  unfold orderOfField orderOf
  dsimp only
  repeat' split
  all_goals rfl

theorem breakdown?_sourceOfField {b : Breakdown} (h : (sourceOfField members).breakdown? = some b) :
    b = .countTooLarge := by
  unfold sourceOfField at h
  dsimp only at h
  repeat' split at h
  all_goals first | exact (Option.some.inj h).symm | exact absurd h nofun

theorem breakdown?_listOfField {b : Breakdown} (h : (listOfField members).breakdown? = some b) :
    b = .countTooLarge := by
  unfold listOfField at h
  split at h
  · exact absurd h nofun
  · exact absurd h nofun
  · obtain ⟨⟨item, index⟩, -, h⟩ := Checked.exists_of_breakdown?_each h
    rw [Checked.breakdown?_under] at h
    unfold ofJson at h
    split at h
    · rw [Checked.breakdown?_apply, Checked.breakdown?_map, breakdown?_orderOfField, Option.or_none] at h
      exact breakdown?_sourceOfField h
    · exact absurd h nofun
  · exact absurd h nofun

/-- What is wrong with a list of patterns is found below its field. -/
theorem place_of_listOfField {found : List Violation} (h : (listOfField members).violations? = some found)
    {v : Violation} (hv : v ∈ found) :
    ∃ name rest, name ∈ (["datePatterns", "date_patterns"] : List Text) ∧ v.place = .field name :: rest := by
  unfold listOfField at h
  split at h
  · obtain rfl := Option.some.inj h
    exact absurd hv List.not_mem_nil
  · obtain rfl := Option.some.inj h
    exact absurd hv List.not_mem_nil
  · rename_i name items hgiven
    obtain ⟨⟨item, index⟩, -, part, hpart, hv⟩ := Checked.exists_of_violations?_each h hv
    obtain ⟨rest, hplace⟩ := Checked.exists_place_of_under hpart hv
    exact ⟨name, _, mem_of_givenAs? hgiven, hplace⟩
  · rename_i name value _ _ hgiven
    obtain rfl := Option.some.inj h
    exact ⟨name, [], mem_of_givenAs? hgiven, congrArg Violation.place (List.mem_singleton.mp hv)⟩

end DatePattern

/-! ## Localizations -/

namespace Localization

variable {l : Localization} {defaultName : Text} {members : List (Text × Json)}

def patternsField (aliased : Bool) : Text := if aliased then "datePatterns" else "date_patterns"

/-- The record that says what the localization is, with the patterns and their orders under their aliases
or under their own names. -/
def recordAs (aliased : Bool) (orderAliased : DatePattern → Bool) (l : Localization) :
    List (Text × Json) :=
  (("name" : Text), Json.str l.name) ::
    KeywordList.all.map (fun list => (list.name, Json.arr ((l.listOf list).map .str)))
    ++ [(patternsField aliased, Json.arr (l.datePatterns.map fun p => p.recordAs (orderAliased p)))]

/-- What comes out of a record is a fixed point: its own record gives it again. -/
theorem ofMembers_recordAs (h : ofMembers defaultName members = .ok l) (defaultName' : Text)
    (aliased : Bool) (orderAliased : DatePattern → Bool) :
    ofMembers defaultName' (l.recordAs aliased orderAliased) = .ok l := by
  obtain ⟨-, hlists, hpatterns⟩ := ofMembers_eq_ok_iff.mp h
  refine ofMembers_eq_ok_iff.mpr ⟨rfl, fun list => ?_, ?_⟩
  · have hgiven : given? (l.recordAs aliased orderAliased) list.name
        = some (.arr ((l.listOf list).map .str)) := by
      match list with
      | .unit u => cases u <;> rfl
      | .am | .pm => rfl
    obtain ⟨hnodup, hnormal⟩ := Keywords.isNormal_of_ofField (hlists list)
    exact Keywords.ofField_of_isNormal hgiven hnodup hnormal
  · have hgiven : givenAs? (l.recordAs aliased orderAliased) ["datePatterns", "date_patterns"]
        = some (patternsField aliased, .arr (l.datePatterns.map fun p => p.recordAs (orderAliased p))) := by
      cases aliased <;> rfl
    unfold DatePattern.listOfField
    simp only [hgiven]
    rw [List.zipIdx_map]
    conv_rhs => rw [← List.zipIdx_map_fst 0 l.datePatterns]
    refine Checked.each_map fun ⟨p, index⟩ hp => ?_
    have hcompile := DatePattern.compile_of_listOfField hpatterns p (List.fst_mem_of_mem_zipIdx hp)
    exact mapError_eq_ok_iff.mpr (DatePattern.ofJson_recordAs hcompile _)

/-! ### What goes wrong with them -/

theorem place_of_nameOfField {found : List Violation}
    (h : (nameOfField defaultName members).violations? = some found) : ∀ v ∈ found, v.place = [.field "name"] := by
  unfold nameOfField at h
  split at h
  all_goals
    obtain rfl := Option.some.inj h
    simp

theorem breakdown?_ofMembers (defaultName : Text) (members : List (Text × Json)) :
    (ofMembers defaultName members).breakdown?
      = (KeywordList.all.findSome? fun list => (Keywords.ofField members list.name).breakdown?).or
          (DatePattern.listOfField members).breakdown? := by
  have hname : (nameOfField defaultName members).breakdown? = none := by
    unfold nameOfField
    repeat' split
    all_goals rfl
  have hcons : ∀ (f : KeywordList → Option Breakdown) x xs,
      (x :: xs).findSome? f = (f x).or (xs.findSome? f) := by
    intro f x xs
    rw [List.findSome?_cons]
    cases f x <;> rfl
  simp only [ofMembers, Checked.breakdown?_apply, Checked.breakdown?_map, hname, Option.none_or,
    KeywordList.all, CalendarUnit.all, List.map_cons, List.map_nil, List.cons_append, List.nil_append,
    hcons, List.findSome?_nil, Option.or_none, Option.or_assoc]
  rfl

/-- A check that is not broken off finds what each field has, field by field. -/
theorem violations?_ofMembers {found : List Violation}
    (h : (ofMembers defaultName members).violations? = some found) :
    ∃ (named patterns : List Violation) (lists : KeywordList → List Violation),
      (nameOfField defaultName members).violations? = some named ∧
      (∀ list, (Keywords.ofField members list.name).violations? = some (lists list)) ∧
      (DatePattern.listOfField members).violations? = some patterns ∧
      found = named ++ KeywordList.all.flatMap lists ++ patterns := by
  obtain ⟨_, patterns, h₁, hpatterns, rfl⟩ := Checked.violations?_apply_eq_some_iff.mp h
  obtain ⟨_, pm, h₂, hpm, rfl⟩ := Checked.violations?_apply_eq_some_iff.mp h₁
  obtain ⟨_, am, h₃, ham, rfl⟩ := Checked.violations?_apply_eq_some_iff.mp h₂
  obtain ⟨_, weekday, h₄, hweekday, rfl⟩ := Checked.violations?_apply_eq_some_iff.mp h₃
  obtain ⟨_, today, h₅, htoday, rfl⟩ := Checked.violations?_apply_eq_some_iff.mp h₄
  obtain ⟨_, day, h₆, hday, rfl⟩ := Checked.violations?_apply_eq_some_iff.mp h₅
  obtain ⟨_, week, h₇, hweek, rfl⟩ := Checked.violations?_apply_eq_some_iff.mp h₆
  obtain ⟨_, month, h₈, hmonth, rfl⟩ := Checked.violations?_apply_eq_some_iff.mp h₇
  obtain ⟨named, year, hname, hyear, rfl⟩ := Checked.violations?_apply_eq_some_iff.mp h₈
  rw [Checked.violations?_map] at hname
  let lists : KeywordList → List Violation
    | .unit .year => year
    | .unit .month => month
    | .unit .week => week
    | .unit .day => day
    | .unit .today => today
    | .unit .weekday => weekday
    | .am => am
    | .pm => pm
  refine ⟨named, patterns, lists, hname, fun list => ?_, hpatterns, ?_⟩
  · match list with
    | .unit .year => exact hyear
    | .unit .month => exact hmonth
    | .unit .week => exact hweek
    | .unit .day => exact hday
    | .unit .today => exact htoday
    | .unit .weekday => exact hweekday
    | .am => exact ham
    | .pm => exact hpm
  · simp [KeywordList.all, CalendarUnit.all, lists]

theorem eq_notIterable_iff : ofMembers defaultName members = .error (.breakdown .notIterable) ↔
    ∃ list : KeywordList, ∀ entries, ¬ Keywords.Lists (given? members list.name) entries := by
  have hpatterns : (DatePattern.listOfField members).breakdown? ≠ some .notIterable :=
    fun h => absurd (DatePattern.breakdown?_listOfField h) (by decide)
  rw [← Checked.breakdown?_eq_some_iff, breakdown?_ofMembers, Option.or_eq_some_iff,
    or_iff_left fun h => hpatterns h.2]
  constructor
  · intro h
    obtain ⟨list, -, h⟩ := List.exists_of_findSome?_eq_some h
    exact ⟨list, (Keywords.breakdown?_ofField_eq_some_iff.mp h).2⟩
  · rintro ⟨list, h⟩
    have hlist := Keywords.breakdown?_ofField_eq_some_iff.mpr ⟨rfl, h⟩
    obtain ⟨b, hb⟩ : ∃ b, (KeywordList.all.findSome? fun list =>
        (Keywords.ofField members list.name).breakdown?) = some b :=
      Option.isSome_iff_exists.mp (List.findSome?_isSome_iff.mpr ⟨list, list.mem_all, hlist ▸ rfl⟩)
    obtain ⟨list', -, hlist'⟩ := List.exists_of_findSome?_eq_some hb
    rw [hb, (Keywords.breakdown?_ofField_eq_some_iff.mp hlist').1]

/-- A violation stands at the place of a keyword list for the refused entries of that list alone. -/
theorem exists_violation_iff {found : List Violation}
    (h : ofMembers defaultName members = .error (.violations found)) (list : KeywordList) :
    (∃ v ∈ found, v.place = [.field list.name]) ↔
      ∃ entries, Keywords.Lists (given? members list.name) entries ∧
        ∃ entry ∈ entries, Keywords.IsRefused entry := by
  obtain ⟨named, patterns, lists, hnamed, hlists, hpatterns, rfl⟩ :=
    violations?_ofMembers (Checked.violations?_of_eq_error h)
  obtain ⟨hplace, hne⟩ := Keywords.violations?_ofField (hlists list)
  have hother := list.name_not_mem
  rw [← hne]
  constructor
  · rintro ⟨v, hv, hvplace⟩
    rcases List.mem_append.mp hv with hv | hv
    · rcases List.mem_append.mp hv with hv | hv
      · have hname := (place_of_nameOfField hnamed v hv).symm.trans hvplace
        have hsame : list.name = ("name" : Text) := (by simpa using hname : ("name" : Text) = list.name).symm
        exact absurd (hsame ▸ List.mem_cons_self) hother
      · obtain ⟨list', -, hv⟩ := List.mem_flatMap.mp hv
        have hname := ((Keywords.violations?_ofField (hlists list')).1 v hv).symm.trans hvplace
        obtain rfl : list' = list := KeywordList.name_injective (by simpa using hname)
        exact List.ne_nil_of_mem hv
    · obtain ⟨name, rest, hname, hbelow⟩ := DatePattern.place_of_listOfField hpatterns hv
      obtain ⟨rfl, -⟩ : name = list.name ∧ rest = [] := by simpa using hbelow.symm.trans hvplace
      exact absurd (List.mem_cons_of_mem _ hname) hother
  · intro hne
    obtain ⟨v, hv⟩ := List.exists_mem_of_ne_nil _ hne
    refine ⟨v, ?_, hplace v hv⟩
    exact List.mem_append_left _ (List.mem_append_right _ (List.mem_flatMap.mpr ⟨list, list.mem_all, hv⟩))

/-- Two spellings of one keyword, a dotted capital that becomes two characters, and a pattern. -/
def manySpellings : List (Text × Json) :=
  [("year", .arr [.str " Y", .str "y\t", .str "İ"]), ("day", .str "D"),
   ("date_patterns", .arr [.obj [("regex", .str "(\\d)x(\\d)"), ("format", .str "mm/dd")]])]

end Localization

end DateShorthand
