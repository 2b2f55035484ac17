import DateShorthand.Proofs.Calendar.Timestamp
import DateShorthand.Proofs.Json.RoundTrip
import DateShorthand.Proofs.Locale.Accepted
import DateShorthand.Proofs.Locale.Registry
import DateShorthand.Settings.File

/-!
# Settings in a file

Settings that a check let pass are written and read back unchanged. The two halves meet where every
field, as it is written, passes its own check and comes out as it is.
-/

namespace DateShorthand

namespace DefaultTime

theorem parse_trim_of_eq_ok {value : Text} {time : TimeOfDay} (h : parse value = .ok time) :
    parse (Text.trim value) = .ok time := by
  unfold parse at h ⊢
  dsimp only at h ⊢
  rw [Text.trim_trim]
  split_ifs at h ⊢ with hfields
  obtain ⟨numbers, hnumbers, h⟩ := bind_eq_ok_iff.mp h
  rw [hnumbers, ok_bind]
  cases htime : ofNumbers? numbers with
  | none =>
    rw [htime] at h
    cases h
  | some found =>
    rw [htime] at h
    exact h

theorem trim_ne_nil_of_parse_eq_ok {value : Text} {time : TimeOfDay} (h : parse value = .ok time) :
    Text.trim value ≠ [] := by
  intro hnil
  unfold parse at h
  dsimp only at h
  rw [hnil] at h
  cases h

end DefaultTime

namespace Settings

variable {r : Registry} {s : Settings} {place place' : List Place} {j : Json}

/-! ## Fields -/

theorem localeOf_eq_ok {tag : Text} (h : localeOf r place j = .ok tag) :
    localeOf r place' (.str tag) = .ok tag := by
  unfold localeOf at h
  split at h
  · rename_i t
    split at h
    · rename_i l hget
      cases h
      rw [localeOf, Registry.get_normalize hget, Text.normalize_normalize]
    · cases h
  · cases h

theorem defaultTimeOf_eq_ok {value : Option Text} (h : defaultTimeOf place j = .ok value) :
    defaultTimeOf place' (optionalText value) = .ok value := by
  unfold defaultTimeOf at h
  split at h
  · cases h
    rfl
  · rename_i t
    split_ifs at h with hempty
    · cases h
      rfl
    · split at h
      · rename_i time hparse
        cases h
        have hne : (Text.trim t).isEmpty = false :=
          List.isEmpty_eq_false_iff.mpr (DefaultTime.trim_ne_nil_of_parse_eq_ok hparse)
        rw [optionalText, Option.map_some, Option.getD_some, defaultTimeOf, hne,
          DefaultTime.parse_trim_of_eq_ok hparse, Text.trim_trim]
        rfl
      · cases h
  · cases h

theorem fromDateOf_eq_ok {value : Option Instant} (h : fromDateOf place j = .ok value) :
    fromDateOf place' (optionalText (value.map Instant.isoZ)) = .ok value := by
  have hplain : ∀ i, Timestamp.HasPlainOffset i →
      fromDateOf place' (optionalText ((some i).map Instant.isoZ)) = .ok (some i) := by
    intro i hi
    rw [Option.map_some, optionalText, Option.map_some, Option.getD_some, fromDateOf,
      Timestamp.read_isoZ hi]
  unfold fromDateOf at h
  split at h
  · cases h
    rfl
  · split at h
    · rename_i t i hread
      cases h
      exact hplain i (Timestamp.hasPlainOffset_of_read hread)
    · cases h
  · split at h
    · rename_i n i hread
      cases h
      exact hplain i (Timestamp.hasPlainOffset_of_ofSeconds hread)
    · cases h
  · cases h

/-! ## Records -/

/-- Every field, as it is written, passes its own check and comes out as it is. -/
structure Valid (r : Registry) (s : Settings) : Prop where
  locale : ∀ place, localeOf r place (.str s.locale) = .ok s.locale
  defaultTime : ∀ place, defaultTimeOf place (optionalText s.defaultTime) = .ok s.defaultTime
  fromDate : ∀ place, fromDateOf place (optionalText (s.fromDate.map Instant.isoZ)) = .ok s.fromDate

theorem ofMembers_eq_ok_iff {members : List (Text × Json)} :
    ofMembers r members = .ok s ↔
      ofField members "locale" defaultLocale (localeOf r) = .ok s.locale ∧
        ofField members "default_time" none defaultTimeOf = .ok s.defaultTime ∧
          ofField members "from_date" none fromDateOf = .ok s.fromDate := by
  simp only [ofMembers, Checked.apply_eq_ok_iff, map_eq_ok_iff]
  constructor
  · rintro ⟨_, _, ⟨_, _, ⟨_, hlocale, rfl⟩, htime, rfl⟩, hdate, rfl⟩
    exact ⟨hlocale, htime, hdate⟩
  · rintro ⟨hlocale, htime, hdate⟩
    exact ⟨_, _, ⟨_, _, ⟨_, hlocale, rfl⟩, htime, rfl⟩, hdate, rfl⟩

theorem ofField_cases {α : Type} {members : List (Text × Json)} {name : Text} {default value : α}
    {check : List Place → Json → Checked α} (h : ofField members name default check = .ok value) :
    value = default ∨ ∃ j, check [.field name] j = .ok value := by
  unfold ofField at h
  split at h
  · exact Or.inl (Except.ok.inj h).symm
  · rename_i j _
    exact Or.inr ⟨j, h⟩

/-- The locale that stands for a missing one is there as long as the built-in ones are. -/
theorem localeOf_default (hr : r.WellFormed) (place : List Place) :
    localeOf r place (.str defaultLocale) = .ok defaultLocale := by
  have hnormal : Text.normalize defaultLocale = defaultLocale := by decide
  have hbuiltin : Text.normalize defaultLocale ∈ Registry.builtin.tags := by decide
  obtain ⟨l, hget⟩ := hr.exists_get hbuiltin
  rw [localeOf, hget, hnormal]

theorem valid_default (hr : r.WellFormed) : Valid r default where
  locale := localeOf_default hr
  defaultTime _ := rfl
  fromDate _ := rfl

theorem valid_of_ofMembers (hr : r.WellFormed) {members : List (Text × Json)}
    (h : ofMembers r members = .ok s) : Valid r s := by
  obtain ⟨hlocale, htime, hdate⟩ := ofMembers_eq_ok_iff.mp h
  refine ⟨fun place => ?_, fun place => ?_, fun place => ?_⟩
  · rcases ofField_cases hlocale with heq | ⟨j, hj⟩
    · rw [heq]
      exact localeOf_default hr place
    · exact localeOf_eq_ok hj
  · rcases ofField_cases htime with heq | ⟨j, hj⟩
    · rw [heq]
      rfl
    · exact defaultTimeOf_eq_ok hj
  · rcases ofField_cases hdate with heq | ⟨j, hj⟩
    · rw [heq]
      rfl
    · exact fromDateOf_eq_ok hj

theorem valid_of_ofJson (hr : r.WellFormed) (h : ofJson r j = .ok s) : Valid r s := by
  unfold ofJson at h
  split at h
  · split at h
    · cases h
      exact valid_default hr
    · rw [Checked.under, mapError_eq_ok_iff] at h
      exact valid_of_ofMembers hr h
    · cases h
  · cases h

/-- The members of the record that the settings are written as. -/
def fields (s : Settings) : List (Text × Json) :=
  [("locale", .str s.locale), ("default_time", optionalText s.defaultTime),
   ("from_date", optionalText (s.fromDate.map Instant.isoZ))]

theorem toJson_eq (s : Settings) : s.toJson = .obj [("parser", .obj s.fields)] := rfl

theorem Valid.ofMembers_fields (h : Valid r s) : ofMembers r s.fields = .ok s :=
  ofMembers_eq_ok_iff.mpr ⟨h.locale _, h.defaultTime _, h.fromDate _⟩

theorem Valid.ofJson_toJson (h : Valid r s) : ofJson r s.toJson = .ok s := by
  simp only [toJson_eq, ofJson, given?, List.lookup_cons_self, Checked.under, h.ofMembers_fields,
    mapError_ok]

/-! ## Files -/

theorem nodup_fields (s : Settings) : (s.fields.map (·.1)).Nodup := by
  have hnames : ([("locale" : Text), "default_time", "from_date"] : List Text).Nodup := by decide
  exact hnames

theorem storable_optionalText (t : Option Text) : (optionalText t).Storable := by
  cases t <;> exact trivial

theorem storable_toJson (s : Settings) : s.toJson.Storable := by
  refine ⟨List.nodup_singleton _, ⟨nodup_fields s, trivial, ?_, ?_, trivial⟩, trivial⟩
  · exact storable_optionalText s.defaultTime
  · exact storable_optionalText (s.fromDate.map Instant.isoZ)

theorem unifyLines_of_not_mem {t : Text} (h : '\r' ∉ t) : unifyLines t = t := by
  fun_induction unifyLines t with
  | case1 => simp at h
  | case2 => simp at h
  | case3 c rest _ _ ih => rw [ih fun hmem => h (List.mem_cons_of_mem _ hmem)]
  | case4 => rfl

theorem load_save_of_valid (h : Valid r s) : load r (some s.save) = .ok s := by
  have hspells := Json.spells_indented 0 s.toJson s.storable_toJson
  simp only [load, save, unifyLines_of_not_mem hspells.lines, Json.read_indented s.storable_toJson,
    h.ofJson_toJson]
  rfl

/-- How settings come to be: from a record, from a file, by setting up a file, or from other settings
of which one value was assigned. -/
inductive Obtained (r : Registry) : Settings → Prop where
  | checked {j : Json} {s : Settings} (h : ofJson r j = .ok s) : Obtained r s
  | loaded {file : Option Text} {s : Settings} (h : load r file = .ok s) : Obtained r s
  | setUp {file : Option Text} {overrides : Json} {e : Environment} {s : Settings} {file' : Option Text}
      (h : Settings.setUp r file overrides e = (.ok s, file')) : Obtained r s
  | assigned {s : Settings} {key value : Text} {j : Json} {s' : Settings} (hs : Obtained r s)
      (hassign : assign value (key.pieces '.') s.toJson = .ok j) (h : ofJson r j = .ok s') : Obtained r s'

theorem exists_of_load {file : Option Text} (h : load r file = .ok s) : ∃ j, ofJson r j = .ok s := by
  unfold load at h
  split at h
  · cases h
  · dsimp only at h
    split at h
    · cases h
    · cases h
    · rename_i j _
      exact ⟨j, mapError_eq_ok_iff.mp h⟩

theorem valid_of_load (hr : r.WellFormed) {file : Option Text} (h : load r file = .ok s) : Valid r s :=
  (exists_of_load h).elim fun _ hj => valid_of_ofJson hr hj

theorem setUp_eq_ok_iff {file file' : Option Text} {overrides : Json} {e : Environment} :
    setUp r file overrides e = (.ok s, file') ↔
      bootstrap r file overrides e = .ok s ∧ file' = some s.save := by
  rw [setUp]
  cases bootstrap r file overrides e with
  | error f => simp
  | ok found =>
    simp only [Prod.mk.injEq, Except.ok.injEq]
    constructor
    · rintro ⟨rfl, rfl⟩
      exact ⟨rfl, rfl⟩
    · rintro ⟨rfl, rfl⟩
      exact ⟨rfl, rfl⟩

/-- What a file is set up from: what it holds, or the default settings. -/
def start (r : Registry) : Option Text → Except SettingsFault Settings
  | none => .ok default
  | some file => load r (some file)

theorem valid_of_start (hr : r.WellFormed) {file : Option Text} (h : start r file = .ok s) : Valid r s := by
  cases file with
  | none =>
    cases h
    exact valid_default hr
  | some file =>
    rw [start] at h
    exact valid_of_load hr h

theorem bootstrap_eq (r : Registry) (file : Option Text) (overrides : Json) (e : Environment) :
    bootstrap r file overrides e = (do
      let current ← start r file
      let members ← overrideMembers overrides
      let members ← overlayEnvironment e (overlayMembers [("parser", .obj current.fields)] members)
      (ofJson r (.obj members)).mapError SettingsFault.refused) := by
  cases file <;> rfl

theorem exists_of_bootstrap {file : Option Text} {overrides : Json} {e : Environment}
    (h : bootstrap r file overrides e = .ok s) : ∃ j, ofJson r j = .ok s := by
  rw [bootstrap_eq] at h
  obtain ⟨current, -, h⟩ := bind_eq_ok_iff.mp h
  obtain ⟨members, -, h⟩ := bind_eq_ok_iff.mp h
  obtain ⟨merged, -, h⟩ := bind_eq_ok_iff.mp h
  exact ⟨_, mapError_eq_ok_iff.mp h⟩

theorem Obtained.exists_ofJson (h : Obtained r s) : ∃ j, ofJson r j = .ok s := by
  cases h with
  | checked h => exact ⟨_, h⟩
  | loaded h => exact exists_of_load h
  | setUp h => exact exists_of_bootstrap (setUp_eq_ok_iff.mp h).1
  | assigned _ _ h => exact ⟨_, h⟩

/-- Settings, however they came to be, are read back from the file that they were saved in, and saved
again they make the same file. -/
theorem load_save {calls : List Registry.Call} {s : Settings} (h : Obtained (Registry.run calls) s) :
    ∃ s', load (Registry.run calls) (some s.save) = .ok s' ∧ s' = s ∧ s'.save = s.save := by
  obtain ⟨j, hj⟩ := h.exists_ofJson
  have hvalid := valid_of_ofJson (Registry.wellFormed_run calls) hj
  exact ⟨s, load_save_of_valid hvalid, rfl, rfl⟩

theorem load_save_with_offset :
    let calls : List Registry.Call := [.register " Ångström\n\"𝓐\"" (.localization .english) false]
    let s : Settings := ⟨"ångström\n\"𝓐\"", some "٠٩ : 30",
      some ⟨⟨2024, 2, 29, by decide, by decide, by decide⟩, ⟨23, 59, 59⟩, ⟨500000, by decide⟩, some 19800⟩⟩
    Obtained (Registry.run calls) s ∧
      ∃ s', load (Registry.run calls) (some s.save) = .ok s' ∧ s' = s ∧ s'.save = s.save := by
  intro calls s
  have hs : Obtained (Registry.run calls) s := by
    refine .checked (j := .obj [("parser", .obj [("locale", .str "ÅNGSTRÖM\n\"𝓐\" "),
      ("default_time", .str " ٠٩ : 30\t"), ("from_date", .str "2024-02-29 23:59:59.5+05:30")])]) ?_
    set_option maxRecDepth 5000 in
    decide
  exact ⟨hs, load_save hs⟩

end Settings

end DateShorthand
