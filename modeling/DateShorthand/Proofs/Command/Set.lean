import DateShorthand.Command.Run
import DateShorthand.Proofs.Settings.Precedence
import DateShorthand.Proofs.Text.Pieces

/-!
# Setting one value

The key is a path of member names that leads into the record of the settings. A path to a field changes
that field, if the value passes its check; a path to any other member changes nothing; a path through a
field, or to the record itself, is refused.
-/

namespace DateShorthand

namespace Settings

variable {r : Registry} {s s' : Settings} {value key name : Text} {path rest : List Text} {j inner : Json}
  {members : List (Text × Json)}

/-! ## Paths into records -/

/-- What stands under a member once the rest of the path is set in it. -/
def assignInside (value : Text) (rest : List Text) (old : Option Json) : Except SettingsFault Json :=
  match rest with
  | [] => .ok (.str value)
  | rest => assign value rest (old.getD (.obj []))

theorem assign_eq_ok_iff : assign value (key :: rest) (.obj members) = .ok j ↔
    ∃ inner, assignInside value rest (given? members key) = .ok inner ∧
      j = .obj (Json.setMember key inner members) := by
  cases rest with
  | nil => simp [assign, assignInside, eq_comm]
  | cons next rest =>
    rw [assign, bind_eq_ok_iff]
    · simp [assignInside, given?, eq_comm]
    · simp

/-- A path leads anywhere from a member that is not there. -/
theorem exists_assignInside (value : Text) (rest : List Text) :
    ∃ inner, assignInside value rest none = .ok inner := by
  induction rest with
  | nil => exact ⟨_, rfl⟩
  | cons key rest ih =>
    obtain ⟨inner, hinner⟩ := ih
    exact ⟨_, assign_eq_ok_iff.mpr ⟨inner, hinner, rfl⟩⟩

/-- A path ends at a value that is no record. -/
theorem assignInside_eq_ok_iff {old : Json} (h : ∀ members, old ≠ .obj members) :
    assignInside value rest (some old) = .ok inner ↔ rest = [] ∧ inner = .str value := by
  match rest with
  | [] => simp [assignInside, eq_comm]
  | [_] => cases old <;> simp_all [assignInside, assign]
  | _ :: _ :: _ => cases old <;> simp_all [assignInside, assign]

/-! ## One field of a record -/

def fieldNames : List Text := ["locale", "default_time", "from_date"]

theorem given?_fields_eq_none (s : Settings) (h : name ∉ fieldNames) : given? s.fields name = none :=
  lookup_eq_none_iff_not_mem.mpr h

theorem exists_given?_fields (s : Settings) (h : name ∈ fieldNames) :
    ∃ old, given? s.fields name = some old ∧ ∀ members, old ≠ .obj members := by
  have hsome : (s.fields.lookup name).isSome = true := isSome_lookup_iff.mpr h
  obtain ⟨old, hold⟩ := Option.isSome_iff_exists.mp hsome
  exact ⟨old, hold, fun members heq => given?_fields_ne_obj s name members (heq ▸ hold)⟩

section Fields

variable {α : Type} {default : α} {check : List Place → Json → Checked α}

theorem ofField_setMember_self :
    ofField (Json.setMember name j members) name default check = check [.field name] j := by
  simp only [ofField, given?, Json.lookup_setMember_self]

theorem ofField_setMember_of_ne (h : name ≠ key) :
    ofField (Json.setMember key j members) name default check = ofField members name default check := by
  simp only [ofField, given?, Json.lookup_setMember_of_ne h]

end Fields

/-- The fields of valid settings keep their values when a member that is none of them is set. -/
theorem Valid.ofMembers_setMember (h : Valid r s) (hname : name ∉ fieldNames) :
    ofMembers r (Json.setMember name j s.fields) = .ok s := by
  simp only [fieldNames, List.mem_cons, List.not_mem_nil, or_false, not_or] at hname
  refine ofMembers_eq_ok_iff.mpr ⟨?_, ?_, ?_⟩
  · rw [ofField_setMember_of_ne (Ne.symm hname.1)]
    exact h.locale _
  · rw [ofField_setMember_of_ne (Ne.symm hname.2.1)]
    exact h.defaultTime _
  · rw [ofField_setMember_of_ne (Ne.symm hname.2.2)]
    exact h.fromDate _

/-- One field takes what its check makes of the value, and the others keep theirs. -/
inductive FieldSet (r : Registry) (value : Text) (s : Settings) : Text → Settings → Prop where
  | locale {tag : Text} (h : localeOf r [.field "locale"] (.str value) = .ok tag) :
    FieldSet r value s "locale" { s with locale := tag }
  | defaultTime {time : Option Text}
    (h : defaultTimeOf [.field "default_time"] (.str value) = .ok time) :
    FieldSet r value s "default_time" { s with defaultTime := time }
  | fromDate {i : Option Instant} (h : fromDateOf [.field "from_date"] (.str value) = .ok i) :
    FieldSet r value s "from_date" { s with fromDate := i }

theorem Valid.ofMembers_setField_iff (h : Valid r s) (hname : name ∈ fieldNames) :
    ofMembers r (Json.setMember name (.str value) s.fields) = .ok s' ↔ FieldSet r value s name s' := by
  obtain ⟨hlocale, htime, hdate⟩ := ofMembers_eq_ok_iff.mp h.ofMembers_fields
  obtain ⟨locale, time, date⟩ := s'
  simp only [fieldNames, List.mem_cons, List.not_mem_nil, or_false] at hname
  rw [ofMembers_eq_ok_iff]
  obtain rfl | rfl | rfl := hname
  · rw [ofField_setMember_self, ofField_setMember_of_ne (by decide), ofField_setMember_of_ne (by decide),
      htime, hdate]
    constructor
    · rintro ⟨hok, ⟨⟩, ⟨⟩⟩
      exact .locale hok
    · rintro ⟨hok⟩
      exact ⟨hok, rfl, rfl⟩
  · rw [ofField_setMember_self, ofField_setMember_of_ne (by decide), ofField_setMember_of_ne (by decide),
      hlocale, hdate]
    constructor
    · rintro ⟨⟨⟩, hok, ⟨⟩⟩
      exact .defaultTime hok
    · rintro (_ | hok)
      exact ⟨rfl, hok, rfl⟩
  · rw [ofField_setMember_self, ofField_setMember_of_ne (by decide), ofField_setMember_of_ne (by decide),
      hlocale, htime]
    constructor
    · rintro ⟨⟨⟩, ⟨⟩, hok⟩
      exact .fromDate hok
    · rintro (_ | _ | hok)
      exact ⟨rfl, rfl, hok⟩

/-! ## Any path -/

/-- What setting a value under a path of member names makes of settings. -/
inductive Assigned (r : Registry) (value : Text) (s : Settings) : List Text → Settings → Prop where
  | field {name : Text} {s' : Settings} (h : FieldSet r value s name s') :
    Assigned r value s ["parser", name] s'
  /-- Members beside the record of the settings are not read. -/
  | beside {key : Text} {path : List Text} (h : key ≠ "parser") : Assigned r value s (key :: path) s
  /-- Members of the record that are no fields are not read either. -/
  | unread {name : Text} {path : List Text} (h : name ∉ fieldNames) :
    Assigned r value s ("parser" :: name :: path) s

theorem FieldSet.mem_fieldNames (h : FieldSet r value s name s') : name ∈ fieldNames := by
  cases h <;> decide

theorem ofJson_of_no_record {members : List (Text × Json)} {old : Json} (h : given? members "parser" = some old)
    (hne : ∀ inner, old ≠ .obj inner) : ofJson r (.obj members) ≠ .ok s' := by
  simp only [ofJson, h]
  cases old <;> simp_all [Checked.refuse]

/-- Inside the record of the settings a path sets a field, or a member that is not read. -/
theorem Valid.ofMembers_assign_iff (h : Valid r s) :
    (∃ inner, assign value (name :: rest) (.obj s.fields) = .ok (.obj inner) ∧ ofMembers r inner = .ok s') ↔
      Assigned r value s ("parser" :: name :: rest) s' := by
  constructor
  · rintro ⟨inner, hassign, hok⟩
    obtain ⟨j, hj, heq⟩ := assign_eq_ok_iff.mp hassign
    cases heq
    by_cases hname : name ∈ fieldNames
    · obtain ⟨old, hold, hne⟩ := exists_given?_fields s hname
      rw [hold, assignInside_eq_ok_iff hne] at hj
      obtain ⟨rfl, rfl⟩ := hj
      exact .field ((h.ofMembers_setField_iff hname).mp hok)
    · rw [h.ofMembers_setMember hname] at hok
      cases hok
      exact .unread hname
  · rintro (hfield | hkey | hname)
    · have hname := hfield.mem_fieldNames
      obtain ⟨old, hold, hne⟩ := exists_given?_fields s hname
      refine ⟨_, assign_eq_ok_iff.mpr ⟨.str value, ?_, rfl⟩, (h.ofMembers_setField_iff hname).mpr hfield⟩
      exact hold ▸ (assignInside_eq_ok_iff hne).mpr ⟨rfl, rfl⟩
    · exact absurd rfl hkey
    · obtain ⟨inner, hinner⟩ := exists_assignInside value rest
      refine ⟨_, assign_eq_ok_iff.mpr ⟨inner, ?_, rfl⟩, h.ofMembers_setMember hname⟩
      rwa [given?_fields_eq_none s hname]

/-- Setting a value and reading the record again succeeds along these paths and no others. -/
theorem Valid.ofJson_assign_iff (h : Valid r s) (hpath : path ≠ []) :
    (∃ j, assign value path s.toJson = .ok j ∧ ofJson r j = .ok s') ↔ Assigned r value s path s' := by
  obtain ⟨key, rest, rfl⟩ := List.exists_cons_of_ne_nil hpath
  rw [toJson_eq]
  by_cases hkey : key = "parser"
  · subst hkey
    have hself : ∀ inner, given? (Json.setMember "parser" inner [("parser", .obj s.fields)]) "parser"
        = some inner := fun _ => Json.lookup_setMember_self
    cases rest with
    | nil =>
      refine iff_of_false ?_ (by rintro (_ | hkey | _); exact hkey rfl)
      rintro ⟨j, hassign, hok⟩
      obtain ⟨_, ⟨⟩, rfl⟩ := assign_eq_ok_iff.mp hassign
      exact ofJson_of_no_record (hself _) (by simp) hok
    | cons name rest =>
      rw [← h.ofMembers_assign_iff]
      constructor
      · rintro ⟨j, hassign, hok⟩
        obtain ⟨inner, hinner, rfl⟩ := assign_eq_ok_iff.mp hassign
        obtain ⟨_, -, rfl⟩ := assign_eq_ok_iff.mp hinner
        exact ⟨_, hinner, (ofJson_of_record (hself _)).mp hok⟩
      · rintro ⟨inner, hinner, hok⟩
        exact ⟨_, assign_eq_ok_iff.mpr ⟨_, hinner, rfl⟩, (ofJson_of_record (hself _)).mpr hok⟩
  · have hparser : ∀ inner, given? (Json.setMember key inner [("parser", .obj s.fields)]) "parser"
        = some (.obj s.fields) := fun inner =>
      (Json.lookup_setMember_of_ne (Ne.symm hkey)).trans List.lookup_cons_self
    constructor
    · rintro ⟨j, hassign, hok⟩
      obtain ⟨inner, -, rfl⟩ := assign_eq_ok_iff.mp hassign
      rw [ofJson_of_record (hparser inner), h.ofMembers_fields] at hok
      cases hok
      exact .beside hkey
    · rintro (_ | _ | _)
      · exact absurd rfl hkey
      · have hnone : given? [("parser".toList, Json.obj s.fields)] key = none := by
          rw [given?, List.lookup_cons, beq_false_of_ne hkey]
          rfl
        obtain ⟨inner, hinner⟩ := exists_assignInside value rest
        exact ⟨_, assign_eq_ok_iff.mpr ⟨inner, hnone ▸ hinner, rfl⟩,
          (ofJson_of_record (hparser inner)).mpr h.ofMembers_fields⟩
      · exact absurd rfl hkey

theorem Assigned.fieldSet (h : Assigned r value s ["parser", name] s') (hname : name ∈ fieldNames) :
    FieldSet r value s name s' := by
  cases h with
  | field h => exact h
  | beside h => exact absurd rfl h
  | unread h => exact absurd hname h

theorem Assigned.eq_self (h : Assigned r value s path s')
    (hpath : ∀ name ∈ fieldNames, path ≠ [("parser" : Text), name]) : s' = s := by
  cases h with
  | field h => exact absurd rfl (hpath _ h.mem_fieldNames)
  | beside h => rfl
  | unread h => rfl

theorem pieces_fieldKey (h : name ∈ fieldNames) :
    Text.pieces '.' (("parser." : Text) ++ name) = [("parser" : Text), name] := by
  simp only [fieldNames, List.mem_cons, List.not_mem_nil, or_false] at h
  obtain rfl | rfl | rfl := h <;> decide

end Settings

namespace Command

open Settings

/-- The command stores other settings when the file can be loaded, the path can be walked and the record
can be read again. In all other cases it leaves the file alone. -/
theorem runSet_cases (w : World) (key value : Text) :
    (∃ s s', load w.registry w.file = .ok s ∧
        (∃ j, assign value (Text.pieces '.' key) s.toJson = .ok j ∧ ofJson w.registry j = .ok s') ∧
          (runSet w key value).exit = 0 ∧ (runSet w key value).crash = none ∧
            (runSet w key value).saved = some s'.save) ∨
      (¬ ∃ s s', load w.registry w.file = .ok s ∧
        ∃ j, assign value (Text.pieces '.' key) s.toJson = .ok j ∧ ofJson w.registry j = .ok s') ∧
          (runSet w key value).exit ≠ 0 ∧ (runSet w key value).saved = none := by
  cases hload : load w.registry w.file with
  | error f =>
    refine Or.inr ⟨by rintro ⟨s, s', ⟨⟩, -⟩, ?_⟩
    simp [runSet, hload, Outcome.crashed]
  | ok s =>
    cases hassign : assign value (Text.pieces '.' key) s.toJson with
    | error f =>
      refine Or.inr ⟨by rintro ⟨_, s', ⟨⟩, j, hj, -⟩; simp [hassign] at hj, ?_⟩
      simp [runSet, hload, hassign, Outcome.crashed]
    | ok j =>
      cases hread : ofJson w.registry j with
      | ok s' =>
        refine Or.inl ⟨s, s', rfl, ⟨j, hassign, hread⟩, ?_⟩
        simp [runSet, hload, hassign, hread, Outcome.success]
      | error f =>
        refine Or.inr ⟨?_, ?_⟩
        · rintro ⟨_, s', ⟨⟩, j', hj', hok⟩
          rw [hassign] at hj'
          cases hj'
          rw [hread] at hok
          cases hok
        · simp only [runSet, hload, hassign, hread]
          split <;> simp_all [Outcome.crashed, Outcome.failed]

end Command

end DateShorthand
