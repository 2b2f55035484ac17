import DateShorthand.Proofs.Settings.Stored

/-!
# Which value of a setting counts

Settings come from a file, from overrides and from the environment. However the records are laid over
each other, in the end each field has one value that counts, and that value alone is checked.
-/

namespace DateShorthand

namespace Json

variable {key other : Text} {value : Json} {members : List (Text × Json)}

theorem lookup_setMember_self : (setMember key value members).lookup key = some value := by
  induction members with
  | nil => simp
  | cons member members ih =>
    rw [setMember_cons]
    split_ifs with hkey
    · rw [hkey, List.lookup_cons_self]
    · rw [List.lookup_cons, beq_false_of_ne (Ne.symm hkey)]
      exact ih

theorem lookup_setMember_of_ne (h : other ≠ key) :
    (setMember key value members).lookup other = members.lookup other := by
  induction members with
  | nil => simp [List.lookup_cons, beq_false_of_ne h]
  | cons member members ih =>
    rw [setMember_cons]
    split_ifs with hkey
    · rw [List.lookup_cons, List.lookup_cons, hkey, beq_false_of_ne h]
    · rw [List.lookup_cons, List.lookup_cons, ih]

end Json

namespace Settings

/-! ## Records over records -/

/-- What a value makes of the one that it is laid over, if there is one. -/
def overlaid (old : Option Json) (value : Json) : Json :=
  match old with
  | some old => overlay old value
  | none => value

theorem overlayMembers_cons (base : List (Text × Json)) (key : Text) (value : Json)
    (members : List (Text × Json)) :
    overlayMembers base ((key, value) :: members)
      = overlayMembers (Json.setMember key (overlaid (given? base key) value) base) members := by
  rw [overlayMembers]
  rfl

theorem given?_overlayMembers {base members : List (Text × Json)} (h : (members.map (·.1)).Nodup)
    (name : Text) :
    given? (overlayMembers base members) name
      = ((given? members name).map (overlaid (given? base name))).or (given? base name) := by
  induction members generalizing base with
  | nil => rw [overlayMembers]; rfl
  | cons member members ih =>
    obtain ⟨key, value⟩ := member
    rw [List.map_cons, List.nodup_cons] at h
    rw [overlayMembers_cons, ih h.2]
    unfold given?
    rw [List.lookup_cons]
    by_cases hname : name = key
    · have hnone : members.lookup name = none := lookup_eq_none_iff_not_mem.mpr (hname ▸ h.1)
      rw [hnone, hname, Json.lookup_setMember_self, beq_self_eq_true]
      rfl
    · rw [Json.lookup_setMember_of_ne hname, beq_false_of_ne hname]

/-- Only records are laid over each other member by member. -/
theorem map_overlaid {old found : Option Json}
    (h : (∀ members, old ≠ some (.obj members)) ∨ ∀ members, found ≠ some (.obj members)) :
    found.map (overlaid old) = found := by
  match old, found with
  | _, none => rfl
  | none, some value => rfl
  | some old, some value =>
    rw [Option.map_some, overlaid, overlay]
    rintro base members rfl rfl
    exact h.elim (fun h => h base rfl) (fun h => h members rfl)

/-! ## The environment -/

theorem nodup_members (e : Environment) : (e.members.map (·.1)).Nodup := by
  obtain ⟨_ | locale, _ | time, _ | date⟩ := e <;> simp [Environment.members]

theorem given?_members (e : Environment) :
    given? e.members "locale" = e.locale.map .str ∧
      given? e.members "default_time" = e.defaultTime.map .str ∧
        given? e.members "from_date" = e.fromDate.map .str := by
  obtain ⟨_ | locale, _ | time, _ | date⟩ := e <;> exact ⟨rfl, rfl, rfl⟩

theorem given?_members_ne_obj (e : Environment) (name : Text) (members : List (Text × Json)) :
    given? e.members name ≠ some (.obj members) := by
  intro h
  obtain ⟨⟨source, value⟩, -, hmember⟩ := List.mem_filterMap.mp (mem_of_lookup_eq_some h)
  cases value <;> cases hmember

theorem given?_fields_ne_obj (s : Settings) (name : Text) (members : List (Text × Json)) :
    given? s.fields name ≠ some (.obj members) := by
  have htext : ∀ t, .obj members ≠ optionalText t := fun t heq => by cases t <;> cases heq
  intro h
  have hmem := mem_of_lookup_eq_some h
  simp only [fields, List.mem_cons, Prod.mk.injEq, List.not_mem_nil, or_false] at hmem
  obtain ⟨-, heq⟩ | ⟨-, heq⟩ | ⟨-, heq⟩ := hmem
  · cases heq
  · exact htext _ heq
  · exact htext _ heq

/-! ## The value that counts -/

/-- The members in which a record keeps the settings. -/
def parserMembers : Json → List (Text × Json)
  | .obj members =>
    match given? members "parser" with
    | some (.obj inner) => inner
    | _ => []
  | _ => []

/-- The members in which a file keeps the settings. -/
def fileMembers (file : Option Text) : List (Text × Json) :=
  match file.map fun t => Json.read (unifyLines t) with
  | some (.ok j) => parserMembers j
  | _ => []

/-- The value of a field that counts: that of the environment, even an empty one, else that of the
overrides, even a null, else that of the file, else the default one. -/
def chosen (name : Text) (environment : Option Text) (overrides : Json) (file : Option Text)
    (default : Json) : Json :=
  (((environment.map Json.str).or (given? (parserMembers overrides) name)).or
    (given? (fileMembers file) name)).getD default

/-! ## The merged record -/

variable {r : Registry} {s current : Settings} {file : Option Text} {members : List (Text × Json)}
  {e : Environment}

theorem ofJson_of_record {inner : List (Text × Json)} (h : given? members "parser" = some (.obj inner)) :
    ofJson r (.obj members) = .ok s ↔ ofMembers r inner = .ok s := by
  simp only [ofJson, h, Checked.under, mapError_eq_ok_iff]

/-- What is laid over the settings, once the names in it are each its own. -/
structure IsPlain (members : List (Text × Json)) : Prop where
  nodup : (members.map (·.1)).Nodup
  parser : ∀ j, given? members "parser" = some j → ∃ inner, j = .obj inner ∧ (inner.map (·.1)).Nodup

theorem IsPlain.nodup_parserMembers (h : IsPlain members) :
    ((parserMembers (.obj members)).map (·.1)).Nodup := by
  rw [parserMembers]
  split
  · rename_i inner hinner
    obtain ⟨inner', heq, hnodup⟩ := h.parser _ hinner
    cases heq
    exact hnodup
  · exact List.nodup_nil

theorem IsPlain.given?_parser (h : IsPlain members) (fields : List (Text × Json)) :
    given? (overlayMembers [("parser", .obj fields)] members) "parser"
      = some (.obj (overlayMembers fields (parserMembers (.obj members)))) := by
  have hbase : given? [("parser".toList, Json.obj fields)] "parser" = some (.obj fields) :=
    List.lookup_cons_self
  rw [given?_overlayMembers h.nodup, hbase, parserMembers]
  cases hparser : given? members "parser" with
  | none =>
    rw [overlayMembers]
    rfl
  | some j =>
    obtain ⟨inner, rfl, -⟩ := h.parser j hparser
    rw [Option.map_some, overlaid, overlay]
    rfl

theorem exists_overlayEnvironment {base inner : List (Text × Json)} (e : Environment)
    (h : given? base "parser" = some (.obj inner)) :
    ∃ merged, overlayEnvironment e base = .ok merged ∧
      given? merged "parser" = some (.obj (overlayMembers inner e.members)) := by
  unfold overlayEnvironment
  rw [h]
  cases hmembers : e.members with
  | nil => exact ⟨base, rfl, by rw [h, overlayMembers]⟩
  | cons member rest => exact ⟨_, rfl, Json.lookup_setMember_self⟩

theorem given?_merged {inner : List (Text × Json)} (hinner : (inner.map (·.1)).Nodup) (s : Settings)
    (e : Environment) (name : Text) :
    given? (overlayMembers (overlayMembers s.fields inner) e.members) name
      = ((given? e.members name).or (given? inner name)).or (given? s.fields name) := by
  rw [given?_overlayMembers (nodup_members e), given?_overlayMembers hinner,
    map_overlaid (Or.inr (given?_members_ne_obj e name)),
    map_overlaid (Or.inl (given?_fields_ne_obj s name)), Option.or_assoc]

/-- The settings that are set up are those of a record that holds, for each field, one value. -/
theorem bootstrap_eq_ok_iff (h : IsPlain members) :
    bootstrap r file (.obj members) e = .ok s ↔ ∃ current, start r file = .ok current ∧
      ofMembers r (overlayMembers (overlayMembers current.fields (parserMembers (.obj members))) e.members)
        = .ok s := by
  rw [bootstrap_eq, bind_eq_ok_iff]
  refine exists_congr fun current => and_congr_right fun _ => ?_
  obtain ⟨merged, hmerged, hparser⟩ := exists_overlayEnvironment e (h.given?_parser current.fields)
  rw [overrideMembers, ok_bind, hmerged, ok_bind, mapError_eq_ok_iff]
  exact ofJson_of_record hparser

/-! ## The file -/

theorem ofMembers_parserMembers {j : Json} (h : ofJson r j = .ok current) :
    ofMembers r (parserMembers j) = .ok current := by
  unfold ofJson at h
  split at h
  · rw [parserMembers]
    split at h
    · cases h
      simp only [*]
      rfl
    · rename_i hinner
      rw [hinner]
      exact mapError_eq_ok_iff.mp h
    · cases h
  · cases h

theorem ofMembers_fileMembers (h : start r file = .ok current) :
    ofMembers r (fileMembers file) = .ok current := by
  cases file with
  | none =>
    cases h
    rfl
  | some t =>
    rw [start, load] at h
    rw [fileMembers, Option.map_some]
    cases hread : Json.read (unifyLines t) with
    | error f =>
      simp only [hread] at h
      cases f <;> cases h
    | ok j =>
      simp only [hread, mapError_eq_ok_iff] at h
      exact ofMembers_parserMembers h

theorem exists_start_iff : (∃ current, start r file = .ok current) ↔
    file = none ∨ ∃ s₀, load r file = .ok s₀ := by
  cases file with
  | none => simp [start]
  | some t => simp [start]

/-! ## The fields -/

section Fields

variable {α : Type} {name : Text} {default value : α} {check : List Place → Json → Checked α}

/-- What a field holds passes its check as what it was given as does. -/
theorem check_write {write : α → Json} (h : ofField members name default check = .ok value)
    (hwrite : ∀ {j}, check [.field name] j = .ok value → check [.field name] (write value) = .ok value) :
    check [.field name] (write value)
      = check [.field name] ((given? members name).getD (write default)) := by
  unfold ofField at h
  split at h
  · rename_i hnone
    cases h
    rw [hnone, Option.getD_none]
  · rename_i j hsome
    rw [hsome, Option.getD_some, h]
    exact hwrite h

theorem ofField_merged (write : α → Json) {environment : Option Text} (h : IsPlain members)
    (hset : given? e.members name = environment.map .str)
    (hfield : given? current.fields name = some (write value))
    (hfile : ofField (fileMembers file) name default check = .ok value)
    (hwrite : ∀ {j}, check [.field name] j = .ok value → check [.field name] (write value) = .ok value) :
    ofField (overlayMembers (overlayMembers current.fields (parserMembers (.obj members))) e.members)
        name default check
      = check [.field name] (chosen name environment (.obj members) file (write default)) := by
  rw [ofField, given?_merged h.nodup_parserMembers, hset, hfield, chosen]
  cases (environment.map Json.str).or (given? (parserMembers (.obj members)) name) with
  | some j => rfl
  | none => exact check_write hfile hwrite

end Fields

/-! ## Setting up a file -/

/-- The checks that the values that count have to pass, and what comes of them. -/
structure Settles (r : Registry) (file : Option Text) (overrides : Json) (e : Environment)
    (s : Settings) : Prop where
  locale : localeOf r [.field "locale"]
    (chosen "locale" e.locale overrides file (.str defaultLocale)) = .ok s.locale
  defaultTime : defaultTimeOf [.field "default_time"]
    (chosen "default_time" e.defaultTime overrides file .null) = .ok s.defaultTime
  fromDate : fromDateOf [.field "from_date"]
    (chosen "from_date" e.fromDate overrides file .null) = .ok s.fromDate

theorem ofMembers_merged_eq_ok_iff (h : IsPlain members) (hstart : start r file = .ok current) :
    ofMembers r (overlayMembers (overlayMembers current.fields (parserMembers (.obj members))) e.members)
      = .ok s ↔ Settles r file (.obj members) e s := by
  obtain ⟨hlocale, htime, hdate⟩ := ofMembers_eq_ok_iff.mp (ofMembers_fileMembers hstart)
  obtain ⟨hset, hsetTime, hsetDate⟩ := given?_members e
  rw [ofMembers_eq_ok_iff, ofField_merged .str h hset rfl hlocale localeOf_eq_ok,
    ofField_merged optionalText h hsetTime rfl htime defaultTimeOf_eq_ok,
    ofField_merged (fun i => optionalText (i.map Instant.isoZ)) h hsetDate rfl hdate fromDateOf_eq_ok]
  exact ⟨fun ⟨hl, ht, hd⟩ => ⟨hl, ht, hd⟩, fun hs => ⟨hs.locale, hs.defaultTime, hs.fromDate⟩⟩

theorem bootstrap_eq_ok_iff_settles (h : IsPlain members) :
    bootstrap r file (.obj members) e = .ok s ↔
      (file = none ∨ ∃ s₀, load r file = .ok s₀) ∧ Settles r file (.obj members) e s := by
  rw [bootstrap_eq_ok_iff h, ← exists_start_iff]
  constructor
  · rintro ⟨current, hstart, hmerged⟩
    exact ⟨⟨current, hstart⟩, (ofMembers_merged_eq_ok_iff h hstart).mp hmerged⟩
  · rintro ⟨⟨current, hstart⟩, hsettles⟩
    exact ⟨current, hstart, (ofMembers_merged_eq_ok_iff h hstart).mpr hsettles⟩

end Settings

end DateShorthand
