import DateShorthand.Proofs.Settings.Precedence

/-!
# Setting up a file again

Setting up a file under the same overrides and the same environment a second time changes nothing. The
two runs are compared through the records that the overrides are laid over: these differ only in the
values of fields, and a field that no override touches is read back as what the first run made of it.
-/

namespace DateShorthand

namespace Settings

variable {r : Registry} {s s' current : Settings} {base base' : List (Text × Json)} {x : Option Json}
  {e : Environment}

/-! ## The same members over two records -/

/-- A relation between two values that lasts when a third one is laid over both. -/
def Lasts (R : Option Json → Option Json → Prop) : Prop :=
  ∀ old old' value, R old old' → R (some (overlaid old value)) (some (overlaid old' value))

theorem Lasts.overlayMembers {R : Option Json → Option Json → Prop} (hR : Lasts R) {name : Text}
    (h : R (given? base name) (given? base' name)) (members : List (Text × Json)) :
    R (given? (overlayMembers base members) name) (given? (overlayMembers base' members) name) := by
  induction members generalizing base base' with
  | nil =>
    rw [Settings.overlayMembers, Settings.overlayMembers]
    exact h
  | cons member members ih =>
    obtain ⟨key, value⟩ := member
    rw [overlayMembers_cons, overlayMembers_cons]
    refine ih ?_
    unfold given? at h ⊢
    by_cases hname : name = key
    · subst hname
      rw [Json.lookup_setMember_self, Json.lookup_setMember_self]
      exact hR _ _ value h
    · rw [Json.lookup_setMember_of_ne hname, Json.lookup_setMember_of_ne hname]
      exact h

/-- The field has the same value twice, or each time the one of its own settings. -/
def AgreeOn (s s' : Settings) (name : Text) (x x' : Option Json) : Prop :=
  x = x' ∨ x = given? s.fields name ∧ x' = given? s'.fields name

theorem lasts_agreeOn (s s' : Settings) (name : Text) : Lasts (AgreeOn s s' name) := by
  rintro old old' value (rfl | ⟨rfl, rfl⟩)
  · exact Or.inl rfl
  · have hover : ∀ own : Settings, (some value).map (overlaid (given? own.fields name)) = some value :=
      fun own => map_overlaid (Or.inl (given?_fields_ne_obj own name))
    exact Or.inl ((hover s).trans (hover s').symm)

/-- The same value twice, or two records whose fields agree. -/
def Agree (s s' : Settings) (x x' : Option Json) : Prop :=
  x = x' ∨ ∃ inner inner', x = some (.obj inner) ∧ x' = some (.obj inner') ∧
    ∀ name, AgreeOn s s' name (given? inner name) (given? inner' name)

theorem lasts_agree (s s' : Settings) : Lasts (Agree s s') := by
  rintro old old' value (rfl | ⟨inner, inner', rfl, rfl, h⟩)
  · exact Or.inl rfl
  · rw [overlaid, overlaid]
    cases value with
    | obj members =>
      rw [overlay, overlay]
      exact Or.inr ⟨_, _, rfl, rfl, fun name =>
        Lasts.overlayMembers (lasts_agreeOn s s' name) (h name) members⟩
    | null | bool | int | real | str | arr =>
      rw [overlay, overlay]
      · exact Or.inl rfl
      all_goals simp

/-! ## The environment over two records -/

/-- An environment that sets nothing changes nothing; any other is laid over the member `parser`, unless
something that is no record stands there. -/
theorem exists_overlayEnvironment_iff :
    (∃ merged, overlayEnvironment e base = .ok merged ∧ given? merged "parser" = x) ↔
      e.members = [] ∧ given? base "parser" = x ∨
        e.members ≠ [] ∧ (∀ j, given? base "parser" = some j → ∃ inner, j = .obj inner) ∧
          some (overlaid (given? base "parser") (.obj e.members)) = x := by
  unfold overlayEnvironment
  cases hmembers : e.members with
  | nil => simp
  | cons member rest =>
    have hset : ∀ key value, given? (Json.setMember key value base) key = some value :=
      fun _ _ => Json.lookup_setMember_self
    cases hparser : given? base "parser" with
    | none => simp [hset, overlaid]
    | some j => cases j <;> simp [hset, overlaid, overlay]

theorem Agree.exists_overlayEnvironment (h : Agree s s' (given? base "parser") (given? base' "parser"))
    {merged : List (Text × Json)} (hmerged : overlayEnvironment e base = .ok merged) :
    ∃ merged', overlayEnvironment e base' = .ok merged' ∧
      Agree s s' (given? merged "parser") (given? merged' "parser") := by
  have hbase := exists_overlayEnvironment_iff.mp ⟨merged, hmerged, rfl⟩
  obtain ⟨hnil, heq⟩ | ⟨hne, hrecord, heq⟩ := hbase
  · obtain ⟨merged', hok, hparser⟩ := exists_overlayEnvironment_iff.mpr (Or.inl ⟨hnil, rfl⟩)
    exact ⟨merged', hok, by rwa [hparser, ← heq]⟩
  · have hrecord' : ∀ j, given? base' "parser" = some j → ∃ inner, j = .obj inner := by
      obtain heq | ⟨inner, inner', -, hinner', -⟩ := h
      · rwa [← heq]
      · rintro j hj
        rw [hinner'] at hj
        exact ⟨inner', (Option.some.inj hj).symm⟩
    obtain ⟨merged', hok, hparser⟩ := exists_overlayEnvironment_iff.mpr (Or.inr ⟨hne, hrecord', rfl⟩)
    refine ⟨merged', hok, ?_⟩
    rw [hparser, ← heq]
    exact lasts_agree s s' _ _ _ h

/-! ## Reading two records -/

theorem AgreeOn.ofField_eq_ok {α : Type} {name : Text} {default value : α} {written : Json}
    {check : List Place → Json → Checked α} {inner inner' : List (Text × Json)}
    (h : AgreeOn s s' name (given? inner name) (given? inner' name))
    (hwritten : given? s'.fields name = some written)
    (hown : check [.field name] written = .ok value)
    (hok : ofField inner name default check = .ok value) : ofField inner' name default check = .ok value := by
  unfold ofField at hok ⊢
  obtain heq | ⟨-, heq⟩ := h
  · rwa [← heq]
  · rw [heq, hwritten]
    exact hown

/-- Records that agree are read alike, if what is read from the one is what the other one has for its
own. -/
theorem Agree.ofJson_eq_ok (h : Agree current s (given? base "parser") (given? base' "parser"))
    (hvalid : Valid r s) (hok : ofJson r (.obj base) = .ok s) : ofJson r (.obj base') = .ok s := by
  simp only [ofJson] at hok ⊢
  obtain heq | ⟨inner, inner', hinner, hinner', hfields⟩ := h
  · rwa [← heq]
  · rw [hinner] at hok
    rw [hinner']
    simp only [Checked.under, mapError_eq_ok_iff, ofMembers_eq_ok_iff] at hok ⊢
    obtain ⟨hlocale, htime, hdate⟩ := hok
    exact ⟨(hfields _).ofField_eq_ok rfl (hvalid.locale _) hlocale,
      (hfields _).ofField_eq_ok rfl (hvalid.defaultTime _) htime,
      (hfields _).ofField_eq_ok rfl (hvalid.fromDate _) hdate⟩

/-! ## A second time -/

theorem bootstrap_save (hr : r.WellFormed) {file : Option Text} {overrides : Json}
    (h : bootstrap r file overrides e = .ok s) : bootstrap r (some s.save) overrides e = .ok s := by
  rw [bootstrap_eq] at h ⊢
  obtain ⟨current, -, h⟩ := bind_eq_ok_iff.mp h
  obtain ⟨members, hmembers, h⟩ := bind_eq_ok_iff.mp h
  obtain ⟨merged, hmerged, h⟩ := bind_eq_ok_iff.mp h
  rw [mapError_eq_ok_iff] at h
  have hvalid := valid_of_ofJson hr h
  have hstart : Agree current s (given? [("parser".toList, Json.obj current.fields)] "parser")
      (given? [("parser".toList, Json.obj s.fields)] "parser") :=
    Or.inr ⟨_, _, List.lookup_cons_self, List.lookup_cons_self, fun name => Or.inr ⟨rfl, rfl⟩⟩
  have hoverlaid := Lasts.overlayMembers (lasts_agree current s) hstart members
  obtain ⟨merged', hmerged', hagree⟩ := hoverlaid.exists_overlayEnvironment hmerged
  rw [start, load_save_of_valid hvalid, ok_bind, hmembers, ok_bind, hmerged', ok_bind,
    mapError_eq_ok_iff]
  exact hagree.ofJson_eq_ok hvalid h

end Settings

end DateShorthand
