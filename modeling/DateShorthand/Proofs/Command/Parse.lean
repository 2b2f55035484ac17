import DateShorthand.Proofs.Command.Told
import DateShorthand.Proofs.Settings.Precedence

/-!
# Resolving from the command line

The command prints what the resolver makes of the shortcut. The resolver is made from the settings of the
file, under the options that are given; the file itself is left alone.
-/

namespace DateShorthand

/-! ## Settings under options -/

namespace Settings

variable {r : Registry} {s s' : Settings} {locale defaultTime : Option Text}

/-- What an option that may be given makes of a field: its own value, if it passes the check. -/
def replaced {α : Type} (check : Json → Checked α) (option : Option Text) (old : α) : Checked α :=
  match option with
  | some t => check (.str t)
  | none => .ok old

/-- The settings with every option that is given in place of its own field. -/
structure Under (r : Registry) (locale defaultTime : Option Text) (s s' : Settings) : Prop where
  locale : replaced (localeOf r [.field "locale"]) locale s.locale = .ok s'.locale
  defaultTime :
    replaced (defaultTimeOf [.field "default_time"]) defaultTime s.defaultTime = .ok s'.defaultTime
  fromDate : s'.fromDate = s.fromDate

section Fields

variable {α : Type} {name : Text} {default value : α} {check : List Place → Json → Checked α}

theorem ofField_overlaid {e : Environment} {option : Option Text} {old : Json}
    (hset : given? e.members name = option.map .str) (hfield : given? s.fields name = some old)
    (hold : check [.field name] old = .ok value) :
    ofField (overlayMembers s.fields e.members) name default check
      = replaced (check [.field name]) option value := by
  rw [ofField, given?_overlayMembers (nodup_members e),
    map_overlaid (Or.inr (given?_members_ne_obj e name)), hset, hfield]
  cases option with
  | none => exact hold
  | some t => rfl

end Fields

theorem Valid.ofMembers_overlaid_iff (h : Valid r s) :
    ofMembers r (overlayMembers s.fields (Environment.members ⟨locale, defaultTime, none⟩)) = .ok s' ↔
      Under r locale defaultTime s s' := by
  obtain ⟨hlocale, htime, hdate⟩ := given?_members ⟨locale, defaultTime, none⟩
  rw [ofMembers_eq_ok_iff, ofField_overlaid hlocale rfl (h.locale _),
    ofField_overlaid htime rfl (h.defaultTime _), ofField_overlaid hdate rfl (h.fromDate _)]
  constructor
  · rintro ⟨hl, ht, hd⟩
    exact ⟨hl, ht, (Except.ok.inj hd).symm⟩
  · rintro ⟨hl, ht, hd⟩
    exact ⟨hl, ht, congrArg Except.ok hd.symm⟩

/-- The options are laid over the record of the settings as an environment would be. -/
theorem withOptions_eq (r : Registry) (s : Settings) (locale defaultTime : Option Text) :
    Command.withOptions r s locale defaultTime =
      let members := Environment.members ⟨locale, defaultTime, none⟩
      if members.isEmpty then .ok s
      else ofJson r (.obj (overlayMembers [("parser", .obj s.fields)] [("parser", .obj members)])) := by
  cases locale <;> cases defaultTime <;> rfl

theorem Valid.withOptions_eq_ok_iff (h : Valid r s) :
    Command.withOptions r s locale defaultTime = .ok s' ↔ Under r locale defaultTime s s' := by
  have hnodup := nodup_members ⟨locale, defaultTime, none⟩
  rw [withOptions_eq, ← h.ofMembers_overlaid_iff]
  cases hmembers : Environment.members ⟨locale, defaultTime, none⟩ with
  | nil =>
    rw [overlayMembers, h.ofMembers_fields]
    rfl
  | cons member rest =>
    have hplain : IsPlain [("parser", .obj (member :: rest))] := by
      refine ⟨List.nodup_singleton _, ?_⟩
      rintro j ⟨⟩
      exact ⟨_, rfl, hmembers ▸ hnodup⟩
    exact ofJson_of_record (hplain.given?_parser s.fields)

end Settings

namespace Command

open Settings

/-! ## The stages -/

variable {shortcut : Text} {w : World} {s : Settings} {json : Bool} {locale reference defaultTime : Option Text}
  {config : Text} {given : Option Instant} {i : Instant}

theorem runResolver_of_ok {p : Resolver} {answer : Instant} (hp : s.resolver w.registry i = .ok p)
    (h : p.resolve shortcut = .ok answer) :
    runResolver w s shortcut i json false = resolved json shortcut p answer := by
  simp only [runResolver, hp, h]
  rfl

theorem runResolver_of_error {f : Failure}
    (h : (s.resolver w.registry i >>= fun p => p.resolve shortcut) = .error f) :
    runResolver w s shortcut i json false = ofFailure json shortcut f := by
  obtain hp | ⟨p, hp, h⟩ := bind_eq_error_iff.mp h
  · simp only [runResolver, hp]
  · simp only [runResolver, hp, h]
    cases f <;> rfl

/-- Without a log the command goes through the stages one by one, and the first that fails decides. -/
theorem runParse_eq (h : reference.map Timestamp.readTolerant? = given.map some) :
    runParse w shortcut locale reference defaultTime json config false =
      match start w.registry w.file with
      | .error f => ofSettingsFault json shortcut f
      | .ok s =>
        match withOptions w.registry s locale defaultTime with
        | .error _ => .usage
        | .ok s =>
          match (given.or s.fromDate).or w.now with
          | none => .usage
          | some i => runResolver w s shortcut i json false := by
  have hloaded : (if w.file.isSome then load w.registry w.file else .ok default)
      = start w.registry w.file := by
    cases w.file <;> rfl
  rw [runParse, h, hloaded]
  cases given <;> rfl

theorem runParse_of_start_error {f : SettingsFault}
    (h : reference.map Timestamp.readTolerant? = given.map some)
    (hstart : start w.registry w.file = .error f) :
    runParse w shortcut locale reference defaultTime json config false
      = ofSettingsFault json shortcut f := by
  rw [runParse_eq h, hstart]

theorem runParse_of_refused {e : RecordFault} (h : reference.map Timestamp.readTolerant? = given.map some)
    (hstart : start w.registry w.file = .ok s)
    (hrefused : withOptions w.registry s locale defaultTime = .error e) :
    runParse w shortcut locale reference defaultTime json config false = .usage := by
  simp only [runParse_eq h, hstart, hrefused]

theorem runParse_of_settings {s' : Settings} (h : reference.map Timestamp.readTolerant? = given.map some)
    (hstart : start w.registry w.file = .ok s)
    (hunder : withOptions w.registry s locale defaultTime = .ok s')
    (hi : (given.or s'.fromDate).or w.now = some i) :
    runParse w shortcut locale reference defaultTime json config false
      = runResolver w s' shortcut i json false := by
  simp only [runParse_eq h, hstart, hunder, hi]

theorem alike_runResolver (shortcut : Text) (w : World) (s : Settings) (reference : Instant)
    (verbose : Bool) :
    Alike (runResolver w s shortcut reference false verbose)
      (runResolver w s shortcut reference true verbose) := by
  unfold runResolver
  cases s.resolver w.registry reference with
  | error f => exact alike_ofFailure shortcut f
  | ok p =>
    dsimp only
    cases p.resolve shortcut with
    | error f => exact (alike_ofFailure shortcut f).logged _
    | ok i => exact (alike_resolved shortcut p i).logged _

theorem alike_runParse (shortcut : Text) (w : World) (locale reference defaultTime : Option Text)
    (config : Text) (verbose : Bool) :
    Alike (runParse w shortcut locale reference defaultTime false config verbose)
      (runParse w shortcut locale reference defaultTime true config verbose) := by
  unfold runParse
  split
  · exact .refl rfl
  · dsimp only
    split
    · exact alike_ofSettingsFault shortcut _
    · split
      · exact .refl rfl
      · split
        · exact .refl rfl
        · exact (alike_runResolver shortcut w _ _ verbose).logged _

/-! ## Whole runs -/

section Runs

variable {s' : Settings} (h : reference.map Timestamp.readTolerant? = given.map some)
  (config : Text)

include h

theorem tellsFailure_of_start_error {f : SettingsFault} {rep : Report}
    (hstart : start w.registry w.file = .error f) (hrep : f.report? = some rep) :
    TellsFailure rep shortcut (runParse w shortcut locale reference defaultTime false config false)
      (runParse w shortcut locale reference defaultTime true config false) := by
  rw [runParse_of_start_error h hstart, runParse_of_start_error h hstart,
    ofSettingsFault_of_report hrep, ofSettingsFault_of_report hrep]
  exact tellsFailure_reported (SettingsFault.hasDetails_report hrep)

theorem exit_of_forall_not_under (hr : w.registry.WellFormed)
    (hstart : start w.registry w.file = .ok s)
    (hnone : ∀ s', ¬ Under w.registry locale defaultTime s s') :
    (runParse w shortcut locale reference defaultTime json config false).exit = 2 := by
  cases hwith : withOptions w.registry s locale defaultTime with
  | ok s' => exact absurd ((valid_of_start hr hstart).withOptions_eq_ok_iff.mp hwith) (hnone s')
  | error e =>
    rw [runParse_of_refused h hstart hwith]
    rfl

variable (hr : w.registry.WellFormed) (hstart : start w.registry w.file = .ok s)
  (hunder : Under w.registry locale defaultTime s s') (hi : (given.or s'.fromDate).or w.now = some i)

include hr hstart hunder hi

theorem runParse_of_under : runParse w shortcut locale reference defaultTime json config false
    = runResolver w s' shortcut i json false :=
  runParse_of_settings h hstart ((valid_of_start hr hstart).withOptions_eq_ok_iff.mpr hunder) hi

theorem tellsAnswer_of_resolve {p : Resolver} {answer : Instant} (hp : s'.resolver w.registry i = .ok p)
    (hresolve : p.resolve shortcut = .ok answer) :
    TellsAnswer p answer shortcut (runParse w shortcut locale reference defaultTime false config false)
      (runParse w shortcut locale reference defaultTime true config false) := by
  rw [runParse_of_under h config hr hstart hunder hi, runParse_of_under h config hr hstart hunder hi,
    runResolver_of_ok hp hresolve, runResolver_of_ok hp hresolve]
  exact tellsAnswer_resolved p answer

theorem tellsFailure_of_fault {f : Fault}
    (hf : (s'.resolver w.registry i >>= fun p => p.resolve shortcut) = .error (.fault f)) :
    TellsFailure f.report shortcut (runParse w shortcut locale reference defaultTime false config false)
      (runParse w shortcut locale reference defaultTime true config false) := by
  rw [runParse_of_under h config hr hstart hunder hi, runParse_of_under h config hr hstart hunder hi,
    runResolver_of_error hf, runResolver_of_error hf]
  exact tellsFailure_reported f.hasDetails_report

end Runs

end Command

end DateShorthand
