import DateShorthand.Command.Run
import DateShorthand.Proofs.Settings.Stored

/-!
# What a command tells

An answer and a failure are told in words or as a record. The words are lines for a terminal; the record is
read back as what it was, and nothing but the form depends on the choice.
-/

namespace DateShorthand

open Text (IsLine)

/-! ## Lines -/

namespace Outcome

theorem said_cons (line : Text) (more : List Text) : said (line :: more) = said [line] ++ said more := by
  simp only [said, lines, List.map_cons, List.map_nil, List.flatMap_cons, List.flatMap_nil,
    List.append_nil, List.append_assoc, List.singleton_append]
  exact Text.plainBreaks_append _ _

theorem said_of_not_mem {line : Text} (hescape : '\x1b' ∉ line) (hreturn : '\r' ∉ line) :
    said [line] = line ++ ['\n'] := by
  have hline : '\r' ∉ line ++ ['\n'] := by simp [hreturn]
  simp only [said, lines, List.map_cons, List.map_nil, List.flatMap_cons, List.flatMap_nil,
    List.append_nil, Text.withoutControls_of_not_mem hescape]
  exact Text.plainBreaks_of_not_mem hline

theorem said_of_isLine {line : Text} (h : IsLine line) : said [line] = line ++ ['\n'] :=
  said_of_not_mem (h.not_mem (by decide)) (h.not_mem (by decide))

/-- A record that is printed can be read. -/
theorem read_said {j : Json} (h : j.Storable) : Json.read (said [Json.write true j]) = .ok j := by
  rw [said_of_isLine (Json.isLine_write j h), Json.read_write h]

end Outcome

theorem Text.isLine_padded (width n : Nat) : IsLine (padded width n) := by
  intro c hc
  have hdigit := isDigit_of_mem_padded hc
  simp only [Char.isDigit, Bool.and_eq_true, decide_eq_true_eq] at hdigit
  exact Nat.le_trans (by decide) (UInt32.le_iff_toNat_le.mp hdigit.1)

theorem Instant.isLine_iso (i : Instant) : IsLine i.iso := by
  have hoffset : IsLine ((i.offset.map offsetText).getD []) := by
    cases i.offset with
    | none => exact Text.isLine_nil
    | some offset =>
      simp only [Option.map_some, Option.getD_some, offsetText]
      split_ifs <;> simp [Text.isLine_padded]
  have hfraction : IsLine (if i.microsecond = .zero then [] else '.' :: Text.padded 6 i.microsecond) := by
    split_ifs <;> simp [Text.isLine_padded]
  simp [iso, localText, dateText, TimeOfDay.iso, Text.isLine_padded, hoffset, hfraction]

/-! ## Reports -/

/-- The details of a report make a record. -/
def Report.HasDetails (rep : Report) : Prop := (Json.obj rep.details).Storable

theorem Fault.hasDetails_report (f : Fault) : f.report.HasDetails := by
  cases f with
  | invalidTime shortcut time =>
    exact ⟨by simp [report, details], trivial, Settings.storable_optionalText time, trivial⟩
  | _ => exact ⟨by simp [report, details], by simp [report, details, Json.StorableMembers, Json.Storable]⟩

theorem SettingsFault.hasDetails_report {f : SettingsFault} {rep : Report} (h : f.report? = some rep) :
    rep.HasDetails := by
  unfold report? at h
  split at h <;> cases h <;> exact ⟨List.nodup_nil, trivial⟩

theorem Report.HasDetails.storable_toJson {rep : Report} (h : rep.HasDetails) : rep.toJson.Storable :=
  ⟨by simp, trivial, trivial, trivial, trivial, h, trivial⟩

namespace Command

variable (shortcut : Text)

/-! ## In words and as a record -/

/-- Two outcomes that say the same in different forms: they end alike and leave the file alone. -/
structure Alike (o o' : Outcome) : Prop where
  exit : o.exit = o'.exit
  crash : o.crash = o'.crash
  saved : o.saved = none ∧ o'.saved = none

theorem Alike.refl {o : Outcome} (h : o.saved = none) : Alike o o := ⟨rfl, rfl, h, h⟩

theorem Alike.logged {o o' : Outcome} (h : Alike o o') (log : List LogLine) :
    Alike (o.logged log) (o'.logged log) := ⟨h.exit, h.crash, h.saved⟩

-- said of any texts, so that the texts of an answer are not written out to compare them
theorem alike_success (out out' : Text) : Alike (.success out) (.success out') := ⟨rfl, rfl, rfl, rfl⟩

theorem alike_reported (rep : Report) : Alike (reported false shortcut rep) (reported true shortcut rep) :=
  ⟨rfl, rfl, rfl, rfl⟩

theorem alike_resolved (p : Resolver) (i : Instant) :
    Alike (resolved false shortcut p i) (resolved true shortcut p i) := alike_success _ _

theorem alike_ofFailure (f : Failure) : Alike (ofFailure false shortcut f) (ofFailure true shortcut f) := by
  unfold ofFailure
  split
  · exact alike_reported shortcut _
  all_goals exact .refl rfl

theorem alike_ofSettingsFault (f : SettingsFault) :
    Alike (ofSettingsFault false shortcut f) (ofSettingsFault true shortcut f) := by
  unfold ofSettingsFault
  split
  · exact .refl rfl
  · split
    · exact alike_reported shortcut _
    · exact .refl rfl

/-! ## What is told -/

variable {shortcut}

/-- A failure is told in words, headed by the message of its report, or as a record of the report. -/
structure TellsFailure (rep : Report) (shortcut : Text) (plain record : Outcome) : Prop where
  exit : plain.exit = 1 ∧ plain.crash = none
  err : Outcome.said [rep.message] <+: plain.err
  /-- A message that has nothing in it that steers a terminal stands there as it is. -/
  message : '\x1b' ∉ rep.message → '\r' ∉ rep.message → rep.message ++ ['\n'] <+: plain.err
  record : ∃ written error, record.out = .text written ∧
    Json.read written = .ok (.obj
      [("success", .bool false), ("input", .str shortcut), ("error", error)]) ∧
    error = rep.toJson ∧ error.get? "code" = some (.str rep.kind.code) ∧
      error.get? "message" = some (.str rep.message)

/-- An answer is told by its ISO form alone, or as a record with it. -/
structure TellsAnswer (p : Resolver) (answer : Instant) (shortcut : Text) (plain record : Outcome) :
    Prop where
  exit : plain.exit = 0 ∧ plain.crash = none
  out : plain.out = .text (answer.iso ++ ['\n'])
  err : plain.err = []
  record : ∃ written, record.out = .text written ∧
    Json.read written = .ok (.obj
      [("success", .bool true), ("input", .str shortcut), ("locale", .str p.localization.name),
       ("reference", .str p.reference.iso), ("result", .str answer.iso)])

theorem ofSettingsFault_of_report {json : Bool} {f : SettingsFault} {rep : Report} (h : f.report? = some rep) :
    ofSettingsFault json shortcut f = reported json shortcut rep := by
  unfold ofSettingsFault
  split
  · cases h
  · rw [h]

theorem tellsFailure_reported {rep : Report} (h : rep.HasDetails) :
    TellsFailure rep shortcut (reported false shortcut rep) (reported true shortcut rep) := by
  have herr : (reported false shortcut rep).err
      = Outcome.said [rep.message] ++ Outcome.said [rep.forTerminal] := Outcome.said_cons _ _
  refine ⟨⟨rfl, rfl⟩, ?_, fun hescape hreturn => ?_, ?_⟩
  · rw [herr]
    exact List.prefix_append _ _
  · rw [herr, Outcome.said_of_not_mem hescape hreturn]
    exact List.prefix_append _ _
  · have hstorable : (Json.obj [("success", .bool false), ("input", .str shortcut),
        ("error", rep.toJson)]).Storable :=
      ⟨by simp, trivial, trivial, h.storable_toJson, trivial⟩
    exact ⟨_, _, rfl, Outcome.read_said hstorable, rfl, rfl, rfl⟩

theorem tellsAnswer_resolved (p : Resolver) (answer : Instant) :
    TellsAnswer p answer shortcut (resolved false shortcut p answer) (resolved true shortcut p answer) := by
  have hstorable : (Json.obj [("success", .bool true), ("input", .str shortcut),
      ("locale", .str p.localization.name), ("reference", .str p.reference.iso),
      ("result", .str answer.iso)]).Storable :=
    ⟨by simp, trivial, trivial, trivial, trivial, trivial, trivial⟩
  refine ⟨⟨rfl, rfl⟩, ?_, rfl, _, rfl, Outcome.read_said hstorable⟩
  exact congrArg Printed.text (Outcome.said_of_isLine answer.isLine_iso)

end Command

end DateShorthand
