import DateShorthand.Command.Arguments
import DateShorthand.Command.Log
import DateShorthand.Command.Table
import DateShorthand.Settings.File
import DateShorthand.Text.Terminal

/-!
# Running commands

What a command prints, how it ends and what it leaves in the settings file, given what it finds
there.
-/

namespace DateShorthand

/-- What a command finds: the registered locales, the text of the settings file if there is one, the
environment, and the reference for want of a better one. -/
structure World where
  registry : Registry
  file : Option Text
  environment : Environment
  now : Option Instant
deriving DecidableEq, Repr

/-- Why a command breaks off without a word. -/
inductive Crash where
  | settings (f : SettingsFault)
  | failure (f : Failure)
deriving DecidableEq, Repr

/-- A line on what broke off. -/
def Crash.message : Crash → Text
  | settings .fileMissing => "Settings file not found."
  | settings .noMembers | settings .noLookup => "Only records have members."
  | settings (.number f) => f.message
  | settings (.malformed what) => what
  | settings (.refused (.breakdown _)) => "Settings cannot be read."
  | settings (.refused (.violations found)) => violationsText found
  | failure (.fault f) => f.message
  | failure (.number f) => f.message
  | failure (.calendar _) => "The date is outside the calendar."

/-- How a command ends. `saved` is the new text of the settings file. -/
structure Outcome where
  exit : Nat
  out : Printed
  err : Text
  crash : Option Crash
  saved : Option Text
deriving DecidableEq, Repr

namespace Outcome

def lines (ts : List Text) : Text := Text.plainBreaks (ts.flatMap (· ++ ['\n']))

/-- Lines for people. Log lines are not among them and keep their control sequences. -/
def said (ts : List Text) : Text := lines (ts.map Text.withoutControls)

def success (out : Text) : Outcome := ⟨0, .text out, [], none, none⟩

def failed (err : Text) : Outcome := ⟨1, .text [], err, none, none⟩

def crashed (c : Crash) : Outcome := ⟨1, .text [], [], some c, none⟩

/-- The command was not understood, or one of its values was not. -/
def usage : Outcome := ⟨2, .text [], [], none, none⟩

def logged (log : List LogLine) (o : Outcome) : Outcome :=
  { o with err := lines (log.map LogLine.text) ++ o.err }

end Outcome

namespace Command

/-! ## Resolving -/

/-- The failure of a shortcut: a report, on standard output as a record or else in words. -/
def reported (json : Bool) (shortcut : Text) (r : Report) : Outcome :=
  if json then
    ⟨1, .text (Outcome.said [Json.write true (.obj
      [("success", .bool false), ("input", .str shortcut), ("error", r.toJson)])]), [], none, none⟩
  else .failed (Outcome.said [r.message, r.forTerminal])

/-- A number that cannot be read counts as a bad value. -/
def ofFailure (json : Bool) (shortcut : Text) : Failure → Outcome
  | .fault f => reported json shortcut f.report
  | .number .absent => .crashed (.failure (.number .absent))
  | .number _ => .usage
  | .calendar .noSuchField => .usage
  | .calendar .overflow => .crashed (.failure (.calendar .overflow))

def ofSettingsFault (json : Bool) (shortcut : Text) (f : SettingsFault) : Outcome :=
  match f with
  | .number _ => .usage
  | f =>
    match f.report? with
    | some r => reported json shortcut r
    | none => .crashed (.settings f)

/-- The settings with the options that are given in place of their own values. -/
def withOptions (r : Registry) (s : Settings) (locale defaultTime : Option Text) :
    Checked Settings :=
  let given := [("locale", locale), ("default_time", defaultTime)].filterMap
    fun (name, value) => value.map fun t => (String.toList name, Json.str t)
  if given.isEmpty then .ok s
  else
    match s.toJson with
    | .obj members => Settings.ofJson r (.obj (Settings.overlayMembers members
        [("parser", .obj given)]))
    | j => Settings.ofJson r j

def resolved (json : Bool) (shortcut : Text) (r : Resolver) (i : Instant) : Outcome :=
  .success <| Outcome.said <|
    if json then
      [Json.write true (.obj
        [("success", .bool true), ("input", .str shortcut), ("locale", .str r.localization.name),
         ("reference", .str r.reference.iso), ("result", .str i.iso)])]
    else [i.iso]

/-- Resolves with settings that are known to be good. -/
def runResolver (w : World) (s : Settings) (shortcut : Text) (reference : Instant)
    (json verbose : Bool) : Outcome :=
  let log := fun (lines : List LogLine) => if verbose then lines else []
  match s.resolver w.registry reference with
  | .error f => ofFailure json shortcut f
  | .ok r =>
    let steps := log (Log.ofLocalization r.localization ++ Log.ofShortcut r shortcut)
    Outcome.logged steps <| match r.resolve shortcut with
      | .ok i => resolved json shortcut r i
      | .error f => ofFailure json shortcut f

/-- A reference that is given wins over the one in the settings. -/
def runParse (w : World) (shortcut : Text) (locale reference defaultTime : Option Text)
    (json : Bool) (config : Text) (verbose : Bool) : Outcome :=
  match reference.map Timestamp.readTolerant? with
  | some none => .usage
  | reference =>
    let loaded := if w.file.isSome then Settings.load w.registry w.file else .ok Settings.default
    match loaded with
    | .error f => ofSettingsFault json shortcut f
    | .ok s =>
      let log := if verbose && w.file.isNone then [Log.noSettings config] else []
      match withOptions w.registry s locale defaultTime with
      | .error _ => .usage
      | .ok s =>
        match (reference.join.or s.fromDate).or w.now with
        | none => .usage
        | some reference => (runResolver w s shortcut reference json verbose).logged log

/-! ## Locales -/

def keywordsJson (ts : List Text) : Json := .arr (ts.map .str)

def localizationJson (l : Localization) : Json :=
  .obj
    [("name", .str l.name), ("year", keywordsJson l.year), ("month", keywordsJson l.month),
     ("week", keywordsJson l.week), ("day", keywordsJson l.day), ("today", keywordsJson l.today),
     ("weekday", keywordsJson l.weekday), ("am", keywordsJson l.am), ("pm", keywordsJson l.pm)]

def commaList (ts : List Text) : Text := Text.joined [',', ' '] ts

/-- The markers of both halves of the day, or a dash. -/
def markersCell (l : Localization) : Text :=
  let halves := [l.am, l.pm].filter fun ts => !ts.isEmpty
  if halves.isEmpty then ['-'] else Text.joined [' ', '/', ' '] (halves.map commaList)

def localesTable (r : Registry) : Table where
  title := ("Locales (" : Text) ++ Text.ofNat r.entries.length ++ (" registered)" : Text)
  headings := ["Locale", "Year", "Month", "Week", "Day", "Today", "Weekday", "AM/PM"]
  rows := r.entries.map fun (tag, l) =>
    tag :: CalendarUnit.all.map (fun unit => commaList (l.keywords unit)) ++ [markersCell l]

def runLocales (w : World) (json : Bool) : Outcome :=
  if json then
    .success (Outcome.said [Json.write false (.obj (w.registry.entries.map fun (tag, l) =>
      (tag, localizationJson l)))])
  else ⟨0, .table (localesTable w.registry), [], none, none⟩

/-! ## Settings -/

def crossMark : Text := "❌ "

def summary (s : Settings) : Text := s.toJson.indented 0

def runInit (w : World) (config : Text) (locale defaultTime : Option Text) : Outcome :=
  let given := [("locale", locale), ("default_time", defaultTime)].filterMap
    fun (name, value) => value.map fun t => (String.toList name, Json.str t)
  let overrides := if given.isEmpty then [] else [(("parser" : Text), Json.obj given)]
  match Settings.setUp w.registry w.file (.obj overrides) w.environment with
  | (.ok s, file) =>
    { Outcome.success (Outcome.said
        [("Configuration initialized at " : Text) ++ config, summary s]) with
      saved := file }
  | (.error f, _) =>
    match f.report? with
    | some r => .failed (Outcome.said [crossMark ++ r.message])
    | none => .crashed (.settings f)

def runShow (w : World) : Outcome :=
  match Settings.load w.registry w.file with
  | .ok s => .success (Outcome.said [summary s])
  | .error f => .crashed (.settings f)

/-- Sets one value and keeps the rest, or changes nothing. -/
def runSet (w : World) (key value : Text) : Outcome :=
  match Settings.load w.registry w.file with
  | .error f => .crashed (.settings f)
  | .ok s =>
    match Settings.assign value (key.pieces '.') s.toJson with
    | .error f => .crashed (.settings f)
    | .ok j =>
      match Settings.ofJson w.registry j with
      | .ok updated =>
        { Outcome.success (Outcome.said [("Updated " : Text) ++ key]) with
          saved := some updated.save }
      | .error (.violations (v :: _)) =>
        .failed (Outcome.said [crossMark ++ ("Invalid value for " : Text) ++ key ++ ':' :: ' '
          :: v.complaint.message])
      | .error f => .crashed (.settings (.refused f))

def runValidate (w : World) (config : Text) : Outcome :=
  match Settings.load w.registry w.file with
  | .ok s =>
    .success (Outcome.said
      [("✅ Configuration valid at " : Text) ++ config, ("   Locale: " : Text) ++ s.locale,
       ("   Default time: " : Text) ++ s.defaultTime.getD ['-']])
  | .error .fileMissing =>
    .failed (Outcome.said [crossMark
      ++ ("Configuration invalid: Settings file not found at " : Text) ++ config])
  | .error f =>
    match f.report? with
    | some r => .failed (Outcome.said [crossMark ++ ("Configuration invalid: " : Text) ++ r.message])
    | none => .crashed (.settings f)

/-! ## All commands -/

def run (w : World) : Command → Outcome
  | parse shortcut locale reference defaultTime json config verbose =>
    runParse w shortcut locale reference defaultTime json config verbose
  | locales json => runLocales w json
  | configInit config locale defaultTime => runInit w config locale defaultTime
  | configShow _ => runShow w
  | configSet key value _ => runSet w key value
  | configValidate config => runValidate w config

end Command

end DateShorthand
