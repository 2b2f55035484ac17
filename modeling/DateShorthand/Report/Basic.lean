import DateShorthand.Fault
import DateShorthand.Json.Basic
import DateShorthand.Report.Kind

/-!
# Error reports

What is told about an error: its kind, a message that quotes what is wrong, and the same in detail.
A report becomes text for people, lines for a terminal, or a record for a form.
-/

namespace DateShorthand

structure Report where
  kind : ErrorKind
  message : Text
  details : List (Text × Json)
  /-- A message for people that takes the place of the usual one, unless it is empty. -/
  ownMessage : Option Text
deriving Repr

/-! ## Reports of faults -/

def quotedIn (before : String) (t : Text) (after : String) : Text :=
  before.toList ++ '"' :: t ++ '"' :: after.toList

namespace Fault

def kind : Fault → ErrorKind
  | emptyShortcut _ => .emptyShortcut
  | invalidPart _ => .invalidPartFormat
  | unknownUnit _ => .unknownUnit
  | invalidTime _ _ => .invalidTimeFormat
  | invalidHour _ => .invalidHour
  | invalidMarkedHour _ => .invalidAmPmHour
  | weekdayNotFound _ _ => .weekdayNotFound
  | dateOutOfRange _ => .dateOutOfRange
  | unknownLocale _ => .unknownLocale
  | localeRegistered _ => .localeAlreadyRegistered
  | defaultTimeFormat _ => .invalidDefaultTimeFormat
  | defaultTimeValue _ => .invalidDefaultTimeValue

def message : Fault → Text
  | emptyShortcut _ => ErrorKind.emptyShortcut.defaultMessage
  | invalidPart part => quotedIn "Invalid part format " part " in shortcut."
  | unknownUnit unit => quotedIn "Unknown unit " unit " in shortcut."
  | invalidTime shortcut _ => quotedIn "Invalid time format in shortcut " shortcut "."
  | invalidHour hour => quotedIn "Invalid hour " hour " in shortcut."
  | invalidMarkedHour hour => quotedIn "Invalid hour " hour " for AM/PM format."
  | weekdayNotFound ordinal month =>
    ("Could not find the " : Text) ++ ordinal ++ (" weekday for the specified month (" : Text)
      ++ month ++ (")." : Text)
  | dateOutOfRange fragment => quotedIn "Date out of range while applying " fragment "."
  | unknownLocale tag => quotedIn "Predefined locale " tag " not found."
  | localeRegistered tag => quotedIn "Locale " tag " is already registered."
  | defaultTimeFormat value => quotedIn "Invalid defaultTime format " value "."
  | defaultTimeValue value => quotedIn "Invalid time values in defaultTime " value "."

def details : Fault → List (Text × Json)
  | emptyShortcut shortcut => [("shortcut", .str shortcut)]
  | invalidPart part => [("part", .str part)]
  | unknownUnit unit => [("unit", .str unit)]
  | invalidTime shortcut time =>
    [("shortcut", .str shortcut), ("time", (time.map Json.str).getD .null)]
  | invalidHour hour => [("hour", .str hour)]
  | invalidMarkedHour hour => [("hour", .str hour)]
  | weekdayNotFound ordinal month => [("ordinal", .str ordinal), ("month", .str month)]
  | dateOutOfRange fragment => [("fragment", .str fragment)]
  | unknownLocale tag => [("locale", .str tag)]
  | localeRegistered tag => [("locale", .str tag)]
  | defaultTimeFormat value => [("default_time", .str value)]
  | defaultTimeValue value => [("default_time", .str value)]

def report (f : Fault) : Report := ⟨f.kind, f.message, f.details, none⟩

end Fault

/-! ## Advice -/

/-- A message for people with a way out. -/
structure Advice where
  message : Text
  suggestion : Text
deriving DecidableEq, Repr

namespace Advice

def ofKind (k : ErrorKind) : Advice := ⟨k.userMessage, k.suggestion⟩

/-- What is said about an error of no known kind. -/
def unknown : Advice :=
  ⟨"Something went wrong. Please try again.", "Please report the issue if it continues."⟩

def ofCode (code : Text) : Advice := ((ErrorKind.ofCode? code).map ofKind).getD unknown

def suggestionLine (a : Advice) : Text := ("Suggestion: " : Text) ++ a.suggestion

/-- The message, and the suggestion below it. -/
def forUser (a : Advice) : Text := a.message ++ '\n' :: '\n' :: a.suggestionLine

/-- Lines for a terminal, headed by the code. Details without a value are left out. -/
def forTerminal (a : Advice) (code : Text) (details : List (Text × Json)) : Text :=
  let shown := details.flatMap fun (key, value) =>
    match value with
    | .null => []
    | value => '\n' :: ' ' :: ' ' :: key ++ ':' :: ' ' :: value.plain
  ("Error [" : Text) ++ code ++ ("]: " : Text) ++ a.message ++ '\n' :: '\n' :: a.suggestionLine
    ++ (if details.isEmpty then [] else ("\n\nDetails:" : Text) ++ shown)

/-- A record for a form. -/
def forForm (a : Advice) (code : Text) (recoverable : Bool) (details : List (Text × Json)) : Json :=
  .obj
    [("message", .str a.message), ("suggestion", .str a.suggestion), ("code", .str code),
     ("recoverable", .bool recoverable), ("details", .obj details)]

end Advice

/-! ## The forms of a report -/

namespace Report

/-- An error of a kind, with the kind's own message where none is given. -/
def ofKind (kind : ErrorKind) (message : Text) (details : List (Text × Json))
    (ownMessage : Option Text) : Report :=
  ⟨kind, if message.isEmpty then kind.defaultMessage else message, details, ownMessage⟩

def advice (r : Report) : Advice := .ofKind r.kind

def userMessage (r : Report) : Text :=
  match r.ownMessage with
  | some (c :: rest) => c :: rest
  | _ => r.kind.userMessage

def forTerminal (r : Report) : Text := r.advice.forTerminal r.kind.code r.details

def forForm (r : Report) : Json := r.advice.forForm r.kind.code r.kind.recoverable r.details

/-- The report as a record. -/
def toJson (r : Report) : Json :=
  .obj
    [("code", .str r.kind.code), ("message", .str r.message), ("user_message", .str r.userMessage),
     ("recoverable", .bool r.kind.recoverable), ("details", .obj r.details)]

end Report

end DateShorthand
