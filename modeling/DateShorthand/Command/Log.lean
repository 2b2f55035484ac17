import DateShorthand.Shortcut.Resolver

/-!
# Logs

What a verbose run tells about each step of resolving a shortcut.
-/

namespace DateShorthand

/-- A line with the part of the program that writes it. -/
structure LogLine where
  source : Text
  message : Text
deriving DecidableEq, Repr

def LogLine.text (l : LogLine) : Text := l.source ++ ':' :: ' ' :: l.message

namespace Log

def inQuotes (t : Text) : Text := '\'' :: t ++ ['\'']

def noSettings (path : Text) : LogLine :=
  ⟨"dateshortcut.cli.shortcuts",
   ("No settings file at " : Text) ++ path ++ (", using defaults" : Text)⟩

def collision (l : Localization) (keyword : Text) (winner loser : CalendarUnit) : LogLine :=
  ⟨"dateshortcut.parsing.units",
   ("Keyword " : Text) ++ inQuotes keyword ++ (" in locale " : Text) ++ inQuotes l.name
     ++ (" is listed for " : Text) ++ winner.name ++ (" and " : Text) ++ loser.name
     ++ ("; using " : Text) ++ winner.name⟩

def extracted (time : TimeOfDay) (t rest : Text) : LogLine :=
  ⟨"dateshortcut.parsing.time_of_day",
   ("Extracted time " : Text) ++ time.iso ++ (" from " : Text) ++ inQuotes t
     ++ (", remainder " : Text) ++ inQuotes rest⟩

def matched (fragment : Text) (d : Date) : LogLine :=
  ⟨"dateshortcut.parsing.absolute",
   ("Matched absolute date " : Text) ++ inQuotes fragment ++ (" -> " : Text)
     ++ Instant.dateText d⟩

def applied (p : Part) (unit : CalendarUnit) (i : Instant) : LogLine :=
  ⟨"dateshortcut.parsing.relative",
   ("Applied " : Text) ++ inQuotes p.raw ++ (" (" : Text) ++ unit.name ++ (") -> " : Text) ++ i.iso⟩

def parsed (shortcut : Text) (i : Instant) : LogLine :=
  ⟨"dateshortcut.parsing.parser",
   ("Parsed " : Text) ++ inQuotes shortcut ++ (" -> " : Text) ++ i.iso⟩

/-! ## Steps -/

/-- Keywords that an earlier unit takes from a later one. -/
def ofLocalization (l : Localization) : List LogLine :=
  l.collisions.map fun (keyword, winner, loser) => collision l keyword winner loser

/-- The tokens up to the first that cannot be applied. -/
def ofTokens (l : Localization) : Instant → List Text → List LogLine
  | _, [] => []
  | i, token :: rest =>
    match Part.step l i token with
    | .ok (moved, part, unit) => applied part unit moved :: ofTokens l moved rest
    | .error _ => []

def ofDate (r : Resolver) (t : Text) : List LogLine :=
  match AbsoluteDate.find? r.localization t with
  | none => []
  | some (p, m) =>
    match AbsoluteDate.read r.reference.date.year p m with
    | .ok d => [matched m.covered d]
    | .error _ => []

def ofParts (r : Resolver) (t : Text) : List LogLine :=
  match r.base t with
  | .ok (start, parts, _) =>
    match Tokens.ofText parts with
    | .ok tokens => ofTokens r.localization start tokens
    | .error _ => []
  | .error _ => []

/-- The steps of resolving a shortcut, up to where it fails. -/
def ofShortcut (r : Resolver) (shortcut : Text) : List LogLine :=
  match r.split shortcut with
  | .error _ => []
  | .ok (time, dateText) =>
    (match time with
      | some t => [extracted t (Text.normalize shortcut) dateText]
      | none => [])
    ++ (if dateText.isEmpty then []
        else ofDate r (Resolver.dropToday r.localization dateText) ++ ofParts r dateText)
    ++ (match r.resolve shortcut with
      | .ok i => [parsed shortcut i]
      | .error _ => [])

end Log

end DateShorthand
