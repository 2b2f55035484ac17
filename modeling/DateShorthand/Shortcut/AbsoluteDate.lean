import DateShorthand.Fault
import DateShorthand.Locale.Basic

/-!
# Absolute dates

A date written out at the head of a shortcut. Day and month may lie outside their usual range and
then count on from there; a year of two digits is one of this century.
-/

namespace DateShorthand.AbsoluteDate

def century : Int := 2000

/-- The first pattern that matches where the text begins. -/
def find? (l : Localization) (t : Text) : Option (DatePattern × Regex.Match) :=
  l.datePatterns.findSome? fun p => (p.regex.matchStart? t).map (p, ·)

/-- The number of a group that has to take part. -/
def required : Option Text → Except Failure Int
  | none => .error (.number .absent)
  | some t => t.toIntOrFail

/-- The year that is written, or the default one where none or an empty one is. -/
def yearOf (default : Nat) : Option Text → Except Failure Int
  | none => .ok default
  | some [] => .ok default
  | some t => t.toIntOrFail.map fun year => if t.length ≤ 2 then year + century else year

/-- The date that the match `m` writes. -/
def read (defaultYear : Nat) (p : DatePattern) (m : Regex.Match) : Except Failure Date := do
  let first ← required (m.group? 1)
  let second ← required (m.group? 2)
  let year ← yearOf defaultYear (m.group? 3)
  CalendarFault.guard m.covered <| match p.order with
    | .dayFirst => Date.ofCalendar year second first
    | .monthFirst => Date.ofCalendar year first second

/-- Takes the date off the head of the text, and the blanks after it. -/
def split (l : Localization) (defaultYear : Nat) (t : Text) :
    Except Failure (Option Date × Text) :=
  match find? l t with
  | none => .ok (none, t)
  | some (p, m) =>
    (read defaultYear p m).map fun date => (some date, Text.trimStart m.after)

end DateShorthand.AbsoluteDate
