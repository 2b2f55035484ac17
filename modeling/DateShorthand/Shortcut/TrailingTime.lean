import DateShorthand.Calendar.TimeOfDay
import DateShorthand.Fault
import DateShorthand.Locale.Basic

/-!
# The time at the end of a shortcut

A shortcut may end in a time: an hour, perhaps minutes and seconds after colons, and a marker of
the twelve-hour clock where the language has them. It is cut off before the rest is read.
-/

namespace DateShorthand.TrailingTime

/-! ## Notation -/

def blanks (min : Nat) : Regex := .rep (.ofClass .blank false) min none .greedy

/-- A colon and two digits, as a group. -/
def sexagesimal (index : Nat) : Regex :=
  .optional (.ofList [.char ':', .group index (.decimals 2 2)])

/-- A time that stands at the start or after blanks and runs to the end. Groups 1 to 4 are hour,
minute, second and marker. -/
def timeRegex (markers : List Text) : Regex :=
  .ofList <|
    [.alt (.anchor .start) (blanks 1), .group 1 (.decimals 1 2), sexagesimal 2, sexagesimal 3]
    ++ (if markers.isEmpty then []
        else [blanks 0, .optional (.group 4 (.oneOf (markers.map .literal)))])
    ++ [.anchor .finish]

def find? (l : Localization) (t : Text) : Option Regex.Match := (timeRegex l.markers).search? true t

/-! ## Value -/

/-- The number that a run of digits writes. -/
def numberOf (digits : Text) : Nat := Text.ofDigits (digits.filterMap Text.digitValue?)

/-- An hour of the twelve-hour clock: 12 begins each half of the day. -/
def hourOfHalf (hour : Nat) (afternoon : Bool) : Nat := hour % 12 + if afternoon then 12 else 0

/-- The hour that is meant, with a marker only between 1 and 12. -/
def markedHour (l : Localization) (written : Text) : Option Text → Except Fault Nat
  | none => .ok (numberOf written)
  | some marker =>
    let hour := numberOf written
    if 1 ≤ hour ∧ hour ≤ 12 then .ok (hourOfHalf hour (l.pm.contains (Text.lower marker)))
    else .error (.invalidMarkedHour written)

/-- The time that the match `m` in `t` writes. -/
def read (l : Localization) (t : Text) (m : Regex.Match) : Except Fault TimeOfDay := do
  let written := (m.group? 1).getD []
  let minute := numberOf ((m.group? 2).getD [])
  let second := numberOf ((m.group? 3).getD [])
  if 59 < minute ∨ 59 < second then .error (.invalidTime t (some (Text.trim m.covered)))
  else
    let hour ← markedHour l written (m.group? 4)
    match TimeOfDay.ofFields? hour minute second with
    | some time => .ok time
    | none => .error (.invalidHour written)

/-- Cuts the time off a trimmed text, and trims what is left. -/
def split (l : Localization) (t : Text) : Except Fault (Option TimeOfDay × Text) :=
  match find? l t with
  | none => .ok (none, t)
  | some m => (read l t m).map fun time => (some time, Text.trim (t.take m.start))

end DateShorthand.TrailingTime
