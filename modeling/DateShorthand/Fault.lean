import DateShorthand.Calendar.Date

/-!
# Faults

What can be wrong with a shortcut, a locale tag or a setting. Each fault keeps the text it is
about.
-/

namespace DateShorthand

inductive Fault where
  | emptyShortcut (shortcut : Text)
  | invalidPart (part : Text)
  | unknownUnit (unit : Text)
  /-- A minute or a second above 59 in the time `time` at the end of `shortcut`. -/
  | invalidTime (shortcut : Text) (time : Option Text)
  | invalidHour (hour : Text)
  /-- An hour outside 1 to 12 with a twelve-hour marker. -/
  | invalidMarkedHour (hour : Text)
  /-- The month, written `YYYY-MM`, has no business day with that ordinal. -/
  | weekdayNotFound (ordinal month : Text)
  /-- The date that `fragment` asks for is outside the calendar. -/
  | dateOutOfRange (fragment : Text)
  | unknownLocale (tag : Text)
  | localeRegistered (tag : Text)
  | defaultTimeFormat (value : Text)
  | defaultTimeValue (value : Text)
deriving DecidableEq, Repr

/-- Why there is no result: a fault, or a number or a date that a step could not make. -/
inductive Failure where
  | fault (f : Fault)
  | number (f : NumberFault)
  | calendar (f : CalendarFault)
deriving DecidableEq, Repr

/-- A calendar step that a part of the text asks for: what goes wrong with it is a fault of that
part. -/
def CalendarFault.guard {α : Type} (fragment : Text) : Except CalendarFault α → Except Failure α
  | .ok a => .ok a
  | .error _ => .error (.fault (.dateOutOfRange fragment))

def Text.toIntOrFail (t : Text) : Except Failure Int := t.toInt.mapError .number

end DateShorthand
