import DateShorthand.Calendar.TimeOfDay

/-!
# Instants

A date with a time of day to the microsecond, and the offset from UTC in seconds when it is known.
Moving an instant moves its date; the time of day and the offset stay.
-/

namespace DateShorthand

abbrev Microsecond := Fin 1000000

namespace Microsecond

def zero : Microsecond := ⟨0, by decide⟩

/-- Whole seconds are left out. -/
def ofNat (n : Nat) : Microsecond := ⟨n % 1000000, Nat.mod_lt _ (by decide)⟩

end Microsecond

structure Instant where
  date : Date
  time : TimeOfDay
  microsecond : Microsecond
  offset : Option Int
deriving DecidableEq, Repr

namespace Instant

/-- Midnight UTC of a date. -/
def ofDate (d : Date) : Instant := ⟨d, .midnight, .zero, some 0⟩

/-- The instant's day at the given time, to the second. -/
def atTime (i : Instant) (t : TimeOfDay) : Instant := { i with time := t, microsecond := .zero }

def onDate (i : Instant) (d : Except CalendarFault Date) : Except CalendarFault Instant :=
  d.map fun date => { i with date }

/-- Without an offset the fields are taken as UTC, with one they are converted. -/
def toUtc (i : Instant) : Except CalendarFault Instant :=
  match i.offset with
  | none => .ok { i with offset := some 0 }
  | some offset =>
    let seconds := (i.time.seconds : Int) - offset
    (i.date.addDays (seconds / 86400)).map fun date =>
      { i with date, time := .ofSeconds (seconds % 86400).toNat, offset := some 0 }

/-! ## Moving -/

def addDays (i : Instant) (n : Int) : Except CalendarFault Instant := i.onDate (i.date.addDays n)

def addMonths (i : Instant) (n : Int) : Except CalendarFault Instant :=
  i.onDate (i.date.addMonths n)

def addYears (i : Instant) (n : Int) : Except CalendarFault Instant := i.onDate (i.date.addYears n)

def isBusinessDay (i : Instant) : Bool := i.date.isBusinessDay

def closestWorkday (i : Instant) : Except CalendarFault Instant := i.onDate i.date.closestWorkday

/-! ## Writing -/

/-- `+HH:MM`, with seconds only when there are some. -/
def offsetText (offset : Int) : Text :=
  let n := offset.natAbs
  (if offset < 0 then '-' else '+') :: Text.padded 2 (n / 3600) ++ ':' :: Text.padded 2 (n / 60 % 60)
    ++ (if n % 60 = 0 then [] else ':' :: Text.padded 2 (n % 60))

def dateText (d : Date) : Text :=
  Text.padded 4 d.year ++ '-' :: Text.padded 2 d.month ++ '-' :: Text.padded 2 d.day

/-- The date and the time, with microseconds only when there are some. -/
def localText (i : Instant) : Text :=
  dateText i.date ++ 'T' :: i.time.iso
    ++ (if i.microsecond = .zero then [] else '.' :: Text.padded 6 i.microsecond)

/-- ISO 8601, with UTC written as `+00:00`. -/
def iso (i : Instant) : Text := i.localText ++ (i.offset.map offsetText).getD []

/-- ISO 8601, with UTC written as `Z`. -/
def isoZ (i : Instant) : Text :=
  i.localText ++ match i.offset with
    | none => []
    | some 0 => ['Z']
    | some offset => offsetText offset

end Instant

end DateShorthand
