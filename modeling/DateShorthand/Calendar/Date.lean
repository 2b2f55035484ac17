import DateShorthand.Text.Numeral

/-!
# Dates

The calendar runs from 1 January of year 1 to 31 December of year 9999, in the Gregorian calendar
carried backwards. Its days are numbered from 1, so moving by days is addition.
-/

namespace DateShorthand

/-- Why there is no such date. -/
inductive CalendarFault where
  /-- A field has no such value. -/
  | noSuchField
  /-- A quantity is too large to be a field or a number of days, or the day leaves the calendar. -/
  | overflow
deriving DecidableEq, Repr

/-! ## Years and months -/

def isLeapYear (year : Nat) : Bool := year % 4 == 0 && (year % 100 != 0 || year % 400 == 0)

def daysInMonth (year month : Nat) : Nat :=
  if month = 2 then if isLeapYear year then 29 else 28
  else if month = 4 ∨ month = 6 ∨ month = 9 ∨ month = 11 then 30
  else 31

def daysBeforeYear (year : Nat) : Nat :=
  365 * (year - 1) + (year - 1) / 4 - (year - 1) / 100 + (year - 1) / 400

def daysBeforeMonth (year : Nat) : Nat → Nat
  | 0 => 0
  | 1 => 0
  | month + 2 => daysBeforeMonth year (month + 1) + daysInMonth year (month + 1)

/-- A year outside the calendar. One that needs more than 32 bits is no field at all. -/
def yearFault (year : Int) : CalendarFault :=
  if -2147483648 ≤ year ∧ year ≤ 2147483647 then .noSuchField else .overflow

/-! ## Dates -/

structure Date where
  year : Nat
  month : Nat
  day : Nat
  year_mem : 1 ≤ year ∧ year ≤ 9999
  month_mem : 1 ≤ month ∧ month ≤ 12
  day_mem : 1 ≤ day ∧ day ≤ daysInMonth year month
deriving DecidableEq, Repr

namespace Date

def ofFields? (year month day : Nat) : Option Date :=
  if h : (1 ≤ year ∧ year ≤ 9999) ∧ (1 ≤ month ∧ month ≤ 12) ∧
      1 ≤ day ∧ day ≤ daysInMonth year month then
    some ⟨year, month, day, h.1, h.2.1, h.2.2⟩
  else none

/-- The first of January of year 1 is day 1. -/
def number (d : Date) : Nat := daysBeforeYear d.year + daysBeforeMonth d.year d.month + d.day

/-- The year of the day that follows `days` days of the calendar. The estimate by the mean length
of a year is off by at most one. -/
def yearAfter (days : Nat) : Nat :=
  let guess := 400 * days / 146097 + 1
  if daysBeforeYear (guess + 1) ≤ days then guess + 1
  else if days < daysBeforeYear guess then guess - 1
  else guess

/-- Finds the month of a day of the year, counted from 1, and its day in that month. -/
def splitYear (year : Nat) : List Nat → Nat → Option (Nat × Nat)
  | [], _ => none
  | month :: later, day =>
    if day ≤ daysInMonth year month then some (month, day)
    else splitYear year later (day - daysInMonth year month)

def ofNumber? (n : Int) : Option Date :=
  if n < 1 then none
  else
    let year := yearAfter (n.toNat - 1)
    (splitYear year (List.range' 1 12) (n.toNat - daysBeforeYear year)).bind fun (month, day) =>
      ofFields? year month day

/-! ## Moving -/

def addDays (d : Date) (n : Int) : Except CalendarFault Date :=
  match ofNumber? (d.number + n) with
  | some moved => .ok moved
  | none => .error .overflow

/-- The year `year` with a month and a day that it may lack; the day is cut to the month's end. -/
def clamped (year : Int) (month day : Nat) : Except CalendarFault Date :=
  match ofFields? year.toNat month (min day (daysInMonth year.toNat month)) with
  | some d => .ok d
  | none => .error (yearFault year)

/-- Moves by months and keeps the day, or takes the last one of a shorter month. The months are split
into years and months of one sign, and a month outside the year goes over to the next or the last. -/
def addMonths (d : Date) (n : Int) : Except CalendarFault Date :=
  let year := d.year + n.tdiv 12
  let month := d.month + n.tmod 12
  if 12 < month then clamped (year + 1) (month - 12).toNat d.day
  else if month < 1 then clamped (year - 1) (month + 12).toNat d.day
  else clamped year month.toNat d.day

/-- Moves by years and counts on from the first of the month, so 29 February becomes 1 March in a
year that is not a leap year. -/
def addYears (d : Date) (n : Int) : Except CalendarFault Date := do
  let first ← clamped (d.year + n) d.month 1
  first.addDays (d.day - 1 : Nat)

/-- Plain calendar arithmetic: the month may lie outside the year and the day outside the month. -/
def ofCalendar (year month day : Int) : Except CalendarFault Date := do
  let january ← clamped year 1 1
  let first ← january.addMonths (month - 1)
  first.addDays (day - 1)

/-! ## Weekdays -/

/-- Monday is 0 and Sunday 6. Day 1 of the calendar is a Monday. -/
def weekday (d : Date) : Nat := (d.number + 6) % 7

def saturday : Nat := 5

def sunday : Nat := 6

/-- Monday to Friday. No holidays are known. -/
def isBusinessDay (d : Date) : Bool := d.weekday < saturday

/-- Saturday goes back to Friday and Sunday on to Monday. -/
def closestWorkday (d : Date) : Except CalendarFault Date :=
  if d.weekday = saturday then d.addDays (-1)
  else if d.weekday = sunday then d.addDays 1
  else .ok d

/-- The days of the month of `d`, in order. -/
def monthDays (d : Date) : List Date :=
  (List.range' 1 (daysInMonth d.year d.month)).filterMap (ofFields? d.year d.month)

/-- Goes through the days, counting the business days on from `count`, up to the `n`-th. -/
def findBusinessDay? (n : Int) : Nat → List Date → Option Date
  | _, [] => none
  | count, day :: later =>
    if day.isBusinessDay then
      if ((count + 1 : Nat) : Int) = n then some day else findBusinessDay? n (count + 1) later
    else findBusinessDay? n count later

/-- The `n`-th business day of the month of `d`, counted from 1, or from the last day back. -/
def nthBusinessDay? (d : Date) (n : Int) (fromEnd : Bool) : Option Date :=
  findBusinessDay? n 0 (if fromEnd then d.monthDays.reverse else d.monthDays)

end Date

end DateShorthand
