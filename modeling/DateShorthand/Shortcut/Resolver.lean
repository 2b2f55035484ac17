import DateShorthand.Shortcut.AbsoluteDate
import DateShorthand.Shortcut.DefaultTime
import DateShorthand.Shortcut.Part
import DateShorthand.Shortcut.TrailingTime

/-!
# Resolving shortcuts

A resolver turns shortcuts into instants, counted from a fixed reference. In a shortcut come first
a keyword for today or a date, then parts, then perhaps a point that asks for a workday, and last
a time.
-/

namespace DateShorthand

structure Resolver where
  localization : Localization
  /-- The reference, in UTC. -/
  reference : Instant
  defaultTime : Option TimeOfDay
deriving DecidableEq, Repr

namespace Resolver

/-- An empty default time is none. -/
def build (l : Localization) (reference : Instant) (defaultTime : Text) :
    Except Failure Resolver := do
  let reference ← reference.toUtc.mapError Failure.calendar
  if defaultTime.isEmpty then .ok ⟨l, reference, none⟩
  else
    let time ← DefaultTime.parse defaultTime
    .ok ⟨l, reference, some time⟩

/-! ## The date -/

/-- Midnight of the reference's day. -/
def startOfDay (r : Resolver) : Instant := r.reference.atTime .midnight

/-- Takes one keyword for today off the head, the longest that fits. -/
def dropToday (l : Localization) (t : Text) : Text :=
  match l.todayLongestFirst.find? (·.isPrefixOf t) with
  | some keyword => t.drop keyword.length
  | none => t

def workdayMarker : Char := '.'

/-- Takes the workday marker off the end, and the blanks around the text with it. -/
def splitMarker (t : Text) : Text × Bool :=
  let trimmed := Text.trim t
  if trimmed.getLast? = some workdayMarker then (trimmed.dropLast, true) else (t, false)

def toWorkday (i : Instant) (wanted : Bool) : Except Failure Instant :=
  if wanted then CalendarFault.guard [workdayMarker] i.closestWorkday else .ok i

/-- Where the parts of a date text begin: the instant to start from, the text of the parts, and
whether a workday is asked for. -/
def base (r : Resolver) (t : Text) : Except Failure (Instant × Text × Bool) := do
  let (date, rest) ←
    AbsoluteDate.split r.localization r.reference.date.year (dropToday r.localization t)
  .ok ((date.map Instant.ofDate).getD r.startOfDay, splitMarker rest)

def resolveDate (r : Resolver) (t : Text) : Except Failure Instant := do
  let (start, parts, workday) ← r.base t
  let moved ← Part.applyAll r.localization start parts
  toWorkday moved workday

/-! ## The whole shortcut -/

/-- The time and the date text of a shortcut, in lower case. -/
def split (r : Resolver) (shortcut : Text) : Except Failure (Option TimeOfDay × Text) :=
  let t := Text.normalize shortcut
  if t.isEmpty then .error (.fault (.emptyShortcut shortcut))
  else (TrailingTime.split r.localization t).mapError .fault

/-- A written time wins over the default one; with neither, the time stays. -/
def settleTime (r : Resolver) (time : Option TimeOfDay) (i : Instant) : Instant :=
  match time.or r.defaultTime with
  | some t => i.atTime t
  | none => i

def resolve (r : Resolver) (shortcut : Text) : Except Failure Instant := do
  let (time, dateText) ← r.split shortcut
  let date ← if dateText.isEmpty then .ok r.reference else r.resolveDate dateText
  .ok (r.settleTime time date)

end Resolver

end DateShorthand
