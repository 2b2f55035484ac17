import DateShorthand.Regex.Reader
import DateShorthand.Text.Lowercase

/-!
# Localizations

A language is plain data: keywords for each unit, markers for the twelve-hour clock, and the ways
it writes a date.
-/

namespace DateShorthand

/-! ## Units -/

/-- What a keyword means. A keyword of several units means the one that comes first here. -/
inductive CalendarUnit where
  | year
  | month
  | week
  | day
  | today
  | weekday
deriving DecidableEq, Repr

namespace CalendarUnit

def all : List CalendarUnit := [year, month, week, day, today, weekday]

def name : CalendarUnit → Text
  | year => "year"
  | month => "month"
  | week => "week"
  | day => "day"
  | today => "today"
  | weekday => "weekday"

end CalendarUnit

/-! ## Date patterns -/

/-- Which of day and month a written date names first. -/
inductive FieldOrder where
  | dayFirst
  | monthFirst
deriving DecidableEq, Repr

def FieldOrder.name : FieldOrder → Text
  | dayFirst => "day_first"
  | monthFirst => "month_first"

/-- A way to write a date: the first two groups are day and month, a third one is the year. -/
structure DatePattern where
  source : Text
  regex : Regex.Compiled
  order : FieldOrder
  two_le_groups : 2 ≤ regex.groups
deriving DecidableEq, Repr

/-! ## Localizations -/

structure Localization where
  name : Text
  year : List Text
  month : List Text
  week : List Text
  day : List Text
  today : List Text
  weekday : List Text
  am : List Text
  pm : List Text
  datePatterns : List DatePattern
deriving DecidableEq, Repr

namespace Localization

def keywords (l : Localization) : CalendarUnit → List Text
  | .year => l.year
  | .month => l.month
  | .week => l.week
  | .day => l.day
  | .today => l.today
  | .weekday => l.weekday

def hasMarkers (l : Localization) : Bool := !(l.am.isEmpty && l.pm.isEmpty)

/-- Puts a text before the first one that is no longer. -/
def insertByLength (t : Text) : List Text → List Text
  | [] => [t]
  | u :: rest => if t.length < u.length then u :: insertByLength t rest else t :: u :: rest

/-- Longer texts first, otherwise in the given order. -/
def longestFirst (ts : List Text) : List Text := ts.foldr insertByLength []

/-- The keywords for today, so ordered that a short one never hides a longer one. -/
def todayLongestFirst (l : Localization) : List Text := longestFirst l.today

/-- The twelve-hour markers, longest first and each of them once. -/
def markers (l : Localization) : List Text := longestFirst (l.am ++ l.pm).eraseDups

/-! ### The meaning of a keyword -/

/-- Every keyword with the unit that lists it, unit by unit. -/
def listings (l : Localization) : List (Text × CalendarUnit) :=
  CalendarUnit.all.flatMap fun unit => (l.keywords unit).map (·, unit)

/-- Adds a keyword unless it has a meaning already. -/
def addListing (meanings : List (Text × CalendarUnit)) (listing : Text × CalendarUnit) :
    List (Text × CalendarUnit) :=
  if (meanings.lookup listing.1).isSome then meanings else meanings ++ [listing]

/-- The meaning of each keyword, in the order in which the keywords are first listed. -/
def unitMap (l : Localization) : List (Text × CalendarUnit) := l.listings.foldl addListing []

/-- Keywords are looked up in lower case. -/
def unitOf? (l : Localization) (keyword : Text) : Option CalendarUnit :=
  l.unitMap.lookup (Text.lower keyword)

/-- The listings that lose to an earlier unit, each with the unit that wins. -/
def collisions (l : Localization) : List (Text × CalendarUnit × CalendarUnit) :=
  l.listings.filterMap fun (keyword, unit) =>
    match l.unitMap.lookup keyword with
    | some winner => if winner = unit then none else some (keyword, winner, unit)
    | none => none

end Localization

end DateShorthand
