import DateShorthand.Calendar.Instant
import DateShorthand.Fault
import DateShorthand.Locale.Basic

/-!
# Parts

The part of a shortcut that moves the date: a sign, a number and a unit, such as `+3d`, `-1w` or
`2m`. Parts are applied one after the other, from left to right.
-/

namespace DateShorthand

/-! ## Cutting into tokens -/

namespace Tokens

def isSign (c : Char) : Bool := c == '+' || c == '-'

/-- Every sign begins a new word. -/
def spaced (t : Text) : Text := t.flatMap fun c => if isSign c then [' ', c] else [c]

def isLoneSign : Text → Bool
  | [c] => isSign c
  | _ => false

/-- A sign by itself belongs to the next word. -/
def glue : List Text → Except Fault (List Text)
  | [] => .ok []
  | [word] => if isLoneSign word then .error (.invalidPart word) else .ok [word]
  | word :: next :: rest =>
    if isLoneSign word then (glue rest).map ((word ++ next) :: ·)
    else (glue (next :: rest)).map (word :: ·)

def ofText (t : Text) : Except Fault (List Text) := glue (Text.words (spaced t))

end Tokens

/-! ## Reading a token -/

structure Part where
  raw : Text
  negative : Bool
  magnitude : Nat
  keyword : Text
deriving DecidableEq, Repr

namespace Part

def amount (p : Part) : Int := if p.negative then -(p.magnitude : Int) else p.magnitude

/-- Letters, and perhaps a line break after them. -/
def keywordOf? (t : Text) : Option Text :=
  let letters := if t.getLast? = some '\n' then t.dropLast else t
  if !letters.isEmpty && letters.all Text.isLetter then some letters else none

/-- No digits count as one. -/
def magnitudeOf (digits : Text) : Except Failure Nat :=
  if digits.isEmpty then .ok 1 else digits.toIntOrFail.map Int.toNat

/-- A token is a sign, digits and letters; sign and digits may be missing. -/
def parse (token : Text) : Except Failure Part :=
  let (negative, body) := Text.splitSign token
  match keywordOf? (body.dropWhile Text.isDecimal) with
  | none => .error (.fault (.invalidPart token))
  | some letters =>
    (magnitudeOf (body.takeWhile Text.isDecimal)).map fun magnitude =>
      ⟨token, negative, magnitude, Text.lower letters⟩

end Part

/-! ## Ordinals -/

/-- 1st, 2nd, 3rd, 4th, 11th, 21st. -/
def ordinalSuffix (n : Int) : Text :=
  if 11 ≤ n % 100 ∧ n % 100 ≤ 13 then "th"
  else if n % 10 = 1 then "st"
  else if n % 10 = 2 then "nd"
  else if n % 10 = 3 then "rd"
  else "th"

def monthText (d : Date) : Text := Text.padded 4 d.year ++ '-' :: Text.padded 2 d.month

/-- The `n`-th business day of the month, at the same time of day. -/
def Instant.nthBusinessDay (i : Instant) (n : Int) (fromEnd : Bool) : Except Fault Instant :=
  match i.date.nthBusinessDay? n fromEnd with
  | some date => .ok { i with date }
  | none => .error (.weekdayNotFound (Text.ofInt n ++ ordinalSuffix n) (monthText i.date))

/-! ## Moving an instant -/

namespace Part

/-- Moves the instant by the part, taken in the given unit. For weekdays the number is the place in
the month, and a minus counts from its end. -/
def applyTo (p : Part) (unit : CalendarUnit) (i : Instant) : Except Failure Instant :=
  match unit with
  | .today => .ok i
  | .year => CalendarFault.guard p.raw (i.addYears p.amount)
  | .month => CalendarFault.guard p.raw (i.addMonths p.amount)
  | .week => CalendarFault.guard p.raw (i.addDays (7 * p.amount))
  | .day => CalendarFault.guard p.raw (i.addDays p.amount)
  | .weekday => (i.nthBusinessDay p.magnitude p.negative).mapError .fault

/-- One token, read and applied: the instant it leads to, with the part and its unit. -/
def step (l : Localization) (i : Instant) (token : Text) :
    Except Failure (Instant × Part × CalendarUnit) := do
  let part ← parse token
  match l.unitOf? part.keyword with
  | none => .error (.fault (.unknownUnit part.keyword))
  | some unit => (part.applyTo unit i).map fun moved => (moved, part, unit)

/-- The tokens in turn. -/
def applyTokens (l : Localization) : Instant → List Text → Except Failure Instant
  | i, [] => .ok i
  | i, token :: rest => do
    let (moved, _) ← step l i token
    applyTokens l moved rest

/-- Applies all parts of a text. -/
def applyAll (l : Localization) (i : Instant) (t : Text) : Except Failure Instant := do
  let tokens ← (Tokens.ofText t).mapError Failure.fault
  applyTokens l i tokens

end Part

end DateShorthand
