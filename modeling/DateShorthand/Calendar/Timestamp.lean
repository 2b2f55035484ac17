import DateShorthand.Calendar.Instant

/-!
# Timestamps

Instants written as text. Settings take ISO 8601 in full, a date for its midnight, or a number of
seconds since 1970. A command line is more tolerant about how the fields are set apart.
-/

namespace DateShorthand.Timestamp

/-! ## Fields -/

/-- A number of exactly so many ASCII digits, and what follows. -/
def fixed? (width : Nat) (t : Text) : Option (Nat × Text) :=
  let digits := t.take width
  if digits.length = width ∧ digits.all Char.isDigit then
    some (Text.ofDigits (digits.map fun c => c.toNat - '0'.toNat), t.drop width)
  else none

/-- A number of one or more ASCII digits, at most so many, and what follows. -/
def upTo? (width : Nat) (t : Text) : Option (Nat × Text) :=
  let digits := (t.take width).takeWhile Char.isDigit
  if digits.isEmpty then none else fixed? digits.length t

/-- The character has to come next. -/
def after? (c : Char) : Text → Option Text
  | x :: rest => if x = c then some rest else none
  | [] => none

/-- Microseconds from the digits after a point; the seventh and later ones do not count. -/
def microseconds (digits : Text) : Microsecond :=
  let six := (digits ++ List.replicate 6 '0').take 6
  Microsecond.ofNat (Text.ofDigits (six.map fun c => c.toNat - '0'.toNat))

/-- A point or a comma with digits after it, if it is there. -/
def fraction? : Text → Option (Microsecond × Text)
  | c :: rest =>
    if c = '.' ∨ c = ',' then
      let digits := rest.takeWhile Char.isDigit
      if digits.isEmpty then none else some (microseconds digits, rest.drop digits.length)
    else some (.zero, c :: rest)
  | [] => some (.zero, [])

/-- Offsets reach less than a day either way. -/
def offsetOf? (negative : Bool) (hours minutes : Nat) : Option Int :=
  let seconds := 3600 * hours + 60 * minutes
  if seconds < 86400 then some (if negative then -(seconds : Int) else seconds) else none

/-! ## Settings -/

/-- The date of `YYYY-MM-DD`, what follows it, or what is wrong with it. -/
def date (t : Text) : Except Text (Date × Text) :=
  let digit := fun (i : Nat) => (t[i]?).any Char.isDigit
  let dash := fun (i : Nat) => t[i]? = some '-'
  if t.length < 10 then .error "input is too short"
  else if !(digit 0 && digit 1 && digit 2 && digit 3) then .error "invalid character in year"
  else if !dash 4 then .error "invalid date separator, expected `-`"
  else if !(digit 5 && digit 6) then .error "invalid character in month"
  else if !dash 7 then .error "invalid date separator, expected `-`"
  else if !(digit 8 && digit 9) then .error "invalid character in day"
  else
    let number := fun (start width : Nat) => ((fixed? width (t.drop start)).map (·.1)).getD 0
    let month := number 5 2
    if month < 1 ∨ 12 < month then .error "month value is outside expected range of 1-12"
    else match Date.ofFields? (number 0 4) month (number 8 2) with
      | some d => .ok (d, t.drop 10)
      | none => .error "day value is outside expected range"

/-- `Z`, or a sign with hours and minutes; nothing leaves the offset open. -/
def zone? : Text → Option (Option Int)
  | [] => some none
  | ['Z'] | ['z'] => some (some 0)
  | sign :: rest => do
    let negative ← if sign = '+' then some false
      else if sign = '-' ∨ sign = '\u2212' then some true
      else none
    let (hours, rest) ← fixed? 2 rest
    let (minutes, rest) ← fixed? 2 ((after? ':' rest).getD rest)
    if minutes < 60 ∧ rest.isEmpty then (offsetOf? negative hours minutes).map some else none

/-- `HH:MM`, perhaps with seconds and a fraction, and a zone. -/
def clock? (t : Text) : Option (TimeOfDay × Microsecond × Option Int) := do
  let (hour, rest) ← fixed? 2 t
  let rest ← after? ':' rest
  let (minute, rest) ← fixed? 2 rest
  let (second, micro, rest) ← match after? ':' rest with
    | none => some (0, .zero, rest)
    | some rest => do
      let (second, rest) ← fixed? 2 rest
      let (micro, rest) ← fraction? rest
      some (second, micro, rest)
  let time ← TimeOfDay.ofFields? hour minute second
  let offset ← zone? rest
  some (time, micro, offset)

def isSeparator (c : Char) : Bool := c == 'T' || c == 't' || c == ' ' || c == '_'

/-- A date, a separator and a time. -/
def instant? (t : Text) : Option Instant :=
  match date t with
  | .ok (d, separator :: rest) =>
    if isSeparator separator then
      (clock? rest).map fun (time, micro, offset) => ⟨d, time, micro, offset⟩
    else none
  | _ => none

/-- 1 January 1970. -/
def epoch : Int := 719163

/-- Beyond this a number counts milliseconds. -/
def secondsLimit : Nat := 20000000000

/-- A number of microseconds since 1970, if the calendar reaches that far. -/
def ofMicroseconds? (n : Int) : Option Instant :=
  let seconds := n / 1000000
  (Date.ofNumber? (epoch + seconds / 86400)).map fun d =>
    ⟨d, .ofSeconds (seconds % 86400).toNat, .ofNat (n % 1000000).toNat, some 0⟩

/-- A number of seconds since 1970, or of milliseconds if it is that large. Only the years 1600 to
9999 can be told in this way. -/
def ofSeconds (n : Int) : Except Text Instant :=
  let microseconds := if n.natAbs ≤ secondsLimit then n * 1000000 else n * 1000
  if microseconds < -11676096000000000 then
    .error "dates before 1600 are not supported as unix timestamps"
  else match ofMicroseconds? microseconds with
    | none => .error "dates after 9999 are not supported as unix timestamps"
    | some i => .ok i

/-- A whole number in ASCII digits, perhaps with a sign. -/
def wholeNumber? (t : Text) : Option Int :=
  let (negative, digits) := Text.splitSign t
  if digits.isEmpty ∨ !digits.all Char.isDigit then none
  else
    let n := Text.ofDigits (digits.map fun c => c.toNat - '0'.toNat)
    some (if negative then -(n : Int) else n)

/-- The instant that a text writes, or what is wrong with it as a date. -/
def read (t : Text) : Except Text Instant :=
  match instant? t with
  | some i => .ok i
  | none =>
    match wholeNumber? t with
    | some n => ofSeconds n
    | none =>
      match date t with
      | .ok (d, []) => .ok { Instant.ofDate d with offset := none }
      | .ok _ => .error "unexpected extra characters at the end of the input"
      | .error reason => .error reason

/-! ## Command line -/

/-- A number of so many ASCII digits that no digit follows, and what follows. -/
def whole? (widths : List Nat) (t : Text) : Option (Nat × Text) :=
  let width := (t.takeWhile Char.isDigit).length
  if widths.contains width then fixed? width t else none

/-- The date, with dashes or as eight digits, and what follows. -/
def tolerantDate? (t : Text) : Option (Date × Text) := do
  let (year, rest) ← fixed? 4 t
  let (month, day, rest) ← match after? '-' rest with
    | some rest => do
      let (month, rest) ← whole? [1, 2] rest
      let (day, rest) ← (after? '-' rest).bind (whole? [1, 2])
      some (month, day, rest)
    | none => do
      let (month, rest) ← fixed? 2 rest
      let (day, rest) ← fixed? 2 rest
      some (month, day, rest)
  (Date.ofFields? year month day).map (·, rest)

/-- The zone, with blanks before it and the minutes of an offset left out or not. -/
def tolerantZone? (t : Text) : Option (Option Int) :=
  match Text.trimStart t with
  | [] => some none
  | ['Z'] | ['z'] | ['U', 'T', 'C'] | ['G', 'M', 'T'] => some (some 0)
  | sign :: rest => do
    let negative ← if sign = '+' then some false else if sign = '-' then some true else none
    let (hours, rest) ← upTo? 2 rest
    let (minutes, rest) ← match rest with
      | [] => some (0, [])
      | ':' :: rest => upTo? 2 rest
      | rest => fixed? 2 rest
    if rest.isEmpty then (offsetOf? negative hours minutes).map some else none

/-- Hours and minutes between colons, perhaps with seconds and a fraction. -/
def colonClock? (hour : Nat) (t : Text) : Option (TimeOfDay × Microsecond × Text) := do
  let (minute, rest) ← whole? [1, 2] t
  match after? ':' rest with
  | none => (TimeOfDay.ofFields? hour minute 0).map (·, .zero, rest)
  | some rest => do
    let (second, rest) ← whole? [1, 2] rest
    let (micro, rest) ← fraction? rest
    (TimeOfDay.ofFields? hour minute second).map (·, micro, rest)

/-- Hours, perhaps minutes and seconds, two digits each; after seconds a fraction. -/
def compactClock? (digits : Nat) (t : Text) : Option (TimeOfDay × Microsecond × Text) := do
  let (hour, rest) ← fixed? 2 t
  match digits with
  | 2 => (TimeOfDay.ofFields? hour 0 0).map (·, .zero, rest)
  | 4 => do
    let (minute, rest) ← fixed? 2 rest
    (TimeOfDay.ofFields? hour minute 0).map (·, .zero, rest)
  | 6 => do
    let (minute, rest) ← fixed? 2 rest
    let (second, rest) ← fixed? 2 rest
    let (micro, rest) ← fraction? rest
    (TimeOfDay.ofFields? hour minute second).map (·, micro, rest)
  | _ => none

/-- A time with or without colons, and what follows. -/
def tolerantClock? (t : Text) : Option (TimeOfDay × Microsecond × Text) :=
  match (whole? [1, 2] t).bind fun (hour, rest) => (after? ':' rest).map (hour, ·) with
  | some (hour, rest) => colonClock? hour rest
  | none => compactClock? (t.takeWhile Char.isDigit).length t

/-- The instant that an option writes, in UTC. -/
def readTolerant? (t : Text) : Option Instant := do
  let (d, rest) ← tolerantDate? (Text.trim t)
  match rest with
  | [] => (Instant.toUtc { Instant.ofDate d with offset := none }).toOption
  | c :: more => do
    let clock := if c = 'T' ∨ c = 't' then more else Text.trimStart rest
    let (time, micro, rest) ← tolerantClock? clock
    let offset ← tolerantZone? rest
    (Instant.toUtc ⟨d, time, micro, offset⟩).toOption

end DateShorthand.Timestamp
