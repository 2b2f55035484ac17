import DateShorthand.Calendar.TimeOfDay
import DateShorthand.Fault

/-!
# Default times

The time that a setting gives to shortcuts without one of their own: an hour, perhaps minutes and
seconds, between colons.
-/

namespace DateShorthand.DefaultTime

/-- Digits, apart from the blanks around them. -/
def isNumeral (piece : Text) : Bool :=
  let digits := Text.trim piece
  !digits.isEmpty && digits.all Text.isDecimal

/-- Fields that are left out are 0. -/
def ofNumbers? : List Int → Option TimeOfDay
  | [hour] => TimeOfDay.ofFields? hour.toNat 0 0
  | [hour, minute] => TimeOfDay.ofFields? hour.toNat minute.toNat 0
  | [hour, minute, second] => TimeOfDay.ofFields? hour.toNat minute.toNat second.toNat
  | _ => none

def parse (value : Text) : Except Failure TimeOfDay := do
  let fields := (Text.trim value).pieces ':'
  if 3 < fields.length ∨ !fields.all isNumeral then
    .error (.fault (.defaultTimeFormat value))
  else
    let numbers ← fields.mapM Text.toIntOrFail
    match ofNumbers? numbers with
    | some time => .ok time
    | none => .error (.fault (.defaultTimeValue value))

end DateShorthand.DefaultTime
