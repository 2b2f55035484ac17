import DateShorthand.Text.Unprinted

/-!
# Quoted text

A text between quotes, with everything that does not print written as an escape. Single quotes are
used, unless the text holds single quotes and no double ones.
-/

namespace DateShorthand.Text

def hexDigit (n : Nat) : Char := Nat.digitChar (n % 16)

/-- The lowest `width` hexadecimal digits. -/
def hex : Nat → Nat → Text
  | 0, _ => []
  | width + 1, n => hex width (n / 16) ++ [hexDigit n]

def escaped (quote c : Char) : Text :=
  if c = quote ∨ c = '\\' then ['\\', c]
  else if c = '\n' then ['\\', 'n']
  else if c = '\r' then ['\\', 'r']
  else if c = '\t' then ['\\', 't']
  else if isUnprinted c then
    if c.toNat < 0x100 then '\\' :: 'x' :: hex 2 c.toNat
    else if c.toNat < 0x10000 then '\\' :: 'u' :: hex 4 c.toNat
    else '\\' :: 'U' :: hex 8 c.toNat
  else [c]

def quoted (t : Text) : Text :=
  let quote := if t.contains '\'' && !t.contains '"' then '"' else '\''
  quote :: t.flatMap (escaped quote) ++ [quote]

end DateShorthand.Text
