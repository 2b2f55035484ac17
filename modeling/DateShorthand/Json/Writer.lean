import DateShorthand.Json.Basic

/-!
# Writing JSON

On one line, with a blank after each comma and colon, or indented by two blanks a level.
-/

namespace DateShorthand.Json

/-- A code unit as an escape. -/
def unitEscape (n : Nat) : Text := '\\' :: 'u' :: Text.hex 4 n

/-- Characters beyond ASCII are escaped on demand, those beyond the basic plane as a pair. -/
def escaped (asciiOnly : Bool) (c : Char) : Text :=
  let n := c.toNat
  if c = '"' ∨ c = '\\' then ['\\', c]
  else if c = '\n' then ['\\', 'n']
  else if c = '\r' then ['\\', 'r']
  else if c = '\t' then ['\\', 't']
  else if c = '\x08' then ['\\', 'b']
  else if c = '\x0c' then ['\\', 'f']
  else if n < 0x20 then unitEscape n
  else if n < 0x7f || !asciiOnly then [c]
  else if n < 0x10000 then unitEscape n
  else unitEscape (0xd800 + (n - 0x10000) / 0x400) ++ unitEscape (0xdc00 + (n - 0x10000) % 0x400)

def writeText (asciiOnly : Bool) (t : Text) : Text := '"' :: t.flatMap (escaped asciiOnly) ++ ['"']

def writeScalar (asciiOnly : Bool) : Json → Text
  | null => "null"
  | bool b => if b then "true" else "false"
  | int n => Text.ofInt n
  | real written => written
  | str t => writeText asciiOnly t
  | arr _ | obj _ => []

/-! ## On one line -/

mutual

def write (asciiOnly : Bool) : Json → Text
  | arr items => '[' :: Text.joined [',', ' '] (writeItems asciiOnly items) ++ [']']
  | obj members => '\x7b' :: Text.joined [',', ' '] (writeMembers asciiOnly members) ++ ['\x7d']
  | value => writeScalar asciiOnly value

def writeItems (asciiOnly : Bool) : List Json → List Text
  | [] => []
  | item :: rest => write asciiOnly item :: writeItems asciiOnly rest

def writeMembers (asciiOnly : Bool) : List (Text × Json) → List Text
  | [] => []
  | (key, value) :: rest =>
    (writeText asciiOnly key ++ ':' :: ' ' :: write asciiOnly value) :: writeMembers asciiOnly rest

end

/-! ## Indented -/

/-- A line break and the indentation of a level. -/
def newLine (level : Nat) : Text := '\n' :: List.replicate (2 * level) ' '

mutual

/-- The value as it stands on a line of the given level. -/
def indented : (level : Nat) → Json → Text
  | level, arr (item :: rest) =>
    '[' :: newLine (level + 1)
      ++ Text.joined (',' :: newLine (level + 1)) (indentedItems (level + 1) (item :: rest))
      ++ newLine level ++ [']']
  | level, obj (member :: rest) =>
    '\x7b' :: newLine (level + 1)
      ++ Text.joined (',' :: newLine (level + 1)) (indentedMembers (level + 1) (member :: rest))
      ++ newLine level ++ ['\x7d']
  | _, value => write true value

def indentedItems : (level : Nat) → List Json → List Text
  | _, [] => []
  | level, item :: rest => indented level item :: indentedItems level rest

def indentedMembers : (level : Nat) → List (Text × Json) → List Text
  | _, [] => []
  | level, (key, value) :: rest =>
    (writeText true key ++ ':' :: ' ' :: indented level value) :: indentedMembers level rest

end

end DateShorthand.Json
