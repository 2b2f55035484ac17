import DateShorthand.Json.Basic

/-!
# Reading JSON

Strict JSON, with `NaN` and the infinities besides. The first character that does not belong is
reported with its line, its column and its position.
-/

namespace DateShorthand.Json

inductive ReadFault where
  | malformed (what : Text) (position : Nat)
  | number (f : NumberFault)
deriving DecidableEq, Repr

/-- What is still to be read, and how many characters were. -/
structure Input where
  position : Nat
  rest : Text
deriving DecidableEq, Repr

def expected {α : Type} (what : Text) (position : Nat) : Except ReadFault α :=
  .error (.malformed what position)

def isSpace (c : Char) : Bool := c == ' ' || c == '\t' || c == '\n' || c == '\r'

def skipSpace (i : Input) : Input :=
  ⟨i.position + (i.rest.takeWhile isSpace).length, i.rest.dropWhile isSpace⟩

/-! ## Strings -/

def hexValue? (c : Char) : Option Nat :=
  if c.isDigit then some (c.toNat - '0'.toNat)
  else if 'a' ≤ c ∧ c ≤ 'f' then some (c.toNat - 'a'.toNat + 10)
  else if 'A' ≤ c ∧ c ≤ 'F' then some (c.toNat - 'A'.toNat + 10)
  else none

def hexNumber? (digits : Text) : Option Nat :=
  (digits.mapM hexValue?).map fun values => values.foldl (fun n d => 16 * n + d) 0

def isHighSurrogate (n : Nat) : Bool := 0xd800 ≤ n && n ≤ 0xdbff

def isLowSurrogate (n : Nat) : Bool := 0xdc00 ≤ n && n ≤ 0xdfff

/-- A code unit as a character; half of a pair has none and becomes the replacement character. -/
def ofUnit (n : Nat) : Char :=
  if isHighSurrogate n || isLowSurrogate n then '\ufffd' else Char.ofNat n

def ofPair (high low : Nat) : Char :=
  Char.ofNat (0x10000 + (high - 0xd800) * 0x400 + (low - 0xdc00))

def escapedChar? : Char → Option Char
  | '"' => some '"'
  | '\\' => some '\\'
  | '/' => some '/'
  | 'b' => some '\x08'
  | 'f' => some '\x0c'
  | 'n' => some '\n'
  | 'r' => some '\r'
  | 't' => some '\t'
  | _ => none

def badUnit : Text := "Invalid \\uXXXX escape"

/-- The rest of a string that begins at `start`, of which `done` is read, last character first. -/
def stringFrom (start : Nat) : (done : Text) → (position : Nat) → Text →
    Except ReadFault (Text × Input)
  | _, _, [] => expected "Unterminated string starting at" start
  | done, position, '"' :: rest => .ok (done.reverse, ⟨position + 1, rest⟩)
  | _, _, ['\\'] => expected "Unterminated string starting at" start
  | done, position, '\\' :: 'u' :: a :: b :: c :: d :: x :: rest =>
    match hexNumber? [a, b, c, d], x, rest with
    | none, _, _ => expected badUnit (position + 1)
    | some high, '\\', 'u' :: e :: f :: g :: h :: y :: rest =>
      if isHighSurrogate high then
        match hexNumber? [e, f, g, h] with
        | none => expected badUnit (position + 7)
        | some low =>
          if isLowSurrogate low then
            stringFrom start (ofPair high low :: done) (position + 12) (y :: rest)
          else
            stringFrom start (ofUnit low :: ofUnit high :: done) (position + 12) (y :: rest)
      else stringFrom start (ofUnit high :: done) (position + 6)
        ('\\' :: 'u' :: e :: f :: g :: h :: y :: rest)
    | some unit, x, rest => stringFrom start (ofUnit unit :: done) (position + 6) (x :: rest)
  | _, position, '\\' :: 'u' :: _ => expected badUnit (position + 1)
  | done, position, '\\' :: c :: rest =>
    match escapedChar? c with
    | some escaped => stringFrom start (escaped :: done) (position + 2) rest
    | none => expected "Invalid \\escape" position
  | done, position, c :: rest =>
    if c.toNat ≤ 0x1f then expected "Invalid control character at" position
    else stringFrom start (c :: done) (position + 1) rest

/-! ## Numbers -/

/-- A fraction: a point with digits after it. -/
def fractionOf : Text → Text
  | '.' :: rest =>
    let digits := rest.takeWhile Char.isDigit
    if digits.isEmpty then [] else '.' :: digits
  | _ => []

/-- An exponent: the letter, perhaps a sign, and digits. -/
def exponentOf : Text → Text
  | e :: rest =>
    if e = 'e' ∨ e = 'E' then
      let sign := match rest with
        | '+' :: _ => ['+']
        | '-' :: _ => ['-']
        | _ => []
      let digits := (rest.drop sign.length).takeWhile Char.isDigit
      if digits.isEmpty then [] else e :: sign ++ digits
    else []
  | [] => []

/-- The digits before a point. No digit follows a leading zero. -/
def wholeOf : Text → Text
  | '0' :: _ => ['0']
  | t => t.takeWhile Char.isDigit

def readNumber (i : Input) : Except ReadFault (Json × Input) :=
  let sign := match i.rest with
    | '-' :: _ => ['-']
    | _ => []
  let body := i.rest.drop sign.length
  let whole := wholeOf body
  if whole.isEmpty then expected "Expecting value" i.position
  else
    let rest := body.drop whole.length
    let fraction := fractionOf rest
    let exponent := exponentOf (rest.drop fraction.length)
    let written := sign ++ whole ++ fraction ++ exponent
    let after := ⟨i.position + written.length, i.rest.drop written.length⟩
    if fraction.isEmpty && exponent.isEmpty then
      match Text.toInt written with
      | .ok n => .ok (int n, after)
      | .error f => .error (.number f)
    else .ok (real written, after)

/-! ## Values -/

def words : List (Text × Json) :=
  [("null", null), ("true", bool true), ("false", bool false), ("NaN", real "nan"),
   ("Infinity", real "inf"), ("-Infinity", real "-inf")]

/-- A value that is no string, array or object. -/
def readScalar (i : Input) : Except ReadFault (Json × Input) :=
  match words.find? fun (word, _) => word.isPrefixOf i.rest with
  | some (word, value) => .ok (value, ⟨i.position + word.length, i.rest.drop word.length⟩)
  | none => readNumber i

mutual

/-- Each level of values, items or members takes a character at least, so the length of the text
is fuel enough. -/
def readValue : (fuel : Nat) → Input → Except ReadFault (Json × Input)
  | 0, i => expected "Expecting value" i.position
  | fuel + 1, i =>
    match i.rest with
    | '"' :: rest =>
      (stringFrom i.position [] (i.position + 1) rest).map fun (t, after) => (str t, after)
    | '[' :: rest =>
      let inside := skipSpace ⟨i.position + 1, rest⟩
      match inside.rest with
      | ']' :: rest => .ok (arr [], ⟨inside.position + 1, rest⟩)
      | _ => (readItems fuel inside).map fun (items, after) => (arr items, after)
    | '\x7b' :: rest =>
      let inside := skipSpace ⟨i.position + 1, rest⟩
      match inside.rest with
      | '\x7d' :: rest => .ok (obj [], ⟨inside.position + 1, rest⟩)
      | _ => (readMembers fuel inside).map fun (members, after) => (ofMembers members, after)
    | _ => readScalar i

/-- The items of an array up to its closing bracket. -/
def readItems : (fuel : Nat) → Input → Except ReadFault (List Json × Input)
  | 0, i => expected "Expecting value" i.position
  | fuel + 1, i => do
    let (item, after) ← readValue fuel i
    let after := skipSpace after
    match after.rest with
    | ']' :: rest => .ok ([item], ⟨after.position + 1, rest⟩)
    | ',' :: rest =>
      let (items, after) ← readItems fuel (skipSpace ⟨after.position + 1, rest⟩)
      .ok (item :: items, after)
    | _ => expected "Expecting ',' delimiter" after.position

/-- The members of an object up to its closing brace. -/
def readMembers : (fuel : Nat) → Input → Except ReadFault (List (Text × Json) × Input)
  | 0, i => expected "Expecting value" i.position
  | fuel + 1, i => do
    match i.rest with
    | '"' :: rest =>
      let (key, after) ← stringFrom i.position [] (i.position + 1) rest
      let after := skipSpace after
      match after.rest with
      | ':' :: rest =>
        let (value, after) ← readValue fuel (skipSpace ⟨after.position + 1, rest⟩)
        let after := skipSpace after
        match after.rest with
        | '\x7d' :: rest => .ok ([(key, value)], ⟨after.position + 1, rest⟩)
        | ',' :: rest =>
          let (members, after) ← readMembers fuel (skipSpace ⟨after.position + 1, rest⟩)
          .ok ((key, value) :: members, after)
        | _ => expected "Expecting ',' delimiter" after.position
      | _ => expected "Expecting ':' delimiter" after.position
    | _ => expected "Expecting property name enclosed in double quotes" i.position

end

/-- Reads a text that holds one value and nothing else. -/
def read (t : Text) : Except ReadFault Json :=
  if t.head? = some '\ufeff' then expected "Unexpected UTF-8 BOM (decode using utf-8-sig)" 0
  else do
    let (value, after) ← readValue (t.length + 1) (skipSpace ⟨0, t⟩)
    let after := skipSpace after
    if after.rest.isEmpty then .ok value else expected "Extra data" after.position

/-- A place in `t`, by line, column and position; the first two count from 1. -/
def placeText (t : Text) (position : Nat) : Text :=
  let before := t.take position
  let column := (before.reverse.takeWhile (· != '\n')).length + 1
  ("line " : Text) ++ Text.ofNat (before.count '\n' + 1) ++ (" column " : Text)
    ++ Text.ofNat column ++ (" (char " : Text) ++ Text.ofNat position ++ [')']

/-- The fault as text, about the text that was read. -/
def ReadFault.message (t : Text) : ReadFault → Text
  | malformed what position => what ++ (": " : Text) ++ placeText t position
  | number f => f.message

end DateShorthand.Json
