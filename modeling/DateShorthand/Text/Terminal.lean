import DateShorthand.Text.Basic

/-!
# Text for terminals

What is shown to people must not steer their terminal: control sequences are left out, and a line
ends in a line break alone.
-/

namespace DateShorthand.Text

/-- What may stand between the opening of a control sequence and its last letter. -/
def isControlParameter (c : Char) : Bool := c.isDigit || c == ';' || c == '?'

/-- The length of the control sequence that the text begins with, or 0: an escape character, an
opening bracket, parameters and a letter. -/
def controlLength : Text → Nat
  | '\x1b' :: '[' :: rest =>
    match rest.dropWhile isControlParameter with
    | c :: _ => if c.isAlpha then (rest.takeWhile isControlParameter).length + 3 else 0
    | [] => 0
  | _ => 0

/-- Leaves the next `skip` characters out, and the control sequences after them. -/
def skipControls : (skip : Nat) → Text → Text
  | _, [] => []
  | skip + 1, _ :: rest => skipControls skip rest
  | 0, c :: rest =>
    match controlLength (c :: rest) with
    | 0 => c :: skipControls 0 rest
    | length + 1 => skipControls length rest

/-- The text without its control sequences. What comes together when one is left out stays. -/
def withoutControls (t : Text) : Text := skipControls 0 t

/-- A carriage return before a line break goes. -/
def plainBreaks : Text → Text
  | '\r' :: '\n' :: rest => '\n' :: plainBreaks rest
  | c :: rest => c :: plainBreaks rest
  | [] => []

end DateShorthand.Text
