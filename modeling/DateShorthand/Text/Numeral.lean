import DateShorthand.Text.Blank
import DateShorthand.Text.Digit
import DateShorthand.Text.Quoted

/-!
# Numerals

Whole numbers in decimal notation. A numeral is read with digits of any script, an optional sign,
blanks around it and single underscores between its digits, and it has at most 4300 digits.
-/

namespace DateShorthand

/-- Why a text gives no number. -/
inductive NumberFault where
  | absent
  | notDecimal (text : Text)
  | tooLong (digits : Nat)
deriving DecidableEq, Repr

namespace Text

/-! ## Writing -/

def ofNat (n : Nat) : Text := Nat.toDigits 10 n

def ofInt : Int → Text
  | .ofNat n => ofNat n
  | .negSucc n => '-' :: ofNat (n + 1)

/-- Zeros in front, up to the given width. -/
def padded (width n : Nat) : Text :=
  let digits := ofNat n
  List.replicate (width - digits.length) '0' ++ digits

/-! ## Reading -/

/-- The number whose decimal digits these are, most significant first. -/
def ofDigits (digits : List Nat) : Nat := digits.foldl (fun n d => 10 * n + d) 0

/-- The blanks that may stand around a numeral. The separators U+001C to U+001F are not among
them. -/
def isNumeralBlank (c : Char) : Bool := isBlank c && !(0x1c ≤ c.toNat && c.toNat ≤ 0x1f)

/-- Digits with single underscores between them. -/
def digitsOf? : Text → Option (List Nat)
  | [] => none
  | [c] => (digitValue? c).map ([·])
  | c :: '_' :: rest => do return (← digitValue? c) :: (← digitsOf? rest)
  | c :: rest => do return (← digitValue? c) :: (← digitsOf? rest)

def digitLimit : Nat := 4300

/-- The sign of a numeral, and what follows it. -/
def splitSign : Text → Bool × Text
  | '-' :: rest => (true, rest)
  | '+' :: rest => (false, rest)
  | t => (false, t)

/-- The number that a text writes. -/
def toInt (t : Text) : Except NumberFault Int :=
  let core := ((t.dropWhile isNumeralBlank).reverse.dropWhile isNumeralBlank).reverse
  let (negative, body) := splitSign core
  match digitsOf? body with
  | none => .error (.notDecimal t)
  | some digits =>
    if digits.length > digitLimit then .error (.tooLong digits.length)
    else .ok (if negative then -(ofDigits digits : Int) else ofDigits digits)

end Text

def NumberFault.message : NumberFault → Text
  | .absent => "a number is missing"
  | .notDecimal t =>
    ("invalid literal for int() with base 10: " : Text) ++ (Text.quoted t).take 200
  | .tooLong digits =>
    ("Exceeds the limit (" : Text) ++ Text.ofNat Text.digitLimit
      ++ (" digits) for integer string conversion: value has " : Text) ++ Text.ofNat digits
      ++ (" digits; use sys.set_int_max_str_digits() to increase the limit" : Text)

end DateShorthand
