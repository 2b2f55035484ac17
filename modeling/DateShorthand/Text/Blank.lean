import DateShorthand.Text.Basic

/-!
# Blanks

The characters that separate words, and the two ways to get rid of them: trimming the ends of a
text and cutting it into words.
-/

namespace DateShorthand.Text

def blankRanges : CodeRanges :=
  [(0x09, 0x0d), (0x1c, 0x20), (0x85, 0x85), (0xa0, 0xa0), (0x1680, 0x1680), (0x2000, 0x200a),
   (0x2028, 0x2029), (0x202f, 0x202f), (0x205f, 0x205f), (0x3000, 0x3000)]

def isBlank (c : Char) : Bool := blankRanges.covers c.toNat

def trimStart (t : Text) : Text := t.dropWhile isBlank

def trimEnd (t : Text) : Text := (t.reverse.dropWhile isBlank).reverse

def trim (t : Text) : Text := trimEnd (trimStart t)

/-- The maximal runs of characters that are not blank, in order. -/
def words : Text → List Text
  | [] => []
  | c :: rest =>
    if isBlank c then words rest
    else match rest.head?, words rest with
      | some next, word :: more => if isBlank next then [c] :: word :: more else (c :: word) :: more
      | _, more => [c] :: more

end DateShorthand.Text
