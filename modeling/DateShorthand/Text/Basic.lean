/-!
# Text

A text is the list of its characters, so lengths and positions count characters.
-/

namespace DateShorthand

abbrev Text := List Char

instance : Coe String Text := ⟨String.toList⟩

/-- Ranges of code points, both ends included, in increasing order. -/
abbrev CodeRanges := List (Nat × Nat)

/-- The search stops at the first range beyond the code point. -/
def CodeRanges.covers : CodeRanges → Nat → Bool
  | [], _ => false
  | (first, last) :: rest, n => if n < first then false else decide (n ≤ last) || covers rest n

namespace Text

/-- The pieces between separators. A text without separators is one piece. -/
def pieces (separator : Char) : Text → List Text
  | [] => [[]]
  | c :: rest =>
    if c = separator then [] :: pieces separator rest
    else match pieces separator rest with
      | first :: more => (c :: first) :: more
      | [] => [[c]]

/-- The texts with a separator between each two. -/
def joined (separator : Text) : List Text → Text
  | [] => []
  | [t] => t
  | t :: rest => t ++ separator ++ joined separator rest

end Text

end DateShorthand
