import DateShorthand.Text.Blank
import DateShorthand.Text.Case

/-!
# Lower case

Lower-casing a whole text. Two letters depend on more than themselves: a capital sigma at the end
of a word becomes `ς`, and a dotted capital I keeps its dot as a combining mark.
-/

namespace DateShorthand.Text

/-- The first character that is not skipped has case. -/
def meetsCased (t : Text) : Bool := (t.dropWhile isCaseIgnorable).head?.any isCased

/-- Between `before`, nearest character first, and `after`, a sigma would end a word. -/
def endsWord (before after : Text) : Bool := meetsCased before && !meetsCased after

def lowerFrom : Text → Text → Text
  | _, [] => []
  | before, c :: after =>
    (if c = 'Σ' then [if endsWord before after then 'ς' else 'σ']
     else if c = 'İ' then ['i', '\u0307']
     else [lowerChar c]) ++ lowerFrom (c :: before) after

def lower (t : Text) : Text := lowerFrom [] t

/-- The form under which keywords and locale tags are stored and looked up. -/
def normalize (t : Text) : Text := lower (trim t)

end DateShorthand.Text
