import DateShorthand.Regex.Basic
import DateShorthand.Text.Identifier
import DateShorthand.Text.Numeral

/-!
# Reading regular expressions

The notation: literal characters and `.`, the classes `\d` `\w` `\s` and their negations, bracketed
sets, the anchors `^` `$` `\A` `\Z` `\b` `\B`, groups `( )`, `(?: )` and `(?P<name> )`, `|`, the
repetitions `*` `+` `?` and `{m,n}` with `?` for lazy and `+` for possessive ones, and `(?i)`
in front to ignore case. Everything else is refused.
-/

namespace DateShorthand.Regex

/-- Why a text is no regular expression. -/
inductive ReadFault where
  | malformed
  /-- A count of a repetition that cannot be read as a number. -/
  | number (f : NumberFault)
  /-- A count of a repetition beyond the greatest one. -/
  | countTooLarge
deriving DecidableEq, Repr

abbrev Read (α : Type) := Except ReadFault α

/-- What cannot be read is malformed. -/
def Read.ofOption {α : Type} : Option α → Read α
  | some a => .ok a
  | none => .error .malformed

/-- What the reader has still to read, and the groups it has met. -/
structure Reading where
  rest : Text
  groups : Nat
  names : List Text
deriving DecidableEq, Repr

/-! ## Escapes -/

def classOf? : Char → Option (CharClass × Bool)
  | 'd' => some (.decimal, false)
  | 'D' => some (.decimal, true)
  | 'w' => some (.word, false)
  | 'W' => some (.word, true)
  | 's' => some (.blank, false)
  | 'S' => some (.blank, true)
  | _ => none

/-- A character that stands for another one, or for itself, after a backslash. -/
def escapedChar? : Char → Option Char
  | 'a' => some '\x07'
  | 'f' => some '\x0c'
  | 'n' => some '\n'
  | 'r' => some '\r'
  | 't' => some '\t'
  | 'v' => some '\x0b'
  | c => if c.isAlphanum then none else some c

def escape? (c : Char) : Option Regex :=
  match c with
  | 'A' => some (.anchor .start)
  | 'Z' => some (.anchor .strictFinish)
  | 'b' => some (.anchor .wordEdge)
  | 'B' => some (.anchor .notWordEdge)
  | c =>
    match classOf? c with
    | some (k, negated) => some (.ofClass k negated)
    | none => (escapedChar? c).map .char

/-! ## Sets -/

def setItem? : Text → Option (SetItem × Text)
  | [] => none
  | '\\' :: 'b' :: rest => some (.char '\x08', rest)
  | '\\' :: c :: rest =>
    match classOf? c with
    | some (k, negated) => some (.ofClass k negated, rest)
    | none => (escapedChar? c).map (.char ·, rest)
  | c :: rest => if c = '\\' then none else some (.char c, rest)

/-- The members of a set up to its closing bracket, which may come first as a member. -/
def setItems? : (fuel : Nat) → (first : Bool) → Text → Option (List SetItem × Text)
  | 0, _, _ => none
  | fuel + 1, first, t =>
    match t, first with
    | ']' :: rest, false => some ([], rest)
    | t, _ => do
      let (item, rest) ← setItem? t
      match rest with
      | '-' :: ']' :: rest => some ([item, .char '-'], rest)
      | '-' :: more => do
        let (bound, rest) ← setItem? more
        match item, bound with
        | .char low, .char high =>
          if high < low then none
          else do
            let (items, rest) ← setItems? fuel false rest
            some (.range low high :: items, rest)
        | _, _ => none
      | rest => do
        let (items, rest) ← setItems? fuel false rest
        some (item :: items, rest)

/-- A set, from behind its opening bracket. One that lists a single character is that character. -/
def set? (t : Text) : Option (Regex × Text) :=
  let (negated, t) := match t with
    | '^' :: rest => (true, rest)
    | t => (false, t)
  (setItems? (t.length + 1) true t).map fun (items, rest) =>
    match items.eraseDups, negated with
    | [.char c], false => (.char c, rest)
    | items, negated => (.set items negated, rest)

/-! ## Repetitions -/

/-- The greatest count of a repetition. -/
def countLimit : Nat := 4294967294

/-- A count of a repetition, if it is given. -/
def count (digits : Text) : Read (Option Nat) :=
  let n := Text.ofDigits (digits.map fun c => c.toNat - '0'.toNat)
  if digits.isEmpty then .ok none
  else if Text.digitLimit < digits.length then .error (.number (.tooLong digits.length))
  else if countLimit < n then .error .countTooLarge
  else .ok (some n)

/-- The least and the greatest count. They must not decrease. -/
def countsOf (low high : Text) : Read (Nat × Option Nat) := do
  let min := (← count low).getD 0
  let max ← count high
  if max.any (· < min) then .error .malformed else .ok (min, max)

/-- The digits of both counts of a bounded repetition, after its opening brace. -/
def bounds? (t : Text) : Option ((Text × Text) × Text) :=
  let low := t.takeWhile Char.isDigit
  match t.dropWhile Char.isDigit with
  | '\x7d' :: rest => if low.isEmpty then none else some ((low, low), rest)
  | ',' :: more =>
    match more.dropWhile Char.isDigit with
    | '\x7d' :: rest => some ((low, more.takeWhile Char.isDigit), rest)
    | _ => none
  | _ => none

/-- The repetition that the text begins with, if any. A brace that does not give counts is a
character. A backslash that ends the text behind a brace is met before the counts are read. -/
def repetition : Text → Read (Option ((Nat × Option Nat) × Text))
  | '*' :: rest => .ok (some ((0, none), rest))
  | '+' :: rest => .ok (some ((1, none), rest))
  | '?' :: rest => .ok (some ((0, some 1), rest))
  | '\x7b' :: rest =>
    match bounds? rest with
    | none => .ok none
    | some ((low, high), rest) =>
      if rest = ['\\'] then .error .malformed
      else (countsOf low high).map fun counts => some (counts, rest)
  | _ => .ok none

def greedOf : Text → Greed × Text
  | '?' :: rest => (.lazy, rest)
  | '+' :: rest => (.possessive, rest)
  | rest => (.greedy, rest)

/-- What a repetition can follow. -/
inductive Piece where
  | item (r : Regex)
  /-- The row in a group that does not count. -/
  | row (items : List Regex)
deriving DecidableEq, Repr

namespace Piece

/-- A group that does not count disappears into the row around it. -/
def items : Piece → List Regex
  | item r => [r]
  | row items => items

/-- A place cannot be repeated, unless it is in a group. -/
def repeatable? : Piece → Option Regex
  | item (.anchor _) => none
  | item r => some r
  | row items => some (.ofList items)

end Piece

/-- Puts the repetition that follows, if any, on a piece. A repetition cannot be repeated. -/
def withRepetition (piece : Piece) (s : Reading) : Read (List Regex × Reading) := do
  match ← repetition s.rest with
  | none => .ok (piece.items, s)
  | some ((min, max), rest) =>
    let body ← Read.ofOption piece.repeatable?
    let (greed, rest) := greedOf rest
    match ← repetition rest with
    | some _ => .error .malformed
    | none => .ok ([.rep body min max greed], { s with rest })

/-! ## Alternatives -/

/-- There is at most one way to match it. -/
def isSingular : Regex → Bool
  | .char _ | .any | .set _ _ | .anchor _ => true
  | _ => false

/-- The singular items that all rows begin with, and what is left of each row. -/
def splitLead : List Regex → List (List Regex) → List Regex × List (List Regex)
  | lead :: row, others =>
    if isSingular lead && others.all (fun other => other.head? == some lead) then
      let (leads, rows) := splitLead row (others.map (·.drop 1))
      (lead :: leads, rows)
    else ([], (lead :: row) :: others)
  | [], others => ([], [] :: others)

/-- The members of the set that a row is, if it matches just one character out of a set. -/
def membersOf? : List Regex → Option (List SetItem)
  | [.char c] => some [.char c]
  | [.set items false] => some items
  | _ => none

/-- The members of all rows, if each of them matches just one character. -/
def allMembers? : List (List Regex) → Option (List SetItem)
  | [] => some []
  | row :: rest =>
    match membersOf? row, allMembers? rest with
    | some items, some others => some (items ++ others)
    | _, _ => none

/-- One row for all alternatives. What they begin with in common comes first; if one character each
is left of them, they are a set. -/
def ofAlternatives : List (List Regex) → List Regex
  | [] => []
  | [row] => row
  | row :: others =>
    let (leads, rows) := splitLead row others
    match allMembers? rows with
    | some items => leads ++ [.set items.eraseDups false]
    | none => leads ++ [oneOf (rows.map ofList)]

/-! ## Groups, rows, items -/

/-- A group's name and the text after its closing bracket. -/
def groupName? (t : Text) : Option (Text × Text) :=
  let name := t.takeWhile (· != '>')
  match t.dropWhile (· != '>') with
  | '>' :: rest => if Text.isIdentifier name then some (name, rest) else none
  | _ => none

/-- Takes the parenthesis that closes a group. -/
def closed (s : Reading) : Read Reading :=
  match s.rest with
  | ')' :: rest => .ok { s with rest }
  | _ => .error .malformed

mutual

/-- Alternatives up to a closing parenthesis or the end. -/
def readAlternatives : (fuel : Nat) → Reading → Read (List (List Regex) × Reading)
  | 0, _ => .error .malformed
  | fuel + 1, s => do
    let (row, s) ← readRow fuel s
    match s.rest with
    | '|' :: rest => do
      let (others, s) ← readAlternatives fuel { s with rest }
      .ok (row :: others, s)
    | _ => .ok ([row], s)

/-- Items in a row, up to a bar, a closing parenthesis or the end. -/
def readRow : (fuel : Nat) → Reading → Read (List Regex × Reading)
  | 0, _ => .error .malformed
  | fuel + 1, s =>
    match s.rest with
    | [] | '|' :: _ | ')' :: _ => .ok ([], s)
    | _ => do
      let (piece, s) ← readPiece fuel s
      let (items, s) ← withRepetition piece s
      let (others, s) ← readRow fuel s
      .ok (items ++ others, s)

/-- A group that counts, from behind its opening. -/
def readGroup : (fuel : Nat) → Reading → Read (Piece × Reading)
  | 0, _ => .error .malformed
  | fuel + 1, s => do
    let index := s.groups + 1
    let (rows, s) ← readAlternatives fuel { s with groups := index }
    let s ← closed s
    .ok (.item (.group index (.ofList (ofAlternatives rows))), s)

/-- One piece without its repetition. -/
def readPiece : (fuel : Nat) → Reading → Read (Piece × Reading)
  | 0, _ => .error .malformed
  | fuel + 1, s =>
    match s.rest with
    | '.' :: rest => .ok (.item .any, { s with rest })
    | '^' :: rest => .ok (.item (.anchor .start), { s with rest })
    | '$' :: rest => .ok (.item (.anchor .finish), { s with rest })
    | '\\' :: c :: rest => (Read.ofOption (escape? c)).map fun r => (.item r, { s with rest })
    | '[' :: rest => (Read.ofOption (set? rest)).map fun (r, rest) => (.item r, { s with rest })
    | '(' :: '?' :: ':' :: rest => do
      let (rows, s) ← readAlternatives fuel { s with rest }
      let s ← closed s
      .ok (.row (ofAlternatives rows), s)
    | '(' :: '?' :: 'P' :: '<' :: rest => do
      let (name, rest) ← Read.ofOption (groupName? rest)
      if s.names.contains name then .error .malformed
      else readGroup fuel { s with rest, names := name :: s.names }
    | '(' :: '?' :: _ => .error .malformed
    | '(' :: rest => readGroup fuel { s with rest }
    | c :: rest => do
      let repeats := (← repetition s.rest).isSome
      if c = '\\' ∨ c = ')' ∨ repeats then .error .malformed
      else .ok (.item (.char c), { s with rest })
    | [] => .error .malformed

end

/-! ## Whole expressions -/

/-- A regular expression with its number of groups, and whether it ignores case. -/
structure Compiled where
  tree : Regex
  groups : Nat
  caseless : Bool
deriving DecidableEq, Repr

/-- Takes every `(?i)` off the front, and says whether there was one. -/
def splitFlags : Text → Bool × Text
  | '(' :: '?' :: 'i' :: ')' :: rest => (true, (splitFlags rest).2)
  | t => (false, t)

/-- Each step of the reader takes a character or goes one level down, four levels at most for a
character. -/
def compile (t : Text) : Read Compiled := do
  let (caseless, body) := splitFlags t
  let (rows, s) ← readAlternatives (4 * body.length + 4) ⟨body, 0, []⟩
  if s.rest.isEmpty then .ok ⟨.ofList (ofAlternatives rows), s.groups, caseless⟩
  else .error .malformed

def Compiled.matchStart? (r : Compiled) (t : Text) : Option Match := r.tree.matchStart? r.caseless t

/-- What each group matched, in the order of their opening parentheses. -/
def Compiled.groupTexts (r : Compiled) (m : Match) : List (Option Text) :=
  (List.range' 1 r.groups).map m.group?

end DateShorthand.Regex
