import DateShorthand.Text.Blank
import DateShorthand.Text.Case
import DateShorthand.Text.Letter

/-!
# Regular expressions

A regular expression as a tree, and the backtracking search for its first match. Every choice has
an order: the search takes the first alternative, and as many or as few repetitions as the
repetition asks for, that lets the rest of the expression match too.
-/

namespace DateShorthand

/-- The classes of characters with a letter of their own. -/
inductive CharClass where
  | decimal
  | word
  | blank
deriving DecidableEq, Repr

def CharClass.holds : CharClass → Char → Bool
  | .decimal, c => Text.isDecimal c
  | .word, c => Text.isWordChar c
  | .blank, c => Text.isBlank c

/-- A member of a bracketed set. -/
inductive SetItem where
  | char (c : Char)
  | range (first last : Char)
  | ofClass (k : CharClass) (negated : Bool)
deriving DecidableEq, Repr

/-- Places between characters. -/
inductive Anchor where
  | start
  /-- The end, or just before a line break that ends the text. -/
  | finish
  | strictFinish
  | wordEdge
  | notWordEdge
deriving DecidableEq, Repr

/-- How many repetitions are tried first. A possessive repetition never gives one back. -/
inductive Greed where
  | greedy
  | lazy
  | possessive
deriving DecidableEq, Repr

inductive Regex where
  | empty
  | char (c : Char)
  | any
  | set (items : List SetItem) (negated : Bool)
  | anchor (a : Anchor)
  | seq (first second : Regex)
  | alt (first second : Regex)
  | group (index : Nat) (body : Regex)
  | rep (body : Regex) (min : Nat) (max : Option Nat) (greed : Greed)
deriving DecidableEq, Repr

namespace Regex

/-- A place in a text: how many characters are behind, the last of them, and what is ahead. -/
structure Cursor where
  position : Nat
  behind : Option Char
  ahead : Text
deriving DecidableEq, Repr

/-- What each group matched last, newest first. -/
abbrev Captures := List (Nat × Text)

structure State where
  cursor : Cursor
  captures : Captures
deriving DecidableEq, Repr

/-! ## One character, one place -/

/-- Under `caseless`, a character stands for the same letter in the other case too. -/
def charHolds (caseless : Bool) (p c : Char) : Bool :=
  if caseless then Text.sameLetter p c else p == c

/-- The code points up to here make up the basic plane. -/
def lastOfBasicPlane : Nat := 0xffff

/-- Under `caseless`, a character that has company in its set stands for the same letter too, but
beyond the basic plane only for the letters whose lower case it is. -/
def itemHolds (caseless : Bool) (c : Char) : SetItem → Bool
  | .char p =>
    if caseless && lastOfBasicPlane < p.toNat then p == Text.lowerChar c
    else charHolds caseless p c
  | .range first last =>
    if caseless then
      (List.range' first.toNat (last.toNat + 1 - first.toNat)).any fun n =>
        Text.sameLetter (Char.ofNat n) c
    else first.toNat ≤ c.toNat && c.toNat ≤ last.toNat
  | .ofClass k negated => k.holds c != negated

/-- A set of one character says what the character itself says. -/
def setHolds (caseless : Bool) (items : List SetItem) (c : Char) : Bool :=
  match items with
  | [.char p] => charHolds caseless p c
  | items => items.any (itemHolds caseless c)

/-- Matches the next character if it passes the test. -/
def step (test : Char → Bool) (s : State) : Option State :=
  match s.cursor.ahead with
  | c :: rest =>
    if test c then some { s with cursor := ⟨s.cursor.position + 1, some c, rest⟩ } else none
  | [] => none

def anchorHolds (a : Anchor) (place : Cursor) : Bool :=
  let edge := (place.behind.any Text.isWordChar) != (place.ahead.head?.any Text.isWordChar)
  match a with
  | .start => place.position == 0
  | .finish => place.ahead == [] || place.ahead == ['\n']
  | .strictFinish => place.ahead == []
  | .wordEdge => edge
  | .notWordEdge => !edge

/-! ## Search -/

abbrev Run := State → (State → Option State) → Option State

/-- Repeats `body`, which has matched `count` times, at most `rounds` times more. Past the minimum
a round may only start where the last such round did not, so `rounds` need not exceed the minimum
by more than the number of places ahead. -/
def repeated (body : Run) (min : Nat) (max : Option Nat) (lazy : Bool) :
    (rounds count : Nat) → (last : Option Nat) → Run
  | 0, _, _, s, k => k s
  | rounds + 1, count, last, s, k =>
    if count < min then
      body s fun s => repeated body min max lazy rounds (count + 1) last s k
    else
      let more := fun (_ : Unit) =>
        if max.all (count < ·) && last != some s.cursor.position then
          body s fun next =>
            repeated body min max lazy rounds (count + 1) (some s.cursor.position) next k
        else none
      if lazy then k s <|> more () else more () <|> k s

/-- Matches `r` from `s` and hands the state after it to `k`; when `k` refuses, the next way to
match `r` is tried. -/
def run (caseless : Bool) : Regex → Run
  | .empty, s, k => k s
  | .char p, s, k => (step (charHolds caseless p) s).bind k
  | .any, s, k => (step (· != '\n') s).bind k
  | .set items negated, s, k => (step (fun c => setHolds caseless items c != negated) s).bind k
  | .anchor a, s, k => if anchorHolds a s.cursor then k s else none
  | .seq first second, s, k => run caseless first s fun s => run caseless second s k
  | .alt first second, s, k => run caseless first s k <|> run caseless second s k
  | .group index body, s, k =>
    run caseless body s fun next =>
      let length := next.cursor.position - s.cursor.position
      k { next with captures := (index, s.cursor.ahead.take length) :: next.captures }
  | .rep body min max greed, s, k =>
    let rounds := min + s.cursor.ahead.length + 1
    match greed with
    | .greedy => repeated (run caseless body) min max false rounds 0 none s k
    | .lazy => repeated (run caseless body) min max true rounds 0 none s k
    | .possessive => (repeated (run caseless body) min max false rounds 0 none s some).bind k

/-- A match: where it begins, the text it covers, what follows, and what the groups matched. -/
structure Match where
  start : Nat
  covered : Text
  after : Text
  captures : Captures
deriving DecidableEq, Repr

/-- What a group matched, if it took part. -/
def Match.group? (m : Match) (index : Nat) : Option Text := m.captures.lookup index

def matchAt? (r : Regex) (caseless : Bool) (place : Cursor) : Option Match :=
  (run caseless r ⟨place, []⟩ some).map fun s =>
    ⟨place.position, place.ahead.take (s.cursor.position - place.position), s.cursor.ahead,
     s.captures⟩

/-- A match that begins where the text does. -/
def matchStart? (r : Regex) (caseless : Bool) (t : Text) : Option Match :=
  r.matchAt? caseless ⟨0, none, t⟩

def searchFrom? (r : Regex) (caseless : Bool) : Nat → Option Char → Text → Option Match
  | position, behind, [] => r.matchAt? caseless ⟨position, behind, []⟩
  | position, behind, c :: rest =>
    r.matchAt? caseless ⟨position, behind, c :: rest⟩
      <|> searchFrom? r caseless (position + 1) (some c) rest

/-- The leftmost match. -/
def search? (r : Regex) (caseless : Bool) (t : Text) : Option Match :=
  r.searchFrom? caseless 0 none t

/-! ## Common forms -/

/-- The members in a row. -/
def ofList (rs : List Regex) : Regex := rs.foldr seq empty

/-- A character of a class, or one outside it. -/
def ofClass (k : CharClass) (negated : Bool) : Regex := set [.ofClass k negated] false

/-- The text itself. -/
def literal (t : Text) : Regex := ofList (t.map char)

def oneOf : List Regex → Regex
  | [] => empty
  | [r] => r
  | r :: rest => alt r (oneOf rest)

def optional (r : Regex) : Regex := rep r 0 (some 1) .greedy

def decimals (min max : Nat) : Regex := rep (.ofClass .decimal false) min (some max) .greedy

end Regex

end DateShorthand
