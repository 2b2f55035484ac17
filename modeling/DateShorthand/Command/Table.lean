import DateShorthand.Text.Basic

/-!
# Tables

What a command prints: a text, or a table, which is laid out in columns when it is printed.
-/

namespace DateShorthand

structure Table where
  title : Text
  headings : List Text
  rows : List (List Text)
deriving DecidableEq, Repr

namespace Table

/-- How wide each column has to be for the cells of a row. -/
def widen : List Nat → List Text → List Nat
  | [], cells => cells.map List.length
  | widths, [] => widths
  | width :: widths, cell :: cells => max width cell.length :: widen widths cells

def widths (t : Table) : List Nat := (t.headings :: t.rows).foldl widen []

def paddedRight (width : Nat) (t : Text) : Text := t ++ List.replicate (width - t.length) ' '

/-- The cells of a row under each other with those of the other rows. -/
def line (widths : List Nat) (cells : List Text) : Text :=
  Text.joined [' ', '|', ' '] (List.zipWith paddedRight widths cells)

def rule (widths : List Nat) : Text :=
  Text.joined ['-', '+', '-'] (widths.map fun width => List.replicate width '-')

/-- The title, the headings, a rule and the rows, a line each. -/
def render (t : Table) : Text :=
  let lines := t.title :: line t.widths t.headings :: rule t.widths :: t.rows.map (line t.widths)
  lines.flatMap (· ++ ['\n'])

end Table

inductive Printed where
  | text (t : Text)
  | table (t : Table)
deriving DecidableEq, Repr

def Printed.render : Printed → Text
  | text t => t
  | table t => t.render

end DateShorthand
