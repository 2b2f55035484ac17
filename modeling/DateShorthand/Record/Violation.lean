import DateShorthand.Json.Basic

/-!
# Violations

What is wrong with a record, and where. Checking a record goes on after a violation, so that all of
them are found, in the order of the fields.
-/

namespace DateShorthand

/-- A step from a record to one of its values. -/
inductive Place where
  | field (name : Text)
  | item (index : Nat)
deriving DecidableEq, Repr

inductive Complaint where
  /-- The value is of the right kind and is refused. -/
  | value (reason : Text)
  | notText
  | missing
  | notAChoice
  /-- Not a record; `kind` is the name of the records that belong here. -/
  | notARecord (kind : Text)
  | notAList
  | patternNotText
  | patternMalformed
  | notAnInstant
  /-- A number that is no point of time. -/
  | instantMalformed (reason : Text)
  /-- A text that is neither an instant nor a date. -/
  | dateMalformed (reason : Text)
deriving DecidableEq, Repr

structure Violation where
  place : List Place
  complaint : Complaint
deriving DecidableEq, Repr

def Complaint.message : Complaint → Text
  | value reason => ("Value error, " : Text) ++ reason
  | notText => "Input should be a valid string"
  | missing => "Field required"
  | notAChoice => "Input should be 'day_first' or 'month_first'"
  | notARecord kind => ("Input should be a valid dictionary or instance of " : Text) ++ kind
  | notAList => "Input should be a valid tuple"
  | patternNotText => "Input should be a valid pattern"
  | patternMalformed => "Input should be a valid regular expression"
  | notAnInstant => "Input should be a valid datetime"
  | instantMalformed reason => ("Input should be a valid datetime, " : Text) ++ reason
  | dateMalformed reason => ("Input should be a valid datetime or date, " : Text) ++ reason

def Place.text : Place → Text
  | field name => name
  | item index => Text.ofNat index

/-- Two lines: the place, and below it the complaint. -/
def Violation.text (v : Violation) : Text :=
  Text.joined ['.'] (v.place.map Place.text) ++ '\n' :: ' ' :: ' ' :: v.complaint.message

/-- What ends a check before all of a record has been seen. -/
inductive Breakdown where
  /-- A value has no items where items are wanted. -/
  | notIterable
  /-- A pattern asks for more repetitions than can be counted. -/
  | countTooLarge
deriving DecidableEq, Repr

/-- Why a record is refused. -/
inductive RecordFault where
  | breakdown (b : Breakdown)
  | violations (found : List Violation)
deriving DecidableEq, Repr

abbrev Checked (α : Type) := Except RecordFault α

namespace Checked

def refuse {α : Type} (place : List Place) (complaint : Complaint) : Checked α :=
  .error (.violations [⟨place, complaint⟩])

/-- Both checks are made, and their violations add up. Of two breakdowns the first one counts. -/
def apply {α β : Type} (f : Checked (α → β)) (a : Checked α) : Checked β :=
  match f, a with
  | .ok f, .ok a => .ok (f a)
  | .error (.breakdown b), _ => .error (.breakdown b)
  | _, .error (.breakdown b) => .error (.breakdown b)
  | .error (.violations fs), .error (.violations as) => .error (.violations (fs ++ as))
  | .error (.violations fs), .ok _ => .error (.violations fs)
  | .ok _, .error (.violations as) => .error (.violations as)

/-- Checks every member and keeps the results in order. -/
def each {α β : Type} (check : α → Checked β) : List α → Checked (List β)
  | [] => .ok []
  | a :: rest => apply ((check a).map List.cons) (each check rest)

/-- Moves the violations below a place. -/
def under {α : Type} (place : List Place) (a : Checked α) : Checked α :=
  a.mapError fun
    | .breakdown b => .breakdown b
    | .violations found => .violations (found.map fun v => { v with place := place ++ v.place })

end Checked

def given? (members : List (Text × Json)) (name : Text) : Option Json := members.lookup name

/-- The value given under the first of these names that is there, with that name. -/
def givenAs? (members : List (Text × Json)) (names : List Text) : Option (Text × Json) :=
  names.findSome? fun name => (given? members name).map (name, ·)

end DateShorthand
