import DateShorthand.Text.Numeral

/-!
# JSON values

A JSON value keeps the order of its members. A number with a fraction or an exponent is kept as it
is written.
-/

namespace DateShorthand

inductive Json where
  | null
  | bool (b : Bool)
  | int (n : Int)
  | real (written : Text)
  | str (t : Text)
  | arr (items : List Json)
  | obj (members : List (Text × Json))
deriving Repr

namespace Json

def get? : Json → Text → Option Json
  | obj members, key => members.lookup key
  | _, _ => none

/-- Gives `key` the value, in its old place or at the end. -/
def setMember (key : Text) (value : Json) : List (Text × Json) → List (Text × Json)
  | [] => [(key, value)]
  | (k, v) :: rest =>
    if k = key then (k, value) :: rest else (k, v) :: setMember key value rest

/-- Members of one name keep the first place and the last value. -/
def ofMembers (members : List (Text × Json)) : Json :=
  obj (members.foldl (fun done (key, value) => setMember key value done) [])

/-- A value that counts as nothing given. -/
def isBlank : Json → Bool
  | null => true
  | bool b => !b
  | int n => n == 0
  | real _ => false
  | str t => t.isEmpty
  | arr items => items.isEmpty
  | obj members => members.isEmpty

/-! ## Plain text -/

mutual

/-- A value inside another one, with its texts quoted. -/
def quoted : Json → Text
  | null => "None"
  | bool b => if b then "True" else "False"
  | int n => Text.ofInt n
  | real written => written
  | str t => Text.quoted t
  | arr items => '[' :: quotedItems items ++ [']']
  | obj members => '\x7b' :: quotedMembers members ++ ['\x7d']

def quotedItems : List Json → Text
  | [] => []
  | [item] => quoted item
  | item :: rest => quoted item ++ ',' :: ' ' :: quotedItems rest

def quotedMembers : List (Text × Json) → Text
  | [] => []
  | [(key, value)] => Text.quoted key ++ ':' :: ' ' :: quoted value
  | (key, value) :: rest =>
    Text.quoted key ++ ':' :: ' ' :: quoted value ++ ',' :: ' ' :: quotedMembers rest

end

/-- A value as plain text: a text as it is, everything else as inside another value. -/
def plain : Json → Text
  | str t => t
  | value => value.quoted

end Json

end DateShorthand
