import DateShorthand.Locale.Basic
import DateShorthand.Record.Violation

/-!
# Records of localizations

A localization can be given as a record. Keyword lists are trimmed, put in lower case and rid of
repetitions; a keyword must not be blank and must not be a number.
-/

namespace DateShorthand

/-! ## Keyword lists -/

namespace Keywords

/-- The entries of a keyword list: one text is a list of one, and nothing an empty list. -/
def entries : Json → Checked (List Text)
  | .null => .ok []
  | .str t => .ok [t]
  | .arr items => .ok (items.map Json.plain)
  | .obj members => .ok (members.map (·.1))
  | .bool _ | .int _ | .real _ => .error (.breakdown .notIterable)

/-- Adds a keyword at the end, unless it is there already. -/
def add (keywords : List Text) (entry : Text) : Except Text (List Text) :=
  let keyword := Text.normalize entry
  if keyword.isEmpty then .error "keywords must not be empty"
  else if Text.isNumeric keyword then
    .error (("keyword must not be numeric: " : Text) ++ keyword)
  else .ok (if keywords.contains keyword then keywords else keywords ++ [keyword])

def ofEntries (entries : List Text) : Except Text (List Text) := entries.foldlM add []

/-- The keyword list of a field, empty when the field is missing. -/
def ofField (members : List (Text × Json)) (name : Text) : Checked (List Text) :=
  match given? members name with
  | none => .ok []
  | some value => do
    let entries ← entries value
    match ofEntries entries with
    | .ok keywords => .ok keywords
    | .error reason => .refuse [.field name] (.value reason)

end Keywords

/-! ## Date patterns -/

namespace DatePattern

/-- Either a name of an order, or a layout such as `dd.mm.yyyy` that begins with one of the two. -/
def orderOf (place : List Place) : Json → Checked FieldOrder
  | .str t =>
    if t = FieldOrder.dayFirst.name then .ok .dayFirst
    else if t = FieldOrder.monthFirst.name then .ok .monthFirst
    else
      let lowered := Text.lower t
      if lowered = FieldOrder.dayFirst.name ∨ lowered = FieldOrder.monthFirst.name then
        .refuse place .notAChoice
      else if ("dd" : Text).isPrefixOf lowered then .ok .dayFirst
      else if ("mm" : Text).isPrefixOf lowered then .ok .monthFirst
      else .refuse place (.value (("Unsupported date pattern format: " : Text) ++ t))
  | _ => .refuse place .notAChoice

def orderOfField (members : List (Text × Json)) : Checked FieldOrder :=
  match givenAs? members ["format", "field_order"] with
  | none => .ok .dayFirst
  | some (name, value) => orderOf [.field name] value

/-- A regular expression with its source, once it is known to have groups for day and month. -/
abbrev Source := Text × { r : Regex.Compiled // 2 ≤ r.groups }

def sourceOfField (members : List (Text × Json)) : Checked Source :=
  let place := [Place.field "regex"]
  match given? members "regex" with
  | none => .refuse place .missing
  | some (.str source) =>
    match Regex.compile source with
    | .error .malformed => .refuse place .patternMalformed
    | .error (.number f) => .refuse place (.value f.message)
    | .error .countTooLarge => .error (.breakdown .countTooLarge)
    | .ok regex =>
      if h : 2 ≤ regex.groups then .ok (source, ⟨regex, h⟩)
      else .refuse place (.value "date pattern needs capture groups for day and month")
  | some _ => .refuse place .patternNotText

def ofJson : Json → Checked DatePattern
  | .obj members =>
    let pattern := (sourceOfField members).map fun (source, regex) order =>
      DatePattern.mk source regex.1 order regex.2
    Checked.apply pattern (orderOfField members)
  | _ => .refuse [] (.notARecord "DatePattern")

def listOfField (members : List (Text × Json)) : Checked (List DatePattern) :=
  match givenAs? members ["datePatterns", "date_patterns"] with
  | none => .ok []
  | some (_, .null) => .ok []
  | some (name, .arr items) =>
    Checked.each (fun (item, index) => Checked.under [.field name, .item index] (ofJson item))
      items.zipIdx
  | some (name, _) => .refuse [.field name] .notAList

end DatePattern

/-! ## Localizations -/

namespace Localization

/-- The name of a record that has none. -/
def unnamed : Text := "custom"

def nameOfField (default : Text) (members : List (Text × Json)) : Checked Text :=
  match given? members "name" with
  | none => .ok default
  | some (.str name) => .ok name
  | some _ => .refuse [.field "name"] .notText

def ofMembers (defaultName : Text) (members : List (Text × Json)) : Checked Localization :=
  let keywords := Keywords.ofField members
  let l := (nameOfField defaultName members).map Localization.mk
  let l := Checked.apply l (keywords "year")
  let l := Checked.apply l (keywords "month")
  let l := Checked.apply l (keywords "week")
  let l := Checked.apply l (keywords "day")
  let l := Checked.apply l (keywords "today")
  let l := Checked.apply l (keywords "weekday")
  let l := Checked.apply l (keywords "am")
  let l := Checked.apply l (keywords "pm")
  Checked.apply l (DatePattern.listOfField members)

def ofJson : Json → Checked Localization
  | .obj members => ofMembers unnamed members
  | _ => .refuse [] (.notARecord "Localization")

end Localization

end DateShorthand
