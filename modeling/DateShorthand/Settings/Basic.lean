import DateShorthand.Calendar.Timestamp
import DateShorthand.Locale.Registry
import DateShorthand.Report.Basic
import DateShorthand.Shortcut.Resolver

/-!
# Settings

What a resolver is made from when nothing else is said: a locale tag, a default time and perhaps a
fixed reference. Settings are read from a record and written as one.
-/

namespace DateShorthand

structure Settings where
  locale : Text
  defaultTime : Option Text
  fromDate : Option Instant
deriving DecidableEq, Repr

namespace Settings

/-! ## Reading a record -/

def defaultLocale : Text := "en"

def failureMessage : Failure → Text
  | .fault f => f.message
  | .number f => f.message
  | .calendar _ => []

/-- A tag that is registered, trimmed and in lower case. -/
def localeOf (r : Registry) (place : List Place) : Json → Checked Text
  | .str tag =>
    match r.get tag with
    | .ok _ => .ok (Text.normalize tag)
    | .error f => .refuse place (.value f.message)
  | _ => .refuse place .notText

/-- A default time, trimmed; an empty one is none. -/
def defaultTimeOf (place : List Place) : Json → Checked (Option Text)
  | .null => .ok none
  | .str value =>
    if value.isEmpty then .ok none
    else match DefaultTime.parse value with
      | .ok _ => .ok (some (Text.trim value))
      | .error f => .refuse place (.value (failureMessage f))
  | _ => .refuse place .notText

def fromDateOf (place : List Place) : Json → Checked (Option Instant)
  | .null => .ok none
  | .str t =>
    match Timestamp.read t with
    | .ok i => .ok (some i)
    | .error reason => .refuse place (.dateMalformed reason)
  | .int n =>
    match Timestamp.ofSeconds n with
    | .ok i => .ok (some i)
    | .error reason => .refuse place (.instantMalformed reason)
  | _ => .refuse place .notAnInstant

/-- The check of a field, or its default when the field is missing. -/
def ofField {α : Type} (members : List (Text × Json)) (name : Text) (default : α)
    (check : List Place → Json → Checked α) : Checked α :=
  match given? members name with
  | none => .ok default
  | some value => check [.field name] value

def ofMembers (r : Registry) (members : List (Text × Json)) : Checked Settings :=
  let s := (ofField members "locale" defaultLocale (localeOf r)).map Settings.mk
  let s := Checked.apply s (ofField members "default_time" none defaultTimeOf)
  Checked.apply s (ofField members "from_date" none fromDateOf)

def default : Settings := ⟨defaultLocale, none, none⟩

/-- Settings stand in the member `parser` of a record; without it they are the default ones. -/
def ofJson (r : Registry) : Json → Checked Settings
  | .obj members =>
    match given? members "parser" with
    | none => .ok default
    | some (.obj inner) => Checked.under [.field "parser"] (ofMembers r inner)
    | some _ => .refuse [.field "parser"] (.notARecord "ParserSettings")
  | _ => .refuse [] (.notARecord "Settings")

/-! ## Writing a record -/

def optionalText (t : Option Text) : Json := (t.map Json.str).getD .null

def toJson (s : Settings) : Json :=
  .obj [("parser", .obj
    [("locale", .str s.locale), ("default_time", optionalText s.defaultTime),
     ("from_date", optionalText (s.fromDate.map Instant.isoZ))])]

/-! ## Making a resolver -/

/-- A resolver for a reference; the locale is looked up now. -/
def resolver (s : Settings) (r : Registry) (reference : Instant) : Except Failure Resolver := do
  let l ← (r.get s.locale).mapError Failure.fault
  Resolver.build l reference (s.defaultTime.getD [])

end Settings

end DateShorthand
