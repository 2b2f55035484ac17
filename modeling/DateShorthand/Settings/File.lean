import DateShorthand.Json.Reader
import DateShorthand.Json.Writer
import DateShorthand.Settings.Basic

/-!
# Settings files

Settings are kept in a file as indented JSON. Setting up a file lays overrides over what it holds,
and the environment over those; nothing is written unless the outcome is valid.
-/

namespace DateShorthand

/-- Why there are no settings. -/
inductive SettingsFault where
  | fileMissing
  | malformed (what : Text)
  | number (f : NumberFault)
  | refused (f : RecordFault)
  /-- A member was to be set in a value that has none. -/
  | noMembers
  /-- A member was to be looked up in a value that has none. -/
  | noLookup
deriving DecidableEq, Repr

/-- Values of the environment, which win over everything else. -/
structure Environment where
  locale : Option Text
  defaultTime : Option Text
  fromDate : Option Text
deriving DecidableEq, Repr

/-- The members that the environment sets. -/
def Environment.members (e : Environment) : List (Text × Json) :=
  [("locale", e.locale), ("default_time", e.defaultTime), ("from_date", e.fromDate)].filterMap
    fun (name, value) => value.map fun t => (String.toList name, Json.str t)

namespace Settings

/-! ## The file -/

/-- Line ends of all kinds are read as one line break. -/
def unifyLines : Text → Text
  | '\r' :: '\n' :: rest => '\n' :: unifyLines rest
  | '\r' :: rest => '\n' :: unifyLines rest
  | c :: rest => c :: unifyLines rest
  | [] => []

/-- The text of a settings file. -/
def save (s : Settings) : Text := s.toJson.indented 0

/-- The settings in the text of a file, or in no file. -/
def load (r : Registry) : Option Text → Except SettingsFault Settings
  | none => .error .fileMissing
  | some file =>
    let file := unifyLines file
    match Json.read file with
    | .error (.malformed what position) =>
      .error (.malformed (Json.ReadFault.message file (.malformed what position)))
    | .error (.number f) => .error (.number f)
    | .ok j => (ofJson r j).mapError .refused

/-! ## Overrides -/

mutual

/-- Members of records are laid over members of the same name; every other value replaces. -/
def overlay : Json → Json → Json
  | .obj base, .obj members => .obj (overlayMembers base members)
  | _, value => value

def overlayMembers (base : List (Text × Json)) : List (Text × Json) → List (Text × Json)
  | [] => base
  | (key, value) :: rest =>
    let merged := match base.lookup key with
      | some old => overlay old value
      | none => value
    overlayMembers (Json.setMember key merged base) rest

end

/-- Sets the members of the environment in the member `parser`. -/
def overlayEnvironment (e : Environment) (members : List (Text × Json)) :
    Except SettingsFault (List (Text × Json)) :=
  match e.members, given? members "parser" with
  | [], _ => .ok members
  | set, some (.obj inner) =>
    .ok (Json.setMember "parser" (.obj (overlayMembers inner set)) members)
  | set, none => .ok (Json.setMember "parser" (.obj set) members)
  | _, some _ => .error .noMembers

/-- The members to lay over; what counts as nothing has none. -/
def overrideMembers : Json → Except SettingsFault (List (Text × Json))
  | .obj members => .ok members
  | value => if value.isBlank then .ok [] else .error .noLookup

/-- The settings from the file or the default ones, under the overrides and the environment. -/
def bootstrap (r : Registry) (file : Option Text) (overrides : Json) (e : Environment) :
    Except SettingsFault Settings := do
  let current ← if file.isSome then load r file else .ok default
  let members ← overrideMembers overrides
  let merged := match current.toJson with
    | .obj base => overlayMembers base members
    | _ => members
  let members ← overlayEnvironment e merged
  (ofJson r (.obj members)).mapError SettingsFault.refused

/-- Settings set up in a file, and what the file holds afterwards. -/
def setUp (r : Registry) (file : Option Text) (overrides : Json) (e : Environment) :
    Except SettingsFault Settings × Option Text :=
  match bootstrap r file overrides e with
  | .ok s => (.ok s, some s.save)
  | .error f => (.error f, file)

/-! ## One value -/

/-- Sets the value at the end of a path of member names; records on the way are made as needed. -/
def assign (value : Text) : List Text → Json → Except SettingsFault Json
  | [], j => .ok j
  | [key], .obj members => .ok (.obj (Json.setMember key (.str value) members))
  | [_], _ => .error .noMembers
  | key :: rest, .obj members => do
    let inner ← assign value rest ((members.lookup key).getD (.obj []))
    .ok (.obj (Json.setMember key inner members))
  | _ :: _ :: _, _ => .error .noLookup

end Settings

/-! ## Reports -/

/-- How many violations there are, and each of them. -/
def violationsText (found : List Violation) : Text :=
  Text.ofNat found.length
    ++ (if found.length = 1 then (" validation error for Settings" : Text)
        else (" validation errors for Settings" : Text))
    ++ found.flatMap fun v => '\n' :: v.text

namespace SettingsFault

def invalidReport (what : Text) : Report :=
  ⟨.invalidConfig, ("Invalid configuration: " : Text) ++ what, [], none⟩

/-- The report of settings that are there and invalid. -/
def report? : SettingsFault → Option Report
  | malformed what => some (invalidReport what)
  | refused (.violations found) => some (invalidReport (violationsText found))
  | _ => none

end SettingsFault

end DateShorthand
