import DateShorthand.Text.Basic

/-!
# Command lines

The arguments of the program: first the name of a command, then its options and operands in any
order. A long option may carry its value after an equals sign, a short one directly; after `--`
everything is an operand.
-/

namespace DateShorthand

/-- An option: its names, with their dashes, and whether it takes a value. -/
structure OptionSpec where
  names : List Text
  takesValue : Bool
deriving DecidableEq, Repr

/-- What was given: options with their values, in order, and operands. An option is known by its
first name. -/
structure Given where
  options : List (Text × Text)
  operands : List Text
deriving DecidableEq, Repr

namespace Given

def withOption (name value : Text) (g : Given) : Given :=
  { g with options := (name, value) :: g.options }

def withOperand (operand : Text) (g : Given) : Given :=
  { g with operands := operand :: g.operands }

/-- The value given last. -/
def value? (g : Given) (name : Text) : Option Text := g.options.reverse.lookup name

/-- The value given last, unless it is empty. -/
def nonEmpty? (g : Given) (name : Text) : Option Text :=
  (g.value? name).filter fun t => !t.isEmpty

def has (g : Given) (name : Text) : Bool := (g.value? name).isSome

end Given

namespace OptionSpec

def key (o : OptionSpec) : Text := o.names.headD []

def find? (specs : List OptionSpec) (name : Text) : Option OptionSpec :=
  specs.find? (·.names.contains name)

/-- The name and the value of an argument with an equals sign. -/
def splitValue (argument : Text) : Text × Option Text :=
  match argument.dropWhile (· != '=') with
  | '=' :: value => (argument.takeWhile (· != '='), some value)
  | _ => (argument, none)

def isLong : Text → Bool
  | '-' :: '-' :: _ => true
  | _ => false

/-- The short options in an argument, without its dash: flags, and perhaps at the end one that takes
a value, with what is left of the argument. -/
def cluster? (specs : List OptionSpec) : Text → Option (List Text × Option (Text × Text))
  | [] => some ([], none)
  | c :: rest =>
    match find? specs ['-', c] with
    | none => none
    | some spec =>
      if spec.takesValue then some ([], some (spec.key, rest))
      else (cluster? specs rest).map fun (flags, last) => (spec.key :: flags, last)

/-- An argument that begins with a dash: flags, and perhaps an option whose value is there or is the
next argument. -/
def read? (specs : List OptionSpec) (argument : Text) :
    Option (List Text × Option (Text × Option Text)) :=
  let (name, value) := splitValue argument
  match (find? specs name).filter fun _ => isLong name with
  | some spec =>
    if spec.takesValue then some ([], some (spec.key, value))
    else if value.isSome then none
    else some ([spec.key], none)
  | none =>
    if isLong argument then none
    else (cluster? specs (argument.drop 1)).map fun (flags, last) =>
      (flags, last.map fun (key, rest) => (key, if rest.isEmpty then none else some rest))

/-- Sorts the arguments of a command. -/
def sort? (specs : List OptionSpec) : List Text → Option Given
  | [] => some ⟨[], []⟩
  | argument :: rest =>
    if argument = ['-', '-'] then some ⟨[], rest⟩
    else if argument.head? = some '-' ∧ 1 < argument.length then
      match read? specs argument with
      | none => none
      | some (flags, last) =>
        let withFlags := fun (g : Given) => flags.foldr (Given.withOption · []) g
        match last, rest with
        | none, rest => (sort? specs rest).map withFlags
        | some (key, some value), rest =>
          (sort? specs rest).map fun g => withFlags (g.withOption key value)
        | some (key, none), value :: rest =>
          (sort? specs rest).map fun g => withFlags (g.withOption key value)
        | some (_, none), [] => none
    else (sort? specs rest).map (·.withOperand argument)

end OptionSpec

/-! ## Commands -/

inductive Command where
  /-- Resolve a shortcut. Options that are empty count as not given. -/
  | parse (shortcut : Text) (locale reference defaultTime : Option Text) (json : Bool)
      (config : Text) (verbose : Bool)
  | locales (json : Bool)
  | configInit (config : Text) (locale defaultTime : Option Text)
  | configShow (config : Text)
  | configSet (key value config : Text)
  | configValidate (config : Text)
deriving DecidableEq, Repr

namespace Command

/-- Where the settings file lies below the home directory. -/
def configBelowHome : Text := ".dateshortcut/config.json"

def parseOptions : List OptionSpec :=
  [⟨["--locale", "-l"], true⟩, ⟨["--from", "-f"], true⟩, ⟨["--default-time", "-t"], true⟩,
   ⟨["--json", "-j"], false⟩, ⟨["--config"], true⟩, ⟨["--verbose", "-v"], false⟩]

def localesOptions : List OptionSpec := [⟨["--json", "-j"], false⟩]

def initOptions : List OptionSpec :=
  [⟨["--config-path"], true⟩, ⟨["--locale"], true⟩, ⟨["--default-time"], true⟩]

def configOptions : List OptionSpec := [⟨["--config-path"], true⟩]

/-- A command of the `config` group. -/
def ofConfig? (home : Text) (name : Text) (arguments : List Text) : Option Command :=
  let path := fun (g : Given) => (g.value? "--config-path").getD home
  if name = ("init" : Text) then do
    let g ← OptionSpec.sort? initOptions arguments
    if g.operands.isEmpty then
      some (.configInit (path g) (g.nonEmpty? "--locale") (g.nonEmpty? "--default-time"))
    else none
  else if name = ("show" : Text) then do
    let g ← OptionSpec.sort? configOptions arguments
    if g.operands.isEmpty then some (.configShow (path g)) else none
  else if name = ("set" : Text) then do
    let g ← OptionSpec.sort? configOptions arguments
    match g.operands with
    | [key, value] => some (.configSet key value (path g))
    | _ => none
  else if name = ("validate" : Text) then do
    let g ← OptionSpec.sort? configOptions arguments
    if g.operands.isEmpty then some (.configValidate (path g)) else none
  else none

def dropDashes : List Text → List Text
  | ['-', '-'] :: rest => rest
  | arguments => arguments

/-- The command that the arguments ask for. `home` is the settings file when none is named. -/
def ofArguments? (home : Text) (arguments : List Text) : Option Command :=
  match dropDashes arguments with
  | [] => none
  | name :: arguments =>
    if name = ("parse" : Text) then do
      let g ← OptionSpec.sort? parseOptions arguments
      match g.operands with
      | [shortcut] =>
        some (.parse shortcut (g.nonEmpty? "--locale") (g.nonEmpty? "--from")
          (g.nonEmpty? "--default-time") (g.has "--json") ((g.value? "--config").getD home)
          (g.has "--verbose"))
      | _ => none
    else if name = ("locales" : Text) then do
      let g ← OptionSpec.sort? localesOptions arguments
      if g.operands.isEmpty then some (.locales (g.has "--json")) else none
    else if name = ("config" : Text) then
      match dropDashes arguments with
      | [] => none
      | name :: arguments => ofConfig? home name arguments
    else none

/-- The settings file that the command is about. -/
def config? : Command → Option Text
  | parse _ _ _ _ _ config _ => some config
  | locales _ => none
  | configInit config _ _ => some config
  | configShow config => some config
  | configSet _ _ config => some config
  | configValidate config => some config

end Command

end DateShorthand
