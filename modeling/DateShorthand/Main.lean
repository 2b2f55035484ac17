import DateShorthand.Command.Run
import Std.Time.DateTime.Timestamp

/-!
# The program

Reads the arguments, the environment, the clock and the settings file, runs the command, and
carries out what comes of it.
-/

namespace DateShorthand.Program

/-- The text of a file, if there is one. -/
def readFile? (path : String) : IO (Option Text) := do
  match ← (IO.FS.readFile path).toBaseIO with
  | .ok content => return some content.toList
  | .error (.noFileOrDirectory _ _ _) => return none
  | .error e => throw e

/-- The part of a path before its last slash. -/
def folder (path : Text) : Text := (path.reverse.dropWhile (· != '/')).reverse

def writeFile (path content : Text) : IO Unit := do
  if !(folder path).isEmpty then IO.FS.createDirAll (String.ofList (folder path))
  IO.FS.writeFile (String.ofList path) (String.ofList content)

def environmentText? (name : String) : IO (Option Text) :=
  return (← IO.getEnv name).map String.toList

def readEnvironment : IO Environment :=
  return ⟨← environmentText? "DATESHORTCUT_LOCALE", ← environmentText? "DATESHORTCUT_DEFAULT_TIME",
    ← environmentText? "DATESHORTCUT_FROM_DATE"⟩

/-- The settings file for want of another. -/
def homeConfig : IO Text := do
  match ← environmentText? "HOME" with
  | some home => return home ++ '/' :: Command.configBelowHome
  | none => return Command.configBelowHome

def now? : IO (Option Instant) := do
  let nanoseconds := (← Std.Time.Timestamp.now).toNanosecondsSinceUnixEpoch.val
  return Timestamp.ofMicroseconds? (nanoseconds / 1000)

/-- What the command finds. -/
def readWorld (command : Command) : IO World := do
  let file ← match command.config? with
    | some path => readFile? (String.ofList path)
    | none => pure none
  return ⟨Registry.builtin, file, ← readEnvironment, ← now?⟩

def usageText : String :=
  "Usage: dateshortcut parse TEXT | locales | config (init | show | set KEY VALUE | validate)"

/-- Leaves what the command leaves, and says what it says. -/
def finish (command : Command) (o : Outcome) : IO UInt32 := do
  if let some content := o.saved then writeFile (command.config?.getD []) content
  IO.print (String.ofList o.out.render)
  IO.eprint (String.ofList o.err)
  if let some c := o.crash then IO.eprintln (String.ofList c.message)
  if o.exit = 2 then IO.eprintln usageText
  return UInt32.ofNat o.exit

def run (arguments : List String) : IO UInt32 := do
  match Command.ofArguments? (← homeConfig) (arguments.map String.toList) with
  | none =>
    IO.eprintln usageText
    return 2
  | some command => finish command (command.run (← readWorld command))

end DateShorthand.Program

def main (arguments : List String) : IO UInt32 := DateShorthand.Program.run arguments
