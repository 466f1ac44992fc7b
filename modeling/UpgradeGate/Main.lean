import Std.Time.DateTime.Timestamp
import UpgradeGate.Command.Run

/-!
The program: it reads the files that a command may look at, and prints and writes what comes out.
-/

namespace UpgradeGate.Command

def readFile? (path : String) : IO (Option String) := do
  try return some (← IO.FS.readFile path) catch _ => return none

def workingDirectory? : IO (Option String) := do
  try return some (← IO.currentDir).toString catch _ => return none

def settingsDirectory? : IO (Option String) := do
  match ← IO.getEnv "XDG_CONFIG_HOME" with
  | some directory =>
    if directory.startsWith "/" then return some (Settings.pathIn directory "odh-lint")
  | none => pure ()
  return (← IO.getEnv "HOME").map fun home => Settings.pathIn home ".config/odh-lint"

def Invocation.paths (invocation : Invocation) : List String :=
  match invocation.action with
  | .run options => options.snapshot :: options.settings?.toList
  | .list _ => []

def viewFor (invocation : Invocation) : IO FileView := do
  let bare : FileView :=
    { read := fun _ => none
      hasFile := fun _ => false
      workingDirectory? := ← workingDirectory?
      settingsDirectory? := ← settingsDirectory? }
  let found ← (invocation.paths ++ Settings.candidates bare).mapM fun path => do
    return (path, ← readFile? path, ← (System.mkFilePath [path]).pathExists)
  return { bare with
    read := fun path => (found.lookup path).bind Prod.fst
    hasFile := fun path => (found.lookup path).any Prod.snd }

/-- Colours are shown on terminals, unless the user has asked for none. -/
def showsColours : IO Bool := do
  return (← IO.getEnv "NO_COLOR").isNone && (← (← IO.getStdout).isTty)

def machineFor (invocation : Invocation) : IO Machine := do
  let time := (← Std.Time.Timestamp.now).toNanosecondsSinceUnixEpoch.val
  return {
    files := ← viewFor invocation
    messages := {
      toml := fun _ => "not a settings file"
      json := fun _ => "not a JSON document"
      yaml := fun _ => "not a YAML document" }
    order := .unchanged
    writeError? := fun _ => none
    showsColours := ← showsColours
    now := ← IO.monoNanosNow
    time := (Instant.ofNanoseconds? time.toNat).getD .millennium }

/-- Why a text cannot be written to a file, if it cannot. -/
def writeFile (path text : String) : IO (Option String) := do
  try
    IO.FS.writeFile path text
    return none
  catch error => return some (toString error)

/-- Does what a command does, up to a file that cannot be written. -/
def Effect.carryOut : Effect → IO (Option String)
  | print text => do
    IO.print text
    return none
  | complain text => do
    IO.eprint text
    return none
  | write path text => writeFile path text

def Outcome.carryOut (outcome : Outcome) : IO (Option String) :=
  outcome.effects.findSomeM? Effect.carryOut

/-- Carries out a command. A file that cannot be written makes it fail. -/
def carryOut (invocation : Invocation) : IO Ending := do
  let machine ← machineFor invocation
  let planned := outcome machine invocation
  let some message ← planned.carryOut | return planned.ending
  let refused := outcome { machine with writeError? := fun _ => some message } invocation
  let _ ← refused.carryOut
  return refused.ending

def usage : String :=
  "Usage: run --snapshot FILE [--config FILE] [--checks PATTERN]... [--group GROUP]\n" ++
  "           [--target-version VERSION] [--current-version VERSION]\n" ++
  "           [--format text|json|yaml] [--output FILE] [--timeout SECONDS]\n" ++
  "       list [--checks PATTERN]... [--group GROUP]\n" ++
  "Options: --verbose --quiet --color auto|always|never --no-config --help --version\n"

end UpgradeGate.Command

open UpgradeGate.Command

def main (arguments : List String) : IO UInt32 := do
  match Invocation.ofArguments arguments with
  | .error .shown =>
    IO.print usage
    return 0
  | .error .misuse =>
    IO.eprint usage
    return 2
  | .ok invocation =>
    let ending ← carryOut invocation
    if let .crashed crash := ending then IO.eprint (crash.message ++ "\n")
    return ending.exitCode.toUInt32
