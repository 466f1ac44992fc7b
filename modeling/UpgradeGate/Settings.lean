import UpgradeGate.Check.Catalogue
import UpgradeGate.Cluster.Store
import UpgradeGate.Json.Basic
import UpgradeGate.Run.Execution
import UpgradeGate.Toml.Basic
import UpgradeGate.Toml.Reading

/-!
Settings of runs, all of which have values that need not be set. They come from a file in the
working directory, else from one in the user's directory for settings.
-/

namespace UpgradeGate

/-! ### What makes a run fail -/

/-- The least impact that makes a run fail. Problems make it fail in any case. -/
inductive FailOn where
  | blocking
  | advisory
  | never
deriving DecidableEq, Repr, Inhabited

namespace FailOn

def name : FailOn → String
  | blocking => "blocking"
  | advisory => "advisory"
  | never => "never"

def words : List (String × FailOn) := [blocking, advisory, never].map fun f => (f.name, f)

def isFailure (failOn : FailOn) (summary : Summary) : Bool :=
  summary.hasErrors ||
    match failOn with
    | blocking => summary.hasBlocking
    | advisory => summary.hasBlocking || 0 < summary.advisory
    | never => false

def ofToml? (toml : Toml) : Option FailOn := toml.word? words

/-- A word, alone or as the name of a null. -/
def ofJson? (json : Json) : Option FailOn :=
  match json with
  | .str word => words.lookup word
  | json =>
    match json.members.entries with
    | [(word, .null)] => words.lookup word
    | _ => none

end FailOn

/-! ### Settings -/

structure Settings where
  version? : Option String := none
  checks : List String := [Selector.wildcard]
  group? : Option String := none
  /-- The time a run may take; zero for any time. -/
  timeoutSeconds : Nat := 300
  failOn : FailOn := .blocking
  target? : Option String := none
deriving DecidableEq, Inhabited

namespace Settings

def timeout? (settings : Settings) : Option Nat :=
  if settings.timeoutSeconds = 0 then none else some settings.timeoutSeconds

def group (settings : Settings) : Except Problem (Option CheckGroup) :=
  settings.group?.mapM CheckGroup.ofName

def target (settings : Settings) : Except Problem (Option Version) :=
  settings.target?.mapM Platform.version

/-- Finds fault with a format version that is not supported, a group, or a target version. -/
def validate (settings : Settings) : Except Problem Unit := do
  if let some version := settings.version? then
    if version ≠ settingsVersion then throw (.configuration (.unsupportedVersion version))
  let _ ← settings.group
  let _ ← settings.target

def runFieldNames : List String := ["checks", "group", "timeout_secs", "fail_on"]

def withRun (settings : Settings) (run : Toml) : Option Settings := do
  let fields ← run.fields? runFieldNames
  return { settings with
    checks := ← Toml.field fields "checks" (Toml.list? Toml.str?) settings.checks
    group? := ← Toml.field fields "group" (·.str?.map some) settings.group?
    timeoutSeconds := ← Toml.field fields "timeout_secs" Toml.natural? settings.timeoutSeconds
    failOn := ← Toml.field fields "fail_on" FailOn.ofToml? settings.failOn }

def withVersions (settings : Settings) (versions : Toml) : Option Settings := do
  let fields ← versions.fields? ["target"]
  return { settings with
    target? := ← Toml.field fields "target" (·.str?.map some) settings.target? }

def ofToml? (toml : Toml) : Option Settings := do
  let fields ← toml.fields? ["version", "run", "versions"]
  let version? ← Toml.field fields "version" (·.str?.map some) none
  let settings : Settings := { version? }
  let settings ← Toml.field fields "run" settings.withRun settings
  Toml.field fields "versions" settings.withVersions settings

end Settings

/-! ### Where settings come from -/

structure FileView where
  read : String → Option String
  hasFile : String → Bool
  workingDirectory? : Option String
  settingsDirectory? : Option String

namespace Settings

def localName : String := ".odh-lint.toml"

def userName : String := "config.toml"

def pathIn (directory name : String) : String :=
  if directory.isEmpty || directory.endsWith "/" then directory ++ name
  else directory ++ "/" ++ name

def ofText (messages : ParserMessages) (text : String) : Except Problem Settings := do
  match (Toml.ofText? text).bind ofToml? with
  | none => throw (.tomlText (messages.toml text))
  | some settings =>
    settings.validate
    return settings

def loadFrom (messages : ParserMessages) (files : FileView) (path : String) :
    Except Problem Settings :=
  match files.read path with
  | some text => ofText messages text
  | none => .error (.unreadableFile path)

/-- The files that settings are looked for in, the first one first. -/
def candidates (files : FileView) : List String :=
  (files.workingDirectory?.map (pathIn · localName)).toList ++
    (files.settingsDirectory?.map (pathIn · userName)).toList

/-- Loads the first file that exists; without one the settings are those that need not be set. -/
def load (messages : ParserMessages) (files : FileView) : Except Problem Settings :=
  match (candidates files).find? files.hasFile with
  | some path => loadFrom messages files path
  | none => .ok {}

end Settings

end UpgradeGate
