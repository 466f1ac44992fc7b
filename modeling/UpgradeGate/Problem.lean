import UpgradeGate.Cluster.Object
import UpgradeGate.Diagnosis.Basic

/-!
What may go wrong, apart from what checks find out about a cluster.
-/

namespace UpgradeGate

/-- What is wrong with settings or with the shape of a snapshot. -/
inductive Misconfiguration where
  | unknownGroup (name : String)
  | unsupportedVersion (version : String)
  | itemsNotList
  | notObjects
  /-- The snapshot's item at the index has no API version or no kind. -/
  | unidentifiedItem (index : Nat)
  | other (message : String)
deriving DecidableEq, Repr

def settingsVersion : String := "1"

def Misconfiguration.message : Misconfiguration → String
  | unknownGroup name => "Unknown check group: " ++ name
  | unsupportedVersion version =>
    "Unsupported config version '" ++ version ++ "'. Only version '" ++ settingsVersion ++
      "' is supported."
  | itemsNotList => "snapshot 'items' must be a list"
  | notObjects => "snapshot must be a list of objects"
  | unidentifiedItem index => "snapshot item " ++ toString index ++ " has no apiVersion/kind"
  | other message => message

inductive Problem where
  | duplicateCheck (id : String)
  | invalidPattern (pattern : String)
  | resource (error : ReadError)
  | invalidResult (flaw : Flaw)
  | invalidVersion (value : String)
  | configuration (cause : Misconfiguration)
  | unreadableFile (path : String)
  | io (message : String)
  | tomlText (message : String)
  | jsonText (message : String)
  | yamlText (message : String)
  | check (message : String)
deriving DecidableEq, Repr

namespace Problem

def message : Problem → String
  | duplicateCheck id => "Check with ID '" ++ id ++ "' is already registered"
  | invalidPattern pattern => "Invalid check pattern: " ++ pattern
  | resource error => error.message
  | invalidResult flaw => "Invalid diagnostic result: " ++ flaw.message
  | invalidVersion value => "Invalid version '" ++ value ++ "'"
  | configuration cause => "Configuration error: " ++ cause.message
  | unreadableFile path => "Failed to read file: " ++ path
  | io message => "IO error: " ++ message
  | tomlText message => "TOML parse error: " ++ message
  | jsonText message => "JSON error: " ++ message
  | yamlText message => "YAML error: " ++ message
  | check message => message

def readErrorKind? : Problem → Option ReadError.Kind
  | resource error => some error.kind
  | _ => none

end Problem

/-- What the parsers of the three formats say of the texts that they refuse. -/
structure ParserMessages where
  toml : String → String
  json : String → String
  yaml : String → String

/-- Mistakes in the use of the library that stop a program. -/
inductive Crash where
  | duplicateCheck (id : String)
  /-- A deadline lies beyond the times that the clock can show. -/
  | deadlineOverflow
deriving DecidableEq, Repr

def Crash.message : Crash → String
  | duplicateCheck id => (Problem.duplicateCheck id).message
  | deadlineOverflow => "overflow when adding duration to instant"

end UpgradeGate
