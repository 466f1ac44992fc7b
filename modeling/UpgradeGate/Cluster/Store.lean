import UpgradeGate.Cluster.Object
import UpgradeGate.Problem
import UpgradeGate.Text.Basic
import UpgradeGate.Version

/-!
The objects of a cluster by their type, how they are read, and what they say about the platform that
the cluster runs. Every reading counts the calls that it makes of the store, also when it fails.
-/

namespace UpgradeGate

/-- The group and the kind of a type, whatever its version. -/
structure TypeKey where
  group : String
  kind : String
deriving DecidableEq, Repr

def ResourceType.key (type : ResourceType) : TypeKey := ⟨type.group, type.kind⟩

/-- The group of an object is what its API version has in front of its last slash. -/
def Object.typeKey (object : Object) : TypeKey :=
  match Text.splitLast? '/' object.apiVersion.toList with
  | some (group, _) => ⟨String.ofList group, object.kind⟩
  | none => ⟨"", object.kind⟩

/-- The cluster: the types it is known to serve, its objects, and the types that it fails for. -/
structure Store where
  served : List TypeKey := []
  /-- In the order in which they came. -/
  objects : List Object := []
  /-- The latest failure of a type stands first. -/
  failures : List (TypeKey × ReadError) := []
deriving Inhabited

/-- Something read, or an error, with the number of calls so far. -/
abbrev Reading := ExceptT ReadError (StateM Nat)

namespace Store

def register (type : ResourceType) (store : Store) : Store :=
  { store with served := type.key :: store.served }

/-- Adds an object; its type is served from then on. -/
def insert (object : Object) (store : Store) : Store :=
  { store with objects := store.objects ++ [object] }

/-- Lets every call for a type fail. -/
def failWith (type : ResourceType) (error : ReadError) (store : Store) : Store :=
  { store with failures := (type.key, error) :: store.failures }

def serves (key : TypeKey) (store : Store) : Bool :=
  store.served.contains key || store.objects.any fun object => object.typeKey = key

def answer (store : Store) (type : ResourceType) : Except ReadError (List Object) :=
  match store.failures.lookup type.key with
  | some error => .error error
  | none =>
    if store.serves type.key then
      .ok (store.objects.filter fun object => object.typeKey = type.key)
    else .error (.ofUnknownType type)

/-- Lists the objects of a type, which is one call. -/
def list (store : Store) (type : ResourceType) : Reading (List Object) := do
  modify (· + 1)
  store.answer type

def listHeaders (store : Store) (type : ResourceType) : Reading (List Header) := do
  return (← store.list type).map Object.header

def get (store : Store) (type : ResourceType) (name : String) (ns? : Option String) :
    Reading Object := do
  let objects ← store.list type
  match objects.find? fun object => object.name = name ∧ object.ns? = ns? with
  | some object => return object
  | none => throw (.ofNotFound type name ns?)

end Store

/-- Takes a type that is not served for one without objects. -/
def Reading.orEmpty (reading : Reading (List α)) : Reading (List α) :=
  tryCatch reading fun error => if error.isUnknownType then return [] else throw error

/-- The first object of a type of which there should be only one. -/
def Store.singleton? (store : Store) (type : ResourceType) : Reading (Option Object) := do
  return (← (store.list type).orEmpty).head?

/-! ### The platform -/

namespace Platform

def managed : String := "Managed"

def removed : String := "Removed"

def defaultNamespace : String := "opendatahub"

def cluster? (store : Store) : Reading (Option Object) :=
  store.singleton? .dataScienceCluster

/-- The management state of a component; one that has none counts as removed. -/
def componentState (cluster : Object) (component : String) : Except ReadError String :=
  return (← cluster.text? ["spec", "components", component, "managementState"]).getD removed

def applicationsNamespace (store : Store) : Reading String := do
  match ← store.singleton? .dscInitialization with
  | none => throw (.ofNotFound .dscInitialization "default-dsci" none)
  | some initialization =>
    match ← initialization.text? ["spec", "applicationsNamespace"] with
    | none => return defaultNamespace
    | some ns => return if ns.isEmpty then defaultNamespace else ns

def version (value : String) : Except Problem Version :=
  match Version.ofString? value with
  | some version => .ok version
  | none => .error (.invalidVersion value)

def reportedVersion? (store : Store) : Reading (Option String) := do
  match ← cluster? store with
  | none => return none
  | some cluster =>
    return (← cluster.text? ["status", "release", "version"]).filter fun text => !text.isEmpty

def version? (store : Store) : ExceptT Problem (StateM Nat) (Option Version) := do
  match ← (reportedVersion? store).adapt Problem.resource with
  | none => return none
  | some text => return some (← version text)

end Platform

end UpgradeGate
