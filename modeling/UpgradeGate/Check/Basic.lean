import UpgradeGate.Cluster.Store
import UpgradeGate.Instant
import UpgradeGate.Problem
import UpgradeGate.Run.Step
import UpgradeGate.Text.Basic
import UpgradeGate.Version

/-!
Checks: independent rules that look at an upgrade and give a diagnosis. They come in groups.
-/

namespace UpgradeGate

/-! ### Groups -/

inductive CheckGroup where
  | component
  | service
  | workload
  | dependency
deriving DecidableEq, Repr, Inhabited

namespace CheckGroup

def all : List CheckGroup := [component, service, workload, dependency]

def name : CheckGroup → String
  | component => "component"
  | service => "service"
  | workload => "workload"
  | dependency => "dependency"

/-- The plural, which selects the group's checks. -/
def shortcut : CheckGroup → String
  | component => "components"
  | service => "services"
  | workload => "workloads"
  | dependency => "dependencies"

def ofShortcut? (pattern : String) : Option CheckGroup :=
  all.find? fun group => group.shortcut = pattern

/-- Reads a name or a plural in any case. -/
def ofName (name : String) : Except Problem CheckGroup :=
  let isMeant (group : CheckGroup) : Bool :=
    Text.isWordIgnoringCase group.name name || Text.isWordIgnoringCase group.shortcut name
  match all.find? isMeant with
  | some group => .ok group
  | none => .error (.configuration (.unknownGroup name))

end CheckGroup

/-! ### Upgrades -/

/-- What the cluster holds, the version it runs, and the one it is to run. -/
structure Upgrade where
  store : Store
  current? : Option Version := none
  target? : Option Version := none
  time : Instant
deriving Inhabited

namespace Upgrade

/-- Whether the target is known and of the given major version or a later one. -/
def targetsAtLeast (upgrade : Upgrade) (major : Nat) : Bool :=
  upgrade.target?.any fun version => major ≤ version.major.toNat

/--
Whether the upgrade leads from below a major version to it or to a later one. An unknown current
version counts as below.
-/
def crosses (upgrade : Upgrade) (major : Nat) : Bool :=
  upgrade.current?.all (fun version => version.major.toNat < major) && upgrade.targetsAtLeast major

def targetText (upgrade : Upgrade) : String := (upgrade.target?.map Version.text).getD ""

end Upgrade

/-! ### Checks -/

/-- What a check is called, and where its diagnoses belong. -/
structure CheckIdentity where
  id : String
  group : CheckGroup
  /-- The subject, as `kserve`. -/
  kind : String
  /-- The short name within the subject, as `serverless-removal`. -/
  type : String
  title : String
  description : String
deriving DecidableEq, Repr, Inhabited

namespace CheckIdentity

/-- An identity whose id is made of the group, the kind and the type. -/
def of (group : CheckGroup) (kind type title description : String) : CheckIdentity where
  id := group.shortcut ++ "." ++ kind ++ "." ++ type
  group := group
  kind := kind
  type := type
  title := title
  description := description

/-- A diagnosis that says no more than which check it is from. -/
def diagnosis (identity : CheckIdentity) : Diagnosis where
  group := identity.group.name
  kind := identity.kind
  name := identity.type
  description := identity.description

end CheckIdentity

structure Check (σ : Type) where
  identity : CheckIdentity
  /-- Whether the check has anything to say about the upgrade. -/
  applies : Upgrade → Step σ Bool
  diagnose : Upgrade → Step σ Diagnosis
  /-- The lines of a text report in place of the impacted objects. -/
  lines? : Option (Diagnosis → List String) := none

namespace Check

variable {σ : Type}

def id (check : Check σ) : String := check.identity.id

def group (check : Check σ) : CheckGroup := check.identity.group

instance : Inhabited (Check σ) := ⟨⟨default, fun _ => return false, fun _ => return default, none⟩⟩

end Check

end UpgradeGate
