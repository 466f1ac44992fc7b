import UpgradeGate.Dict
import UpgradeGate.Instant

/-!
Diagnoses, the structured outcome of one check: conditions, which say what the check found out and
how much it weighs for an upgrade, and annotations. The key of an annotation is a domain of two or
more labels, a slash and a name, as `check.opendatahub.io/target-version`.
-/

namespace UpgradeGate

/-! ### The keys of annotations -/

namespace AnnotationKey

def isLabelChar (c : Char) : Bool := c.isLower || c.isDigit

def isNameChar (c : Char) : Bool := c.isAlphanum

/-- What a key has come to after some of its characters. -/
inductive Place where
  /-- In front of a label; `dotted` says whether a dot is already passed. -/
  | beforeLabel (dotted : Bool)
  | inLabel (dotted : Bool)
  | afterDash (dotted : Bool)
  | beforeName
  | inName
  | afterMark
deriving DecidableEq, Repr

/-- The place after one more character, if a key may go on with it. -/
def Place.next (c : Char) : Place → Option Place
  | .beforeLabel dotted => if isLabelChar c then some (.inLabel dotted) else none
  | .inLabel dotted =>
    if isLabelChar c then some (.inLabel dotted)
    else if c = '-' then some (.afterDash dotted)
    else if c = '.' then some (.beforeLabel true)
    else if c = '/' ∧ dotted then some .beforeName
    else none
  | .afterDash dotted =>
    if isLabelChar c then some (.inLabel dotted)
    else if c = '-' then some (.afterDash dotted)
    else none
  | .beforeName => if isNameChar c then some .inName else none
  | .inName | .afterMark =>
    if isNameChar c then some .inName
    else if c = '-' ∨ c = '_' ∨ c = '.' then some .afterMark
    else none

def Place.after : Place → List Char → Option Place
  | place, [] => some place
  | place, c :: cs => (place.next c).bind (·.after cs)

def isValid (key : String) : Bool :=
  (Place.beforeLabel false).after key.toList == some .inName

end AnnotationKey

/-! ### Conditions -/

inductive Status where
  | holds
  | fails
  | unknown
deriving DecidableEq, Repr, Inhabited

/-- What a condition means for an upgrade: only `blocking` speaks against it. -/
inductive Impact where
  | none
  | advisory
  | blocking
deriving DecidableEq, Repr, Inhabited

namespace Status

def all : List Status := [holds, fails, unknown]

def text : Status → String
  | holds => "True"
  | fails => "False"
  | unknown => "Unknown"

/-- The impact of a condition that does not state another. -/
def impact : Status → Impact
  | holds => .none
  | fails => .blocking
  | unknown => .advisory

end Status

namespace Impact

def all : List Impact := [none, advisory, blocking]

def text : Impact → String
  | none => "none"
  | advisory => "advisory"
  | blocking => "blocking"

def weight : Impact → Nat
  | none => 0
  | advisory => 1
  | blocking => 2

def max (a b : Impact) : Impact := if a.weight < b.weight then b else a

end Impact

structure Condition where
  type : String
  status : Status
  reason : String
  message : String
  time : Instant
  impact : Impact := status.impact
  remediation : Option String := none
deriving DecidableEq, Inhabited

namespace Condition

def isTrue (condition : Condition) : Bool := condition.status == .holds

def isBlocking (condition : Condition) : Bool := condition.impact == .blocking

/-! The condition types and reasons that this library writes. -/

namespace Types

def validated : String := "Validated"
def available : String := "Available"
def configured : String := "Configured"
def compatible : String := "Compatible"
def migrationRequired : String := "MigrationRequired"

end Types

namespace Reasons

def resourceNotFound : String := "ResourceNotFound"
def componentNotConfigured : String := "ComponentNotConfigured"
def requirementsMet : String := "RequirementsMet"
def noImpactedWorkloads : String := "NoImpactedWorkloads"
def workloadsImpacted : String := "WorkloadsImpacted"
def featureRemoved : String := "FeatureRemoved"
def versionIncompatible : String := "VersionIncompatible"
def accessDenied : String := "APIAccessDenied"
def timeout : String := "APITimeout"
def unavailable : String := "APIUnavailable"
def executionFailed : String := "CheckExecutionFailed"
def invalidResult : String := "InvalidCheckResult"

end Reasons

end Condition

/-! ### Diagnoses -/

structure ImpactedObject where
  apiVersion : String := ""
  kind : String
  ns? : Option String := none
  name : String
  annotations : Dict String := ∅
deriving DecidableEq, Inhabited

structure Diagnosis where
  /-- The group, the kind and the name say which check the diagnosis is from. -/
  group : String
  kind : String
  name : String
  description : String := ""
  annotations : Dict String := ∅
  conditions : List Condition := []
  /-- Nothing until a check or a pipeline lists the objects, be it none. -/
  impacted? : Option (List ImpactedObject) := none
deriving DecidableEq, Inhabited

inductive Flaw where
  | emptyGroup
  | emptyKind
  | emptyName
  | noConditions
  | emptyConditionType (index : Nat)
  | emptyConditionReason (index : Nat)
  | invalidAnnotationKey (key : String)
deriving DecidableEq, Repr

def Flaw.message : Flaw → String
  | emptyGroup => "group must not be empty"
  | emptyKind => "kind must not be empty"
  | emptyName => "name must not be empty"
  | noConditions => "status.conditions must contain at least one condition"
  | emptyConditionType index => "condition " ++ toString index ++ ": type must not be empty"
  | emptyConditionReason index => "condition " ++ toString index ++ ": reason must not be empty"
  | invalidAnnotationKey key =>
    "invalid annotation key '" ++ key ++ "': expected domain/key format"

/-! The annotation keys that this library writes. -/

namespace AnnotationKey

def managementState : String := "component.opendatahub.io/management-state"
def targetVersion : String := "check.opendatahub.io/target-version"
def currentVersion : String := "check.opendatahub.io/current-version"
def impactedCount : String := "workload.opendatahub.io/impacted-count"

end AnnotationKey

namespace Diagnosis

/-- Puts a condition in the place of the first one of its type, or at the end. -/
def upsert (condition : Condition) : List Condition → List Condition
  | [] => [condition]
  | c :: cs => if c.type = condition.type then condition :: cs else c :: upsert condition cs

def setCondition (condition : Condition) (diagnosis : Diagnosis) : Diagnosis :=
  { diagnosis with conditions := upsert condition diagnosis.conditions }

def condition? (type : String) (diagnosis : Diagnosis) : Option Condition :=
  diagnosis.conditions.find? fun c => c.type = type

def annotate (key value : String) (diagnosis : Diagnosis) : Diagnosis :=
  { diagnosis with annotations := diagnosis.annotations.insert key value }

def annotationValue? (key : String) (diagnosis : Diagnosis) : Option String :=
  diagnosis.annotations.find? key

def setImpacted (objects : List ImpactedObject) (diagnosis : Diagnosis) : Diagnosis :=
  { diagnosis with impacted? := some objects }

def impacted (diagnosis : Diagnosis) : List ImpactedObject := diagnosis.impacted?.getD []

def impact (diagnosis : Diagnosis) : Impact :=
  diagnosis.conditions.foldl (fun impact c => impact.max c.impact) .none

def isBlocking (diagnosis : Diagnosis) : Bool := diagnosis.impact == .blocking

/-- The first flaw of conditions that are counted from `index` on. -/
def conditionFlaw? (index : Nat) : List Condition → Option Flaw
  | [] => none
  | c :: cs =>
    if c.type.isEmpty then some (.emptyConditionType index)
    else if c.reason.isEmpty then some (.emptyConditionReason index)
    else conditionFlaw? (index + 1) cs

def flaw? (diagnosis : Diagnosis) : Option Flaw :=
  if diagnosis.group.isEmpty then some .emptyGroup
  else if diagnosis.kind.isEmpty then some .emptyKind
  else if diagnosis.name.isEmpty then some .emptyName
  else if diagnosis.conditions.isEmpty then some .noConditions
  else match conditionFlaw? 0 diagnosis.conditions with
    | some flaw => some flaw
    | none =>
      (diagnosis.annotations.keys.find? fun key => !AnnotationKey.isValid key).map
        .invalidAnnotationKey

end Diagnosis

end UpgradeGate
