import UpgradeGate.Check.Basic
import UpgradeGate.Cluster.Store

/-!
Pipelines, which do for a check what many checks have in common: they find the DataScienceCluster
that governs it, and give the diagnoses for which there is nothing to check. That a resource does
not exist, or that its type is not served, is such a diagnosis; only other errors stop a pipeline.
-/

namespace UpgradeGate

namespace Pipeline

/-- A diagnosis with the versions of the upgrade as annotations. -/
def seeded (identity : CheckIdentity) (upgrade : Upgrade) : Diagnosis :=
  let withTarget := match upgrade.target? with
    | some version => identity.diagnosis.annotate AnnotationKey.targetVersion version.text
    | none => identity.diagnosis
  match upgrade.current? with
  | some version => withTarget.annotate AnnotationKey.currentVersion version.text
  | none => withTarget

def resourceNotFound (identity : CheckIdentity) (upgrade : Upgrade) (type : ResourceType) :
    Diagnosis :=
  (seeded identity upgrade).setCondition {
    type := Condition.Types.available
    status := .fails
    reason := Condition.Reasons.resourceNotFound
    message := "No " ++ type.kind ++ " found in the cluster"
    time := upgrade.time
    impact := .none }

def componentNotConfigured (identity : CheckIdentity) (upgrade : Upgrade)
    (component state : String) : Diagnosis :=
  ((seeded identity upgrade).annotate AnnotationKey.managementState state).setCondition {
    type := Condition.Types.configured
    status := .fails
    reason := Condition.Reasons.componentNotConfigured
    message := "Component " ++ component ++ " is " ++ state ++ ", nothing to check"
    time := upgrade.time
    impact := .none }

/-- The resource that governs a check, or the diagnosis if there is nothing to check. -/
inductive Governing where
  | found (cluster : Object)
  | settled (diagnosis : Diagnosis)

variable {σ : Type}

def resolveCluster (identity : CheckIdentity) (upgrade : Upgrade) : Step σ Governing := do
  match ← Step.read (Platform.cluster? upgrade.store) with
  | some cluster => return .found cluster
  | none => return .settled (resourceNotFound identity upgrade .dataScienceCluster)

/-- Asks for a cluster in which not all of the components are removed, if there are any. -/
def resolveComponents (identity : CheckIdentity) (upgrade : Upgrade) (components : List String) :
    Step σ Governing := do
  match ← resolveCluster identity upgrade with
  | .settled diagnosis => return .settled diagnosis
  | .found cluster =>
    let states ← Step.answer (components.mapM (Platform.componentState cluster))
    if !states.isEmpty && states.all (· == Platform.removed) then
      return .settled (componentNotConfigured identity upgrade (", ".intercalate components)
        Platform.removed)
    return .found cluster

end Pipeline

/-! ### Checks that hang on the management state of one component -/

structure ComponentPipeline where
  identity : CheckIdentity
  component : String
  upgrade : Upgrade
  /-- The states in which there is something to check; if there are none, any state. -/
  requiredStates : List String := []

structure ComponentRequest where
  cluster : Object
  component : String
  state : String
  upgrade : Upgrade

structure ComponentDraft where
  diagnosis : Diagnosis
  /-- The applications' namespace, or why it cannot be read, once it has been asked for. -/
  ns? : Option (Except ReadError String) := none

namespace ComponentRequest

variable {σ : Type}

/-- The applications' namespace. The store is asked for it once; later answers are the same. -/
def applicationsNamespace (request : ComponentRequest) : Step (σ × ComponentDraft) String := do
  match (← Step.part).ns? with
  | some known => Step.answer known
  | none =>
    let found ← Step.attempt (Platform.applicationsNamespace request.upgrade.store)
    Step.amend fun draft => { draft with ns? := some found }
    Step.answer found

def field? (request : ComponentRequest) (path : List String) : Except ReadError (Option String) :=
  request.cluster.text? (["spec", "components", request.component] ++ path)

end ComponentRequest

namespace ComponentDraft

variable {σ : Type}

def amend (change : Diagnosis → Diagnosis) : Step (σ × ComponentDraft) Unit :=
  Step.amend fun draft => { draft with diagnosis := change draft.diagnosis }

end ComponentDraft

namespace ComponentPipeline

variable {σ : Type}

def isRequired (pipeline : ComponentPipeline) (state : String) : Bool :=
  pipeline.requiredStates.isEmpty || pipeline.requiredStates.contains state

def run (pipeline : ComponentPipeline)
    (validate : ComponentRequest → Step (σ × ComponentDraft) Unit) : Step σ Diagnosis := do
  let ⟨identity, component, upgrade, _⟩ := pipeline
  match ← Pipeline.resolveCluster identity upgrade with
  | .settled diagnosis => return diagnosis
  | .found cluster =>
    let state ← Step.answer (Platform.componentState cluster component)
    if !pipeline.isRequired state then
      return Pipeline.componentNotConfigured identity upgrade component state
    let diagnosis :=
      (Pipeline.seeded identity upgrade).annotate AnnotationKey.managementState state
    let (_, draft) ← Step.within { diagnosis } (validate { cluster, component, state, upgrade })
    return draft.diagnosis

end ComponentPipeline

/-!
### Checks that report on the objects of one type

They see the whole of the objects or no more than their headers.
-/

class HasHeader (α : Type) where
  header : α → Header

instance : HasHeader Object := ⟨Object.header⟩

instance : HasHeader Header := ⟨id⟩

/-- How a diagnosis lists an object, by its identity alone. -/
def Header.impacted (header : Header) : ImpactedObject where
  kind := header.kind
  ns? := header.ns?
  name := header.name

structure WorkloadPipeline (σ α : Type) where
  identity : CheckIdentity
  upgrade : Upgrade
  type : ResourceType
  list : Store → ResourceType → Reading (List α)
  keep : α → Step σ Bool := fun _ => return true
  /-- If all of these components are removed there is nothing to check. -/
  requiredComponents : List String := []

structure WorkloadRequest (α : Type) where
  items : List α
  type : ResourceType
  upgrade : Upgrade
  /-- The DataScienceCluster, if components are required. -/
  cluster? : Option Object

namespace WorkloadRequest

variable {α : Type} [HasHeader α]

def impactedObjects (request : WorkloadRequest α) : List ImpactedObject :=
  request.items.map fun item =>
    { (HasHeader.header item).impacted with
      apiVersion := request.type.apiVersion
      kind := request.type.kind }

end WorkloadRequest

namespace WorkloadPipeline

variable {σ α : Type}

def ofObjects (identity : CheckIdentity) (upgrade : Upgrade) (type : ResourceType) :
    WorkloadPipeline σ Object where
  identity := identity
  upgrade := upgrade
  type := type
  list := Store.list

def ofHeaders (identity : CheckIdentity) (upgrade : Upgrade) (type : ResourceType) :
    WorkloadPipeline σ Header where
  identity := identity
  upgrade := upgrade
  type := type
  list := Store.listHeaders

/-- The items that the check is about, in the order of the store. -/
def items (pipeline : WorkloadPipeline σ α) : Step σ (List α) := do
  let all ← Step.read (pipeline.list pipeline.upgrade.store pipeline.type).orEmpty
  all.filterM pipeline.keep

/-- The cluster if it is needed, or the diagnosis if there is nothing to check. -/
def governing (pipeline : WorkloadPipeline σ α) : Step σ (Except Diagnosis (Option Object)) := do
  if pipeline.requiredComponents.isEmpty then return .ok none
  match ← Pipeline.resolveComponents pipeline.identity pipeline.upgrade
      pipeline.requiredComponents with
  | .found cluster => return .ok (some cluster)
  | .settled diagnosis => return .error diagnosis

variable [HasHeader α]

/-- Lets the check write the diagnosis. If it lists no impacted objects, the items are listed. -/
def run (pipeline : WorkloadPipeline σ α)
    (validate : WorkloadRequest α → Step (σ × Diagnosis) Unit) : Step σ Diagnosis := do
  match ← pipeline.governing with
  | .error diagnosis => return diagnosis
  | .ok cluster? =>
    let items ← pipeline.items
    let diagnosis := (Pipeline.seeded pipeline.identity pipeline.upgrade).annotate
      AnnotationKey.impactedCount (toString items.length)
    let request := { items, type := pipeline.type, upgrade := pipeline.upgrade, cluster? }
    let (_, diagnosis) ← Step.within diagnosis (validate request)
    if diagnosis.impacted?.isNone then return diagnosis.setImpacted request.impactedObjects
    return diagnosis

/-- Lets the check give no more than the conditions. -/
def complete (pipeline : WorkloadPipeline σ α)
    (validate : WorkloadRequest α → Step σ (List Condition)) : Step σ Diagnosis :=
  pipeline.run fun request => do
    for condition in ← (validate request).outside do
      Step.amend (Diagnosis.setCondition condition)

end WorkloadPipeline

end UpgradeGate
