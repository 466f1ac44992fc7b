import UpgradeGate.Check.Catalogue
import UpgradeGate.Pipeline

/-!
The built-in checks, which are about the next major version: it removes the serverless mode of
KServe and ModelMesh serving, and the platform manages version 2 of Service Mesh no longer from then
on.
-/

namespace UpgradeGate.Builtin

def nextMajor : Nat := 3

/-! ### KServe -/

namespace Kserve

variable {σ : Type}

def component : String := "kserve"

def deploymentMode : String := "serving.kserve.io/deploymentMode"

def rawDeployment : String := "RawDeployment"

/-- The condition of a component whose serving is in the given state, if it is in any. -/
def servingCondition (upgrade : Upgrade) (serving : Option String) : Condition :=
  if serving = some Platform.managed then {
    type := Condition.Types.compatible
    status := .fails
    reason := Condition.Reasons.featureRemoved
    message := "KServe serverless mode is enabled but is removed in " ++ upgrade.targetText
    time := upgrade.time
    remediation := "Migrate InferenceServices to RawDeployment and set " ++
      "spec.components.kserve.serving.managementState to Removed" }
  else {
    type := Condition.Types.compatible
    status := .holds
    reason := Condition.Reasons.requirementsMet
    message := "KServe serverless mode is disabled"
    time := upgrade.time }

def serverlessRemovalIdentity : CheckIdentity :=
  .of .component component "serverless-removal" "KServe Serverless Removal"
    "Validates that KServe serverless mode is disabled before upgrading"

def serverlessRemoval : Check σ where
  identity := serverlessRemovalIdentity
  applies upgrade := return upgrade.crosses nextMajor
  diagnose upgrade :=
    ComponentPipeline.run
      { identity := serverlessRemovalIdentity, component, upgrade,
        requiredStates := [Platform.managed] }
      fun request => do
        let serving ← Step.answer (request.field? ["serving", "managementState"])
        ComponentDraft.amend (Diagnosis.setCondition (servingCondition upgrade serving))

def isServerless (header : Header) : Bool :=
  header.annotationValue? deploymentMode ≠ some rawDeployment

def migrationCondition (upgrade : Upgrade) (count : Nat) : Condition :=
  if count = 0 then {
    type := Condition.Types.migrationRequired
    status := .holds
    reason := Condition.Reasons.noImpactedWorkloads
    message := "No serverless InferenceServices found"
    time := upgrade.time }
  else {
    type := Condition.Types.migrationRequired
    status := .fails
    reason := Condition.Reasons.workloadsImpacted
    message := toString count ++ " InferenceService(s) use serverless deployment mode"
    time := upgrade.time
    impact := .advisory
    remediation :=
      "Annotate each InferenceService with " ++ deploymentMode ++ ": " ++ rawDeployment }

def serverlessServicesIdentity : CheckIdentity :=
  .of .workload component "serverless-inferenceservices" "Serverless InferenceServices"
    "Lists InferenceServices that still use serverless deployment mode"

def serverlessServices : Check σ where
  identity := serverlessServicesIdentity
  applies upgrade := return upgrade.crosses nextMajor
  diagnose upgrade :=
    let services : WorkloadPipeline σ Header :=
      .ofHeaders serverlessServicesIdentity upgrade .inferenceService
    WorkloadPipeline.complete
      { services with
        keep := fun header => return isServerless header
        requiredComponents := [component] }
      fun request => return [migrationCondition upgrade request.items.length]

end Kserve

/-! ### ModelMesh serving -/

namespace ModelMesh

variable {σ : Type}

def component : String := "modelmeshserving"

def managedCondition (upgrade : Upgrade) (applications : String) : Condition where
  type := Condition.Types.compatible
  status := .fails
  reason := Condition.Reasons.featureRemoved
  message := "ModelMesh serving is managed in " ++ applications ++ " but is removed in " ++
    upgrade.targetText
  time := upgrade.time
  remediation := "Move ModelMesh models to KServe and set " ++
    "spec.components.modelmeshserving.managementState to Removed"

def unmanagedCondition (upgrade : Upgrade) (state : String) : Condition where
  type := Condition.Types.compatible
  status := .holds
  reason := Condition.Reasons.requirementsMet
  message := "ModelMesh serving is " ++ state
  time := upgrade.time

def removalIdentity : CheckIdentity :=
  .of .component component "removal" "ModelMesh Serving Removal"
    "Validates that ModelMesh serving is not managed before upgrading"

def removal : Check σ where
  identity := removalIdentity
  applies upgrade := return upgrade.crosses nextMajor
  diagnose upgrade :=
    ComponentPipeline.run { identity := removalIdentity, component, upgrade } fun request => do
      if request.state = Platform.managed then
        let applications ← request.applicationsNamespace
        ComponentDraft.amend (Diagnosis.setCondition (managedCondition upgrade applications))
      else
        ComponentDraft.amend (Diagnosis.setCondition (unmanagedCondition upgrade request.state))

end ModelMesh

/-! ### Service Mesh -/

namespace ServiceMesh

variable {σ : Type}

def versionKey : String := "maistra.io/version"

/-- Notes the version of a control plane on the impacted object that stands for it. -/
def annotated (plane : Object) (object : ImpactedObject) : Except ReadError ImpactedObject := do
  match ← plane.text? ["spec", "version"] with
  | some version =>
    return { object with annotations := object.annotations.insert versionKey version }
  | none => return object

def planesCondition (upgrade : Upgrade) (planes : List Object) : Condition :=
  if planes.isEmpty then {
    type := Condition.Types.compatible
    status := .holds
    reason := Condition.Reasons.requirementsMet
    message := "No ServiceMeshControlPlane found"
    time := upgrade.time }
  else {
    type := Condition.Types.compatible
    status := .fails
    reason := Condition.Reasons.versionIncompatible
    message := "ServiceMeshControlPlane(s) " ++ ", ".intercalate (planes.map Object.name) ++
      " will no longer be managed by the platform"
    time := upgrade.time
    impact := .advisory
    remediation := "Plan the migration of these control planes to Service Mesh v3" }

/-- A control plane with its version, in a text report. -/
def planeLine (object : ImpactedObject) : String :=
  "control plane " ++ object.ns?.getD "-" ++ "/" ++ object.name ++ " (version " ++
    (object.annotations.find? versionKey).getD "unknown" ++ ")"

def identity : CheckIdentity :=
  .of .dependency "servicemesh" "operator-v2" "Service Mesh v2 Control Planes"
    "Reports ServiceMeshControlPlanes that will no longer be managed by the platform"

def controlPlanes : Check σ where
  identity := identity
  applies upgrade := return upgrade.targetsAtLeast nextMajor
  diagnose upgrade :=
    (WorkloadPipeline.ofObjects identity upgrade .serviceMeshControlPlane).run fun request => do
      let impacted ← Step.answer
        ((request.items.zip request.impactedObjects).mapM fun (plane, object) =>
          annotated plane object)
      Step.amend fun diagnosis =>
        (diagnosis.setCondition (planesCondition upgrade request.items)).setImpacted impacted
  lines? := some fun diagnosis => diagnosis.impacted.map planeLine

end ServiceMesh

/-! ### All built-in checks -/

variable {σ : Type}

def checks : List (Check σ) :=
  [Kserve.serverlessRemoval, ModelMesh.removal, Kserve.serverlessServices,
    ServiceMesh.controlPlanes]

/-- Adds the built-in checks to a catalogue, up to the first whose id is taken. -/
def register (catalogue : Catalogue σ) : Except Problem Unit × Catalogue σ :=
  catalogue.registerAll checks

end UpgradeGate.Builtin
