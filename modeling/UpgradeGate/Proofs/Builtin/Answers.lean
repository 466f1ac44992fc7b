import UpgradeGate.Builtin
import UpgradeGate.Proofs.Cluster.Listing
import UpgradeGate.Proofs.Pipeline.Component
import UpgradeGate.Proofs.Pipeline.Workload
import UpgradeGate.Proofs.Run.Answers

/-!
# What the built-in checks answer

Each of the built-in checks is a pipeline with a simple check: it comes to one condition, or writes
the diagnosis in one go. So each has an answer that hangs on the upgrade alone.
-/

namespace UpgradeGate.Builtin

variable {σ : Type} (upgrade : Upgrade)

namespace Kserve

abbrev servingPipeline : ComponentPipeline where
  identity := serverlessRemovalIdentity
  component := component
  upgrade := upgrade
  requiredStates := [Platform.managed]

def servingVerdict (request : ComponentRequest) : Except ReadError Condition :=
  (request.field? ["serving", "managementState"]).map (servingCondition upgrade)

def servingAnswer : Answer := (servingPipeline upgrade).answer (servingVerdict upgrade)

theorem answers_serverlessRemoval (hcrosses : upgrade.crosses nextMajor = true) :
    (serverlessRemoval : Check σ).Answers upgrade (servingAnswer upgrade) where
  applies_run state := congrArg (fun applies => (Except.ok applies, state)) hcrosses
  diagnose_run := by
    dsimp only [serverlessRemoval, servingAnswer]
    -- To unfold the run of the pipeline here would take long and is never needed.
    with_reducible
      refine (servingPipeline upgrade).run_of_concludes ⟨fun request state _ => ?_⟩
    unfold servingVerdict
    rw [Effects.run_bind, Step.run_answer]
    cases request.field? ["serving", "managementState"] with
    | error error => exact ⟨0, state.notes.2, rfl, by simp [Except.map]⟩
    | ok serving =>
        refine ⟨0, _, rfl, ?_⟩
        rintro _ ⟨⟩
        rfl

abbrev servicesPipeline : WorkloadPipeline σ Header :=
  { (.ofHeaders serverlessServicesIdentity upgrade .inferenceService :
      WorkloadPipeline σ Header) with
    keep := fun header => return isServerless header
    requiredComponents := [component] }

/-- The headers of the services that still use the serverless mode. -/
def services : Except ReadError (List Header) :=
  ((upgrade.store.listing .inferenceService).map (List.map Object.header)).map
    (List.filter isServerless)

def writeServices (request : WorkloadRequest Header) : Except ReadError (Diagnosis → Diagnosis) :=
  .ok (Diagnosis.setCondition (migrationCondition upgrade request.items.length))

variable (σ) in
def servicesAnswer : Answer :=
  (servicesPipeline upgrade : WorkloadPipeline σ Header).answer (services upgrade)
    (writeServices upgrade)

theorem lists_services : (servicesPipeline upgrade : WorkloadPipeline σ Header).Lists
    (services upgrade) :=
  WorkloadPipeline.lists_of_run (Store.orEmpty_listHeaders_run upgrade.store .inferenceService) rfl

/-- The check answers so whether or not it applies. -/
theorem serverlessServices_run (state : RunState σ) :
    ∃ calls : Nat, (serverlessServices.diagnose upgrade).run.run state =
      ((servicesAnswer σ upgrade).mapError .resource, state.counting calls) := by
  revert state
  dsimp only [serverlessServices, servicesAnswer]
  unfold WorkloadPipeline.complete
  with_reducible
    refine WorkloadPipeline.run_of_writes (lists_services upgrade) ⟨fun request state => ?_⟩
  refine ⟨_, rfl, ?_⟩
  rintro _ ⟨⟩
  rfl

theorem answers_serverlessServices (hcrosses : upgrade.crosses nextMajor = true) :
    (serverlessServices : Check σ).Answers upgrade (servicesAnswer σ upgrade) where
  applies_run state := congrArg (fun applies => (Except.ok applies, state)) hcrosses
  diagnose_run := serverlessServices_run upgrade

end Kserve

namespace ModelMesh

abbrev removalPipeline : ComponentPipeline where
  identity := removalIdentity
  component := component
  upgrade := upgrade

def removalVerdict (request : ComponentRequest) : Except ReadError Condition :=
  if request.state = Platform.managed then
    (Platform.applications request.upgrade.store).map (managedCondition upgrade)
  else .ok (unmanagedCondition upgrade request.state)

def removalAnswer : Answer := (removalPipeline upgrade).answer (removalVerdict upgrade)

theorem answers_removal (hcrosses : upgrade.crosses nextMajor = true) :
    (removal : Check σ).Answers upgrade (removalAnswer upgrade) where
  applies_run state := congrArg (fun applies => (Except.ok applies, state)) hcrosses
  diagnose_run := by
    dsimp only [removal, removalAnswer]
    with_reducible
      refine (removalPipeline upgrade).run_of_concludes ⟨fun request state hfirst => ?_⟩
    unfold removalVerdict
    split
    · rw [Effects.run_bind, request.applicationsNamespace_run hfirst]
      cases Platform.applications request.upgrade.store with
      | error error => exact ⟨1, _, rfl, by simp [Except.map]⟩
      | ok applications =>
          refine ⟨1, _, rfl, ?_⟩
          rintro _ ⟨⟩
          rfl
    · refine ⟨0, _, rfl, ?_⟩
      rintro _ ⟨⟩
      rfl

end ModelMesh

namespace ServiceMesh

abbrev planesPipeline : WorkloadPipeline σ Object :=
  .ofObjects identity upgrade .serviceMeshControlPlane

/-- The control planes, with their versions, as impacted objects. -/
def impactedPlanes (request : WorkloadRequest Object) : Except ReadError (List ImpactedObject) :=
  (request.items.zip request.impactedObjects).mapM fun (plane, object) => annotated plane object

def writePlanes (request : WorkloadRequest Object) : Except ReadError (Diagnosis → Diagnosis) :=
  (impactedPlanes request).map fun impacted diagnosis =>
    (diagnosis.setCondition (planesCondition upgrade request.items)).setImpacted impacted

variable (σ) in
def planesAnswer : Answer :=
  (planesPipeline upgrade : WorkloadPipeline σ Object).answer
    (upgrade.store.listing .serviceMeshControlPlane) (writePlanes upgrade)

theorem lists_planes : (planesPipeline upgrade : WorkloadPipeline σ Object).Lists
    (upgrade.store.listing .serviceMeshControlPlane) := by
  have hlists : (planesPipeline upgrade : WorkloadPipeline σ Object).Lists
      ((upgrade.store.listing .serviceMeshControlPlane).map (List.filter fun _ => true)) :=
    WorkloadPipeline.lists_of_run (Store.orEmpty_list_run upgrade.store .serviceMeshControlPlane)
      rfl
  cases hlisting : upgrade.store.listing .serviceMeshControlPlane with
  | error error => simpa [hlisting, Except.map] using hlists
  | ok planes => simpa [hlisting, Except.map] using hlists

theorem controlPlanes_run (state : RunState σ) :
    ∃ calls : Nat, (controlPlanes.diagnose upgrade).run.run state =
      ((planesAnswer σ upgrade).mapError .resource, state.counting calls) := by
  revert state
  dsimp only [controlPlanes, planesAnswer]
  with_reducible
    refine WorkloadPipeline.run_of_writes (lists_planes upgrade) ⟨fun request state => ?_⟩
  unfold writePlanes impactedPlanes
  rw [Effects.run_bind, Step.run_answer]
  cases (request.items.zip request.impactedObjects).mapM
    fun (plane, object) => annotated plane object with
  | error error => exact ⟨state.notes.2, rfl, by simp [Except.map]⟩
  | ok impacted =>
      refine ⟨_, rfl, ?_⟩
      rintro _ ⟨⟩
      rfl

theorem answers_controlPlanes (htargets : upgrade.targetsAtLeast nextMajor = true) :
    (controlPlanes : Check σ).Answers upgrade (planesAnswer σ upgrade) where
  applies_run state := congrArg (fun applies => (Except.ok applies, state)) htargets
  diagnose_run := controlPlanes_run upgrade

end ServiceMesh

end UpgradeGate.Builtin
