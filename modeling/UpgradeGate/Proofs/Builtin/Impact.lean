import UpgradeGate.Proofs.Builtin.Answers

/-!
# What the built-in checks conclude

Each check concludes one condition from the fields that it reads. The two checks of components may
block the upgrade, and the two checks of workloads do not. Each of them fails if what it has to read
stands in the wrong form, and no other way as long as the store answers.
-/

namespace UpgradeGate.Builtin

variable {σ : Type} {upgrade : Upgrade}

namespace Kserve

/-- Where a cluster says in which state the serving of KServe is. -/
def servingPath : List String := ["spec", "components", "kserve", "serving", "managementState"]

theorem isRequired_servingPipeline (state : String) :
    (servingPipeline upgrade).isRequired state = true ↔ state = Platform.managed := by
  simp [ComponentPipeline.isRequired]

theorem isBlocking_servingCondition (serving? : Option String) :
    (servingCondition upgrade serving?).isBlocking = true ↔ serving? = some Platform.managed := by
  unfold servingCondition
  split
  next hmanaged => exact ⟨fun _ => hmanaged, fun _ => rfl⟩
  next hmanaged => exact ⟨nofun, fun h => absurd h hmanaged⟩

theorem exists_servingVerdict_iff (request : ComponentRequest) {holds : Condition → Prop} :
    (∃ condition, servingVerdict upgrade request = .ok condition ∧ holds condition) ↔
      ∃ serving?, request.field? ["serving", "managementState"] = .ok serving? ∧
        holds (servingCondition upgrade serving?) := by
  unfold servingVerdict
  cases request.field? ["serving", "managementState"] <;> simp [Except.map]

theorem exists_servingVerdict_error_iff (request : ComponentRequest) :
    (∃ error, servingVerdict upgrade request = .error error) ↔
      ∃ error, request.field? ["serving", "managementState"] = .error error := by
  unfold servingVerdict
  cases request.field? ["serving", "managementState"] <;> simp [Except.map]

theorem serverlessRemoval_has_iff {holds : Condition → Prop}
    (hidle : ∀ condition : Condition, condition.IsIdle → ¬ holds condition) :
    (servingAnswer upgrade).Has holds ↔
      ∃ cluster, upgrade.store.first? .dataScienceCluster = .ok (some cluster) ∧
        cluster.value.HasTextAt (Platform.statePath component) Platform.managed ∧
        ∃ serving?, cluster.text? servingPath = .ok serving? ∧
          holds (servingCondition upgrade serving?) := by
  rw [servingAnswer, ComponentPipeline.answer_has_iff _ hidle]
  refine exists_congr fun cluster => and_congr_right fun _ => ?_
  simp only [isRequired_servingPipeline, exists_servingVerdict_iff]
  exact Platform.exists_componentState_managed_iff

theorem serverlessRemoval_blocks_iff :
    (servingAnswer upgrade).Blocks ↔
      ∃ cluster, upgrade.store.first? .dataScienceCluster = .ok (some cluster) ∧
        cluster.value.HasTextAt (Platform.statePath component) Platform.managed ∧
        cluster.value.HasTextAt servingPath Platform.managed := by
  rw [Answer.blocks_iff_has, serverlessRemoval_has_iff fun _ => Condition.IsIdle.not_isBlocking]
  simp only [isBlocking_servingCondition, exists_eq_right, Object.text?_eq_ok_some_iff]

theorem serverlessRemoval_fails_iff :
    (servingAnswer upgrade).Fails ↔
      (∃ error, upgrade.store.first? .dataScienceCluster = .error error) ∨
      ∃ cluster, upgrade.store.first? .dataScienceCluster = .ok (some cluster) ∧
        (cluster.value.IsMalformedAt (Platform.statePath component) ∨
          cluster.value.HasTextAt (Platform.statePath component) Platform.managed ∧
          cluster.value.IsMalformedAt servingPath) := by
  rw [servingAnswer, ComponentPipeline.answer_fails_iff]
  refine or_congr_right (exists_congr fun cluster => and_congr_right fun _ => ?_)
  refine or_congr Platform.exists_componentState_eq_error_iff ?_
  simp only [isRequired_servingPipeline, exists_servingVerdict_error_iff]
  rw [Platform.exists_componentState_managed_iff]
  exact and_congr_right fun _ => Object.exists_text?_eq_error_iff

theorem isSound_serverlessRemoval : (servingAnswer upgrade).IsSound := by
  refine ComponentPipeline.isSound_answer _ (by dsimp only; decide) (by dsimp only; decide) ?_
  intro request condition hcondition
  unfold servingVerdict at hcondition
  cases hserving : request.field? ["serving", "managementState"] with
  | error error => simp [hserving, Except.map] at hcondition
  | ok serving? =>
      simp only [hserving, Except.map, Except.ok.injEq] at hcondition
      rw [← hcondition]
      unfold servingCondition
      split <;> exact ⟨by dsimp only; decide, by dsimp only; decide⟩

/-- As long as the services can be listed, their check fails only over the state of KServe. -/
theorem serverlessServices_fails_iff {objects : List Object}
    (hlisting : upgrade.store.listing .inferenceService = .ok objects) :
    (servicesAnswer σ upgrade).Fails ↔
      (∃ error, upgrade.store.first? .dataScienceCluster = .error error) ∨
      ∃ cluster, upgrade.store.first? .dataScienceCluster = .ok (some cluster) ∧
        cluster.value.IsMalformedAt (Platform.statePath component) := by
  have hlisted : ∀ error, services upgrade ≠ .error error := by
    simp [services, hlisting, Except.map]
  rw [servicesAnswer, WorkloadPipeline.answer_fails_iff,
    WorkloadPipeline.exists_opening_eq_error_iff, WorkloadPipeline.exists_required_eq_error_iff]
  simp [writeServices, hlisted, WorkloadPipeline.ofHeaders,
    Platform.exists_componentState_eq_error_iff]

theorem isSound_serverlessServices : (servicesAnswer σ upgrade).IsSound := by
  refine WorkloadPipeline.isSound_answer (by change component ≠ ""; decide)
    (by change "serverless-inferenceservices" ≠ ""; decide) ?_
  rintro request _ ⟨⟩ hdraft
  unfold migrationCondition
  split <;> exact hdraft.flaw?_setCondition (by dsimp only; decide) (by dsimp only; decide)

theorem required_servicesPipeline_iff {cluster? : Option Object} :
    (servicesPipeline upgrade : WorkloadPipeline σ Header).required = .ok (.ok cluster?) ↔
      ∃ cluster, cluster? = some cluster ∧
        upgrade.store.first? .dataScienceCluster = .ok (some cluster) ∧
        ∃ state, Platform.componentState cluster component = .ok state ∧
          state ≠ Platform.removed := by
  rw [WorkloadPipeline.required_eq_ok_iff (by simp)]
  refine exists_congr fun cluster => and_congr_right fun _ => ?_
  rw [Pipeline.governingComponents_eq_found_iff]
  refine and_congr Iff.rfl ?_
  rw [Traversal.mapM_cons]
  cases Platform.componentState cluster component with
  | error error => simp
  | ok state => simp [Except.map, pure, Except.pure]

theorem serverlessServices_has_iff {holds : Condition → Prop}
    (hidle : ∀ condition : Condition, condition.IsIdle → ¬ holds condition) :
    (servicesAnswer σ upgrade).Has holds ↔
      ∃ cluster, upgrade.store.first? .dataScienceCluster = .ok (some cluster) ∧
        (∃ state, Platform.componentState cluster component = .ok state ∧
          state ≠ Platform.removed) ∧
        ∃ found, services upgrade = .ok found ∧
          holds (migrationCondition upgrade found.length) := by
  have hconditions : ∀ request : WorkloadRequest Header,
      (((servicesPipeline upgrade : WorkloadPipeline σ Header).draft request).setCondition
        (migrationCondition upgrade request.items.length)).conditions =
      [migrationCondition upgrade request.items.length] := fun request =>
    Diagnosis.conditions_setCondition (WorkloadPipeline.conditions_draft _ request) _
  rw [servicesAnswer, WorkloadPipeline.answer_has_iff hidle, WorkloadPipeline.exists_request_iff]
  simp only [required_servicesPipeline_iff, writeServices, Except.ok.injEq, exists_eq_left',
    hconditions, List.mem_singleton, exists_eq_left]
  constructor
  · rintro ⟨_, found, ⟨cluster, rfl, hcluster, hstate⟩, hfound, hholds⟩
    exact ⟨cluster, hcluster, hstate, found, hfound, hholds⟩
  · rintro ⟨cluster, hcluster, hstate, found, hfound, hholds⟩
    exact ⟨some cluster, found, ⟨cluster, rfl, hcluster, hstate⟩, hfound, hholds⟩

theorem not_serverlessServices_blocks : ¬ (servicesAnswer σ upgrade).Blocks := by
  rw [Answer.blocks_iff_has, serverlessServices_has_iff fun _ => Condition.IsIdle.not_isBlocking]
  rintro ⟨cluster, _, _, found, _, hblocking⟩
  unfold migrationCondition at hblocking
  split at hblocking <;> cases hblocking

end Kserve

namespace ModelMesh

/-- A condition that does not hold is concluded only from a managed component. -/
theorem exists_removalVerdict_iff (request : ComponentRequest) {holds : Condition → Prop}
    (hunmanaged : ∀ state, ¬ holds (unmanagedCondition upgrade state)) :
    (∃ condition, removalVerdict upgrade request = .ok condition ∧ holds condition) ↔
      request.state = Platform.managed ∧
        ∃ ns, Platform.applications request.upgrade.store = .ok ns ∧
          holds (managedCondition upgrade ns) := by
  unfold removalVerdict
  split
  next hstate => cases Platform.applications request.upgrade.store <;> simp [Except.map, hstate]
  next hstate => simp [hstate, hunmanaged]

theorem exists_removalVerdict_error_iff (request : ComponentRequest) :
    (∃ error, removalVerdict upgrade request = .error error) ↔
      request.state = Platform.managed ∧
        ∃ error, Platform.applications request.upgrade.store = .error error := by
  unfold removalVerdict
  split
  next hstate =>
    cases Platform.applications request.upgrade.store <;> simp [Except.map, hstate]
  next hstate => simp [hstate]

theorem isRequired_removalPipeline (state : String) :
    (removalPipeline upgrade).isRequired state = true := rfl

theorem removal_has_iff {holds : Condition → Prop}
    (hidle : ∀ condition : Condition, condition.IsIdle → ¬ holds condition)
    (hunmanaged : ∀ state, ¬ holds (unmanagedCondition upgrade state)) :
    (removalAnswer upgrade).Has holds ↔
      ∃ cluster, upgrade.store.first? .dataScienceCluster = .ok (some cluster) ∧
        cluster.value.HasTextAt (Platform.statePath component) Platform.managed ∧
        ∃ ns, Platform.applications upgrade.store = .ok ns ∧
          holds (managedCondition upgrade ns) := by
  rw [removalAnswer, ComponentPipeline.answer_has_iff _ hidle]
  refine exists_congr fun cluster => and_congr_right fun _ => ?_
  simp only [isRequired_removalPipeline, true_and, exists_removalVerdict_iff _ hunmanaged]
  exact Platform.exists_componentState_managed_iff

theorem removal_blocks_iff :
    (removalAnswer upgrade).Blocks ↔
      ∃ cluster, upgrade.store.first? .dataScienceCluster = .ok (some cluster) ∧
        cluster.value.HasTextAt (Platform.statePath component) Platform.managed ∧
        ∃ ns, Platform.applications upgrade.store = .ok ns := by
  have hmanaged : ∀ ns, (managedCondition upgrade ns).isBlocking = true := fun _ => rfl
  rw [Answer.blocks_iff_has, removal_has_iff (fun _ => Condition.IsIdle.not_isBlocking) nofun]
  simp only [hmanaged, and_true]

theorem removal_fails_iff :
    (removalAnswer upgrade).Fails ↔
      (∃ error, upgrade.store.first? .dataScienceCluster = .error error) ∨
      ∃ cluster, upgrade.store.first? .dataScienceCluster = .ok (some cluster) ∧
        (cluster.value.IsMalformedAt (Platform.statePath component) ∨
          cluster.value.HasTextAt (Platform.statePath component) Platform.managed ∧
          ∃ error, Platform.applications upgrade.store = .error error) := by
  rw [removalAnswer, ComponentPipeline.answer_fails_iff]
  refine or_congr_right (exists_congr fun cluster => and_congr_right fun _ => ?_)
  refine or_congr Platform.exists_componentState_eq_error_iff ?_
  simp only [isRequired_removalPipeline, true_and, exists_removalVerdict_error_iff]
  exact Platform.exists_componentState_managed_iff

theorem isSound_removal : (removalAnswer upgrade).IsSound := by
  refine ComponentPipeline.isSound_answer _ (by dsimp only; decide) (by dsimp only; decide) ?_
  intro request condition hcondition
  unfold removalVerdict at hcondition
  split at hcondition
  · cases hns : Platform.applications request.upgrade.store with
    | error error => simp [hns, Except.map] at hcondition
    | ok ns =>
        simp only [hns, Except.map, Except.ok.injEq] at hcondition
        rw [← hcondition]
        exact ⟨by dsimp only [managedCondition]; decide, by dsimp only [managedCondition]; decide⟩
  · rw [← Except.ok.inj hcondition]
    exact ⟨by dsimp only [unmanagedCondition]; decide, by dsimp only [unmanagedCondition]; decide⟩

end ModelMesh

namespace ServiceMesh

/-- Where a control plane says which version it has. -/
def versionPath : List String := ["spec", "version"]

theorem exists_annotated_eq_error_iff (plane : Object) (object : ImpactedObject) :
    (∃ error, annotated plane object = .error error) ↔ plane.value.IsMalformedAt versionPath := by
  rw [← Object.exists_text?_eq_error_iff]
  unfold annotated versionPath
  rcases plane.text? ["spec", "version"] with error | _ | version <;>
    simp [bind, Except.bind, pure, Except.pure]

theorem exists_impactedPlanes_eq_error_iff (request : WorkloadRequest Object) :
    (∃ error, impactedPlanes request = .error error) ↔
      ∃ plane ∈ request.items, plane.value.IsMalformedAt versionPath := by
  unfold impactedPlanes WorkloadRequest.impactedObjects
  rw [Traversal.exists_mapM_eq_error_iff, ← List.map_prod_left_eq_zip]
  simp only [List.mem_map, exists_exists_and_eq_and, exists_annotated_eq_error_iff]

/-- As long as the control planes can be listed, their check fails only over their versions. -/
theorem controlPlanes_fails_iff {planes : List Object}
    (hlisting : upgrade.store.listing .serviceMeshControlPlane = .ok planes) :
    (planesAnswer σ upgrade).Fails ↔
      ∃ plane ∈ planes, plane.value.IsMalformedAt versionPath := by
  have hrequired : (planesPipeline upgrade : WorkloadPipeline σ Object).required =
    .ok (.ok none) := rfl
  have hwrite : ∀ request, (∃ error, writePlanes upgrade request = .error error) ↔
      ∃ plane ∈ request.items, plane.value.IsMalformedAt versionPath := by
    intro request
    rw [← exists_impactedPlanes_eq_error_iff, writePlanes]
    cases impactedPlanes request <;> simp [Except.map]
  rw [planesAnswer, WorkloadPipeline.answer_fails_iff, WorkloadPipeline.exists_opening_eq_error_iff,
    WorkloadPipeline.exists_request_iff, hlisting, hrequired]
  simp [hwrite, WorkloadPipeline.requestOf]

theorem isSound_controlPlanes : (planesAnswer σ upgrade).IsSound := by
  refine WorkloadPipeline.isSound_answer (by change "servicemesh" ≠ ""; decide)
    (by change "operator-v2" ≠ ""; decide) ?_
  intro request change hchange hdraft
  unfold writePlanes at hchange
  cases himpacted : impactedPlanes request with
  | error error => simp [himpacted, Except.map] at hchange
  | ok impacted =>
      simp only [himpacted, Except.map, Except.ok.injEq] at hchange
      rw [← hchange, Diagnosis.flaw?_setImpacted]
      unfold planesCondition
      split <;> exact hdraft.flaw?_setCondition (by dsimp only; decide) (by dsimp only; decide)

theorem exists_writePlanes_iff (request : WorkloadRequest Object) {holds : Condition → Prop} :
    (∃ change, writePlanes upgrade request = .ok change ∧ ∃ condition ∈
        (change ((planesPipeline upgrade : WorkloadPipeline σ Object).draft request)).conditions,
      holds condition) ↔
    (∀ plane ∈ request.items, ¬ plane.value.IsMalformedAt versionPath) ∧
      holds (planesCondition upgrade request.items) := by
  have hmalformed := exists_impactedPlanes_eq_error_iff request
  unfold writePlanes
  cases himpacted : impactedPlanes request with
  | error error =>
      obtain ⟨plane, hplane, hbad⟩ := hmalformed.mp ⟨error, himpacted⟩
      simp only [Except.map, reduceCtorEq, false_and, exists_false, false_iff]
      rintro ⟨hsound, _⟩
      exact hsound plane hplane hbad
  | ok impacted =>
      have hsound : ∀ plane ∈ request.items, ¬ plane.value.IsMalformedAt versionPath := by
        intro plane hplane hbad
        obtain ⟨error, herror⟩ := hmalformed.mpr ⟨plane, hplane, hbad⟩
        rw [himpacted] at herror
        cases herror
      have hconditions := Diagnosis.conditions_setCondition
        ((planesPipeline upgrade : WorkloadPipeline σ Object).conditions_draft request)
        (planesCondition upgrade request.items)
      simp only [Except.map, Except.ok.injEq, exists_eq_left', Diagnosis.conditions_setImpacted,
        hconditions, List.mem_singleton, exists_eq_left]
      exact (and_iff_right hsound).symm

theorem controlPlanes_has_iff {holds : Condition → Prop}
    (hidle : ∀ condition : Condition, condition.IsIdle → ¬ holds condition) :
    (planesAnswer σ upgrade).Has holds ↔
      ∃ planes, upgrade.store.listing .serviceMeshControlPlane = .ok planes ∧
        (∀ plane ∈ planes, ¬ plane.value.IsMalformedAt versionPath) ∧
        holds (planesCondition upgrade planes) := by
  have hrequired : (planesPipeline upgrade : WorkloadPipeline σ Object).required =
    .ok (.ok none) := rfl
  rw [planesAnswer, WorkloadPipeline.answer_has_iff hidle, WorkloadPipeline.exists_request_iff,
    hrequired]
  simp only [exists_writePlanes_iff, Except.ok.injEq, exists_eq_left', exists_and_left]
  rfl

theorem not_controlPlanes_blocks : ¬ (planesAnswer σ upgrade).Blocks := by
  rw [Answer.blocks_iff_has, controlPlanes_has_iff fun _ => Condition.IsIdle.not_isBlocking]
  rintro ⟨planes, _, _, hblocking⟩
  unfold planesCondition at hblocking
  split at hblocking <;> cases hblocking

end ServiceMesh

end UpgradeGate.Builtin
