import UpgradeGate.Proofs.Builtin.Impact
import UpgradeGate.Proofs.Cluster.Agreement

/-!
# How the built-in checks read a store

No error of the store gets lost on the way to an execution: what a check lists either can be listed,
or is of a type that is not known, which is as good as no objects, or is the problem of the
execution.
-/

namespace UpgradeGate

variable {σ : Type} {upgrade : Upgrade}

theorem Condition.IsIdle.status_ne_unknown {condition : Condition} (hidle : condition.IsIdle) :
    condition.status ≠ .unknown := by
  rw [hidle.status]
  nofun

theorem ComponentPipeline.answer_eq_error {pipeline : ComponentPipeline}
    {conclude : ComponentRequest → Except ReadError Condition} {error : ReadError}
    (hfirst : pipeline.upgrade.store.first? .dataScienceCluster = .error error) :
    pipeline.answer conclude = .error error := by
  unfold answer opening Pipeline.governing
  rw [hfirst]
  rfl

namespace WorkloadPipeline

variable {α : Type} [HasHeader α] {pipeline : WorkloadPipeline σ α}
  {listed : Except ReadError (List α)}
  {write : WorkloadRequest α → Except ReadError (Diagnosis → Diagnosis)} {error : ReadError}

theorem answer_eq_error_of_first? (hcomponents : pipeline.requiredComponents ≠ [])
    (hfirst : pipeline.upgrade.store.first? .dataScienceCluster = .error error) :
    pipeline.answer listed write = .error error := by
  have hrequired : pipeline.required = .error error := by
    unfold required Pipeline.governingComponents Pipeline.governing
    rw [if_neg (by simpa using hcomponents), hfirst]
    rfl
  unfold answer opening
  rw [hrequired]
  rfl

theorem answer_eq_error_of_listed {cluster? : Option Object}
    (hrequired : pipeline.required = .ok (.ok cluster?)) (hlisted : listed = .error error) :
    pipeline.answer listed write = .error error := by
  unfold answer opening
  rw [hrequired, hlisted]
  rfl

end WorkloadPipeline

namespace Builtin

theorem mem_checks_iff {check : Check σ} :
    check ∈ checks ↔ check = Kserve.serverlessRemoval ∨ check = ModelMesh.removal ∨
      check = Kserve.serverlessServices ∨ check = ServiceMesh.controlPlanes := by
  simp [checks]

/-! ### Stores that list the same -/

section Same

variable {store : Store} (hlisting : ∀ type, store.listing type = upgrade.store.listing type)

include hlisting

theorem Kserve.diagnose_serverlessRemoval_congr :
    (serverlessRemoval : Check σ).diagnose { upgrade with store } =
      serverlessRemoval.diagnose upgrade := by
  unfold serverlessRemoval ComponentPipeline.run
  dsimp only
  rw [Pipeline.resolveCluster_congr hlisting]
  rfl

theorem ModelMesh.diagnose_removal_congr :
    (removal : Check σ).diagnose { upgrade with store } = removal.diagnose upgrade := by
  unfold removal ComponentPipeline.run ComponentRequest.applicationsNamespace
  dsimp only
  rw [Pipeline.resolveCluster_congr hlisting, Platform.applicationsNamespace_congr hlisting]
  rfl

theorem Kserve.diagnose_serverlessServices_congr :
    (serverlessServices : Check σ).diagnose { upgrade with store } =
      serverlessServices.diagnose upgrade := by
  unfold serverlessServices WorkloadPipeline.complete WorkloadPipeline.run
    WorkloadPipeline.governing WorkloadPipeline.items
  dsimp only [WorkloadPipeline.ofHeaders]
  rw [Pipeline.resolveComponents_congr hlisting, Store.orEmpty_listHeaders_congr hlisting]
  rfl

theorem ServiceMesh.diagnose_controlPlanes_congr :
    (controlPlanes : Check σ).diagnose { upgrade with store } = controlPlanes.diagnose upgrade := by
  unfold controlPlanes WorkloadPipeline.run WorkloadPipeline.governing WorkloadPipeline.items
  dsimp only [WorkloadPipeline.ofObjects]
  rw [Store.orEmpty_list_congr hlisting]
  rfl

theorem diagnose_congr {check : Check σ} (hcheck : check ∈ checks) :
    check.diagnose { upgrade with store } = check.diagnose upgrade := by
  rcases mem_checks_iff.mp hcheck with rfl | rfl | rfl | rfl
  · exact Kserve.diagnose_serverlessRemoval_congr hlisting
  · exact ModelMesh.diagnose_removal_congr hlisting
  · exact Kserve.diagnose_serverlessServices_congr hlisting
  · exact ServiceMesh.diagnose_controlPlanes_congr hlisting

end Same

/-! ### Listings that fail -/

/-- What the checks list of a store, which for some types hangs on what stands in the cluster. -/
inductive Lists (store : Store) : Check σ → ResourceType → Prop
  | servingCluster : Lists store Kserve.serverlessRemoval .dataScienceCluster
  | meshCluster : Lists store ModelMesh.removal .dataScienceCluster
  | servicesCluster : Lists store Kserve.serverlessServices .dataScienceCluster
  | initialization {cluster : Object}
      (hcluster : store.first? .dataScienceCluster = .ok (some cluster))
      (hmanaged : Platform.componentState cluster ModelMesh.component = .ok Platform.managed) :
      Lists store ModelMesh.removal .dscInitialization
  | services {cluster : Object} {state : String}
      (hcluster : store.first? .dataScienceCluster = .ok (some cluster))
      (hstate : Platform.componentState cluster Kserve.component = .ok state)
      (hkept : state ≠ Platform.removed) :
      Lists store Kserve.serverlessServices .inferenceService
  | planes : Lists store ServiceMesh.controlPlanes .serviceMeshControlPlane

theorem ModelMesh.removalAnswer_eq_error {cluster : Object} {error : ReadError}
    (hcluster : upgrade.store.first? .dataScienceCluster = .ok (some cluster))
    (hmanaged : Platform.componentState cluster component = .ok Platform.managed)
    (hfirst : upgrade.store.first? .dscInitialization = .error error) :
    removalAnswer upgrade = .error error := by
  have happlications : Platform.applications upgrade.store = .error error := by
    unfold Platform.applications
    rw [hfirst]
  have hopening : (removalPipeline upgrade).opening =
      .ok (.ok ((removalPipeline upgrade).requestIn cluster Platform.managed)) := by
    unfold ComponentPipeline.opening ComponentPipeline.requestOf Pipeline.governing
    rw [hcluster]
    dsimp only [Except.map]
    rw [hmanaged]
    rfl
  unfold removalAnswer ComponentPipeline.answer ComponentPipeline.finish
  rw [hopening]
  unfold removalVerdict
  dsimp only [Pipeline.answerOf, ComponentPipeline.requestIn]
  rw [if_pos rfl, happlications]
  rfl

theorem Lists.answers_error {check : Check σ} {type : ResourceType}
    (hlists : Lists upgrade.store check type) {state : RunState σ}
    (happlies : ((check.applies upgrade).run.run state).1 = .ok true) {error : ReadError}
    (herror : upgrade.store.answer type = .error error) (hkind : error.kind ≠ .unknownType) :
    check.Answers upgrade (.error error) := by
  have hfirst := Store.first?_eq_error herror hkind
  cases hlists with
  | servingCluster =>
      have hanswer : Kserve.servingAnswer upgrade = .error error :=
        ComponentPipeline.answer_eq_error hfirst
      exact hanswer ▸ Kserve.answers_serverlessRemoval upgrade (Except.ok.inj happlies)
  | meshCluster =>
      have hanswer : ModelMesh.removalAnswer upgrade = .error error :=
        ComponentPipeline.answer_eq_error hfirst
      exact hanswer ▸ ModelMesh.answers_removal upgrade (Except.ok.inj happlies)
  | servicesCluster =>
      have hanswer : Kserve.servicesAnswer σ upgrade = .error error :=
        WorkloadPipeline.answer_eq_error_of_first? (by simp) hfirst
      exact hanswer ▸ Kserve.answers_serverlessServices upgrade (Except.ok.inj happlies)
  | initialization hcluster hmanaged =>
      have hanswer := ModelMesh.removalAnswer_eq_error hcluster hmanaged hfirst
      exact hanswer ▸ ModelMesh.answers_removal upgrade (Except.ok.inj happlies)
  | @services cluster state hcluster hstate hkept =>
      have hservices : Kserve.services upgrade = .error error := by
        rw [Kserve.services, Store.listing_eq_error herror hkind]
        rfl
      have hanswer : Kserve.servicesAnswer σ upgrade = .error error :=
        WorkloadPipeline.answer_eq_error_of_listed
          (Kserve.required_servicesPipeline_iff.mpr ⟨cluster, rfl, hcluster, state, hstate, hkept⟩)
          hservices
      exact hanswer ▸ Kserve.answers_serverlessServices upgrade (Except.ok.inj happlies)
  | planes =>
      have hanswer : ServiceMesh.planesAnswer σ upgrade = .error error :=
        WorkloadPipeline.answer_eq_error_of_listed rfl (Store.listing_eq_error herror hkind)
      exact hanswer ▸ ServiceMesh.answers_controlPlanes upgrade (Except.ok.inj happlies)

/-! ### What an execution reports -/

/-- The answer is an error or a sound diagnosis that leaves nothing open. -/
structure IsDefinite (answer : Answer) : Prop where
  isSound : answer.IsSound
  not_unknown : ¬ answer.Has fun condition => condition.status = .unknown

theorem Kserve.isDefinite_servingAnswer : IsDefinite (servingAnswer upgrade) where
  isSound := isSound_serverlessRemoval
  not_unknown := by
    rw [serverlessRemoval_has_iff fun _ => Condition.IsIdle.status_ne_unknown]
    rintro ⟨_, _, _, serving?, _, hunknown⟩
    unfold servingCondition at hunknown
    split at hunknown <;> cases hunknown

theorem ModelMesh.isDefinite_removalAnswer : IsDefinite (removalAnswer upgrade) where
  isSound := isSound_removal
  not_unknown := by
    rw [removal_has_iff (fun _ => Condition.IsIdle.status_ne_unknown) nofun]
    rintro ⟨_, _, _, ns, _, hunknown⟩
    cases hunknown

theorem Kserve.isDefinite_servicesAnswer : IsDefinite (servicesAnswer σ upgrade) where
  isSound := isSound_serverlessServices
  not_unknown := by
    rw [serverlessServices_has_iff fun _ => Condition.IsIdle.status_ne_unknown]
    rintro ⟨_, _, _, found, _, hunknown⟩
    unfold migrationCondition at hunknown
    split at hunknown <;> cases hunknown

theorem ServiceMesh.isDefinite_planesAnswer : IsDefinite (planesAnswer σ upgrade) where
  isSound := isSound_controlPlanes
  not_unknown := by
    rw [controlPlanes_has_iff fun _ => Condition.IsIdle.status_ne_unknown]
    rintro ⟨planes, _, _, hunknown⟩
    unfold planesCondition at hunknown
    split at hunknown <;> cases hunknown

/-- A built-in check declines, or it answers as it does at any time. -/
theorem declines_or_answers_of (holds : Check σ → Answer → Prop)
    (hserving : holds Kserve.serverlessRemoval (Kserve.servingAnswer upgrade))
    (hremoval : holds ModelMesh.removal (ModelMesh.removalAnswer upgrade))
    (hservices : holds Kserve.serverlessServices (Kserve.servicesAnswer σ upgrade))
    (hplanes : holds ServiceMesh.controlPlanes (ServiceMesh.planesAnswer σ upgrade))
    {check : Check σ} (hcheck : check ∈ checks) :
    check.Declines upgrade ∨ ∃ answer, check.Answers upgrade answer ∧ holds check answer := by
  have hdeclines : ∀ {check : Check σ} {applies : Bool},
      check.applies upgrade = (return applies) → applies = false → check.Declines upgrade := by
    rintro check applies happlies rfl
    exact ⟨fun state => by rw [happlies]; rfl⟩
  rcases mem_checks_iff.mp hcheck with rfl | rfl | rfl | rfl
  · cases hcrosses : upgrade.crosses nextMajor with
    | false => exact .inl (hdeclines rfl hcrosses)
    | true => exact .inr ⟨_, Kserve.answers_serverlessRemoval upgrade hcrosses, hserving⟩
  · cases hcrosses : upgrade.crosses nextMajor with
    | false => exact .inl (hdeclines rfl hcrosses)
    | true => exact .inr ⟨_, ModelMesh.answers_removal upgrade hcrosses, hremoval⟩
  · cases hcrosses : upgrade.crosses nextMajor with
    | false => exact .inl (hdeclines rfl hcrosses)
    | true => exact .inr ⟨_, Kserve.answers_serverlessServices upgrade hcrosses, hservices⟩
  · cases htargets : upgrade.targetsAtLeast nextMajor with
    | false => exact .inl (hdeclines rfl htargets)
    | true => exact .inr ⟨_, ServiceMesh.answers_controlPlanes upgrade htargets, hplanes⟩

theorem declines_or_answers {check : Check σ} (hcheck : check ∈ checks) (upgrade : Upgrade) :
    check.Declines upgrade ∨ ∃ answer, check.Answers upgrade answer ∧ IsDefinite answer :=
  declines_or_answers_of (fun _ => IsDefinite) Kserve.isDefinite_servingAnswer
    ModelMesh.isDefinite_removalAnswer Kserve.isDefinite_servicesAnswer
    ServiceMesh.isDefinite_planesAnswer hcheck

theorem exists_answers_of_applies {check : Check σ} (hcheck : check ∈ checks) {state : RunState σ}
    (happlies : ((check.applies upgrade).run.run state).1 = .ok true) :
    ∃ answer, check.Answers upgrade answer ∧ IsDefinite answer := by
  refine (declines_or_answers hcheck upgrade).resolve_left fun hdeclines => ?_
  rw [hdeclines.applies_run] at happlies
  cases happlies

theorem isSteady_of_mem_checks {check : Check σ} (hcheck : check ∈ checks) :
    check.IsSteady upgrade :=
  (declines_or_answers hcheck upgrade).imp_right fun ⟨answer, hanswers, _⟩ => ⟨answer, hanswers⟩

theorem isSound_of_answers {check : Check σ} (hcheck : check ∈ checks) (state : RunState σ)
    {answer : Answer} (hanswers : check.Answers upgrade answer) : answer.IsSound := by
  have happlies : ((check.applies upgrade).run.run state).1 = .ok true := by
    rw [hanswers.applies_run]
  obtain ⟨definite, hdefinite, hisDefinite⟩ := exists_answers_of_applies hcheck happlies
  rw [hdefinite.unique state hanswers]
  exact hisDefinite.isSound

theorem outcome_of_isDefinite (check : Check σ) (time : Instant) {answer : Answer}
    (hdefinite : IsDefinite answer) :
    let execution := check.outcome time (answer.mapError .resource)
    (execution.problem? = none ∧ execution.diagnosis.flaw? = none ∧
      ∀ condition ∈ execution.diagnosis.conditions, condition.status ≠ .unknown) ∨
    ∃ error, execution.problem? = some (.resource error) := by
  intro execution
  cases answer with
  | error error => exact .inr ⟨error, rfl⟩
  | ok diagnosis =>
      have hflaw := hdefinite.isSound diagnosis rfl
      have hexecution : execution = ⟨check, diagnosis, none⟩ := by
        simp [execution, Except.mapError, Check.outcome, hflaw]
      rw [hexecution]
      refine .inl ⟨rfl, hflaw, fun condition hcondition hunknown => ?_⟩
      exact hdefinite.not_unknown ⟨diagnosis, rfl, condition, hcondition, hunknown⟩

/-- A built-in check that applies gives a sound diagnosis without unknown conditions, or its
execution carries an error of the store: that of whatever it lists and cannot list. A type that the
store does not know is no error, and could as well be a type without objects. -/
theorem execute_reports {check : Check σ} (hcheck : check ∈ checks) {state : RunState σ}
    (happlies : ((check.applies upgrade).run.run state).1 = .ok true) :
    let execution := ((check.execute upgrade).run state).1
    ((execution.problem? = none ∧ execution.diagnosis.flaw? = none ∧
        ∀ condition ∈ execution.diagnosis.conditions, condition.status ≠ .unknown) ∨
      ∃ error, execution.problem? = some (.resource error)) ∧
    (∀ flaw, execution.problem? ≠ some (.invalidResult flaw)) ∧
    (∀ type error, Lists upgrade.store check type → upgrade.store.answer type = .error error →
      error.kind ≠ .unknownType → execution.problem? = some (.resource error)) ∧
    ∀ store : Store, store.Completes upgrade.store →
      (check.execute { upgrade with store }).run state = (check.execute upgrade).run state := by
  intro execution
  obtain ⟨answer, hanswers, hdefinite⟩ := exists_answers_of_applies hcheck happlies
  have hreports := outcome_of_isDefinite check upgrade.time hdefinite
  have hexecution : execution = check.outcome upgrade.time (answer.mapError .resource) :=
    hanswers.execute_run state
  rw [← hexecution] at hreports
  refine ⟨hreports, fun flaw hinvalid => ?_, fun type error hlists herror hkind => ?_,
    fun store hcompletes => ?_⟩
  · rcases hreports with ⟨hnone, _⟩ | ⟨error, herror⟩
    · rw [hinvalid] at hnone
      cases hnone
    · rw [hinvalid] at herror
      cases herror
  · have hfailed := hlists.answers_error happlies herror hkind
    have houtcome : execution = check.outcome upgrade.time (.error (.resource error)) :=
      hfailed.execute_run state
    rw [houtcome]
    rfl
  · unfold Check.execute
    rw [diagnose_congr hcompletes.listing_eq hcheck]

/-- ModelMesh is managed, and the initialization of the platform cannot be read in time. -/
def stalled : Upgrade where
  store := {
    objects := [⟨.obj [("apiVersion", .str "datasciencecluster.opendatahub.io/v1"),
      ("kind", .str "DataScienceCluster"),
      ("spec", .obj [("components", .obj [("modelmeshserving",
        .obj [("managementState", .str "Managed")])])])]⟩]
    failures := [(ResourceType.dscInitialization.key, ⟨.timeout, "deadline exceeded"⟩)] }
  target? := some ⟨3, 0, 0, [], [], rfl, rfl⟩
  time := default

theorem execute_reports_stalled :
    ((ModelMesh.removal.execute stalled).run ({ notes := () } : RunState Unit)).1.problem? =
      some (.resource ⟨.timeout, "deadline exceeded"⟩) ∧
    (ServiceMesh.controlPlanes.execute
        { stalled with store := stalled.store.emptied .serviceMeshControlPlane }).run
        ({ notes := () } : RunState Unit) =
      (ServiceMesh.controlPlanes.execute stalled).run { notes := () } := by
  let state : RunState Unit := { notes := () }
  have hremoval : ((ModelMesh.removal.applies stalled).run.run state).1 = .ok true := rfl
  have hplanes : ((ServiceMesh.controlPlanes.applies stalled).run.run state).1 = .ok true := rfl
  obtain ⟨_, _, hlisted, _⟩ := execute_reports (mem_checks_iff.mpr (.inr (.inl rfl))) hremoval
  obtain ⟨_, _, _, hcompletes⟩ :=
    execute_reports (mem_checks_iff.mpr (.inr (.inr (.inr rfl)))) hplanes
  have hunknown : stalled.store.answer .serviceMeshControlPlane =
    .error (.ofUnknownType .serviceMeshControlPlane) := rfl
  exact ⟨hlisted _ _ (.initialization rfl rfl) rfl (by decide),
    hcompletes _ (Store.completes_emptied hunknown rfl)⟩

end Builtin

end UpgradeGate
