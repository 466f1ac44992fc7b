import UpgradeGate.Proofs.Builtin.Reading
import UpgradeGate.Proofs.Pipeline.WorkloadCourse

/-!
# What there is to migrate

The two checks of workloads list what has to be migrated before an upgrade. Their lists are exact:
every object that is concerned stands on them as often as the store yields it and in that order, and
no other object does. Which objects are concerned, and how they are annotated, is said of the raw
objects.
-/

namespace UpgradeGate

/-- How an object is listed, whatever type it gives itself. -/
def Object.impactedAs (apiVersion kind : String) (object : Object) : ImpactedObject where
  apiVersion := apiVersion
  kind := kind
  ns? := object.ns?
  name := object.name

/-! ### Diagnoses on some objects -/

/-- The diagnosis counts the objects that are concerned and comes to one condition, which advises to
do something if there are any. -/
structure Diagnosis.AdvisesOn (concerned : List Object) (condition : Condition)
    (diagnosis : Diagnosis) : Prop where
  count : diagnosis.annotationValue? "workload.opendatahub.io/impacted-count" =
    some (toString concerned.length)
  conditions : diagnosis.conditions = [condition]
  some : concerned ≠ [] → condition.status = .fails ∧ condition.impact = .advisory
  none : concerned = [] → condition.status = .holds ∧ condition.impact = .none

namespace Pipeline

variable (identity : CheckIdentity) (upgrade : Upgrade)

/-- The diagnosis of a check on the objects that are concerned, in full. -/
def diagnosisOn (concerned : List Object) (condition : Condition) (impacted : List ImpactedObject) :
    Diagnosis :=
  { diagnosisWith identity upgrade
      [("workload.opendatahub.io/impacted-count", toString concerned.length)] [condition] with
    impacted? := some impacted }

theorem advisesOn_diagnosisOn {concerned : List Object} {condition : Condition}
    (hsome : concerned ≠ [] → condition.status = .fails ∧ condition.impact = .advisory)
    (hnone : concerned = [] → condition.status = .holds ∧ condition.impact = .none)
    (impacted : List ImpactedObject) :
    (diagnosisOn identity upgrade concerned condition impacted).AdvisesOn concerned condition where
  count := annotationValue?_diagnosisWith identity upgrade _ _ [condition]
  conditions := rfl
  some := hsome
  none := hnone

end Pipeline

namespace Builtin

variable {σ : Type} {upgrade : Upgrade}

/-! ### Serverless services -/

namespace Kserve

/-- Where a service says how it is deployed. -/
def modePath : List String := ["metadata", "annotations", "serving.kserve.io/deploymentMode"]

/-- The service does not say that it is deployed raw: the path leads to nothing, be it for want of
metadata or of annotations, or to something that is no text, or to another text. -/
inductive IsServerless (service : Object) : Prop
  | unsaid (hnone : service.value.at? modePath = none)
  | untold {value : Json} (hvalue : service.value.at? modePath = some value)
    (htext : value.isStr = false)
  | other {mode : String} (hmode : service.value.HasTextAt modePath mode)
    (hother : mode ≠ "RawDeployment")

theorem isServerless_header_iff {service : Object} :
    isServerless service.header = true ↔ IsServerless service := by
  have hmode : isServerless service.header = true ↔
      (service.value.at? modePath).bind Json.str? ≠ some "RawDeployment" := by
    rw [isServerless, Object.annotationValue?_header, decide_eq_true_eq]
    rfl
  rw [hmode]
  constructor
  · intro hother
    -- A header keeps only annotations that are texts; here these are told from all that is there.
    rcases hvalue : service.value.at? modePath with _ | value
    · exact .unsaid hvalue
    · rw [hvalue] at hother
      cases value with
      | str mode => exact .other hvalue fun hraw => hother (congrArg some hraw)
      | _ => exact .untold hvalue rfl
  · rintro (hnone | ⟨hvalue, htext⟩ | ⟨hmode, hother⟩)
    · rw [hnone]
      nofun
    · rw [hvalue, Option.bind_some]
      intro hraw
      rw [Json.isStr, hraw] at htext
      cases htext
    · rw [hmode]
      exact fun hraw => hother (Option.some.inj hraw)

instance : DecidablePred IsServerless := fun _ => decidable_of_iff _ isServerless_header_iff

/-- The diagnosis lists those of the services that are serverless. -/
structure ListsServices (services : List Object) (diagnosis : Diagnosis) : Prop where
  impacted : diagnosis.impacted? =
    some ((services.filter fun service => IsServerless service).map
      (Object.impactedAs "serving.kserve.io/v1beta1" "InferenceService"))
  advises : ∃ condition,
    diagnosis.AdvisesOn (services.filter fun service => IsServerless service) condition

theorem services_eq_ok_iff {found : List Header} :
    services upgrade = .ok found ↔
      ∃ listed, upgrade.store.Yields .inferenceService listed ∧
        (listed.filter fun service => IsServerless service).map Object.header = found := by
  have hsame : ∀ service : Object,
      (isServerless ∘ Object.header) service = decide (IsServerless service) := fun service =>
    Bool.eq_iff_iff.mpr (isServerless_header_iff.trans decide_eq_true_iff.symm)
  simp only [Store.yields_iff]
  unfold services
  cases upgrade.store.listing .inferenceService with
  | error error => simp [Except.map]
  | ok listed =>
      simp only [Except.map, Except.ok.injEq, exists_eq_left', List.filter_map]
      rw [List.filter_congr fun service _ => hsame service]

/-- What the check concludes from the serverless services. -/
def servicesDiagnosis (upgrade : Upgrade) (serverless : List Object) : Diagnosis :=
  Pipeline.diagnosisOn serverlessServicesIdentity upgrade serverless
    (migrationCondition upgrade serverless.length)
    (serverless.map (Object.impactedAs "serving.kserve.io/v1beta1" "InferenceService"))

theorem filled_servicesDiagnosis (upgrade : Upgrade) (serverless : List Object) :
    let pipeline : WorkloadPipeline σ Header := servicesPipeline upgrade
    let kept := serverless.map Object.header
    pipeline.filled kept
      ((pipeline.draftOf kept).setCondition (migrationCondition upgrade kept.length)) =
        servicesDiagnosis upgrade serverless := by
  intro pipeline kept
  rw [WorkloadPipeline.filled, WorkloadPipeline.draftOf, List.length_map, List.map_map]
  rfl

theorem servicesAnswer_eq_ok_iff {diagnosis : Diagnosis} :
    servicesAnswer σ upgrade = .ok diagnosis ↔
      Pipeline.Precludes serverlessServicesIdentity upgrade ["kserve"] (.ok diagnosis) ∨
      ∃ cluster? listed, Pipeline.Admits upgrade ["kserve"] cluster? ∧
        upgrade.store.Yields .inferenceService listed ∧
        servicesDiagnosis upgrade (listed.filter fun service => IsServerless service) =
          diagnosis := by
  rw [servicesAnswer, WorkloadPipeline.answer_eq_ok_iff]
  refine or_congr Iff.rfl ?_
  simp only [services_eq_ok_iff, writeServices, Except.ok.injEq]
  constructor
  · rintro ⟨cluster?, _, _, hmeets, ⟨listed, hyields, rfl⟩, rfl, rfl⟩
    exact ⟨cluster?, listed, hmeets, hyields, (filled_servicesDiagnosis upgrade _).symm⟩
  · rintro ⟨cluster?, listed, hadmits, hyields, rfl⟩
    exact ⟨cluster?, _, _, hadmits, ⟨listed, hyields, rfl⟩, rfl, filled_servicesDiagnosis upgrade _⟩

theorem listsServices_servicesDiagnosis (upgrade : Upgrade) (listed : List Object) :
    ListsServices listed
      (servicesDiagnosis upgrade (listed.filter fun service => IsServerless service)) := by
  refine ⟨rfl, _, Pipeline.advisesOn_diagnosisOn _ _ (fun hsome => ?_) (fun hnone => ?_) _⟩
  · rw [migrationCondition, if_neg (mt List.length_eq_zero_iff.mp hsome)]
    exact ⟨rfl, rfl⟩
  · rw [migrationCondition, if_pos (List.length_eq_zero_iff.mpr hnone)]
    exact ⟨rfl, rfl⟩

/-- The check settles without a list if there is no cluster, or if KServe is removed in it. -/
theorem eq_of_precludes {diagnosis : Diagnosis}
    (hprecludes : Pipeline.Precludes serverlessServicesIdentity upgrade ["kserve"]
      (.ok diagnosis)) :
    diagnosis = Pipeline.noCluster serverlessServicesIdentity upgrade ∨
      diagnosis = Pipeline.notConfigured serverlessServicesIdentity upgrade "kserve" "Removed" := by
  cases hprecludes with
  | noCluster _ hlacks =>
      cases hlacks
      exact .inl rfl
  | allRemoved _ _ _ => exact .inr (by rw [String.intercalate_singleton])

/-- A check lists the serverless services exactly: unless it settles for one of the standard
diagnoses it lists those that are yielded, and it does so whenever KServe is not removed. -/
structure ListsExactly (check : Check σ) (upgrade : Upgrade) (state : RunState σ) : Prop where
  listed : ∀ diagnosis, ((check.diagnose upgrade).run.run state).1 = .ok diagnosis →
    diagnosis ≠ Pipeline.noCluster check.identity upgrade →
    diagnosis ≠ Pipeline.notConfigured check.identity upgrade "kserve" "Removed" →
    ∃ services, upgrade.store.Yields .inferenceService services ∧ ListsServices services diagnosis
  given : ∀ cluster? services, Pipeline.Admits upgrade ["kserve"] cluster? →
    upgrade.store.Yields .inferenceService services →
    ∃ diagnosis, ((check.diagnose upgrade).run.run state).1 = .ok diagnosis ∧
      ListsServices services diagnosis

theorem listsExactly_serverlessServices (upgrade : Upgrade) (state : RunState σ) :
    ListsExactly serverlessServices upgrade state := by
  obtain ⟨calls, hrun⟩ := serverlessServices_run upgrade state
  have hgiven : ∀ diagnosis,
      ((serverlessServices.diagnose upgrade).run.run state).1 = .ok diagnosis ↔
        servicesAnswer σ upgrade = .ok diagnosis := by
    intro diagnosis
    rw [hrun]
    exact Effects.mapError_eq_ok_iff
  constructor
  · intro diagnosis hdiagnosis hcluster hconfigured
    rcases servicesAnswer_eq_ok_iff.mp ((hgiven diagnosis).mp hdiagnosis) with
      hprecludes | ⟨_, services, _, hyields, rfl⟩
    · exact ((eq_of_precludes hprecludes).elim hcluster hconfigured).elim
    · exact ⟨services, hyields, listsServices_servicesDiagnosis upgrade services⟩
  · intro cluster? services hadmits hyields
    exact ⟨_, (hgiven _).mpr (servicesAnswer_eq_ok_iff.mpr
      (.inr ⟨cluster?, services, hadmits, hyields, rfl⟩)),
      listsServices_servicesDiagnosis upgrade services⟩

end Kserve

/-! ### Control planes -/

namespace ServiceMesh

/-- The impacted object stands for the control plane, and is annotated with its version if it has
one that is a text, and with nothing else. -/
structure StandsFor (plane : Object) (object : ImpactedObject) : Prop where
  identity : { object with annotations := ∅ } =
    plane.impactedAs "maistra.io/v2" "ServiceMeshControlPlane"
  version_iff : ∀ version, object.annotations.find? "maistra.io/version" = some version ↔
    plane.value.HasTextAt ["spec", "version"] version
  unannotated : ∀ key, key ≠ "maistra.io/version" → object.annotations.find? key = none

/-- How a text report shows a control plane. -/
def planeText (ns? : Option String) (name : String) (version? : Option String) : String :=
  "control plane " ++ ns?.getD "-" ++ "/" ++ name ++ " (version " ++ version?.getD "unknown" ++ ")"

/-- The lines of a text report on some control planes, with what they say of their versions. -/
def planesText (planes : List Object) : List String :=
  planes.map fun plane => planeText plane.ns? plane.name (plane.textAt? ["spec", "version"])

/-- The diagnosis lists all of the control planes. -/
structure ListsPlanes (planes : List Object) (diagnosis : Diagnosis) : Prop where
  impacted : ∃ impacted, diagnosis.impacted? = some impacted ∧
    List.Forall₂ StandsFor planes impacted
  advises : ∃ condition, diagnosis.AdvisesOn planes condition ∧
    (planes ≠ [] → condition.message = "ServiceMeshControlPlane(s) " ++
      ", ".intercalate (planes.map Object.name) ++ " will no longer be managed by the platform")

/-- What comes of a control plane whose version is neither a text nor null. -/
def malformedVersion : ReadError where
  kind := .invalid
  detail := "field spec.version is not a string"

/-- A control plane as an impacted object, or why it is none. -/
def listing (plane : Object) : Except ReadError ImpactedObject :=
  annotated plane (plane.impactedAs "maistra.io/v2" "ServiceMeshControlPlane")

theorem listing_cases (plane : Object) :
    (listing plane = .error malformedVersion ∧ plane.value.IsMalformedAt ["spec", "version"]) ∨
      ∃ object, listing plane = .ok object ∧
        ¬ plane.value.IsMalformedAt ["spec", "version"] ∧ StandsFor plane object := by
  unfold listing annotated
  rcases Object.text?_cases ["spec", "version"] plane with
    ⟨htext, hmalformed⟩ | ⟨htext, hformed, hnone⟩ | ⟨version, htext, hformed, _⟩
  · rw [htext]
    exact .inl ⟨rfl, hmalformed⟩
  · rw [htext]
    exact .inr ⟨_, rfl, hformed, rfl, fun version => iff_of_false nofun (hnone version),
      fun _ _ => rfl⟩
  · rw [htext]
    refine .inr ⟨_, rfl, hformed, rfl, fun other => ?_, fun key hkey => ?_⟩
    · rw [Dict.find?_insert, versionKey, if_pos rfl, ← Object.text?_eq_ok_some_iff, htext,
        Except.ok.injEq]
    · rw [Dict.find?_insert, versionKey, if_neg hkey]
      rfl

/-- Either all control planes are listed one by one, or one of their versions is malformed. -/
theorem mapM_listing_cases (planes : List Object) :
    (planes.mapM listing = .error malformedVersion ∧
        ∃ plane ∈ planes, plane.value.IsMalformedAt ["spec", "version"]) ∨
      ∃ impacted, planes.mapM listing = .ok impacted ∧
        (∀ plane ∈ planes, ¬ plane.value.IsMalformedAt ["spec", "version"]) ∧
        List.Forall₂ StandsFor planes impacted := by
  induction planes with
  | nil => exact .inr ⟨[], rfl, List.forall_mem_nil _, .nil⟩
  | cons plane planes ih =>
      rw [Traversal.mapM_cons]
      rcases listing_cases plane with ⟨herror, hmalformed⟩ | ⟨object, hobject, hformed, hstands⟩
      · rw [herror]
        exact .inl ⟨rfl, plane, List.mem_cons_self, hmalformed⟩
      · rw [hobject]
        rcases ih with ⟨herror, other, hother, hmalformed⟩ | ⟨impacted, hok, hrest, hall⟩
        · rw [herror]
          exact .inl ⟨rfl, other, List.mem_cons_of_mem plane hother, hmalformed⟩
        · rw [hok]
          exact .inr ⟨object :: impacted, rfl, List.forall_mem_cons.mpr ⟨hformed, hrest⟩,
            .cons hstands hall⟩

/-- What the check concludes from the control planes, with what stands for them. -/
def planesDiagnosis (upgrade : Upgrade) (planes : List Object) (impacted : List ImpactedObject) :
    Diagnosis :=
  Pipeline.diagnosisOn identity upgrade planes (planesCondition upgrade planes) impacted

theorem planesAnswer_eq {planes : List Object}
    (hyields : upgrade.store.Yields .serviceMeshControlPlane planes) :
    planesAnswer σ upgrade = (planes.mapM listing).map (planesDiagnosis upgrade planes) := by
  have himpacted : impactedPlanes
      ((planesPipeline upgrade : WorkloadPipeline σ Object).requestOf none planes) =
        planes.mapM listing := by
    unfold impactedPlanes WorkloadRequest.impactedObjects
    -- What is zipped with the items is made of them one by one, so that nothing can shift.
    rw [← List.map_prod_left_eq_zip, List.mapM_map]
    rfl
  have hopening : (planesPipeline upgrade : WorkloadPipeline σ Object).opening
      (upgrade.store.listing .serviceMeshControlPlane) =
        .ok (.ok ((planesPipeline upgrade : WorkloadPipeline σ Object).requestOf none planes)) := by
    rw [Store.yields_iff.mp hyields]
    rfl
  rw [planesAnswer, WorkloadPipeline.answer, hopening]
  change (planesPipeline upgrade).finish (writePlanes upgrade) _ = _
  rw [WorkloadPipeline.finish, writePlanes, himpacted, WorkloadPipeline.draft_requestOf]
  cases planes.mapM listing <;> rfl

theorem planesAnswer_cases {planes : List Object}
    (hyields : upgrade.store.Yields .serviceMeshControlPlane planes) :
    (planesAnswer σ upgrade = .error malformedVersion ∧
        ∃ plane ∈ planes, plane.value.IsMalformedAt ["spec", "version"]) ∨
      ∃ impacted, planesAnswer σ upgrade = .ok (planesDiagnosis upgrade planes impacted) ∧
        (∀ plane ∈ planes, ¬ plane.value.IsMalformedAt ["spec", "version"]) ∧
        List.Forall₂ StandsFor planes impacted := by
  rw [planesAnswer_eq hyields]
  rcases mapM_listing_cases planes with ⟨herror, hmalformed⟩ | ⟨impacted, hok, hformed, hstands⟩
  · rw [herror]
    exact .inl ⟨rfl, hmalformed⟩
  · rw [hok]
    exact .inr ⟨impacted, rfl, hformed, hstands⟩

theorem exists_yields_of_planesAnswer {diagnosis : Diagnosis}
    (hanswer : planesAnswer σ upgrade = .ok diagnosis) :
    ∃ planes, upgrade.store.Yields .serviceMeshControlPlane planes := by
  cases hlisting : upgrade.store.listing .serviceMeshControlPlane with
  | error error =>
      have hfailed : planesAnswer σ upgrade = .error error :=
        WorkloadPipeline.answer_eq_error_of_listed rfl hlisting
      cases hanswer.symm.trans hfailed
  | ok planes => exact ⟨planes, Store.yields_iff.mpr hlisting⟩

theorem listsPlanes_planesDiagnosis (upgrade : Upgrade) {planes : List Object}
    {impacted : List ImpactedObject} (hstands : List.Forall₂ StandsFor planes impacted) :
    ListsPlanes planes (planesDiagnosis upgrade planes impacted) := by
  refine ⟨⟨impacted, rfl, hstands⟩, _,
    Pipeline.advisesOn_diagnosisOn _ _ (fun hsome => ?_) (fun hnone => ?_) _, fun hsome => ?_⟩
  · rw [planesCondition, if_neg (mt List.isEmpty_iff.mp hsome)]
    exact ⟨rfl, rfl⟩
  · rw [planesCondition, if_pos (List.isEmpty_iff.mpr hnone)]
    exact ⟨rfl, rfl⟩
  · rw [planesCondition, if_neg (mt List.isEmpty_iff.mp hsome)]

theorem StandsFor.planeLine_eq {plane : Object} {object : ImpactedObject}
    (hstands : StandsFor plane object) :
    planeLine object = planeText plane.ns? plane.name (plane.textAt? ["spec", "version"]) := by
  have hns : object.ns? = plane.ns? := congrArg ImpactedObject.ns? hstands.identity
  have hname : object.name = plane.name := congrArg ImpactedObject.name hstands.identity
  have hversion : object.annotations.find? versionKey = plane.textAt? ["spec", "version"] :=
    Option.ext fun version =>
      (hstands.version_iff version).trans Object.textAt?_eq_some_iff.symm
  rw [← hns, ← hname, ← hversion]
  rfl

theorem map_planeLine_eq {planes : List Object} {impacted : List ImpactedObject}
    (hstands : List.Forall₂ StandsFor planes impacted) :
    impacted.map planeLine = planesText planes := by
  induction hstands with
  | nil => rfl
  | cons hfirst _ ih =>
      rw [List.map_cons, hfirst.planeLine_eq, ih]
      rfl

/-- A check lists the control planes exactly: it lists all that are yielded, in the diagnosis and in
a text report, unless the version of one is malformed. -/
structure ListsExactly (check : Check σ) (upgrade : Upgrade) (state : RunState σ) : Prop where
  listed : ∀ diagnosis, ((check.diagnose upgrade).run.run state).1 = .ok diagnosis →
    ∃ planes, upgrade.store.Yields .serviceMeshControlPlane planes ∧
      ListsPlanes planes diagnosis ∧
      check.lines?.map (fun lines => lines diagnosis) = some (planesText planes)
  given : ∀ planes, upgrade.store.Yields .serviceMeshControlPlane planes →
    (∀ plane ∈ planes, ¬ plane.value.IsMalformedAt ["spec", "version"]) →
    ∃ diagnosis, ((check.diagnose upgrade).run.run state).1 = .ok diagnosis
  refused : ∀ planes, upgrade.store.Yields .serviceMeshControlPlane planes →
    (∃ plane ∈ planes, plane.value.IsMalformedAt ["spec", "version"]) →
    ((check.diagnose upgrade).run.run state).1 = .error (.resource malformedVersion)

theorem listsExactly_controlPlanes (upgrade : Upgrade) (state : RunState σ) :
    ListsExactly controlPlanes upgrade state := by
  obtain ⟨calls, hrun⟩ := controlPlanes_run upgrade state
  have hgiven : ((controlPlanes.diagnose upgrade).run.run state).1 =
      (planesAnswer σ upgrade).mapError .resource := congrArg Prod.fst hrun
  constructor
  · intro diagnosis hdiagnosis
    have hanswer := Effects.mapError_eq_ok_iff.mp (hgiven.symm.trans hdiagnosis)
    obtain ⟨planes, hyields⟩ := exists_yields_of_planesAnswer hanswer
    rcases planesAnswer_cases (σ := σ) hyields with ⟨herror, _⟩ | ⟨impacted, hok, _, hstands⟩
    · cases hanswer.symm.trans herror
    · cases hanswer.symm.trans hok
      exact ⟨planes, hyields, listsPlanes_planesDiagnosis upgrade hstands,
        congrArg some (map_planeLine_eq hstands)⟩
  · intro planes hyields hformed
    rcases planesAnswer_cases (σ := σ) hyields with
      ⟨_, plane, hplane, hmalformed⟩ | ⟨impacted, hok, _, _⟩
    · exact absurd hmalformed (hformed plane hplane)
    · exact ⟨_, hgiven.trans (Effects.mapError_eq_ok_iff.mpr hok)⟩
  · intro planes hyields ⟨plane, hplane, hmalformed⟩
    rcases planesAnswer_cases (σ := σ) hyields with ⟨herror, _⟩ | ⟨_, _, hformed, _⟩
    · rw [hgiven, herror]
      rfl
    · exact absurd hmalformed (hformed plane hplane)

end ServiceMesh

/-! ### Both lists -/

/-- The list of services holds exactly the serverless ones of those that the store yields, unless
the check settles for a standard diagnosis, and the list of control planes holds all of them with
their versions. -/
theorem workloads_listed_exactly (upgrade : Upgrade) (state : RunState σ) :
    Kserve.ListsExactly Kserve.serverlessServices upgrade state ∧
      ServiceMesh.ListsExactly ServiceMesh.controlPlanes upgrade state :=
  ⟨Kserve.listsExactly_serverlessServices upgrade state,
    ServiceMesh.listsExactly_controlPlanes upgrade state⟩

/-- KServe is managed, with a service that is deployed raw between two that are not, of which one
has a number where its annotations belong. Of the two control planes only one has a version. -/
def mixed : Upgrade where
  store := {
    objects := [
      ⟨.obj [("apiVersion", .str "datasciencecluster.opendatahub.io/v1"),
        ("kind", .str "DataScienceCluster"), ("spec", .obj [("components", .obj [("kserve",
          .obj [("managementState", .str "Managed")])])])]⟩,
      service "plain" [],
      service "raw" [("annotations", .obj [("serving.kserve.io/deploymentMode",
        .str "RawDeployment")])],
      service "odd" [("annotations", .int 1)],
      plane [("name", .str "new"), ("namespace", .str "mesh")] [("version", .str "v2.5")],
      plane [("name", .str "old")] []] }
  time := default
where
  service (name : String) (metadata : List (String × Json)) : Object :=
    ⟨.obj [("apiVersion", .str "serving.kserve.io/v1beta1"), ("kind", .str "InferenceService"),
      ("metadata", .obj (("name", .str name) :: metadata))]⟩
  plane (metadata spec : List (String × Json)) : Object :=
    ⟨.obj [("apiVersion", .str "maistra.io/v2"), ("kind", .str "ServiceMeshControlPlane"),
      ("metadata", .obj metadata), ("spec", .obj spec)]⟩

theorem workloads_listed_exactly_mixed :
    (∃ diagnosis, ((Kserve.serverlessServices.diagnose mixed).run.run
        ({ notes := () } : RunState Unit)).1 = .ok diagnosis ∧
      diagnosis.impacted.map ImpactedObject.name = ["plain", "odd"]) ∧
    ∃ diagnosis, ((ServiceMesh.controlPlanes.diagnose mixed).run.run
        ({ notes := () } : RunState Unit)).1 = .ok diagnosis ∧
      (ServiceMesh.controlPlanes : Check Unit).lines?.map (fun lines => lines diagnosis) =
        some ["control plane mesh/new (version v2.5)",
          "control plane -/old (version unknown)"] := by
  obtain ⟨hservices, hplanes⟩ :=
    workloads_listed_exactly mixed ({ notes := () } : RunState Unit)
  have hyields : ∀ type, mixed.store.Yields type
      (mixed.store.objects.filter fun object => object.typeKey = type.key) := fun _ => .held rfl
  have hmanaged : ∃ cluster, Pipeline.Admits mixed ["kserve"] (some cluster) := by
    refine ⟨_, .governed ⟨[], rfl⟩ ?_ List.mem_cons_self (.told rfl)
      Platform.managed_ne_removed⟩
    rw [List.forall_mem_singleton]
    exact Platform.exists_componentState_eq_ok_iff.mp ⟨_, rfl⟩
  obtain ⟨cluster, hadmits⟩ := hmanaged
  constructor
  · obtain ⟨diagnosis, hrun, hgiven⟩ := hservices.given _ _ hadmits (hyields .inferenceService)
    have hunsettled : ∀ settled : Diagnosis, settled.impacted? = none → diagnosis ≠ settled := by
      rintro _ hnone rfl
      cases hnone.symm.trans hgiven.impacted
    obtain ⟨services, hshown, hlists⟩ :=
      hservices.listed diagnosis hrun (hunsettled _ rfl) (hunsettled _ rfl)
    refine ⟨diagnosis, hrun, ?_⟩
    rw [Diagnosis.impacted, hlists.impacted, hshown.unique (hyields .inferenceService)]
    decide +kernel
  · have hversions : ∀ plane ∈ mixed.store.objects.filter fun object =>
        object.typeKey = ResourceType.serviceMeshControlPlane.key,
        ¬ plane.value.IsMalformedAt ["spec", "version"] := by
      refine List.forall_mem_cons.mpr ⟨?_, List.forall_mem_singleton.mpr ?_⟩
      · rintro ⟨_, ⟨⟩, ⟨⟩, _⟩
      · rintro ⟨_, ⟨⟩, _⟩
    obtain ⟨diagnosis, hrun⟩ := hplanes.given _ (hyields .serviceMeshControlPlane) hversions
    obtain ⟨planes, hshown, _, hlines⟩ := hplanes.listed diagnosis hrun
    refine ⟨diagnosis, hrun, hlines.trans ?_⟩
    rw [hshown.unique (hyields .serviceMeshControlPlane)]
    decide +kernel

end Builtin

end UpgradeGate
