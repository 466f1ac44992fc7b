import UpgradeGate.Proofs.Pipeline.Component
import UpgradeGate.Proofs.Pipeline.Precondition
import UpgradeGate.Proofs.Pipeline.Recording

/-!
# The course of a component's pipeline

A pipeline either settles before it asks its check, on an error or on a diagnosis, or it asks the
check once, with a draft that carries the versions and the state of the component. The course says
which, what comes of it and which state the run is left in.
-/

namespace UpgradeGate.ComponentPipeline

variable {σ : Type}

section Opening

variable (pipeline : ComponentPipeline)

/-- The pipeline ends with the answer and does not ask its check. -/
inductive Settles : Answer → Prop
  | noCluster {answer : Answer}
    (hlacks : Pipeline.LacksCluster pipeline.identity pipeline.upgrade answer) : Settles answer
  | malformed {cluster : Object}
    (hcluster : pipeline.upgrade.store.Leads .dataScienceCluster cluster)
    (hmalformed : cluster.value.IsMalformedAt (Platform.statePath pipeline.component)) :
    Settles (.error (Platform.malformedState pipeline.component))
  | notRequired {cluster : Object} {state : String}
    (hcluster : pipeline.upgrade.store.Leads .dataScienceCluster cluster)
    (hstate : Platform.IsInState cluster pipeline.component state)
    (hgiven : pipeline.requiredStates ≠ []) (hother : state ∉ pipeline.requiredStates) :
    Settles
      (.ok (Pipeline.notConfigured pipeline.identity pipeline.upgrade pipeline.component state))

/-- The pipeline makes the request of its check: the state of the component is one in which there
is something to check. -/
inductive Asks : ComponentRequest → Prop
  | intro {cluster : Object} {state : String}
    (hcluster : pipeline.upgrade.store.Leads .dataScienceCluster cluster)
    (hstate : Platform.IsInState cluster pipeline.component state)
    (hrequired : pipeline.requiredStates = [] ∨ state ∈ pipeline.requiredStates) :
    Asks { cluster, component := pipeline.component, state, upgrade := pipeline.upgrade }

/-- The draft that goes along with a request: the versions and the state of the component, and no
condition yet. -/
def draftIn (state : String) : ComponentDraft where
  diagnosis := Pipeline.diagnosisWith pipeline.identity pipeline.upgrade
    [("component.opendatahub.io/management-state", state)] []
  ns? := none

theorem draft_eq (request : ComponentRequest) :
    pipeline.draft request = pipeline.draftIn request.state := by
  rw [draft, draftIn, Pipeline.seeded_eq, Pipeline.annotate_diagnosisWith]
  rfl

variable {pipeline}

theorem isRequired_iff {state : String} :
    pipeline.isRequired state = true ↔
      pipeline.requiredStates = [] ∨ state ∈ pipeline.requiredStates := by
  simp [isRequired]

theorem Settles.opening_eq {answer : Answer} (hsettles : pipeline.Settles answer) :
    pipeline.opening = answer.map .error := by
  unfold opening requestOf
  cases hsettles with
  | noCluster hlacks =>
      rw [hlacks.governing_eq]
      cases answer <;> rfl
  | malformed hcluster hmalformed =>
      simp only [Pipeline.governing_of_leads hcluster,
        Platform.componentState_of_isMalformedAt hmalformed]
      rfl
  | @notRequired cluster state hcluster hstate hgiven hother =>
      have hrequired : ¬ pipeline.isRequired state = true := by
        rw [isRequired_iff]
        exact not_or.mpr ⟨hgiven, hother⟩
      simp only [Pipeline.governing_of_leads hcluster, hstate.componentState_eq, Except.map,
        if_neg hrequired, Pipeline.componentNotConfigured_eq]

theorem Asks.opening_eq {request : ComponentRequest} (hasks : pipeline.Asks request) :
    pipeline.opening = .ok (.ok request) := by
  unfold opening requestOf
  cases hasks with
  | intro hcluster hstate hrequired =>
      simp only [Pipeline.governing_of_leads hcluster, hstate.componentState_eq, Except.map,
        if_pos (isRequired_iff.mpr hrequired), requestIn]

variable (pipeline) in
theorem settles_or_asks :
    (∃ answer, pipeline.Settles answer) ∨ ∃ request, pipeline.Asks request := by
  rcases Pipeline.lacksCluster_or_leads pipeline.identity pipeline.upgrade with
    ⟨answer, hlacks⟩ | ⟨cluster, hcluster⟩
  · exact .inl ⟨answer, .noCluster hlacks⟩
  · rcases Platform.isMalformedAt_or_isInState cluster pipeline.component with
      hmalformed | ⟨state, hstate⟩
    · exact .inl ⟨_, .malformed hcluster hmalformed⟩
    · by_cases hrequired : pipeline.requiredStates = [] ∨ state ∈ pipeline.requiredStates
      · exact .inr ⟨_, .intro hcluster hstate hrequired⟩
      · rw [not_or] at hrequired
        exact .inl ⟨_, .notRequired hcluster hstate hrequired.1 hrequired.2⟩

theorem Settles.flaw?_eq_none {diagnosis : Diagnosis} (hsettles : pipeline.Settles (.ok diagnosis))
    (hkind : pipeline.identity.kind ≠ "") (htype : pipeline.identity.type ≠ "") :
    diagnosis.flaw? = none :=
  (isSettled_of_opening pipeline hsettles.opening_eq).flaw?_eq_none hkind htype

end Opening

/-! ### The whole course -/

section Course

variable (pipeline : ComponentPipeline)
  (validate : ComponentRequest → Step (σ × ComponentDraft) Unit) (state : RunState σ)

/-- How the pipeline ends from a state: its answer, the state after it, and the requests that it
makes of its check, each with its draft. -/
inductive Ends : Except Problem Diagnosis → RunState σ → List (ComponentRequest × ComponentDraft) →
    Prop
  | settled {answer : Answer} (hsettles : pipeline.Settles answer) :
    Ends (answer.mapError .resource) (state.counting 1) []
  | asked {request : ComponentRequest} {answer : Except Problem Unit}
    {inner : RunState (σ × ComponentDraft)} (hasks : pipeline.Asks request)
    (hrun : (validate request).run.run { state.counting 1 with
      notes := (state.notes, pipeline.draftIn request.state) } = (answer, inner)) :
    Ends (answer.map fun _ => inner.notes.2.diagnosis) { inner with notes := inner.notes.1 }
      [(request, pipeline.draftIn request.state)]

theorem exists_ends : ∃ answer after record, pipeline.Ends validate state answer after record := by
  rcases pipeline.settles_or_asks with ⟨answer, hsettles⟩ | ⟨request, hasks⟩
  · exact ⟨_, _, _, .settled hsettles⟩
  · exact ⟨_, _, _, .asked hasks rfl⟩

variable {pipeline} {validate} {state}

theorem Ends.run_eq {answer : Except Problem Diagnosis} {after : RunState σ}
    {record : List (ComponentRequest × ComponentDraft)}
    (hends : pipeline.Ends validate state answer after record) :
    (pipeline.run validate).run.run state = (answer, after) := by
  rw [run_run]
  cases hends with
  | @settled answer hsettles =>
      rw [hsettles.opening_eq]
      cases answer <;> rfl
  | @asked request answer inner hasks hrun =>
      simp only [hasks.opening_eq, draft_eq, hrun]
      cases answer <;> rfl

/-- With the check on record, the pipeline ends as it does, with its requests on record. -/
theorem Ends.recorded {answer : Except Problem Diagnosis} {after : RunState σ}
    {record : List (ComponentRequest × ComponentDraft)}
    (hends : pipeline.Ends validate state answer after record) :
    pipeline.Ends (Pipeline.recorded Prod.mk validate) (state.withRecord []) answer
      (after.withRecord record) record := by
  cases hends with
  | settled hsettles => exact .settled hsettles
  | asked hasks hrun =>
      -- The answer does not tell the state that the check left, so the end is built on its own.
      have hasked : pipeline.Ends (Pipeline.recorded Prod.mk validate)
          (state.withRecord []) _ _ _ :=
        .asked hasks (Pipeline.recorded_run Prod.mk hrun)
      exact hasked

end Course

/-- From every state, a component's pipeline ends in the one way that its course names, with any
check: what it answers, the state that it leaves, and the requests that it makes of the check, which
are none if it settles and one if not. A diagnosis that it settles on has no flaw. -/
theorem run_component_ends (pipeline : ComponentPipeline)
    (validate : ComponentRequest → Step (σ × ComponentDraft) Unit) (state : RunState σ) :
    (∀ answer after record,
      (pipeline.run (Pipeline.recorded Prod.mk validate)).run.run (state.withRecord []) =
          (answer, after.withRecord record) ↔
        pipeline.Ends validate state answer after record) ∧
    (∀ answer after, (pipeline.run validate).run.run state = (answer, after) ↔
      ∃ record, pipeline.Ends validate state answer after record) ∧
    (pipeline.identity.kind ≠ "" → pipeline.identity.type ≠ "" →
      ∀ diagnosis, pipeline.Settles (.ok diagnosis) → diagnosis.flaw? = none) := by
  obtain ⟨hrecorded, hrun⟩ := RunState.iff_ends (fun hends => hends.run_eq)
    (fun hends => hends.recorded.run_eq) (pipeline.exists_ends validate state)
  refine ⟨hrecorded, hrun, fun hkind htype diagnosis hsettles => ?_⟩
  exact hsettles.flaw?_eq_none hkind htype

/-- A component of which the cluster says nothing counts as removed. A check for managed ones only
is not asked to cancel the run, as it would. -/
theorem run_component_ends_unasked :
    let cluster : Object := ⟨.obj [("apiVersion", .str "datasciencecluster.opendatahub.io/v1"),
      ("kind", .str "DataScienceCluster"), ("spec", .obj [("components", .null)])]⟩
    let pipeline : ComponentPipeline := {
      identity := .of .component "kserve" "serverless-removal" "" ""
      component := "kserve"
      upgrade := { store := Store.insert cluster {}, time := default }
      requiredStates := ["Managed"] }
    let diagnosis := Pipeline.notConfigured pipeline.identity pipeline.upgrade "kserve" "Removed"
    (pipeline.run fun _ => Step.cancel).run.run { notes := () } =
      (.ok diagnosis, { calls := 1, notes := () }) ∧ diagnosis.flaw? = none := by
  intro cluster pipeline diagnosis
  have hkey : cluster.typeKey = ResourceType.dataScienceCluster.key := by decide +kernel
  have hcluster : pipeline.upgrade.store.Leads .dataScienceCluster cluster :=
    ⟨[], by simp [pipeline, Store.answer, Store.insert, Store.serves, hkey]⟩
  have hstate : Platform.IsInState cluster "kserve" "Removed" := .absent rfl
  have hsettles : pipeline.Settles (.ok diagnosis) :=
    .notRequired hcluster hstate (by decide) (by decide)
  obtain ⟨_, hends, hsound⟩ := run_component_ends pipeline (fun _ => Step.cancel) { notes := () }
  exact ⟨(hends _ _).mpr ⟨[], .settled hsettles⟩, hsound (by decide) (by decide) _ hsettles⟩

end UpgradeGate.ComponentPipeline
