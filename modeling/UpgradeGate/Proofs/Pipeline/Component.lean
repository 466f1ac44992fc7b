import UpgradeGate.Pipeline
import UpgradeGate.Proofs.Pipeline.Governing

/-!
# The run of a component's pipeline

A pipeline either settles on a diagnosis before it asks its check, or hands the check one request.
The store is called once for that. A check that comes to one condition is known by what it concludes
from its requests.
-/

namespace UpgradeGate

variable {σ : Type}

/-- The first time that a check asks for the namespace, the store is called once. -/
theorem ComponentRequest.applicationsNamespace_run (request : ComponentRequest)
    {state : RunState (σ × ComponentDraft)} (hfirst : state.notes.2.ns? = none) :
    request.applicationsNamespace.run.run state =
      ((Platform.applications request.upgrade.store).mapError .resource,
        { state.counting 1 with
          notes := (state.notes.1,
            { state.notes.2 with
              ns? := some (Platform.applications request.upgrade.store) }) }) := by
  unfold applicationsNamespace
  simp only [Effects.run_bind, Step.run_part, hfirst, Step.run_attempt, Step.run_amend,
    Step.run_answer, Platform.applicationsNamespace_run]
  rfl

namespace ComponentPipeline

variable (pipeline : ComponentPipeline)

/-- The request that the pipeline makes of a cluster with the component in a state. -/
def requestIn (cluster : Object) (state : String) : ComponentRequest :=
  { cluster, component := pipeline.component, state, upgrade := pipeline.upgrade }

/-- What the pipeline does with a cluster: a diagnosis at once, or a request for the check. -/
def requestOf (cluster : Object) : Except ReadError (Except Diagnosis ComponentRequest) :=
  (Platform.componentState cluster pipeline.component).map fun state =>
    if pipeline.isRequired state then .ok (pipeline.requestIn cluster state)
    else
      .error (Pipeline.componentNotConfigured pipeline.identity pipeline.upgrade
        pipeline.component state)

def opening : Except ReadError (Except Diagnosis ComponentRequest) :=
  match Pipeline.governing pipeline.identity pipeline.upgrade with
  | .error error => .error error
  | .ok (.settled diagnosis) => .ok (.error diagnosis)
  | .ok (.found cluster) => pipeline.requestOf cluster

/-- The draft that the check gets along with a request. -/
def draft (request : ComponentRequest) : ComponentDraft where
  diagnosis := (Pipeline.seeded pipeline.identity pipeline.upgrade).annotate
    AnnotationKey.managementState request.state

theorem conditions_draft (request : ComponentRequest) :
    (pipeline.draft request).diagnosis.conditions = [] :=
  Pipeline.conditions_seeded pipeline.identity pipeline.upgrade

theorem isDraft_draft (hkind : pipeline.identity.kind ≠ "") (htype : pipeline.identity.type ≠ "")
    (request : ComponentRequest) : (pipeline.draft request).diagnosis.IsDraft :=
  (Pipeline.isDraft_seeded hkind htype).annotate (by decide) _

theorem run_run (validate : ComponentRequest → Step (σ × ComponentDraft) Unit)
    (state : RunState σ) :
    (pipeline.run validate).run.run state =
      match pipeline.opening with
      | .error error => (.error (.resource error), state.counting 1)
      | .ok (.error diagnosis) => (.ok diagnosis, state.counting 1)
      | .ok (.ok request) =>
        match (validate request).run.run
          { state.counting 1 with notes := (state.notes, pipeline.draft request) } with
        | (.ok _, inner) =>
          (.ok inner.notes.2.diagnosis, { inner with notes := inner.notes.1 })
        | (.error problem, inner) => (.error problem, { inner with notes := inner.notes.1 }) := by
  unfold run opening requestOf
  rw [Effects.run_bind, Pipeline.resolveCluster_run]
  rcases Pipeline.governing pipeline.identity pipeline.upgrade with error | cluster | diagnosis
  · rfl
  · simp only [Except.mapError, Effects.run_bind, Step.run_answer]
    rcases Platform.componentState cluster pipeline.component with error | managed
    · rfl
    · simp only [Except.map]
      cases pipeline.isRequired managed with
      | false => rfl
      | true =>
          simp only [Bool.not_true, Bool.false_eq_true, if_false, if_true]
          rcases hrun : (validate _).run.run { state.counting 1 with
            notes := (state.notes, pipeline.draft _) } with ⟨answer, inner⟩
          refine (Step.run_within_bind _ hrun).trans ?_
          cases answer <;> rfl
  · rfl

/-! ### What the pipeline opens with -/

theorem exists_opening_eq_error_iff :
    (∃ error, pipeline.opening = .error error) ↔
      (∃ error, pipeline.upgrade.store.first? .dataScienceCluster = .error error) ∨
      ∃ cluster, pipeline.upgrade.store.first? .dataScienceCluster = .ok (some cluster) ∧
        ∃ error, Platform.componentState cluster pipeline.component = .error error := by
  unfold opening Pipeline.governing requestOf
  rcases pipeline.upgrade.store.first? .dataScienceCluster with error | _ | cluster
  · simp [Except.map]
  · simp [Except.map]
  · cases hstate : Platform.componentState cluster pipeline.component <;>
      simp [Except.map, hstate]

theorem exists_request_iff {holds : ComponentRequest → Prop} :
    (∃ request, pipeline.opening = .ok (.ok request) ∧ holds request) ↔
      ∃ cluster state, pipeline.upgrade.store.first? .dataScienceCluster = .ok (some cluster) ∧
        Platform.componentState cluster pipeline.component = .ok state ∧
        pipeline.isRequired state = true ∧ holds (pipeline.requestIn cluster state) := by
  unfold opening Pipeline.governing requestOf
  rcases pipeline.upgrade.store.first? .dataScienceCluster with error | _ | cluster
  · simp [Except.map]
  · simp [Except.map]
  · cases hstate : Platform.componentState cluster pipeline.component with
    | error error => simp [Except.map, hstate]
    | ok state =>
        cases hrequired : pipeline.isRequired state <;> simp [Except.map, hstate, hrequired]

theorem isSettled_of_opening {diagnosis : Diagnosis}
    (hopening : pipeline.opening = .ok (.error diagnosis)) :
    Pipeline.IsSettled pipeline.identity pipeline.upgrade diagnosis := by
  unfold opening Pipeline.governing requestOf at hopening
  rcases hfirst : pipeline.upgrade.store.first? .dataScienceCluster with error | _ | cluster
  · simp [hfirst, Except.map] at hopening
  · simp only [hfirst, Except.map, Except.ok.injEq, Except.error.injEq] at hopening
    exact hopening ▸ .resourceNotFound _
  · cases hstate : Platform.componentState cluster pipeline.component with
    | error error => simp [hfirst, hstate, Except.map] at hopening
    | ok state =>
        cases hrequired : pipeline.isRequired state with
        | false =>
            simp only [hfirst, hstate, hrequired, Except.map, Bool.false_eq_true, if_false,
              Except.ok.injEq, Except.error.injEq] at hopening
            exact hopening ▸ .componentNotConfigured _ _
        | true => simp [hfirst, hstate, hrequired, Except.map] at hopening

/-! ### Checks that come to one condition -/

/-- The check writes the condition that it concludes, or fails as its conclusion does. -/
structure Concludes (validate : ComponentRequest → Step (σ × ComponentDraft) Unit)
    (conclude : ComponentRequest → Except ReadError Condition) : Prop where
  validate_run : ∀ (request : ComponentRequest) (state : RunState (σ × ComponentDraft)),
    state.notes.2.ns? = none → ∃ (calls : Nat) (last : ComponentDraft),
      (validate request).run.run state =
        (((conclude request).map fun _ => ()).mapError .resource,
          { state.counting calls with notes := (state.notes.1, last) }) ∧
      ∀ condition, conclude request = .ok condition →
        last.diagnosis = state.notes.2.diagnosis.setCondition condition

variable (conclude : ComponentRequest → Except ReadError Condition)

/-- The diagnosis with the condition that the check concludes. -/
def finish (request : ComponentRequest) : Answer :=
  (conclude request).map fun condition => (pipeline.draft request).diagnosis.setCondition condition

/-- What the pipeline answers with a check that concludes a condition from its request. -/
def answer : Answer := Pipeline.answerOf pipeline.opening (pipeline.finish conclude)

variable {conclude}

theorem run_of_concludes {validate : ComponentRequest → Step (σ × ComponentDraft) Unit}
    (hconcludes : Concludes validate conclude) (state : RunState σ) :
    ∃ calls : Nat, (pipeline.run validate).run.run state =
      ((pipeline.answer conclude).mapError .resource, state.counting calls) := by
  rw [run_run]
  unfold answer Pipeline.answerOf
  rcases pipeline.opening with error | diagnosis | request
  · exact ⟨1, rfl⟩
  · exact ⟨1, rfl⟩
  · obtain ⟨calls, last, hrun, hlast⟩ := hconcludes.validate_run request
      { state.counting 1 with notes := (state.notes, pipeline.draft request) } rfl
    refine ⟨1 + calls, ?_⟩
    simp only [hrun, finish]
    cases hconclude : conclude request with
    | error error => simp [Except.map, Except.mapError, RunState.counting, Nat.add_assoc]
    | ok condition =>
        simp [Except.map, Except.mapError, RunState.counting, Nat.add_assoc,
          hlast condition hconclude]

theorem answer_fails_iff :
    (pipeline.answer conclude).Fails ↔
      (∃ error, pipeline.upgrade.store.first? .dataScienceCluster = .error error) ∨
      ∃ cluster, pipeline.upgrade.store.first? .dataScienceCluster = .ok (some cluster) ∧
        ((∃ error, Platform.componentState cluster pipeline.component = .error error) ∨
          ∃ state, Platform.componentState cluster pipeline.component = .ok state ∧
            pipeline.isRequired state = true ∧
            ∃ error, conclude (pipeline.requestIn cluster state) = .error error) := by
  rw [answer, Pipeline.answerOf_fails_iff, exists_request_iff, exists_opening_eq_error_iff]
  simp only [finish, Answer.fails_map_iff, or_assoc, exists_and_left, ← exists_or, ← and_or_left]

theorem answer_has_iff {holds : Condition → Prop}
    (hidle : ∀ condition : Condition, condition.IsIdle → ¬ holds condition) :
    (pipeline.answer conclude).Has holds ↔
      ∃ cluster, pipeline.upgrade.store.first? .dataScienceCluster = .ok (some cluster) ∧
        ∃ state, Platform.componentState cluster pipeline.component = .ok state ∧
          pipeline.isRequired state = true ∧
          ∃ condition, conclude (pipeline.requestIn cluster state) = .ok condition ∧
            holds condition := by
  rw [answer, Pipeline.answerOf_has_iff hidle fun _ => isSettled_of_opening pipeline,
    exists_request_iff]
  simp only [finish, Answer.has_map_iff, exists_and_left,
    Diagnosis.conditions_setCondition (pipeline.conditions_draft _), List.mem_singleton,
    exists_eq_left]

theorem isSound_answer (hkind : pipeline.identity.kind ≠ "") (htype : pipeline.identity.type ≠ "")
    (hconclude : ∀ request condition, conclude request = .ok condition →
      condition.type ≠ "" ∧ condition.reason ≠ "") :
    (pipeline.answer conclude).IsSound := by
  refine Pipeline.isSound_answerOf hkind htype (fun _ => isSettled_of_opening pipeline) ?_
  refine fun request _ => Answer.isSound_map_iff.mpr fun condition hcondition => ?_
  obtain ⟨hconditionType, hreason⟩ := hconclude request condition hcondition
  exact (pipeline.isDraft_draft hkind htype request).flaw?_setCondition hconditionType hreason

end ComponentPipeline

end UpgradeGate
