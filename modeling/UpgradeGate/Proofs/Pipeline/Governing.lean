import UpgradeGate.Pipeline
import UpgradeGate.Proofs.Cluster.Listing
import UpgradeGate.Proofs.Diagnosis.Soundness
import UpgradeGate.Proofs.Effects
import UpgradeGate.Proofs.Run.Steps

/-!
# The governing cluster

What a pipeline resolves before it looks at anything else, as a function of the store, and why the
diagnoses that it may come to at this point are sound and do not block. What a pipeline answers is
then a matter of what it opens with and of how it finishes its request, if there is one.
-/

namespace UpgradeGate

/-- The condition fails, which is of no weight for the upgrade. -/
structure Condition.IsIdle (condition : Condition) : Prop where
  status : condition.status = .fails
  impact : condition.impact = .none

theorem Condition.IsIdle.not_isBlocking {condition : Condition} (hidle : condition.IsIdle) :
    ¬ condition.isBlocking = true := by
  unfold isBlocking
  rw [hidle.impact]
  nofun

namespace Pipeline

variable {σ : Type} (identity : CheckIdentity) (upgrade : Upgrade)

/-- The cluster that governs a check, as the store has it. -/
def governing : Except ReadError Governing :=
  (upgrade.store.first? .dataScienceCluster).map fun
    | some cluster => .found cluster
    | none => .settled (resourceNotFound identity upgrade .dataScienceCluster)

theorem resolveCluster_run (state : RunState σ) :
    (resolveCluster identity upgrade).run.run state =
      ((governing identity upgrade).mapError .resource, state.counting 1) := by
  unfold resolveCluster governing Platform.cluster?
  rw [Effects.run_bind, Step.run_read, Store.singleton?_run]
  rcases upgrade.store.first? .dataScienceCluster with error | _ | cluster <;> rfl

/-- The cluster unless all of the components are removed in it. -/
def unlessRemoved (cluster : Object) (components : List String) : Except ReadError Governing :=
  (components.mapM (Platform.componentState cluster)).map fun states =>
    if !states.isEmpty && states.all (· == Platform.removed) then
      .settled (componentNotConfigured identity upgrade (", ".intercalate components)
        Platform.removed)
    else .found cluster

/-- The governing cluster, in which not all of the components are removed. -/
def governingComponents (components : List String) : Except ReadError Governing :=
  match governing identity upgrade with
  | .ok (.found cluster) => unlessRemoved identity upgrade cluster components
  | answer => answer

theorem resolveComponents_run (components : List String) (state : RunState σ) :
    (resolveComponents identity upgrade components).run.run state =
      ((governingComponents identity upgrade components).mapError .resource,
        state.counting 1) := by
  unfold resolveComponents governingComponents unlessRemoved
  rw [Effects.run_bind, resolveCluster_run]
  rcases governing identity upgrade with error | cluster | diagnosis
  · rfl
  · simp only [Except.mapError, Effects.run_bind, Step.run_answer]
    rcases components.mapM (Platform.componentState cluster) with error | states
    · rfl
    · simp only [Except.map]
      cases !states.isEmpty && states.all (· == Platform.removed) <;> rfl
  · rfl

theorem exists_governingComponents_eq_error_iff (components : List String) :
    (∃ error, governingComponents identity upgrade components = .error error) ↔
      (∃ error, upgrade.store.first? .dataScienceCluster = .error error) ∨
      ∃ cluster, upgrade.store.first? .dataScienceCluster = .ok (some cluster) ∧
        ∃ component ∈ components, ∃ error,
          Platform.componentState cluster component = .error error := by
  simp only [← Traversal.exists_mapM_eq_error_iff]
  unfold governingComponents governing unlessRemoved
  rcases upgrade.store.first? .dataScienceCluster with error | _ | cluster
  · simp [Except.map]
  · simp [Except.map]
  · cases hstates : components.mapM (Platform.componentState cluster) <;>
      simp [Except.map, hstates]

theorem unlessRemoved_eq_found_iff {cluster found : Object} {components : List String} :
    unlessRemoved identity upgrade cluster components = .ok (.found found) ↔
      found = cluster ∧ ∃ states, components.mapM (Platform.componentState cluster) = .ok states ∧
        (states = [] ∨ ∃ state ∈ states, state ≠ Platform.removed) := by
  unfold unlessRemoved
  cases components.mapM (Platform.componentState cluster) with
  | error error => simp [Except.map]
  | ok states =>
      have hremoved : (!states.isEmpty && states.all (· == Platform.removed)) = false ↔
          states = [] ∨ ∃ state ∈ states, state ≠ Platform.removed := by
        rw [Bool.and_eq_false_iff, Bool.not_eq_false', List.isEmpty_iff, List.all_eq_false]
        simp only [beq_iff_eq, ne_eq]
      simp only [Except.map, Except.ok.injEq, exists_eq_left', ← hremoved]
      cases !states.isEmpty && states.all (· == Platform.removed) with
      | false => simp [eq_comm]
      | true => simp

theorem governingComponents_eq_found_iff {components : List String} {cluster : Object} :
    governingComponents identity upgrade components = .ok (.found cluster) ↔
      upgrade.store.first? .dataScienceCluster = .ok (some cluster) ∧
      ∃ states, components.mapM (Platform.componentState cluster) = .ok states ∧
        (states = [] ∨ ∃ state ∈ states, state ≠ Platform.removed) := by
  unfold governingComponents governing
  rcases upgrade.store.first? .dataScienceCluster with error | _ | first
  · simp [Except.map]
  · simp [Except.map]
  · simp only [Except.map, unlessRemoved_eq_found_iff, Except.ok.injEq, Option.some.injEq]
    constructor
    · rintro ⟨rfl, hstates⟩
      exact ⟨rfl, hstates⟩
    · rintro ⟨rfl, hstates⟩
      exact ⟨rfl, hstates⟩

@[simp]
theorem conditions_seeded : (seeded identity upgrade).conditions = [] := by
  unfold seeded
  cases upgrade.target? <;> cases upgrade.current? <;> rfl

/-- There is nothing to check, and the diagnosis says so. -/
inductive IsSettled : Diagnosis → Prop
  | resourceNotFound (type : ResourceType) : IsSettled (resourceNotFound identity upgrade type)
  | componentNotConfigured (component state : String) :
    IsSettled (componentNotConfigured identity upgrade component state)

variable {identity} {upgrade}

theorem isSettled_of_governingComponents {components : List String} {diagnosis : Diagnosis}
    (hgoverning : governingComponents identity upgrade components = .ok (.settled diagnosis)) :
    IsSettled identity upgrade diagnosis := by
  unfold governingComponents governing unlessRemoved at hgoverning
  rcases hfirst : upgrade.store.first? .dataScienceCluster with error | _ | cluster
  · simp [hfirst, Except.map] at hgoverning
  · simp only [hfirst, Except.map, Except.ok.injEq, Governing.settled.injEq] at hgoverning
    exact hgoverning ▸ .resourceNotFound _
  · cases hstates : components.mapM (Platform.componentState cluster) with
    | error error => simp [hfirst, hstates, Except.map] at hgoverning
    | ok states =>
        cases hremoved : !states.isEmpty && states.all (· == Platform.removed) with
        | false => simp [hfirst, hstates, hremoved, Except.map] at hgoverning
        | true =>
            simp only [hfirst, hstates, hremoved, Except.map, if_true, Except.ok.injEq,
              Governing.settled.injEq] at hgoverning
            exact hgoverning ▸ .componentNotConfigured _ _

theorem IsSettled.exists_conditions_eq {diagnosis : Diagnosis}
    (hsettled : IsSettled identity upgrade diagnosis) :
    ∃ condition, diagnosis.conditions = [condition] ∧ condition.IsIdle := by
  have hseeded := conditions_seeded identity upgrade
  cases hsettled with
  | resourceNotFound type =>
      exact ⟨_, Diagnosis.conditions_setCondition hseeded _, rfl, rfl⟩
  | componentNotConfigured component state =>
      have hannotated := (Diagnosis.conditions_annotate (seeded identity upgrade)
        AnnotationKey.managementState state).trans hseeded
      exact ⟨_, Diagnosis.conditions_setCondition hannotated _, rfl, rfl⟩

section Sound

variable (hkind : identity.kind ≠ "") (htype : identity.type ≠ "")

include hkind htype

theorem isDraft_seeded : (seeded identity upgrade).IsDraft := by
  have hdraft := CheckIdentity.isDraft_diagnosis hkind htype
  unfold seeded
  cases upgrade.target? with
  | none =>
      cases upgrade.current? with
      | none => exact hdraft
      | some current => exact hdraft.annotate (by decide) _
  | some target =>
      cases upgrade.current? with
      | none => exact hdraft.annotate (by decide) _
      | some current => exact (hdraft.annotate (by decide) _).annotate (by decide) _

theorem IsSettled.flaw?_eq_none {diagnosis : Diagnosis}
    (hsettled : IsSettled identity upgrade diagnosis) : diagnosis.flaw? = none := by
  have hdraft : (seeded identity upgrade).IsDraft := isDraft_seeded hkind htype
  cases hsettled with
  | resourceNotFound type =>
      exact hdraft.flaw?_setCondition (by dsimp only; decide) (by dsimp only; decide)
  | componentNotConfigured component state =>
      exact (hdraft.annotate (by decide) state).flaw?_setCondition (by dsimp only; decide)
        (by dsimp only; decide)

end Sound

/-! ### What a pipeline answers -/

section Answer

variable {ρ : Type} {opening : Except ReadError (Except Diagnosis ρ)} {finish : ρ → Answer}

/-- The answer of a pipeline that opens with a diagnosis, or with a request that it finishes. -/
def answerOf (opening : Except ReadError (Except Diagnosis ρ)) (finish : ρ → Answer) : Answer :=
  match opening with
  | .error error => .error error
  | .ok (.error diagnosis) => .ok diagnosis
  | .ok (.ok request) => finish request

theorem answerOf_fails_iff :
    (answerOf opening finish).Fails ↔
      (∃ error, opening = .error error) ∨
      ∃ request, opening = .ok (.ok request) ∧ (finish request).Fails := by
  unfold answerOf
  rcases opening with error | diagnosis | request <;> simp

/-- The diagnoses that a pipeline may come to at once have idle conditions only. -/
theorem answerOf_has_iff {holds : Condition → Prop}
    (hidle : ∀ condition : Condition, condition.IsIdle → ¬ holds condition)
    (hsettled : ∀ diagnosis, opening = .ok (.error diagnosis) →
      IsSettled identity upgrade diagnosis) :
    (answerOf opening finish).Has holds ↔
      ∃ request, opening = .ok (.ok request) ∧ (finish request).Has holds := by
  unfold answerOf
  rcases opening with error | diagnosis | request
  · simp
  · obtain ⟨condition, hconditions, hcondition⟩ := (hsettled diagnosis rfl).exists_conditions_eq
    simp [hconditions, hidle condition hcondition]
  · simp

theorem isSound_answerOf (hkind : identity.kind ≠ "") (htype : identity.type ≠ "")
    (hsettled : ∀ diagnosis, opening = .ok (.error diagnosis) →
      IsSettled identity upgrade diagnosis)
    (hfinish : ∀ request, opening = .ok (.ok request) → (finish request).IsSound) :
    (answerOf opening finish).IsSound := by
  unfold answerOf
  rcases opening with error | diagnosis | request
  · exact Answer.isSound_error error
  · exact Answer.isSound_ok_iff.mpr ((hsettled diagnosis rfl).flaw?_eq_none hkind htype)
  · exact hfinish request rfl

end Answer

end Pipeline

end UpgradeGate
