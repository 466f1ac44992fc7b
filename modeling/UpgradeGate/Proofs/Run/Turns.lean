import Mathlib.Data.List.Forall2
import UpgradeGate.Proofs.Run.Steps

/-!
# The turns of a run

A run gives each check its turn, in order, and ends after the first turn in which a check that
applies leaves the run cancelled. What one turn does is stated once, in `executeChecks_cons`; the
law of a whole run follows by induction over the checks.
-/

namespace UpgradeGate

variable {σ : Type}

/-- The turn of a check: it says whether it applies and, if it does, gives a diagnosis. -/
structure Turn (σ : Type) where
  check : Check σ
  upgrade : Upgrade
  /-- The state of the run before the turn. -/
  before : RunState σ

namespace Turn

variable (turn : Turn σ)

/-- Whether the check says that it applies. To fail is not to say so. -/
def isDiagnosed : Bool :=
  match ((turn.check.applies turn.upgrade).run.run turn.before).1 with
  | .ok applies => applies
  | .error _ => false

/-- The state once the check has been asked whether it applies. -/
def asked : RunState σ := ((turn.check.applies turn.upgrade).run.run turn.before).2

/-- What the check gives if it applies. -/
def answer : Except Problem Diagnosis :=
  ((turn.check.diagnose turn.upgrade).run.run turn.asked).1

def after : RunState σ :=
  if turn.isDiagnosed then ((turn.check.diagnose turn.upgrade).run.run turn.asked).2
  else turn.asked

/-- Whether the check applies and leaves the run cancelled. -/
def cancels : Bool := turn.isDiagnosed && turn.after.control.cancelled

/-- The execution that the turn adds to the run, if it adds one. -/
def executions : List (Execution σ) :=
  if turn.isDiagnosed then [turn.check.outcome turn.upgrade.time turn.answer] else []

/-- The calls of the check, which stands at the given position. -/
def calls (position : Nat) : List Call :=
  .applies position :: if turn.isDiagnosed then [.diagnose position] else []

/-- The same turn of the recorded check, with the calls before it on record. -/
def recorded (position : Nat) (record : List Call) : Turn (σ × List Call) where
  check := turn.check.recorded position
  upgrade := turn.upgrade
  before := turn.before.recording record

@[simp]
theorem recorded_isDiagnosed (position : Nat) (record : List Call) :
    (turn.recorded position record).isDiagnosed = turn.isDiagnosed := rfl

@[simp]
theorem recorded_answer (position : Nat) (record : List Call) :
    (turn.recorded position record).answer = turn.answer := rfl

theorem recorded_after (position : Nat) (record : List Call) :
    (turn.recorded position record).after =
      turn.after.recording (record ++ turn.calls position) := by
  unfold after calls
  rw [recorded_isDiagnosed]
  cases turn.isDiagnosed with
  | false => rfl
  | true =>
      rw [if_pos rfl, if_pos rfl, if_pos rfl, List.append_cons]
      rfl

end Turn

/-- Time stands still for the check: to be asked does not touch the control of a run, and a
diagnosis does not let its deadline pass. It may cancel the run. -/
structure Check.IsTimely (check : Check σ) (upgrade : Upgrade) : Prop where
  applies_control : ∀ state : RunState σ,
    ((check.applies upgrade).run.run state).2.control = state.control
  diagnose_isExpired : ∀ state : RunState σ, state.control.isExpired = false →
    ((check.diagnose upgrade).run.run state).2.control.isExpired = false

namespace Run

/-- The turns of all checks, each in the state that the turn before it leaves. -/
def turns (upgrade : Upgrade) : List (Check σ) → RunState σ → List (Turn σ)
  | [], _ => []
  | check :: checks, state =>
    let turn : Turn σ := ⟨check, upgrade, state⟩
    turn :: turns upgrade checks turn.after

theorem executeChecks_of_isDone (upgrade : Upgrade) (checks : List (Check σ))
    {state : RunState σ} (hdone : state.control.isDone = true) :
    (executeChecks upgrade checks).run state = ([], state) := by
  cases checks with
  | nil => rfl
  | cons check checks =>
      simp only [executeChecks, StateT.run_bind, StateT.run_get, pure_bind, hdone, if_true]
      rfl

theorem executeChecks_cons (turn : Turn σ) (checks : List (Check σ))
    (hlive : turn.before.control.isDone = false) :
    (executeChecks turn.upgrade (turn.check :: checks)).run turn.before =
      (turn.executions ++ ((executeChecks turn.upgrade checks).run turn.after).1,
        ((executeChecks turn.upgrade checks).run turn.after).2) := by
  rw [executeChecks]
  simp only [StateT.run_bind, StateT.run_get, pure_bind, hlive, Bool.false_eq_true, if_false]
  unfold Turn.executions Turn.after Turn.isDiagnosed Turn.answer Turn.asked
  rcases (turn.check.applies turn.upgrade).run.run turn.before with ⟨_ | applies, asked⟩
  · rfl
  · cases applies <;> rfl

/-- Patterns that cannot be read keep a run from its checks. -/
theorem executeSelected_run (catalogue : Catalogue σ) (patterns : List String)
    (group? : Option CheckGroup) (upgrade : Upgrade) (state : RunState σ) :
    ((executeSelected catalogue patterns group? upgrade).run.run state).1 =
      (catalogue.select patterns group?).map fun checks =>
        ((executeChecks upgrade checks).run state).1 := by
  unfold executeSelected
  cases catalogue.select patterns group? <;> rfl

/-- The turns up to the first that cancels the run, or all of them if none does. -/
def visited (turns : List (Turn σ)) : List (Turn σ) :=
  turns.take (turns.findIdx Turn.cancels + 1)

theorem visited_cons (turn : Turn σ) (turns : List (Turn σ)) :
    visited (turn :: turns) = turn :: if turn.cancels then [] else visited turns := by
  unfold visited
  rw [List.findIdx_cons, List.take_succ_cons]
  cases turn.cancels <;> simp

theorem map_check_turns (upgrade : Upgrade) (checks : List (Check σ)) (state : RunState σ) :
    (turns upgrade checks state).map Turn.check = checks := by
  induction checks generalizing state with
  | nil => rfl
  | cons check checks ih => rw [turns, List.map_cons, ih]

/-- A live run is done after a turn exactly if the turn cancels it. -/
theorem isDone_after (turn : Turn σ) (htimely : turn.check.IsTimely turn.upgrade)
    (hlive : turn.before.control.isDone = false) :
    turn.after.control.isDone = turn.cancels := by
  have hasked : turn.asked.control = turn.before.control :=
    htimely.applies_control turn.before
  unfold Turn.cancels Turn.after
  cases hdiagnosed : turn.isDiagnosed with
  | false =>
      simp only [Bool.false_eq_true, if_false, Bool.false_and]
      rw [hasked, hlive]
  | true =>
      have hexpired : turn.asked.control.isExpired = false := by
        rw [hasked]
        exact (Bool.or_eq_false_iff.mp hlive).2
      simp only [if_true, Bool.true_and, RunControl.isDone,
        htimely.diagnose_isExpired _ hexpired, Bool.or_false]

theorem executeChecks_run {upgrade : Upgrade} {checks : List (Check σ)} {state : RunState σ}
    (htimely : ∀ check ∈ checks, check.IsTimely upgrade)
    (hlive : state.control.isDone = false) :
    ((executeChecks upgrade checks).run state).1 =
      (visited (turns upgrade checks state)).flatMap Turn.executions := by
  induction checks generalizing state with
  | nil => rfl
  | cons check checks ih =>
      let turn : Turn σ := ⟨check, upgrade, state⟩
      have hdone := isDone_after turn (htimely check List.mem_cons_self) hlive
      rw [executeChecks_cons turn checks hlive, turns, visited_cons, List.flatMap_cons]
      refine congrArg (turn.executions ++ ·) ?_
      cases hcancels : turn.cancels with
      | true =>
          rw [hcancels] at hdone
          rw [executeChecks_of_isDone _ _ hdone]
          rfl
      | false =>
          rw [hcancels] at hdone
          exact ih (fun other hother => htimely other (List.mem_cons_of_mem _ hother)) hdone

/-- The calls of turns, of which the first is that of the check at the given position. -/
def callsFrom (position : Nat) : List (Turn σ) → List Call
  | [] => []
  | turn :: turns => turn.calls position ++ callsFrom (position + 1) turns

/-- What an execution says of its check. -/
def told (execution : Execution σ) : Diagnosis × Option Problem :=
  (execution.diagnosis, execution.problem?)

theorem told_outcome_recorded (position : Nat) (check : Check σ) (time : Instant)
    (answer : Except Problem Diagnosis) :
    told ((check.recorded position).outcome time answer) = told (check.outcome time answer) := by
  cases answer with
  | error problem => rfl
  | ok diagnosis =>
      unfold Check.outcome
      cases hflaw : diagnosis.flaw? <;> simp only [hflaw] <;> rfl

theorem map_told_recorded_executions (turn : Turn σ) (position : Nat) (record : List Call) :
    (turn.recorded position record).executions.map told = turn.executions.map told := by
  unfold Turn.executions
  rw [Turn.recorded_isDiagnosed, Turn.recorded_answer]
  cases turn.isDiagnosed with
  | false => rfl
  | true => exact congrArg (fun said => [said]) (told_outcome_recorded _ _ _ _)

/-- Recording the calls changes nothing else of a run. -/
theorem executeChecks_recordedFrom {upgrade : Upgrade} {checks : List (Check σ)}
    {state : RunState σ} (htimely : ∀ check ∈ checks, check.IsTimely upgrade)
    (hlive : state.control.isDone = false) (position : Nat) (record : List Call) :
    ((executeChecks upgrade (recordedFrom position checks)).run
        (state.recording record)).1.map told =
      ((executeChecks upgrade checks).run state).1.map told ∧
    ((executeChecks upgrade (recordedFrom position checks)).run (state.recording record)).2 =
      ((executeChecks upgrade checks).run state).2.recording
        (record ++ callsFrom position (visited (turns upgrade checks state))) := by
  -- Along the checks the record grows by the calls of one turn, and the position by one.
  induction checks generalizing state position record with
  | nil =>
      refine ⟨rfl, ?_⟩
      simp only [turns, visited, List.take_nil, callsFrom, List.append_nil]
      rfl
  | cons check checks ih =>
      let turn : Turn σ := ⟨check, upgrade, state⟩
      have hplain : (executeChecks upgrade (check :: checks)).run state = _ :=
        executeChecks_cons turn checks hlive
      have hrecorded : (executeChecks upgrade (recordedFrom position (check :: checks))).run
          (state.recording record) = _ :=
        executeChecks_cons (turn.recorded position record) (recordedFrom (position + 1) checks)
          hlive
      have hturns : turns upgrade (check :: checks) state =
        turn :: turns upgrade checks turn.after := rfl
      have hdone := isDone_after turn (htimely check List.mem_cons_self) hlive
      rw [hrecorded, hplain, hturns, visited_cons, Turn.recorded_after, callsFrom,
        List.map_append, List.map_append, map_told_recorded_executions, ← List.append_assoc]
      cases hcancels : turn.cancels with
      | true =>
          rw [hcancels] at hdone
          have hstop : (turn.after.recording (record ++ turn.calls position)).control.isDone =
            true := hdone
          rw [executeChecks_of_isDone _ _ hdone, executeChecks_of_isDone _ _ hstop, if_pos rfl,
            callsFrom, List.append_nil (record ++ turn.calls position)]
          exact ⟨rfl, rfl⟩
      | false =>
          rw [hcancels] at hdone
          obtain ⟨hsaid, hstate⟩ :=
            ih (fun other hother => htimely other (List.mem_cons_of_mem _ hother)) hdone
              (position + 1) (record ++ turn.calls position)
          exact ⟨congrArg (turn.executions.map told ++ ·) hsaid, hstate⟩

end Run

/-- The condition of a substitute for the check's own diagnosis. -/
def Condition.substitute (time : Instant) (reason message : String) : Condition where
  type := Types.validated
  status := .unknown
  reason := reason
  message := message
  time := time
  impact := .advisory

/-- How an execution reports the answer of its check: a sound diagnosis as it is, and otherwise a
substitute that says what went wrong. -/
inductive Execution.Reports (check : Check σ) (time : Instant) :
    Except Problem Diagnosis → Execution σ → Prop where
  | kept {diagnosis : Diagnosis} (hsound : diagnosis.flaw? = none) :
    Reports check time (.ok diagnosis) ⟨check, diagnosis, none⟩
  | failed {problem : Problem} {substitute : Diagnosis}
    (hsubstitute : substitute.conditions =
      [.substitute time problem.classify.1 problem.classify.2]) :
    Reports check time (.error problem) ⟨check, substitute, some problem⟩
  | flawed {diagnosis substitute : Diagnosis} {flaw : Flaw} (hflaw : diagnosis.flaw? = some flaw)
    (hsubstitute : substitute.conditions = [.substitute time Condition.Reasons.invalidResult
      ("Check returned an invalid result: " ++ (Problem.invalidResult flaw).message)]) :
    Reports check time (.ok diagnosis) ⟨check, substitute, some (.invalidResult flaw)⟩

theorem Check.reports_outcome (check : Check σ) (time : Instant)
    (answer : Except Problem Diagnosis) :
    Execution.Reports check time answer (check.outcome time answer) := by
  cases answer with
  | error problem => exact .failed rfl
  | ok diagnosis =>
      unfold outcome
      cases hflaw : diagnosis.flaw? with
      | none =>
          simp only [hflaw]
          exact .kept hflaw
      | some flaw =>
          simp only [hflaw]
          exact .flawed hflaw rfl

namespace Run

theorem upgrade_of_mem_turns {upgrade : Upgrade} {checks : List (Check σ)} {state : RunState σ}
    {turn : Turn σ} (hturn : turn ∈ turns upgrade checks state) : turn.upgrade = upgrade := by
  induction checks generalizing state with
  | nil => simp [turns] at hturn
  | cons check checks ih =>
      rcases List.mem_cons.mp hturn with rfl | hturn
      · rfl
      · exact ih hturn

theorem forall₂_flatMap_executions {upgrade : Upgrade} {turns : List (Turn σ)}
    (hturns : ∀ turn ∈ turns, turn.upgrade = upgrade) :
    List.Forall₂ (fun turn execution =>
        Execution.Reports turn.check upgrade.time turn.answer execution)
      (turns.filter Turn.isDiagnosed) (turns.flatMap Turn.executions) := by
  induction turns with
  | nil => exact .nil
  | cons turn turns ih =>
      have hrest := ih fun other hother => hturns other (List.mem_cons_of_mem _ hother)
      have hupgrade := hturns turn List.mem_cons_self
      rw [List.filter_cons, List.flatMap_cons, Turn.executions, hupgrade]
      cases turn.isDiagnosed with
      | false => exact hrest
      | true => exact .cons (turn.check.reports_outcome _ _) hrest

/-- A run that is done does nothing. Any other visits the checks up to the first that cancels it:
it asks each whether it applies, and calls those that do, and only those, for their diagnoses, on
each of which one execution reports. -/
theorem executeChecks_law {upgrade : Upgrade} {checks : List (Check σ)}
    (htimely : ∀ check ∈ checks, check.IsTimely upgrade) (state : RunState σ) :
    (state.control.isDone = true →
      (executeChecks upgrade checks).run state = ([], state) ∧
      (executeChecks upgrade (recorded checks)).run (state.recording []) =
        ([], state.recording [])) ∧
    (state.control.isDone = false →
      let turns := turns upgrade checks state
      let visited := turns.take (turns.findIdx Turn.cancels + 1)
      turns.map Turn.check = checks ∧
      List.Forall₂ (fun turn execution =>
          Execution.Reports turn.check upgrade.time turn.answer execution)
        (visited.filter Turn.isDiagnosed) ((executeChecks upgrade checks).run state).1 ∧
      ((executeChecks upgrade (recorded checks)).run (state.recording [])).2 =
        ((executeChecks upgrade checks).run state).2.recording (callsFrom 0 visited)) := by
  constructor
  · intro hdone
    exact ⟨executeChecks_of_isDone _ _ hdone, executeChecks_of_isDone _ _ hdone⟩
  · intro hlive
    refine ⟨map_check_turns upgrade checks state, ?_, ?_⟩
    · rw [executeChecks_run htimely hlive]
      exact forall₂_flatMap_executions fun turn hturn =>
        upgrade_of_mem_turns (List.mem_of_mem_take hturn)
    · exact (executeChecks_recordedFrom htimely hlive 0 []).2

/-- A check that applies, cancels the run and fails. -/
def stopping : Check Unit where
  identity := default
  applies _ := return true
  diagnose _ := do
    Step.cancel
    throw (.check "stopped")

theorem isTimely_stopping (upgrade : Upgrade) : stopping.IsTimely upgrade :=
  ⟨fun _ => rfl, fun _ hexpired => hexpired⟩

theorem isTimely_default (upgrade : Upgrade) : (default : Check Unit).IsTimely upgrade :=
  ⟨fun _ => rfl, fun _ hexpired => hexpired⟩

/-- Of three checks the first does not apply and the second cancels the run. -/
theorem executeChecks_law_stopping :
    (∀ check ∈ [default, stopping, stopping], check.IsTimely default) ∧
    ((executeChecks default (recorded [default, stopping, stopping])).run
      (RunState.recording [] { notes := () })).2.notes.2 =
        [.applies 0, .applies 1, .diagnose 1] := by
  have htimely : ∀ check ∈ [default, stopping, stopping], check.IsTimely default := by
    simp [isTimely_stopping, isTimely_default]
  refine ⟨htimely, ?_⟩
  obtain ⟨_, _, hcalls⟩ := (executeChecks_law htimely { notes := () }).2 rfl
  rw [hcalls]
  rfl

end Run

end UpgradeGate
