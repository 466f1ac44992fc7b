import UpgradeGate.Proofs.Diagnosis.Soundness
import UpgradeGate.Proofs.Run.Steps
import UpgradeGate.Proofs.Run.Turns

/-!
# Checks that always answer the same

A check that applies whatever the state of the run, answers the same whatever the state and lets the
run be is as good as its answer. A run of such checks has one execution for each of them.
-/

namespace UpgradeGate

variable {σ : Type} {upgrade : Upgrade}

/-- The check applies and answers the same in any state of a run, of which it changes no more than
the count of the calls. -/
structure Check.Answers (check : Check σ) (upgrade : Upgrade) (answer : Answer) : Prop where
  applies_run : ∀ state : RunState σ, (check.applies upgrade).run.run state = (.ok true, state)
  diagnose_run : ∀ state : RunState σ, ∃ calls : Nat,
    (check.diagnose upgrade).run.run state = (answer.mapError .resource, state.counting calls)

namespace Check.Answers

variable {check : Check σ} {answer : Answer}
  (hanswers : check.Answers upgrade answer)

include hanswers

theorem executions (state : RunState σ) :
    (Turn.mk check upgrade state).executions =
      [check.outcome upgrade.time (answer.mapError .resource)] := by
  obtain ⟨calls, hcalls⟩ := hanswers.diagnose_run state
  unfold Turn.executions Turn.isDiagnosed Turn.answer Turn.asked
  rw [hanswers.applies_run, hcalls]
  rfl

theorem control_after (state : RunState σ) :
    (Turn.mk check upgrade state).after.control = state.control := by
  obtain ⟨calls, hcalls⟩ := hanswers.diagnose_run state
  unfold Turn.after Turn.isDiagnosed Turn.asked
  rw [hanswers.applies_run, hcalls]
  rfl

theorem execute_run (state : RunState σ) :
    ((check.execute upgrade).run state).1 =
      check.outcome upgrade.time (answer.mapError .resource) := by
  obtain ⟨calls, hcalls⟩ := hanswers.diagnose_run state
  have hexecute : ((check.execute upgrade).run state).1 =
    check.outcome upgrade.time ((check.diagnose upgrade).run.run state).1 := rfl
  rw [hexecute, hcalls]

theorem unique (state : RunState σ) {other : Answer} (hother : check.Answers upgrade other) :
    other = answer := by
  obtain ⟨calls, hcalls⟩ := hanswers.diagnose_run state
  obtain ⟨others, hothers⟩ := hother.diagnose_run state
  have hsame : other.mapError Problem.resource = answer.mapError Problem.resource := by
    rw [hcalls] at hothers
    exact (Prod.mk.inj hothers).1.symm
  cases other with
  | error found =>
      cases answer with
      | error error => rw [Problem.resource.inj (Except.error.inj hsame)]
      | ok diagnosis => cases hsame
  | ok found =>
      cases answer with
      | error error => cases hsame
      | ok diagnosis => rw [Except.ok.inj hsame]

end Check.Answers

/-- The check does not apply in any state of a run, and lets it be. -/
structure Check.Declines (check : Check σ) (upgrade : Upgrade) : Prop where
  applies_run : ∀ state : RunState σ, (check.applies upgrade).run.run state = (.ok false, state)

namespace Check.Declines

variable {check : Check σ} (hdeclines : check.Declines upgrade)

include hdeclines

theorem executions (state : RunState σ) : (Turn.mk check upgrade state).executions = [] := by
  unfold Turn.executions Turn.isDiagnosed
  rw [hdeclines.applies_run]
  rfl

theorem control_after (state : RunState σ) :
    (Turn.mk check upgrade state).after.control = state.control := by
  unfold Turn.after Turn.isDiagnosed Turn.asked
  rw [hdeclines.applies_run]
  rfl

theorem not_answers (state : RunState σ) (answer : Answer) : ¬ check.Answers upgrade answer := by
  intro hanswers
  have hboth := (hdeclines.applies_run state).symm.trans (hanswers.applies_run state)
  cases hboth

end Check.Declines

/-- Whether the check applies, and what it answers, does not hang on the run. -/
def Check.IsSteady (check : Check σ) (upgrade : Upgrade) : Prop :=
  check.Declines upgrade ∨ ∃ answer, check.Answers upgrade answer

namespace Check

variable (check : Check σ) (time : Instant)

theorem check_outcome (answer : Except Problem Diagnosis) :
    (check.outcome time answer).check = check := by
  cases answer with
  | error problem => rfl
  | ok diagnosis =>
      unfold outcome
      cases hflaw : diagnosis.flaw? <;> simp [hflaw]

variable {answer : Answer} (hsound : answer.IsSound)

include hsound

theorem isError_outcome_iff :
    (check.outcome time (answer.mapError .resource)).isError = true ↔ answer.Fails := by
  unfold Answer.Fails
  cases answer with
  | error error => exact ⟨fun _ => ⟨error, rfl⟩, fun _ => rfl⟩
  | ok diagnosis =>
      have hflaw := hsound diagnosis rfl
      simp [Except.mapError, outcome, hflaw, Execution.isError]

/-- What stands in for an answer never blocks, so that a diagnosis does if the outcome does. -/
theorem isBlocking_outcome_iff :
    (check.outcome time (answer.mapError .resource)).diagnosis.isBlocking = true ↔
      answer.Blocks := by
  unfold Answer.Blocks
  cases answer with
  | error error =>
      refine ⟨fun hblocking => ?_, ?_⟩
      · cases hblocking
      · rintro ⟨_, h, _⟩
        cases h
  | ok diagnosis =>
      have hflaw := hsound diagnosis rfl
      simp [Except.mapError, outcome, hflaw]

end Check

namespace Run

variable {checks : List (Check σ)} {answers : List Answer}
  (hanswers : List.Forall₂ (fun check answer => check.Answers upgrade answer) checks answers)
  {state : RunState σ} (hlive : state.control.isDone = false)

include hanswers hlive

/-- The executions of a run of checks that always answer the same. -/
theorem executeChecks_answers :
    ((executeChecks upgrade checks).run state).1 =
      List.zipWith (fun check answer => check.outcome upgrade.time (answer.mapError .resource))
        checks answers := by
  induction hanswers generalizing state with
  | nil => rfl
  | @cons check answer checks answers hcheck _ ih =>
      -- No turn changes the control, so that the run is live for the checks that are left.
      let turn : Turn σ := ⟨check, upgrade, state⟩
      have hafter : turn.after.control.isDone = false := by
        rw [hcheck.control_after state]
        exact hlive
      have hcons : (executeChecks upgrade (check :: checks)).run state = _ :=
        executeChecks_cons turn checks hlive
      rw [hcons, ih hafter, hcheck.executions state]
      rfl

/-- Something holds of an execution in such a run if what it means holds of an answer. -/
theorem exists_mem_executions_iff {holds : Execution σ → Prop} {means : Answer → Prop}
    (hmeans : ∀ (check : Check σ), ∀ answer ∈ answers,
      holds (check.outcome upgrade.time (answer.mapError .resource)) ↔ means answer) :
    (∃ execution ∈ ((executeChecks upgrade checks).run state).1, holds execution) ↔
      ∃ answer ∈ answers, means answer := by
  rw [executeChecks_answers hanswers hlive]
  clear hlive
  induction hanswers with
  | nil => simp
  | @cons check answer checks answers _ _ ih =>
      have hrest := ih fun other answer hanswer =>
        hmeans other answer (List.mem_cons_of_mem _ hanswer)
      simp only [List.zipWith_cons_cons, List.mem_cons, exists_eq_or_imp, hrest,
        hmeans check answer List.mem_cons_self]

/-- No check of such a run is left out. -/
theorem map_check_executions :
    ((executeChecks upgrade checks).run state).1.map Execution.check = checks := by
  rw [executeChecks_answers hanswers hlive]
  clear hlive
  induction hanswers with
  | nil => rfl
  | @cons check answer checks answers _ _ ih =>
      rw [List.zipWith_cons_cons, List.map_cons, ih, Check.check_outcome]

omit hanswers in
theorem mem_executions_iff (hsteady : ∀ check ∈ checks, check.IsSteady upgrade)
    {execution : Execution σ} :
    execution ∈ ((executeChecks upgrade checks).run state).1 ↔
      ∃ check ∈ checks, ∃ answer, check.Answers upgrade answer ∧
        execution = check.outcome upgrade.time (answer.mapError .resource) := by
  induction checks generalizing state with
  | nil => exact iff_of_false nofun (by simp)
  | cons check checks ih =>
      rw [List.forall_mem_cons] at hsteady
      obtain ⟨hcheck, hrest⟩ := hsteady
      let turn : Turn σ := ⟨check, upgrade, state⟩
      have hafter : turn.after.control = state.control := by
        rcases hcheck with hdeclines | ⟨answer, hanswers⟩
        · exact hdeclines.control_after state
        · exact hanswers.control_after state
      have hturn : execution ∈ turn.executions ↔ ∃ answer, check.Answers upgrade answer ∧
          execution = check.outcome upgrade.time (answer.mapError .resource) := by
        rcases hcheck with hdeclines | ⟨answer, hanswers⟩
        · rw [hdeclines.executions state]
          simp [hdeclines.not_answers state]
        · rw [hanswers.executions state, List.mem_singleton]
          constructor
          · intro hexecution
            exact ⟨answer, hanswers, hexecution⟩
          · rintro ⟨other, hother, rfl⟩
            rw [hanswers.unique state hother]
      have hcons : (executeChecks upgrade (check :: checks)).run state = _ :=
        executeChecks_cons turn checks hlive
      rw [hcons, List.mem_append, hturn, ih (hafter ▸ hlive) hrest]
      simp only [List.mem_cons, exists_eq_or_imp]

end Run

end UpgradeGate
