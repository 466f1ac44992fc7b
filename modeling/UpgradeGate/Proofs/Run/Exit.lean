import Mathlib.Data.List.Perm.Basic
import UpgradeGate.Command.Run
import UpgradeGate.Proofs.Diagnosis.Soundness
import UpgradeGate.Proofs.Run.Substitution
import UpgradeGate.Proofs.Run.Turns

/-!
# What a run ends with

A summary counts the executions that carry a problem and those of each impact. The exit code hangs
on which of these counts are zero, and so on the conditions of the single executions: a run fails
over one that carries a problem, or that has a condition of the weight that the settings heed. The
counts of a summary add up, within one run and over several.
-/

namespace UpgradeGate

/-! ### Counts -/

variable {σ : Type}

namespace Summary

theorem foldl_add (summary : Summary) (executions : List (Execution σ)) :
    executions.foldl add summary = {
      total := summary.total + executions.length
      passed := summary.passed +
        executions.countP fun execution => execution.diagnosis.impact == .none
      advisory := summary.advisory +
        executions.countP fun execution => execution.diagnosis.impact == .advisory
      blocking := summary.blocking +
        executions.countP fun execution => execution.diagnosis.isBlocking
      errors := summary.errors + executions.countP Execution.isError } := by
  induction executions generalizing summary with
  | nil => rfl
  | cons execution executions ih =>
      rw [List.foldl_cons, ih]
      unfold add Diagnosis.isBlocking
      cases himpact : execution.diagnosis.impact <;> cases herror : execution.isError <;>
        simp [himpact, herror] <;> omega

theorem hasErrors_ofExecutions (executions : List (Execution σ)) :
    (ofExecutions executions).hasErrors = executions.any Execution.isError := by
  rw [ofExecutions, foldl_add, Bool.eq_iff_iff]
  simp [hasErrors, List.countP_pos_iff]

theorem hasBlocking_ofExecutions (executions : List (Execution σ)) :
    (ofExecutions executions).hasBlocking =
      executions.any fun execution => execution.diagnosis.isBlocking := by
  rw [ofExecutions, foldl_add, Bool.eq_iff_iff]
  simp [hasBlocking, List.countP_pos_iff]

end Summary

namespace Command

theorem exitCodeOf_eq_one_iff (failOn : FailOn) (summary : Summary) :
    exitCodeOf failOn summary = 1 ↔ failOn.isFailure summary = true := by
  unfold exitCodeOf
  cases failOn.isFailure summary <;> simp

end Command

/-! ### Exit codes -/

namespace FailOn

/-- The weight from which on a condition makes a run fail; no condition is of weight three. -/
def leastWeight : FailOn → Nat
  | blocking => 2
  | advisory => 1
  | never => 3

theorem leastWeight_le_iff (failOn : FailOn) (impact : Impact) :
    failOn.leastWeight ≤ impact.weight ↔
      (failOn = .blocking ∧ impact = .blocking) ∨
      (failOn = .advisory ∧ (impact = .advisory ∨ impact = .blocking)) := by
  cases failOn <;> cases impact <;> decide

/-- The execution makes a run fail. -/
def Heeds (failOn : FailOn) (execution : Execution σ) : Prop :=
  execution.isError = true ∨
    ∃ condition ∈ execution.diagnosis.conditions, failOn.leastWeight ≤ condition.impact.weight

theorem heeds_iff (failOn : FailOn) (execution : Execution σ) :
    failOn.Heeds execution ↔
      execution.isError = true ∨ failOn.leastWeight ≤ execution.diagnosis.impact.weight := by
  have hleast : 0 < failOn.leastWeight := by cases failOn <;> decide
  rw [Heeds, Diagnosis.le_weight_impact_iff hleast]

end FailOn

namespace Summary

theorem ofExecutions_eq (executions : List (Execution σ)) :
    ofExecutions executions = {
      total := executions.length
      passed := executions.countP fun execution => execution.diagnosis.impact == .none
      advisory := executions.countP fun execution => execution.diagnosis.impact == .advisory
      blocking := executions.countP fun execution => execution.diagnosis.isBlocking
      errors := executions.countP Execution.isError } := by
  rw [ofExecutions, foldl_add]
  simp only [Nat.zero_add]

theorem isFailure_ofExecutions_iff (failOn : FailOn) (executions : List (Execution σ)) :
    failOn.isFailure (ofExecutions executions) = true ↔
      ∃ execution ∈ executions, failOn.Heeds execution := by
  have hblocking : (ofExecutions executions).hasBlocking = true ↔
      ∃ execution ∈ executions, execution.diagnosis.impact = .blocking := by
    rw [hasBlocking_ofExecutions, List.any_eq_true]
    simp only [Diagnosis.isBlocking, beq_iff_eq]
  have hadvisory : 0 < (ofExecutions executions).advisory ↔
      ∃ execution ∈ executions, execution.diagnosis.impact = .advisory := by
    rw [ofExecutions_eq, List.countP_pos_iff]
    simp only [beq_iff_eq]
  have hheeded : (∃ execution ∈ executions, failOn.Heeds execution) ↔
      (ofExecutions executions).hasErrors = true ∨
        ∃ execution ∈ executions,
          failOn.leastWeight ≤ execution.diagnosis.impact.weight := by
    rw [hasErrors_ofExecutions, List.any_eq_true]
    simp only [FailOn.heeds_iff, and_or_left, exists_or]
  rw [hheeded]
  unfold FailOn.isFailure
  rw [Bool.or_eq_true]
  refine or_congr_right ?_
  cases failOn with
  | blocking => simp [hblocking, FailOn.leastWeight_le_iff]
  | advisory =>
      simp only [FailOn.leastWeight_le_iff, reduceCtorEq, false_and, true_and, false_or,
        Bool.or_eq_true, decide_eq_true_eq, hblocking, hadvisory, and_or_left, exists_or]
      exact or_comm
  | never => simp [FailOn.leastWeight_le_iff]

/-! ### Counts that add up -/

/-- The counts of two summaries together. -/
instance : Add Summary where
  add first second := {
    total := first.total + second.total
    passed := first.passed + second.passed
    advisory := first.advisory + second.advisory
    blocking := first.blocking + second.blocking
    errors := first.errors + second.errors }

theorem ofExecutions_append (first second : List (Execution σ)) :
    ofExecutions (first ++ second) = ofExecutions first + ofExecutions second := by
  simp only [ofExecutions_eq, List.length_append, List.countP_append]
  rfl

theorem ofExecutions_perm {first second : List (Execution σ)} (hperm : first.Perm second) :
    ofExecutions first = ofExecutions second := by
  simp only [ofExecutions_eq, hperm.length_eq, hperm.countP_eq]

theorem counts_ofExecutions (executions : List (Execution σ)) :
    (ofExecutions executions).passed + (ofExecutions executions).advisory +
      (ofExecutions executions).blocking = executions.length := by
  rw [ofExecutions_eq]
  induction executions with
  | nil => rfl
  | cons execution executions ih =>
      simp only [List.countP_cons, List.length_cons] at ih ⊢
      unfold Diagnosis.isBlocking at ih ⊢
      cases execution.diagnosis.impact <;> simp <;> omega

end Summary

/-! ### Executions of a run -/

theorem Check.impact_outcome_of_isError {check : Check σ} {time : Instant}
    {answer : Except Problem Diagnosis} (herror : (check.outcome time answer).isError = true) :
    (check.outcome time answer).diagnosis.impact = .advisory := by
  rcases check.outcome_cases time answer with
    ⟨diagnosis, _, _, houtcome⟩ | ⟨_, problem, reason, message, _, houtcome⟩
  · rw [houtcome] at herror
    cases herror
  · rw [houtcome]
    rfl

namespace Run

variable {upgrade : Upgrade} {checks : List (Check σ)} {state : RunState σ}

theorem exists_outcome_of_mem {execution : Execution σ}
    (hexecution : execution ∈ ((executeChecks upgrade checks).run state).1) :
    ∃ check ∈ checks, ∃ answer, execution = check.outcome upgrade.time answer := by
  induction checks generalizing state with
  | nil => cases hexecution
  | cons check checks ih =>
      cases hdone : state.control.isDone with
      | true =>
          rw [executeChecks_of_isDone _ _ hdone] at hexecution
          cases hexecution
      | false =>
          let turn : Turn σ := ⟨check, upgrade, state⟩
          have hcons : (executeChecks upgrade (check :: checks)).run state = _ :=
            executeChecks_cons turn checks hdone
          rw [hcons, List.mem_append] at hexecution
          rcases hexecution with hturn | hrest
          · unfold Turn.executions at hturn
            split at hturn
            · exact ⟨check, List.mem_cons_self, turn.answer, List.mem_singleton.mp hturn⟩
            · cases hturn
          · obtain ⟨other, hother, answer, hanswer⟩ := ih hrest
            exact ⟨other, List.mem_cons_of_mem _ hother, answer, hanswer⟩

theorem errors_le_advisory :
    (Summary.ofExecutions ((executeChecks upgrade checks).run state).1).errors ≤
      (Summary.ofExecutions ((executeChecks upgrade checks).run state).1).advisory := by
  rw [Summary.ofExecutions_eq]
  refine List.countP_mono_left fun execution hexecution herror => ?_
  obtain ⟨check, _, answer, rfl⟩ := exists_outcome_of_mem hexecution
  rw [Check.impact_outcome_of_isError herror]
  rfl

/-- The exit code is 1 exactly if an execution carries a problem or has a condition of an impact on
which the run is to fail, and 0 otherwise. The counts of a run add up to its executions, and those
of several runs to the counts of all of them together, in whatever order they stand. -/
theorem exitCode_law :
    (∀ (failOn : FailOn) (executions : List (Execution σ)),
      let exitCode := Command.exitCodeOf failOn (Summary.ofExecutions executions)
      (exitCode = 1 ↔
        (∃ execution ∈ executions, execution.problem? ≠ none) ∨
        (failOn = .blocking ∧ ∃ execution ∈ executions,
          ∃ condition ∈ execution.diagnosis.conditions, condition.impact = .blocking) ∨
        (failOn = .advisory ∧ ∃ execution ∈ executions,
          ∃ condition ∈ execution.diagnosis.conditions,
            condition.impact = .advisory ∨ condition.impact = .blocking)) ∧
      (exitCode = 0 ∨ exitCode = 1)) ∧
    (∀ (upgrade : Upgrade) (checks : List (Check σ)) (state : RunState σ),
      let executions := ((executeChecks upgrade checks).run state).1
      let summary := Summary.ofExecutions executions
      summary.passed + summary.advisory + summary.blocking = summary.total ∧
      summary.total = executions.length ∧ summary.errors ≤ summary.advisory) ∧
    (∀ first second : List (Execution σ),
      Summary.ofExecutions (first ++ second) =
        Summary.ofExecutions first + Summary.ofExecutions second ∧
      (first.Perm second → Summary.ofExecutions first = Summary.ofExecutions second)) := by
  refine ⟨fun failOn executions => ⟨?_, ?_⟩, fun upgrade checks state => ⟨?_, ?_, ?_⟩,
    fun first second => ⟨Summary.ofExecutions_append first second, Summary.ofExecutions_perm⟩⟩
  · have hheeded : (∃ execution ∈ executions, failOn.Heeds execution) ↔
        (∃ execution ∈ executions, execution.problem? ≠ none) ∨
        ∃ execution ∈ executions, ∃ condition ∈ execution.diagnosis.conditions,
          failOn.leastWeight ≤ condition.impact.weight := by
      simp only [FailOn.Heeds, Execution.isError, Option.isSome_iff_ne_none, and_or_left,
        exists_or]
    rw [Command.exitCodeOf_eq_one_iff, Summary.isFailure_ofExecutions_iff, hheeded]
    refine or_congr_right ?_
    cases failOn <;> simp [FailOn.leastWeight_le_iff]
  · unfold Command.exitCodeOf
    split
    · exact .inr rfl
    · exact .inl rfl
  · rw [Summary.counts_ofExecutions, Summary.ofExecutions_eq]
  · rw [Summary.ofExecutions_eq]
  · exact errors_le_advisory

theorem exitCode_law_nameless :
    let failed := ((Check.nameless.execute default).run { notes := () }).1
    let passed : Execution Unit := ⟨Check.nameless, default, none⟩
    Command.exitCodeOf .never (Summary.ofExecutions [failed, passed]) = 1 ∧
      Summary.ofExecutions [failed, passed] = Summary.ofExecutions [passed, failed] := by
  intro failed passed
  obtain ⟨hcode, _, hsum⟩ := @exitCode_law Unit
  have hproblem : failed.problem? ≠ none := nofun
  exact ⟨(hcode .never [failed, passed]).1.mpr (.inl ⟨failed, List.mem_cons_self, hproblem⟩),
    (hsum _ _).2 (.swap passed failed [])⟩

end Run

end UpgradeGate
