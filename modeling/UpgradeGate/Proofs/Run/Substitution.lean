import UpgradeGate.Proofs.Diagnosis.Soundness
import UpgradeGate.Run.Execution

/-!
# What stands in for a check's answer

A check that fails or gives a flawed diagnosis gets a substitute. The substitute is sound again,
whatever was wrong, but for a check without an id that lacks a kind or a type: then there is no text
left that could fill the gap.
-/

namespace UpgradeGate

variable {σ : Type}

theorem Problem.reason_classify_ne_empty (problem : Problem) : problem.classify.1 ≠ "" := by
  unfold classify
  split <;> dsimp only <;> decide

namespace CheckIdentity

theorem orElse_ne_empty_iff (text fallback : String) :
    orElse text fallback ≠ "" ↔ text ≠ "" ∨ fallback ≠ "" := by
  unfold orElse
  by_cases htext : text = ""
  · simp [htext]
  · simp [htext]

variable (identity : CheckIdentity) (time : Instant) (message : String)

theorem flaw?_substitute_eq_none_iff {reason : String} (hreason : reason ≠ "") :
    (identity.substitute time reason message).flaw? = none ↔
      identity.id ≠ "" ∨ (identity.kind ≠ "" ∧ identity.type ≠ "") := by
  have hgroup : orElse identity.group.name identity.group.name ≠ "" := by
    cases identity.group <;> decide
  have hconditions : ∀ condition ∈ (identity.substitute time reason message).conditions,
      condition.type ≠ "" ∧ condition.reason ≠ "" := by
    intro condition hcondition
    rw [List.mem_singleton.mp hcondition]
    exact ⟨by dsimp only; decide, hreason⟩
  have hfilled : orElse identity.kind identity.id ≠ "" ∧ orElse identity.type identity.id ≠ "" ↔
      identity.id ≠ "" ∨ (identity.kind ≠ "" ∧ identity.type ≠ "") := by
    rw [orElse_ne_empty_iff, orElse_ne_empty_iff, or_and_left]
    exact and_congr or_comm or_comm
  rw [Diagnosis.flaw?_eq_none_iff, ← hfilled]
  constructor
  · rintro ⟨hdraft, _⟩
    exact ⟨hdraft.kind, hdraft.name⟩
  · rintro ⟨hkind, hname⟩
    exact ⟨⟨hgroup, hkind, hname, hconditions, nofun⟩, List.cons_ne_nil _ _⟩

end CheckIdentity

/-- The answer is a diagnosis without a flaw. -/
def Check.Succeeds (answer : Except Problem Diagnosis) : Prop :=
  ∃ diagnosis, answer = .ok diagnosis ∧ diagnosis.flaw? = none

namespace Check

variable (check : Check σ)

/-- An outcome holds the check's own diagnosis or a substitute, and never a mixture of them. -/
theorem outcome_cases (time : Instant) (answer : Except Problem Diagnosis) :
    (∃ diagnosis, answer = .ok diagnosis ∧ diagnosis.flaw? = none ∧
      check.outcome time answer = ⟨check, diagnosis, none⟩) ∨
    (¬ Succeeds answer ∧ ∃ problem reason message, reason ≠ "" ∧
      check.outcome time answer =
        ⟨check, check.identity.substitute time reason message, some problem⟩) := by
  unfold Succeeds
  cases answer with
  | error problem =>
      refine .inr ⟨by simp, problem, problem.classify.1, problem.classify.2, ?_, rfl⟩
      exact problem.reason_classify_ne_empty
  | ok diagnosis =>
      cases hflaw : diagnosis.flaw? with
      | none => exact .inl ⟨diagnosis, rfl, hflaw, by simp [outcome, hflaw]⟩
      | some flaw =>
          refine .inr ⟨by simp [hflaw], .invalidResult flaw, Condition.Reasons.invalidResult,
            "Check returned an invalid result: " ++ (Problem.invalidResult flaw).message,
            by decide, by simp [outcome, hflaw]⟩

/-- Whatever a check answers, its execution holds a sound diagnosis, unless the check neither
succeeds nor has an id and lacks a kind or a type. The diagnosis is its own exactly if there is no
problem; a substitute has one condition, which does not block the upgrade. -/
theorem execute_repairs (upgrade : Upgrade) (state : RunState σ) :
    let answer := ((check.diagnose upgrade).run.run state).1
    let execution := ((check.execute upgrade).run state).1
    (execution.diagnosis.flaw? ≠ none ↔
      ¬ Succeeds answer ∧ check.id = "" ∧
        (check.identity.kind = "" ∨ check.identity.type = "")) ∧
    (execution.isError = true → ∃ condition, execution.diagnosis.conditions = [condition] ∧
      condition.type = "Validated" ∧ condition.status = .unknown ∧
      condition.impact = .advisory) ∧
    (execution.problem? = none ↔
      ∃ diagnosis, answer = .ok diagnosis ∧ diagnosis.flaw? = none ∧
        execution.diagnosis = diagnosis) := by
  intro answer execution
  have hexecution : execution = check.outcome upgrade.time answer := rfl
  rw [hexecution]
  rcases check.outcome_cases upgrade.time answer with
    ⟨diagnosis, hanswer, hflaw, houtcome⟩ | ⟨hfailed, problem, reason, message, hreason, houtcome⟩
  · have hsucceeds : Succeeds answer := ⟨diagnosis, hanswer, hflaw⟩
    rw [houtcome]
    refine ⟨?_, nofun, ?_⟩
    · simp [hflaw, hsucceeds]
    · simp [hanswer, hflaw]
  · rw [houtcome]
    refine ⟨?_, fun _ => ⟨_, rfl, rfl, rfl, rfl⟩, ?_⟩
    · rw [ne_eq, check.identity.flaw?_substitute_eq_none_iff upgrade.time message hreason]
      have hunfilled : (check.id = "" ∧ (check.identity.kind = "" ∨ check.identity.type = "")) ↔
          ¬ (check.identity.id ≠ "" ∨ check.identity.kind ≠ "" ∧ check.identity.type ≠ "") := by
        simp only [ne_eq, not_or, Classical.not_not, Classical.not_and_iff_not_or_not]
        exact Iff.rfl
      rw [← hunfilled]
      exact (and_iff_right hfailed).symm
    · refine ⟨nofun, ?_⟩
      rintro ⟨diagnosis, hanswer, hflaw, _⟩
      exact absurd ⟨diagnosis, hanswer, hflaw⟩ hfailed

/-- A check without an id and a kind that gives a diagnosis without conditions. -/
def nameless : Check Unit where
  identity := { (default : CheckIdentity) with type := "t" }
  applies _ := return true
  diagnose _ := return default

theorem execute_repairs_nameless :
    ((nameless.execute default).run { notes := () }).1.isError = true ∧
    ((nameless.execute default).run { notes := () }).1.diagnosis.flaw? ≠ none ∧
    ∃ condition, ((nameless.execute default).run { notes := () }).1.diagnosis.conditions =
      [condition] ∧ condition.impact = .advisory := by
  obtain ⟨hflaw, hcondition, _⟩ := nameless.execute_repairs default { notes := () }
  have herror : ((nameless.execute default).run { notes := () }).1.isError = true := rfl
  obtain ⟨condition, hconditions, _, _, himpact⟩ := hcondition herror
  refine ⟨herror, hflaw.mpr ⟨?_, rfl, .inl rfl⟩, condition, hconditions, himpact⟩
  rintro ⟨diagnosis, hdiagnosis, hsound⟩
  rw [← Except.ok.inj hdiagnosis] at hsound
  cases hsound

end Check

end UpgradeGate
