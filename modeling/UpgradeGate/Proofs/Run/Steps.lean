import UpgradeGate.Proofs.Effects
import UpgradeGate.Run.Execution
import UpgradeGate.Run.Step

/-!
# What single steps do

Each way to make a step has one lemma that says what the step answers and which state it leaves. The
proofs about checks cite these and open no step. A check that is recorded notes every call made of
it beside its own notes, and does otherwise what it did before, so that what a run calls, and what
it leaves alone, can be read off the record.
-/

namespace UpgradeGate

/-- The state after some more calls of the store. -/
def RunState.counting {σ : Type} (calls : Nat) (state : RunState σ) : RunState σ :=
  { state with calls := state.calls + calls }

namespace Step

variable {σ τ α β : Type}

@[simp]
theorem run_answer (answer : Except ReadError α) (state : RunState σ) :
    (Step.answer answer).run.run state = (answer.mapError .resource, state) :=
  Effects.run_liftM _ _

@[simp]
theorem run_attempt (reading : Reading α) (state : RunState σ) :
    (attempt reading).run.run state =
      (.ok (reading.run.run state.calls).1,
        { state with calls := (reading.run.run state.calls).2 }) := rfl

@[simp]
theorem run_read (reading : Reading α) (state : RunState σ) :
    (read reading).run.run state =
      ((reading.run.run state.calls).1.mapError .resource,
        { state with calls := (reading.run.run state.calls).2 }) := by
  unfold read
  rw [Effects.run_bind, run_attempt]
  exact run_answer _ _

@[simp]
theorem run_amend (change : τ → τ) (state : RunState (σ × τ)) :
    (amend change).run.run state =
      (.ok (), { state with notes := (state.notes.1, change state.notes.2) }) := rfl

@[simp]
theorem run_part (state : RunState (σ × τ)) :
    (part : Step (σ × τ) τ).run.run state = (.ok state.notes.2, state) := rfl

/-- A step that does not see the second part of the notes leaves it as it is. -/
theorem run_outside (step : Step σ α) (state : RunState (σ × τ)) :
    (step.outside : Step (σ × τ) α).run.run state =
      ((step.run.run { state with notes := state.notes.1 }).1,
        { (step.run.run { state with notes := state.notes.1 }).2 with
          notes := ((step.run.run { state with notes := state.notes.1 }).2.notes,
            state.notes.2) }) := rfl

/-- Changes for some items, one after the other, make one change. -/
theorem run_forIn_amend (change : α → τ → τ) (items : List α) (state : RunState (σ × τ)) :
    (forIn items PUnit.unit fun item (_ : PUnit) => do
      amend (change item)
      pure (ForInStep.yield PUnit.unit) : Step (σ × τ) PUnit).run.run state =
      (.ok ⟨⟩, { state with
        notes := (state.notes.1,
          items.foldl (fun part item => change item part) state.notes.2) }) := by
  induction items generalizing state with
  | nil => rfl
  | cons item items ih =>
      rw [List.forIn_cons, Effects.run_bind, Effects.run_bind, run_amend]
      exact ih _

/-- What follows a step with notes of its own, once it is known how that step ends. -/
theorem run_within_bind {first : τ} {step : Step (σ × τ) α} {state : RunState σ}
    {answer : Except Problem α} {inner : RunState (σ × τ)} (next : α × τ → Step σ β) :
    step.run.run { state with notes := (state.notes, first) } = (answer, inner) →
    (within first step >>= next).run.run state =
      match answer with
      | .ok value => (next (value, inner.notes.2)).run.run { inner with notes := inner.notes.1 }
      | .error problem => (.error problem, { inner with notes := inner.notes.1 }) := by
  -- The premise is an arrow and no argument, lest the match above take it along.
  intro hstep
  have hwithin : (within first step).run.run state =
      ((step.run.run { state with notes := (state.notes, first) }).1.map
          (·, (step.run.run { state with notes := (state.notes, first) }).2.notes.2),
        { (step.run.run { state with notes := (state.notes, first) }).2 with
          notes := (step.run.run { state with notes := (state.notes, first) }).2.notes.1 }) := rfl
  rw [Effects.run_bind, hwithin, hstep]
  cases answer <;> rfl

end Step

/-! ### Recorded checks -/

/-- A call that a run makes of the check at a position. -/
inductive Call where
  | applies (position : Nat)
  | diagnose (position : Nat)
deriving DecidableEq, Repr

variable {σ : Type}

/-- The state with a record of calls beside its notes. -/
def RunState.recording (record : List Call) (state : RunState σ) : RunState (σ × List Call) :=
  { state with notes := (state.notes, record) }

/-- The check with its calls recorded under a position. -/
def Check.recorded (position : Nat) (check : Check σ) : Check (σ × List Call) where
  identity := check.identity
  applies upgrade := do
    Step.amend fun record => record ++ [.applies position]
    (check.applies upgrade).outside
  diagnose upgrade := do
    Step.amend fun record => record ++ [.diagnose position]
    (check.diagnose upgrade).outside
  lines? := check.lines?

@[simp]
theorem Check.recorded_id (position : Nat) (check : Check σ) :
    (check.recorded position).id = check.id := rfl

/-- The checks recorded, each under its position; the first one has the given position. -/
def Run.recordedFrom (position : Nat) : List (Check σ) → List (Check (σ × List Call))
  | [] => []
  | check :: checks => check.recorded position :: recordedFrom (position + 1) checks

def Run.recorded (checks : List (Check σ)) : List (Check (σ × List Call)) :=
  recordedFrom 0 checks

theorem Run.map_id_recordedFrom (position : Nat) (checks : List (Check σ)) :
    (recordedFrom position checks).map Check.id = checks.map Check.id := by
  induction checks generalizing position with
  | nil => rfl
  | cons check checks ih =>
      rw [recordedFrom, List.map_cons, List.map_cons, Check.recorded_id, ih]

/-- The catalogue with all its checks recorded. -/
def Catalogue.recorded (catalogue : Catalogue σ) : Catalogue (σ × List Call) where
  checks := Run.recorded catalogue.checks
  distinct := by
    rw [Run.recorded, Run.map_id_recordedFrom]
    exact catalogue.distinct

end UpgradeGate
