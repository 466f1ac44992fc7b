import UpgradeGate.Cluster.Store
import UpgradeGate.Problem

/-!
Steps of a run, and when a run has to stop: it is cancelled, or its deadline is reached. All who
take part in a run share one control. What a step does to the state of the run stays done also when
the step fails.
-/

namespace UpgradeGate

/-! ### Control -/

/-- Times are in nanoseconds of a clock that never goes back. -/
structure RunControl where
  cancelled : Bool := false
  deadline : Option Nat := none
  now : Nat := 0
deriving DecidableEq, Repr, Inhabited

namespace RunControl

def isExpired (control : RunControl) : Bool :=
  match control.deadline with
  | some deadline => deadline ≤ control.now
  | none => false

def isDone (control : RunControl) : Bool := control.cancelled || control.isExpired

def cancel (control : RunControl) : RunControl := { control with cancelled := true }

def remaining (control : RunControl) : Option Nat :=
  control.deadline.map (· - control.now)

def second : Nat := 1000000000

/-- The clock counts seconds in 63 bits. -/
def greatestTime : Nat := 0x8000000000000000 * second - 1

def withTimeout (now seconds : Nat) : Except Crash RunControl :=
  let deadline := now + seconds * second
  if deadline ≤ greatestTime then .ok { deadline := some deadline, now }
  else .error .deadlineOverflow

end RunControl

/-! ### Steps -/

/-- The state of a run. Checks may keep notes of any type. -/
structure RunState (σ : Type) where
  control : RunControl := {}
  calls : Nat := 0
  notes : σ

abbrev Step (σ : Type) := ExceptT Problem (StateM (RunState σ))

namespace Step

variable {σ τ α : Type}

/-- Goes on with a value, or fails with the error. -/
def answer (answer : Except ReadError α) : Step σ α := liftM (answer.mapError Problem.resource)

/-- Reads without failing: an error is an answer like any other. -/
def attempt (reading : Reading α) : Step σ (Except ReadError α) :=
  fun state =>
    let (answer, calls) := reading.run state.calls
    (.ok answer, { state with calls })

def read (reading : Reading α) : Step σ α := do answer (← attempt reading)

def cancel : Step σ Unit :=
  modify fun state => { state with control := state.control.cancel }

/-- Runs a step whose notes have a second part, and gives that part at the end. -/
def within (part : τ) (step : Step (σ × τ) α) : Step σ (α × τ) :=
  fun state =>
    let (answer, inner) := step.run { state with notes := (state.notes, part) }
    (answer.map (·, inner.notes.2), { inner with notes := inner.notes.1 })

/-- Runs a step that does not see the second part of the notes. -/
def outside (step : Step σ α) : Step (σ × τ) α :=
  fun state =>
    let (answer, outer) := step.run { state with notes := state.notes.1 }
    (answer, { outer with notes := (outer.notes, state.notes.2) })

def amend (change : τ → τ) : Step (σ × τ) Unit :=
  modify fun state => { state with notes := (state.notes.1, change state.notes.2) }

def part : Step (σ × τ) τ := return (← get).notes.2

end Step

end UpgradeGate
