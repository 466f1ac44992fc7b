import UpgradeGate.Check.Catalogue

/-!
Running checks one after the other, and how many came out how. A check that fails, or gives a flawed
diagnosis, does not stop the run: a diagnosis that says so takes the place of its own.
-/

namespace UpgradeGate

structure Execution (σ : Type) where
  check : Check σ
  diagnosis : Diagnosis
  /-- What went wrong if the diagnosis is not the check's own. -/
  problem? : Option Problem := none

namespace Execution

variable {σ : Type}

def isError (execution : Execution σ) : Bool := execution.problem?.isSome

end Execution

/-- The reason and the message with which a report tells of a problem. -/
def Problem.classify (problem : Problem) : String × String :=
  match problem.readErrorKind? with
  | some .forbidden | some .unauthorized =>
    (Condition.Reasons.accessDenied,
      "Insufficient permissions to access cluster resources: " ++ problem.message)
  | some .timeout =>
    (Condition.Reasons.timeout, "Timed out waiting for the cluster API: " ++ problem.message)
  | some .unavailable =>
    (Condition.Reasons.unavailable, "Cluster API is unavailable: " ++ problem.message)
  | _ => (Condition.Reasons.executionFailed, "Check execution failed: " ++ problem.message)

namespace CheckIdentity

def orElse (text fallback : String) : String := if text.isEmpty then fallback else text

/--
A diagnosis in place of the check's own: one condition with an unknown status, which does not speak
against the upgrade. The id stands in for a kind or a type that is empty.
-/
def substitute (identity : CheckIdentity) (time : Instant) (reason message : String) : Diagnosis :=
  let own := identity.diagnosis
  { own with
    group := orElse own.group identity.group.name
    kind := orElse own.kind identity.id
    name := orElse own.name identity.id
    conditions := [{
      type := Condition.Types.validated
      status := .unknown
      reason
      message
      time
      impact := .advisory }] }

end CheckIdentity

namespace Check

variable {σ : Type}

def outcome (check : Check σ) (time : Instant) : Except Problem Diagnosis → Execution σ
  | .error problem =>
    let (reason, message) := problem.classify
    ⟨check, check.identity.substitute time reason message, problem⟩
  | .ok diagnosis =>
    match diagnosis.flaw? with
    | none => ⟨check, diagnosis, none⟩
    | some flaw =>
      let problem := Problem.invalidResult flaw
      let message := "Check returned an invalid result: " ++ problem.message
      ⟨check, check.identity.substitute time Condition.Reasons.invalidResult message, problem⟩

def execute (check : Check σ) (upgrade : Upgrade) : StateM (RunState σ) (Execution σ) := do
  return check.outcome upgrade.time (← (check.diagnose upgrade).run)

end Check

namespace Run

variable {σ : Type}

/--
Runs those of the checks that apply, in order, until the run is done. A check that cannot tell
whether it applies is left out.
-/
def executeChecks (upgrade : Upgrade) : List (Check σ) → StateM (RunState σ) (List (Execution σ))
  | [] => return []
  | check :: checks => do
    if (← get).control.isDone then return []
    match ← (check.applies upgrade).run with
    | .ok true =>
      let execution ← check.execute upgrade
      return execution :: (← executeChecks upgrade checks)
    | _ => executeChecks upgrade checks

def executeAll (catalogue : Catalogue σ) (upgrade : Upgrade) :
    StateM (RunState σ) (List (Execution σ)) :=
  executeChecks upgrade catalogue.checks

def executeSelected (catalogue : Catalogue σ) (patterns : List String)
    (group? : Option CheckGroup) (upgrade : Upgrade) : Step σ (List (Execution σ)) := do
  let checks ← catalogue.select patterns group?
  executeChecks upgrade checks

end Run

/-! ### Summaries -/

structure Summary where
  total : Nat := 0
  passed : Nat := 0
  advisory : Nat := 0
  blocking : Nat := 0
  errors : Nat := 0
deriving DecidableEq, Repr, Inhabited

namespace Summary

variable {σ : Type}

def add (summary : Summary) (execution : Execution σ) : Summary :=
  let counted := { summary with
    total := summary.total + 1
    errors := summary.errors + if execution.isError then 1 else 0 }
  match execution.diagnosis.impact with
  | .none => { counted with passed := counted.passed + 1 }
  | .advisory => { counted with advisory := counted.advisory + 1 }
  | .blocking => { counted with blocking := counted.blocking + 1 }

def ofExecutions (executions : List (Execution σ)) : Summary := executions.foldl add {}

def hasBlocking (summary : Summary) : Bool := 0 < summary.blocking

def hasErrors (summary : Summary) : Bool := 0 < summary.errors

end Summary

end UpgradeGate
