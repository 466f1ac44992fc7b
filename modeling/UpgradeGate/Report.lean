import UpgradeGate.Diagnosis.Json
import UpgradeGate.Run.Execution
import UpgradeGate.Text.Basic
import UpgradeGate.Yaml.Printer

/-!
Reports, in three formats. As a document a report has the summary and an entry for each execution,
in the order of the run; for people it is a block of lines for each execution, and a summary line.
-/

namespace UpgradeGate

/-! ### Formats -/

inductive ReportFormat where
  | text
  | json
  | yaml
deriving DecidableEq, Repr, Inhabited

namespace ReportFormat

structure Unknown where
  name : String

def Unknown.message (unknown : Unknown) : String := "Unknown output format: " ++ unknown.name

def ofName (name : String) : Except Unknown ReportFormat :=
  let isWord (word : String) : Bool := Text.isWordIgnoringCase word name
  if isWord "text" then .ok .text
  else if isWord "json" then .ok .json
  else if isWord "yaml" || isWord "yml" then .ok .yaml
  else .error ⟨name⟩

end ReportFormat

/-! ### Documents -/

variable {σ : Type}

def Summary.toJson (summary : Summary) : Json :=
  .obj [("total", .int summary.total),
    ("passed", .int summary.passed),
    ("advisory", .int summary.advisory),
    ("blocking", .int summary.blocking),
    ("errors", .int summary.errors)]

/-- The id of the check, the members of the diagnosis, and the problem if there is one. -/
def Execution.toJson (execution : Execution σ) : Json :=
  .obj ([("check", .str execution.check.id)] ++ execution.diagnosis.members ++
    Json.member? "error" (execution.problem?.map fun problem => .str problem.message))

namespace Report

def document (executions : List (Execution σ)) : Json :=
  .obj [("summary", (Summary.ofExecutions executions).toJson),
    ("results", .arr (executions.map Execution.toJson))]

def json (executions : List (Execution σ)) : String := (document executions).pretty

def yaml (executions : List (Execution σ)) : String := Yaml.print (document executions)

end Report

/-! ### Texts for people -/

namespace Report

inductive Colour where
  | red
  | green
  | yellow
  | cyan
deriving DecidableEq, Repr

def Colour.code : Colour → String
  | red => "\x1b[31m"
  | green => "\x1b[32m"
  | yellow => "\x1b[33m"
  | cyan => "\x1b[36m"

def resetCode : String := "\x1b[0m"

def paint (coloured : Bool) (colour : Colour) (text : String) : String :=
  if coloured then colour.code ++ text ++ resetCode else text

inductive Verdict where
  | passed
  | advisory
  | blocking
  | error
deriving DecidableEq, Repr

namespace Verdict

def icon : Verdict → String
  | passed => "✓"
  | advisory => "⚠"
  | blocking => "✗"
  | error => "!"

def label : Verdict → String
  | passed => "PASSED"
  | advisory => "ADVISORY"
  | blocking => "BLOCKING"
  | error => "ERROR"

def colour : Verdict → Colour
  | passed => .green
  | advisory => .yellow
  | blocking => .red
  | error => .cyan

end Verdict

def verdict (execution : Execution σ) : Verdict :=
  if execution.isError then .error
  else match execution.diagnosis.impact with
    | .none => .passed
    | .advisory => .advisory
    | .blocking => .blocking

/-- The first element with a property, and all others in their order. -/
def splitFirst (p : α → Bool) : List α → Option α × List α
  | [] => (none, [])
  | a :: as =>
    if p a then (some a, as)
    else
      let (first, others) := splitFirst p as
      (first, a :: others)

/-- The first condition with the weightiest impact, and the other conditions. -/
def headline (diagnosis : Diagnosis) : Option Condition × List Condition :=
  splitFirst (fun c => c.impact == diagnosis.impact) diagnosis.conditions

def finding (condition : Condition) : String :=
  "[" ++ condition.reason ++ "] " ++ condition.message

def headlineText (coloured : Bool) (execution : Execution σ) : String :=
  let verdict := verdict execution
  let diagnosis := execution.diagnosis
  let subject := diagnosis.group ++ "/" ++ diagnosis.kind ++ "/" ++ diagnosis.name
  let finding := match (headline diagnosis).1 with
    | some condition => " " ++ finding condition
    | none => ""
  verdict.icon ++ " " ++ paint coloured verdict.colour verdict.label ++ ": " ++ subject ++ finding

def conditionText (condition : Condition) : String :=
  condition.type ++ "=" ++ condition.status.text ++ " " ++ finding condition

def objectText (object : ImpactedObject) : String :=
  let place := match object.ns? with
    | some ns => ns ++ "/" ++ object.name
    | none => object.name
  "- " ++ object.kind ++ " " ++ place

def details (execution : Execution σ) : List String :=
  let diagnosis := execution.diagnosis
  (headline diagnosis).2.map conditionText ++
    (diagnosis.conditions.filterMap Condition.remediation).map ("Remediation: " ++ ·) ++
    (execution.problem?.map fun problem => "Error: " ++ problem.message).toList ++
    match execution.check.lines? with
    | some lines => lines diagnosis
    | none => diagnosis.impacted.map objectText

/-- The lines about an execution; all but the first are indented. -/
def block (coloured : Bool) (execution : Execution σ) : List String :=
  headlineText coloured execution :: (details execution).map ("   " ++ ·)

/-- Whether an execution stands at or before another: by group, then kind, then name. -/
def isOrdered (first second : Execution σ) : Bool :=
  let a := first.diagnosis
  let b := second.diagnosis
  if a.group ≠ b.group then a.group < b.group
  else if a.kind ≠ b.kind then a.kind < b.kind
  else a.name ≤ b.name

def summaryText (coloured : Bool) (summary : Summary) : String :=
  let count (colour : Colour) (n : Nat) (what : String) : String :=
    ", " ++ paint coloured colour (toString n) ++ " " ++ what
  "Summary: " ++ toString summary.total ++ " checks run" ++
    count .green summary.passed "passed" ++ count .yellow summary.advisory "advisory" ++
    count .red summary.blocking "blocking" ++ count .cyan summary.errors "errors"

/-- An empty line stands between the blocks and the summary. -/
def lines (coloured : Bool) (executions : List (Execution σ)) : List String :=
  (executions.mergeSort isOrdered).flatMap (block coloured) ++
    (if executions.isEmpty then [] else [""]) ++
    [summaryText coloured (Summary.ofExecutions executions)]

def text (coloured : Bool) (executions : List (Execution σ)) : String :=
  String.join ((lines coloured executions).map (· ++ "\n"))

/-! ### Reports in any format -/

/-- Only text can be coloured. -/
def render (format : ReportFormat) (coloured : Bool) (executions : List (Execution σ)) : String :=
  match format with
  | .text => text coloured executions
  | .json => json executions
  | .yaml => yaml executions

end Report

end UpgradeGate
