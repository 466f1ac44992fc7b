import UpgradeGate.Builtin
import UpgradeGate.Cluster.Snapshot
import UpgradeGate.Command.Line
import UpgradeGate.Report
import UpgradeGate.Settings

/-!
What the commands do. A command does what others can see of it step by step: it prints, complains or
writes a file. Its exit code is 0 if all is well, 1 if the run failed, and 2 if it could not be
carried out.
-/

namespace UpgradeGate.Command

/-- What a command needs to know of the machine that it runs on. -/
structure Machine where
  files : FileView
  messages : ParserMessages
  order : Arrangement (Check Unit)
  /-- Why a file cannot be written, if it cannot. -/
  writeError? : String → Option String
  showsColours : Bool
  /-- The nanoseconds of the clock that never goes back. -/
  now : Nat
  time : Instant

/-- What others can see of a command: texts on the standard output and on the standard error, and
files with a new content. -/
inductive Effect where
  | print (text : String)
  | complain (text : String)
  | write (path text : String)
deriving DecidableEq, Repr

inductive Failure where
  | problem (problem : Problem)
  | crash (crash : Crash)
deriving DecidableEq, Repr

/-- A step of a command, and all that was done up to it. What is done stays done also when a later
step fails. -/
abbrev Attempt := ExceptT Failure (StateM (List Effect))

def perform (effect : Effect) : Attempt Unit := modify (· ++ [effect])

def ofProblem (answer : Except Problem α) : Attempt α := liftM (answer.mapError Failure.problem)

def ofCrash (answer : Except Crash α) : Attempt α := liftM (answer.mapError Failure.crash)

def loadSettings (machine : Machine) (noSettings : Bool) (path? : Option String) :
    Except Problem Settings :=
  if noSettings then .ok {}
  else match path? with
    | some path => Settings.loadFrom machine.messages machine.files path
    | none => Settings.load machine.messages machine.files

/-- A group that is given goes before that of the settings. -/
def groupOf (given? : Option String) (settings : Settings) :
    Except Problem (Option CheckGroup) :=
  match given? with
  | some name => return some (← CheckGroup.ofName name)
  | none => settings.group

def targetOf (given? : Option String) (settings : Settings) : Except Problem (Option Version) :=
  match given? with
  | some text => return some (← Platform.version text)
  | none => settings.target

def currentOf (given? : Option String) (store : Store) : Except Problem (Option Version) :=
  match given? with
  | some text => return some (← Platform.version text)
  | none => ((Platform.version? store).run 0).1

/-- A timeout that is given goes before that of the settings; zero means none. -/
def timeoutOf (given? : Option Nat) (settings : Settings) : Option Nat :=
  match given? with
  | some 0 => none
  | some seconds => some seconds
  | none => settings.timeout?

def controlOf (machine : Machine) : Option Nat → Except Crash RunControl
  | some seconds => RunControl.withTimeout machine.now seconds
  | none => .ok { now := machine.now }

def isColoured (machine : Machine) : ColourChoice → Bool
  | .always => true
  | .never => false
  | .auto => machine.showsColours

/-- A text goes to the file that is named, else to the standard output unless it is to be quiet. A
file that cannot be written stays as it is. -/
def deliver (machine : Machine) (output? : Option String) (quiet : Bool) (text : String) :
    Attempt Unit := do
  match output? with
  | some path =>
    if let some message := machine.writeError? path then throw (.problem (.io message))
    perform (.write path text)
  | none => if !quiet then perform (.print text)

def builtinCatalogue (machine : Machine) : Except Problem (Catalogue Unit) :=
  match Builtin.register ∅ with
  | (.ok _, catalogue) => .ok (catalogue.arranged machine.order)
  | (.error problem, _) => .error problem

def exitCodeOf (failOn : FailOn) (summary : Summary) : Nat :=
  if failOn.isFailure summary then 1 else 0

def runChecks (machine : Machine) (invocation : Invocation) (options : RunOptions) :
    Attempt Nat := do
  let settings ← ofProblem (loadSettings machine invocation.noSettings options.settings?)
  let group? ← ofProblem (groupOf options.group? settings)
  let patterns := if options.checks.isEmpty then settings.checks else options.checks
  let target? ← ofProblem (targetOf options.target? settings)
  let store ← ofProblem (Snapshot.load machine.messages machine.files.read options.snapshot)
  let current? ← ofProblem (currentOf options.current? store)
  let upgrade : Upgrade := { store, current?, target?, time := machine.time }
  let catalogue ← ofProblem (builtinCatalogue machine)
  let control ← ofCrash (controlOf machine (timeoutOf options.timeout? settings))
  let run := Run.executeSelected catalogue patterns group? upgrade
  let executions ← ofProblem (run.run { control, notes := () }).1
  let report := Report.render options.format (isColoured machine invocation.colour) executions
  deliver machine options.output? invocation.quiet report
  return exitCodeOf settings.failOn (Summary.ofExecutions executions)

/-- A text and as many spaces as it lacks to a width. -/
def column (width : Nat) (text : String) : String :=
  text ++ String.ofList (List.replicate (width - text.length) ' ')

def checkLine (check : Check σ) : String :=
  column 50 check.id ++ " " ++ column 11 check.group.name ++ " " ++ check.identity.title ++ "\n"

def listChecks (machine : Machine) (invocation : Invocation) (options : ListOptions) :
    Attempt Nat := do
  let settings ← ofProblem (loadSettings machine invocation.noSettings none)
  let group? ← ofProblem (groupOf options.group? settings)
  let catalogue ← ofProblem (builtinCatalogue machine)
  let patterns := if options.checks.isEmpty then [Selector.wildcard] else options.checks
  let selected ← ofProblem (catalogue.select patterns group?)
  let lines := (selected.mergeSort fun a b => a.id ≤ b.id).map checkLine
  deliver machine none invocation.quiet (String.join lines)
  return 0

/-- A command ends by itself, with an exit code, or it is stopped in the middle by a crash. It is
not the command that then tells of the crash. -/
inductive Ending where
  | exited (code : Nat)
  | crashed (crash : Crash)
deriving DecidableEq, Repr

def problemCode : Nat := 2

def crashCode : Nat := 101

def Ending.exitCode : Ending → Nat
  | exited code => code
  | crashed _ => crashCode

structure Outcome where
  ending : Ending
  /-- In the order in which they came. -/
  effects : List Effect
deriving DecidableEq, Repr

def Outcome.exitCode (outcome : Outcome) : Nat := outcome.ending.exitCode

/-- How a command comes to its end. A problem is told on the standard error. -/
def conclude (attempt : Attempt Nat) : StateM (List Effect) Ending := do
  match ← attempt.run with
  | .ok code => return .exited code
  | .error (.problem problem) =>
    modify (· ++ [.complain ("Error: " ++ problem.message ++ "\n")])
    return .exited problemCode
  | .error (.crash crash) => return .crashed crash

def attempt (machine : Machine) (invocation : Invocation) : Attempt Nat :=
  match invocation.action with
  | .run options => runChecks machine invocation options
  | .list options => listChecks machine invocation options

def outcome (machine : Machine) (invocation : Invocation) : Outcome :=
  let (ending, effects) := (conclude (attempt machine invocation)).run []
  { ending, effects }

end UpgradeGate.Command
