import UpgradeGate.Decimal
import UpgradeGate.Report

/-!
The command line: flags and parameters, which stand before or behind the name of the command, and
the command `run` or `list`. An argument is taken in when the next flag or parameter, or the end of
its part of the line, shows that it is complete; what is wrong with it shows only then.
-/

namespace UpgradeGate.Command

inductive ColourChoice where
  | auto
  | always
  | never
deriving DecidableEq, Repr, Inhabited

def ColourChoice.ofName? (name : String) : Option ColourChoice :=
  [("auto", auto), ("always", always), ("never", never)].lookup name

structure RunOptions where
  snapshot : String
  settings? : Option String := none
  checks : List String := []
  group? : Option String := none
  target? : Option String := none
  current? : Option String := none
  format : ReportFormat := .text
  output? : Option String := none
  timeout? : Option Nat := none
deriving DecidableEq, Repr

structure ListOptions where
  checks : List String := []
  group? : Option String := none
deriving DecidableEq, Repr

inductive Action where
  | run (options : RunOptions)
  | list (options : ListOptions)
deriving DecidableEq, Repr

structure Invocation where
  verbosity : Nat := 0
  quiet : Bool := false
  colour : ColourChoice := .auto
  /-- Whether no file of settings is looked for. -/
  noSettings : Bool := false
  action : Action
deriving DecidableEq, Repr

/-- Why a command line leads to no action. -/
inductive Stop where
  /-- It asks for the help text or for the version. -/
  | shown
  | misuse
deriving DecidableEq, Repr

/-! ### What may stand in a line -/

inductive Flag where
  | verbose
  | quiet
  | noSettings
  | help
  | version
deriving DecidableEq, Repr

inductive Parameter where
  | colour
  | snapshot
  | settings
  | checks
  | group
  | target
  | current
  | format
  | output
  | timeout
deriving DecidableEq, Repr

/-- The part of the line before the name of the command, and the part behind it. -/
inductive Part where
  | front
  | run
  | list
deriving DecidableEq, Repr

inductive Switch where
  | flag (flag : Flag)
  | parameter (parameter : Parameter)
deriving DecidableEq, Repr

namespace Part

def commonNames : List (String × Switch) :=
  [("verbose", .flag .verbose), ("quiet", .flag .quiet), ("no-config", .flag .noSettings),
    ("help", .flag .help), ("color", .parameter .colour)]

def commonLetters : List (Char × Switch) :=
  [('v', .flag .verbose), ('q', .flag .quiet), ('h', .flag .help)]

def names : Part → List (String × Switch)
  | front => ("version", .flag .version) :: commonNames
  | run =>
    [("snapshot", .parameter .snapshot), ("config", .parameter .settings),
      ("checks", .parameter .checks), ("group", .parameter .group),
      ("target-version", .parameter .target), ("current-version", .parameter .current),
      ("format", .parameter .format), ("output", .parameter .output),
      ("timeout", .parameter .timeout)] ++ commonNames
  | list => [("checks", .parameter .checks), ("group", .parameter .group)] ++ commonNames

def letters : Part → List (Char × Switch)
  | front => ('V', .flag .version) :: commonLetters
  | run =>
    [('s', .parameter .snapshot), ('c', .parameter .settings), ('g', .parameter .group),
      ('f', .parameter .format), ('o', .parameter .output)] ++ commonLetters
  | list => ('g', .parameter .group) :: commonLetters

end Part

/-! ### What is given -/

structure Given where
  verbosity : Nat := 0
  quiet : Bool := false
  noSettings : Bool := false
  colour? : Option ColourChoice := none
  snapshot? : Option String := none
  settings? : Option String := none
  checks : List String := []
  group? : Option String := none
  target? : Option String := none
  current? : Option String := none
  format? : Option ReportFormat := none
  output? : Option String := none
  timeout? : Option Nat := none
deriving Inhabited

def pathOf? (value : String) : Option String := if value.isEmpty then none else some value

/-- A number of seconds of up to 64 bits, perhaps with a plus sign. -/
def secondsOf? (value : String) : Option Nat := do
  let digits := match value.toList with
    | '+' :: cs => cs
    | cs => cs
  (← Decimal.natOfDigits? 10 digits) |> fun n => if n < UInt64.size then some n else none

namespace Given

/-- A value that is given for the first time. -/
def once (before : Option α) (value? : Option α) : Except Stop (Option α) :=
  match before, value? with
  | none, some value => .ok (some value)
  | _, _ => .error .misuse

/-- Takes in the value of a parameter. Only patterns may be given more than once. -/
def take (given : Given) (parameter : Parameter) (value : String) : Except Stop Given := do
  match parameter with
  | .colour => return { given with colour? := ← once given.colour? (ColourChoice.ofName? value) }
  | .snapshot => return { given with snapshot? := ← once given.snapshot? (pathOf? value) }
  | .settings => return { given with settings? := ← once given.settings? (pathOf? value) }
  | .checks => return { given with checks := given.checks ++ [value] }
  | .group => return { given with group? := ← once given.group? (some value) }
  | .target => return { given with target? := ← once given.target? (some value) }
  | .current => return { given with current? := ← once given.current? (some value) }
  | .format =>
    return { given with format? := ← once given.format? (ReportFormat.ofName value).toOption }
  | .output => return { given with output? := ← once given.output? (pathOf? value) }
  | .timeout => return { given with timeout? := ← once given.timeout? (secondsOf? value) }

/-- Takes in a flag. Only the verbosity may be raised more than once. -/
def raise (given : Given) : Flag → Except Stop Given
  | .verbose => .ok { given with verbosity := given.verbosity + 1 }
  | .quiet => if given.quiet then .error .misuse else .ok { given with quiet := true }
  | .noSettings =>
    if given.noSettings then .error .misuse else .ok { given with noSettings := true }
  | .help | .version => .error .shown

end Given

inductive Pending where
  | nothing
  | awaiting (parameter : Parameter)
  | value (parameter : Parameter) (value : String)

/-- What is given in a part of a line as far as it is read. -/
structure Progress where
  given : Given := {}
  pending : Pending := .nothing

namespace Progress

def settle (progress : Progress) : Except Stop Given :=
  match progress.pending with
  | .nothing => .ok progress.given
  | .awaiting _ => .error .misuse
  | .value parameter value => progress.given.take parameter value

/-- A switch with what is attached to it. A parameter with nothing attached awaits its value. -/
def switch (progress : Progress) (switch : Switch) (attached? : Option String) :
    Except Stop Progress := do
  match switch, attached? with
  | .flag flag, none => return { given := ← (← progress.settle).raise flag }
  | .flag _, some _ => throw .misuse
  | .parameter parameter, none =>
    return { given := ← progress.settle, pending := .awaiting parameter }
  | .parameter parameter, some value =>
    return { given := ← (← progress.settle).take parameter value }

/-- The letters behind one dash: flags, and perhaps at last a parameter with its value. -/
def letters (part : Part) (progress : Progress) : List Char → Except Stop Progress
  | [] => .ok progress
  | c :: cs =>
    match part.letters.lookup c with
    | none => .error .misuse
    | some (.flag flag) => do letters part (← progress.switch (.flag flag) none) cs
    | some (.parameter parameter) =>
      let attached? := match cs with
        | [] => none
        | '=' :: cs => some (String.ofList cs)
        | cs => some (String.ofList cs)
      progress.switch (.parameter parameter) attached?

/-- A word behind two dashes, perhaps with an equals sign and a value. -/
def word (part : Part) (progress : Progress) (cs : List Char) : Except Stop Progress :=
  let name := cs.takeWhile (· ≠ '=')
  let attached? := match cs.dropWhile (· ≠ '=') with
    | [] => none
    | _ :: value => some (String.ofList value)
  match part.names.lookup (String.ofList name) with
  | none => .error .misuse
  | some switch => progress.switch switch attached?

/-- An argument without dashes in front: the value that a parameter awaits. -/
def plain (progress : Progress) (text : String) : Except Stop Progress :=
  match progress.pending with
  | .awaiting parameter => .ok { progress with pending := .value parameter text }
  | _ => .error .misuse

def isAwaiting (progress : Progress) : Bool :=
  match progress.pending with
  | .awaiting _ => true
  | _ => false

/-- An argument that is neither the name of a command nor the mark `--`. -/
def argument (part : Part) (progress : Progress) (text : String) : Except Stop Progress :=
  match text.toList with
  | '-' :: '-' :: cs => progress.word part cs
  | '-' :: c :: cs => progress.letters part (c :: cs)
  | _ => progress.plain text

/-- Reads a part of a line up to its end. After the mark `--` nothing may follow. -/
def finish (part : Part) (progress : Progress) : List String → Except Stop Given
  | [] => progress.settle
  | "--" :: rest => if rest.isEmpty then progress.settle else .error .misuse
  | text :: rest => do (← progress.argument part text).finish part rest

end Progress

/-! ### The whole line -/

def runOptions (given : Given) : Except Stop RunOptions :=
  match given.snapshot? with
  | none => .error .misuse
  | some snapshot => .ok {
      snapshot
      settings? := given.settings?
      checks := given.checks
      group? := given.group?
      target? := given.target?
      current? := given.current?
      format := given.format?.getD .text
      output? := given.output?
      timeout? := given.timeout? }

/-- What is given behind the name of the command goes before what is given in front of it. -/
def invocation (front behind : Given) (action : Action) : Invocation where
  verbosity := if behind.verbosity = 0 then front.verbosity else behind.verbosity
  quiet := front.quiet || behind.quiet
  colour := (behind.colour?.or front.colour?).getD .auto
  noSettings := front.noSettings || behind.noSettings
  action := action

/-- The command `help` may name one command. -/
def helpStop : List String → Stop
  | [] | ["run"] | ["list"] | ["help"] => .shown
  | _ => .misuse

/-- Reads a line. The part in front is taken in only after the part behind the command's name. -/
def invocationOf (progress : Progress) : List String → Except Stop Invocation
  | [] => .error .misuse
  | text :: rest =>
    if !progress.isAwaiting && text = "run" then do
      let behind ← ({} : Progress).finish .run rest
      let options ← runOptions behind
      return invocation (← progress.settle) behind (.run options)
    else if !progress.isAwaiting && text = "list" then do
      let behind ← ({} : Progress).finish .list rest
      return invocation (← progress.settle) behind
        (.list { checks := behind.checks, group? := behind.group? })
    else if !progress.isAwaiting && text = "help" then .error (helpStop rest)
    else if text = "--" then .error .misuse
    else do invocationOf (← progress.argument .front text) rest

def Invocation.ofArguments (arguments : List String) : Except Stop Invocation :=
  invocationOf {} arguments

end UpgradeGate.Command
