import UpgradeGate.Command.Run
import UpgradeGate.Proofs.Builtin.Weight
import UpgradeGate.Proofs.Check.Session
import UpgradeGate.Proofs.Selection

/-!
# Runs that are carried out

What a command that runs checks has to read, and to find in order, before it comes to its checks and
then to its report. All steps up to the report do nothing that others can see, so that what is left
of a run that gets so far is to deliver its report.
-/

namespace UpgradeGate

theorem Run.executeSelected_of_select {σ : Type} {catalogue : Catalogue σ} {patterns : List String}
    {group? : Option CheckGroup} {checks : List (Check σ)}
    (hchecks : catalogue.select patterns group? = .ok checks) (upgrade : Upgrade)
    (state : RunState σ) :
    ((executeSelected catalogue patterns group? upgrade).run.run state).1 =
      .ok ((executeChecks upgrade checks).run state).1 := by
  rw [executeSelected_run, hchecks]
  rfl

theorem Run.executeSelected_of_select_error {σ : Type} {catalogue : Catalogue σ}
    {patterns : List String} {group? : Option CheckGroup} {problem : Problem}
    (hchecks : catalogue.select patterns group? = .error problem) (upgrade : Upgrade)
    (state : RunState σ) :
    ((executeSelected catalogue patterns group? upgrade).run.run state).1 = .error problem := by
  rw [executeSelected_run, hchecks]
  rfl

namespace RunControl

theorem isDone_of_lt {now deadline : Nat} (hleft : now < deadline) :
    isDone { deadline := some deadline, now } = false :=
  decide_eq_false (Nat.not_le_of_lt hleft)

/-- The whole seconds of the deadline do not fit into 63 bits. -/
def Overruns (now seconds : Nat) : Prop := 0x8000000000000000 ≤ now / second + seconds

theorem withTimeout_eq_error_iff {now seconds : Nat} {crash : Crash} :
    withTimeout now seconds = .error crash ↔
      Overruns now seconds ∧ crash = .deadlineOverflow := by
  have hfits : now + seconds * second ≤ greatestTime ↔ ¬ Overruns now seconds := by
    unfold Overruns greatestTime second
    omega
  unfold withTimeout
  by_cases hoverruns : Overruns now seconds
  · simp [hfits, hoverruns, eq_comm]
  · simp [hfits, hoverruns]

end RunControl

namespace Command

/-! ### Steps that others do not see -/

section Attempts

variable {α β : Type}

theorem ofProblem_ok_bind (value : α) (next : α → Attempt β) :
    (ofProblem (.ok value) >>= next) = next value := rfl

theorem ofProblem_error_bind (problem : Problem) (next : α → Attempt β) :
    (ofProblem (.error problem) >>= next) = throw (.problem problem) := rfl

theorem ofCrash_ok_bind (value : α) (next : α → Attempt β) :
    (ofCrash (.ok value) >>= next) = next value := rfl

theorem ofCrash_error_bind (crash : Crash) (next : α → Attempt β) :
    (ofCrash (.error crash) >>= next) = throw (.crash crash) := rfl

end Attempts

/-! ### Delivery -/

/-- A text goes to the file that is named, if it can be written, else to the standard output, or
nowhere if it is to be quiet. -/
inductive Delivers (machine : Machine) (text : String) :
    Option String → Bool → List Effect → Prop
  | written {path : String} (hwritable : machine.writeError? path = none) (quiet : Bool) :
    Delivers machine text (some path) quiet [.write path text]
  | printed : Delivers machine text none false [.print text]
  | silent : Delivers machine text none true []

section Deliver

variable {machine : Machine} {output? : Option String} {quiet : Bool} {text : String}

theorem Delivers.deliver_run {effects : List Effect}
    (hdelivers : Delivers machine text output? quiet effects) (before : List Effect) :
    (deliver machine output? quiet text).run.run before = (.ok (), before ++ effects) := by
  cases hdelivers with
  | written hwritable =>
      rw [deliver, hwritable]
      rfl
  | printed => rfl
  | silent =>
      rw [List.append_nil]
      rfl

theorem deliver_of_writeError {path message : String}
    (hwrite : machine.writeError? path = some message) :
    deliver machine (some path) quiet text = throw (.problem (.io message)) := by
  rw [deliver, hwrite]
  rfl

theorem exists_delivers (machine : Machine) (output? : Option String) (quiet : Bool)
    (text : String) :
    (∃ path message, output? = some path ∧ machine.writeError? path = some message) ∨
      ∃ effects, Delivers machine text output? quiet effects := by
  cases output? with
  | some path =>
      cases hwrite : machine.writeError? path with
      | some message => exact .inl ⟨path, message, rfl, hwrite⟩
      | none => exact .inr ⟨_, .written hwrite quiet⟩
  | none =>
      cases quiet with
      | false => exact .inr ⟨_, .printed⟩
      | true => exact .inr ⟨_, .silent⟩

end Deliver

/-! ### The catalogue and the control of a run -/

theorem exists_builtinCatalogue (machine : Machine) :
    ∃ catalogue, builtinCatalogue machine = .ok catalogue := by
  have hregister : (Builtin.register (∅ : Catalogue Unit)).1 = .ok () :=
    (Catalogue.register_builtin_eq_ok_iff ∅).mpr fun _ _ => List.not_mem_nil
  unfold builtinCatalogue
  generalize Builtin.register (∅ : Catalogue Unit) = registered at hregister ⊢
  obtain ⟨_, catalogue⟩ := registered
  obtain rfl : _ = Except.ok () := hregister
  exact ⟨_, rfl⟩

/-- The catalogue holds the built-in checks, in whatever order it lists them. -/
theorem checks_builtinCatalogue {machine : Machine} {catalogue : Catalogue Unit}
    (hcatalogue : builtinCatalogue machine = .ok catalogue) :
    catalogue.checks.Perm Builtin.checks := by
  unfold builtinCatalogue Builtin.register at hcatalogue
  rcases hregister : Catalogue.registerAll Builtin.checks (∅ : Catalogue Unit) with ⟨answer, found⟩
  rw [hregister] at hcatalogue
  cases answer with
  | error problem => cases hcatalogue
  | ok =>
      have hfound : found.checks = Builtin.checks := Catalogue.checks_of_registerAll hregister
      rw [← Except.ok.inj hcatalogue, ← hfound]
      exact machine.order.perm found.checks

/-- A run that may take no time at all is one that may take any time. -/
theorem pos_of_timeoutOf {given? : Option Nat} {settings : Settings} {seconds : Nat}
    (htimeout : timeoutOf given? settings = some seconds) : 0 < seconds := by
  unfold timeoutOf at htimeout
  split at htimeout
  · cases htimeout
  next hpos =>
    rw [← Option.some.inj htimeout]
    exact Nat.pos_of_ne_zero fun hzero => hpos (hzero ▸ rfl)
  · unfold Settings.timeout? at htimeout
    split at htimeout
    · cases htimeout
    next hpos =>
      rw [← Option.some.inj htimeout]
      exact Nat.pos_of_ne_zero hpos

theorem isDone_controlOf {machine : Machine} {given? : Option Nat} {settings : Settings}
    {control : RunControl}
    (hcontrol : controlOf machine (timeoutOf given? settings) = .ok control) :
    control.isDone = false := by
  cases htimeout : timeoutOf given? settings with
  | none =>
      rw [htimeout] at hcontrol
      rw [← Except.ok.inj hcontrol]
      rfl
  | some seconds =>
      have hleft : machine.now < machine.now + seconds * RunControl.second :=
        Nat.lt_add_of_pos_right (Nat.mul_pos (pos_of_timeoutOf htimeout) (by decide))
      rw [htimeout, controlOf, RunControl.withTimeout] at hcontrol
      split at hcontrol
      · rw [← Except.ok.inj hcontrol]
        exact RunControl.isDone_of_lt hleft
      · cases hcontrol

theorem controlOf_eq_error_iff {machine : Machine} {timeout? : Option Nat} {crash : Crash} :
    controlOf machine timeout? = .error crash ↔
      ∃ seconds, timeout? = some seconds ∧ RunControl.Overruns machine.now seconds ∧
        crash = .deadlineOverflow := by
  cases timeout? with
  | none => simp [controlOf]
  | some seconds => simp [controlOf, RunControl.withTimeout_eq_error_iff]

/-! ### What a run reads -/

/-- The patterns that are given go before those of the settings. -/
def patternsOf (options : RunOptions) (settings : Settings) : List String :=
  if options.checks.isEmpty then settings.checks else options.checks

/-- What a run has read of the settings and of the cluster, and found to be in order. -/
structure Basis (machine : Machine) (invocation : Invocation) (options : RunOptions) where
  settings : Settings
  group? : Option CheckGroup
  target? : Option Version
  store : Store
  current? : Option Version
  settings_eq : loadSettings machine invocation.noSettings options.settings? = .ok settings
  group_eq : groupOf options.group? settings = .ok group?
  target_eq : targetOf options.target? settings = .ok target?
  store_eq : Snapshot.load machine.messages machine.files.read options.snapshot = .ok store
  current_eq : currentOf options.current? store = .ok current?

/-- A run with all that it needs to come to its checks. -/
structure Conduct (machine : Machine) (invocation : Invocation) (options : RunOptions) extends
    Basis machine invocation options where
  catalogue : Catalogue Unit
  control : RunControl
  checks : List (Check Unit)
  catalogue_eq : builtinCatalogue machine = .ok catalogue
  control_eq : controlOf machine (timeoutOf options.timeout? settings) = .ok control
  checks_eq : catalogue.select (patternsOf options settings) group? = .ok checks

variable {machine : Machine} {invocation : Invocation} {options : RunOptions}

def Basis.upgrade (basis : Basis machine invocation options) : Upgrade where
  store := basis.store
  current? := basis.current?
  target? := basis.target?
  time := machine.time

/-- What is left of a run that has read the settings and the cluster. -/
theorem Basis.runChecks_eq (basis : Basis machine invocation options) :
    runChecks machine invocation options = (do
      let catalogue ← ofProblem (builtinCatalogue machine)
      let control ← ofCrash (controlOf machine (timeoutOf options.timeout? basis.settings))
      let run := Run.executeSelected catalogue (patternsOf options basis.settings) basis.group?
        basis.upgrade
      let executions ← ofProblem (run.run { control, notes := () }).1
      deliver machine options.output? invocation.quiet
        (Report.render options.format (isColoured machine invocation.colour) executions)
      return exitCodeOf basis.settings.failOn (Summary.ofExecutions executions)) := by
  simp only [runChecks, basis.settings_eq, basis.group_eq, basis.target_eq, basis.store_eq,
    basis.current_eq, ofProblem_ok_bind]
  rfl

namespace Conduct

variable (conduct : Conduct machine invocation options)

def executions : List (Execution Unit) :=
  ((Run.executeChecks conduct.upgrade conduct.checks).run
    { control := conduct.control, notes := () }).1

def exitCode : Nat := exitCodeOf conduct.settings.failOn (Summary.ofExecutions conduct.executions)

def report : String :=
  Report.render options.format (isColoured machine invocation.colour) conduct.executions

/-- All that is left of the run is to deliver its report. -/
theorem runChecks_eq :
    runChecks machine invocation options = (do
      deliver machine options.output? invocation.quiet conduct.report
      return conduct.exitCode) := by
  have hexecutions := Run.executeSelected_of_select conduct.checks_eq conduct.upgrade
    { control := conduct.control, notes := () }
  rw [conduct.toBasis.runChecks_eq, conduct.catalogue_eq, ofProblem_ok_bind, conduct.control_eq,
    ofCrash_ok_bind]
  exact congrArg (ofProblem · >>= _) hexecutions

theorem exitCode_eq_zero_or_one : conduct.exitCode = 0 ∨ conduct.exitCode = 1 := by
  unfold exitCode exitCodeOf
  split
  · exact .inr rfl
  · exact .inl rfl

theorem mem_builtin {check : Check Unit} (hcheck : check ∈ conduct.checks) :
    check ∈ Builtin.checks := by
  rw [← (checks_builtinCatalogue conduct.catalogue_eq).mem_iff]
  exact ((Catalogue.mem_of_select conduct.checks_eq check).mp hcheck).1

theorem exitCode_eq_one_iff :
    conduct.exitCode = 1 ↔ ∃ check ∈ conduct.checks, ∃ answer,
      check.Answers conduct.upgrade answer ∧ conduct.settings.failOn.HeedsAnswer answer := by
  have hsteady : ∀ check ∈ conduct.checks, check.IsSteady conduct.upgrade := fun _ hcheck =>
    Builtin.isSteady_of_mem_checks (conduct.mem_builtin hcheck)
  have hlive : conduct.control.isDone = false := isDone_controlOf conduct.control_eq
  rw [exitCode, exitCodeOf_eq_one_iff, Summary.isFailure_ofExecutions_iff]
  constructor
  · rintro ⟨execution, hexecution, hheeds⟩
    obtain ⟨check, hcheck, answer, hanswers, rfl⟩ :=
      (Run.mem_executions_iff hlive hsteady).mp hexecution
    have hsound := Builtin.isSound_of_answers (conduct.mem_builtin hcheck) { notes := () } hanswers
    exact ⟨check, hcheck, answer, hanswers, (FailOn.heeds_outcome_iff check _ hsound).mp hheeds⟩
  · rintro ⟨check, hcheck, answer, hanswers, hheeds⟩
    have hsound := Builtin.isSound_of_answers (conduct.mem_builtin hcheck) { notes := () } hanswers
    exact ⟨_, (Run.mem_executions_iff hlive hsteady).mpr ⟨check, hcheck, answer, hanswers, rfl⟩,
      (FailOn.heeds_outcome_iff check _ hsound).mpr hheeds⟩

end Conduct

end Command

end UpgradeGate
