import UpgradeGate.Proofs.Command.Conduct

/-!
# The courses of commands

A command is carried out, or a step keeps it back, or its deadline is beyond the times of the clock.
The course that a command takes is a relation, which each command follows and which has a course for
each. Nothing that others can see is done on the way, unless the command is carried out.
-/

namespace UpgradeGate.Command

/-! ### Commands that are carried out -/

/-- Without patterns all checks are listed. -/
def listPatternsOf (options : ListOptions) : List String :=
  if options.checks.isEmpty then [Selector.wildcard] else options.checks

/-- What a command that lists checks has read, and found to be in order. -/
structure Listing (machine : Machine) (invocation : Invocation) (options : ListOptions) where
  settings : Settings
  group? : Option CheckGroup
  catalogue : Catalogue Unit
  checks : List (Check Unit)
  settings_eq : loadSettings machine invocation.noSettings none = .ok settings
  group_eq : groupOf options.group? settings = .ok group?
  catalogue_eq : builtinCatalogue machine = .ok catalogue
  checks_eq : catalogue.select (listPatternsOf options) group? = .ok checks

namespace Listing

variable {machine : Machine} {invocation : Invocation} {options : ListOptions}
  (listing : Listing machine invocation options)

/-- A line for each check, sorted by their ids. -/
def text : String :=
  String.join ((listing.checks.mergeSort fun a b => a.id ≤ b.id).map checkLine)

theorem listChecks_eq :
    listChecks machine invocation options = (do
      deliver machine none invocation.quiet listing.text
      return 0) := by
  have hchecks := listing.checks_eq
  rw [listPatternsOf] at hchecks
  simp only [listChecks, listing.settings_eq, listing.group_eq, listing.catalogue_eq, hchecks,
    ofProblem_ok_bind]
  rfl

end Listing

/-- The exit code and the whole text of a command that is carried out. -/
inductive Completes (machine : Machine) (invocation : Invocation) : Nat → String → Prop
  | run {options : RunOptions} (haction : invocation.action = .run options)
    (conduct : Conduct machine invocation options) :
    Completes machine invocation conduct.exitCode conduct.report
  | list {options : ListOptions} (haction : invocation.action = .list options)
    (listing : Listing machine invocation options) : Completes machine invocation 0 listing.text

theorem Completes.eq_zero_or_one {machine : Machine} {invocation : Invocation} {code : Nat}
    {text : String} (hcompletes : Completes machine invocation code text) :
    code = 0 ∨ code = 1 := by
  cases hcompletes with
  | run _ conduct => exact conduct.exitCode_eq_zero_or_one
  | list => exact .inl rfl

/-- The file that the text of a command is to go to. -/
def Invocation.output? (invocation : Invocation) : Option String :=
  match invocation.action with
  | .run options => options.output?
  | .list _ => none

section Actions

variable {machine : Machine} {invocation : Invocation}

theorem Invocation.output?_of_run {options : RunOptions}
    (haction : invocation.action = .run options) : invocation.output? = options.output? := by
  rw [output?, haction]

theorem Invocation.output?_of_list {options : ListOptions}
    (haction : invocation.action = .list options) : invocation.output? = none := by
  rw [output?, haction]

theorem attempt_of_run {options : RunOptions} (haction : invocation.action = .run options) :
    attempt machine invocation = runChecks machine invocation options := by
  rw [attempt, haction]

theorem attempt_of_list {options : ListOptions} (haction : invocation.action = .list options) :
    attempt machine invocation = listChecks machine invocation options := by
  rw [attempt, haction]

end Actions

/-! ### Commands that are not -/

/-- A step keeps a run back: all steps before it go well. -/
inductive HindersRun (machine : Machine) (invocation : Invocation) (options : RunOptions) :
    Problem → Prop
  | settings {problem : Problem}
    (hsettings : loadSettings machine invocation.noSettings options.settings? = .error problem) :
    HindersRun machine invocation options problem
  | group {settings : Settings} {problem : Problem}
    (hsettings : loadSettings machine invocation.noSettings options.settings? = .ok settings)
    (hgroup : groupOf options.group? settings = .error problem) :
    HindersRun machine invocation options problem
  | target {settings : Settings} {group? : Option CheckGroup} {problem : Problem}
    (hsettings : loadSettings machine invocation.noSettings options.settings? = .ok settings)
    (hgroup : groupOf options.group? settings = .ok group?)
    (htarget : targetOf options.target? settings = .error problem) :
    HindersRun machine invocation options problem
  | snapshot {settings : Settings} {group? : Option CheckGroup} {target? : Option Version}
    {problem : Problem}
    (hsettings : loadSettings machine invocation.noSettings options.settings? = .ok settings)
    (hgroup : groupOf options.group? settings = .ok group?)
    (htarget : targetOf options.target? settings = .ok target?)
    (hstore : Snapshot.load machine.messages machine.files.read options.snapshot =
      .error problem) :
    HindersRun machine invocation options problem
  | current {settings : Settings} {group? : Option CheckGroup} {target? : Option Version}
    {store : Store} {problem : Problem}
    (hsettings : loadSettings machine invocation.noSettings options.settings? = .ok settings)
    (hgroup : groupOf options.group? settings = .ok group?)
    (htarget : targetOf options.target? settings = .ok target?)
    (hstore : Snapshot.load machine.messages machine.files.read options.snapshot = .ok store)
    (hcurrent : currentOf options.current? store = .error problem) :
    HindersRun machine invocation options problem
  | patterns (basis : Basis machine invocation options) {catalogue : Catalogue Unit}
    {control : RunControl} {problem : Problem}
    (hcatalogue : builtinCatalogue machine = .ok catalogue)
    (hcontrol : controlOf machine (timeoutOf options.timeout? basis.settings) = .ok control)
    (hchecks : catalogue.select (patternsOf options basis.settings) basis.group? =
      .error problem) :
    HindersRun machine invocation options problem
  | output (conduct : Conduct machine invocation options) {path message : String}
    (hpath : options.output? = some path) (hwrite : machine.writeError? path = some message) :
    HindersRun machine invocation options (.io message)

/-- A step keeps a command that lists checks back: all steps before it go well. -/
inductive HindersList (machine : Machine) (invocation : Invocation) (options : ListOptions) :
    Problem → Prop
  | settings {problem : Problem}
    (hsettings : loadSettings machine invocation.noSettings none = .error problem) :
    HindersList machine invocation options problem
  | group {settings : Settings} {problem : Problem}
    (hsettings : loadSettings machine invocation.noSettings none = .ok settings)
    (hgroup : groupOf options.group? settings = .error problem) :
    HindersList machine invocation options problem
  | patterns {settings : Settings} {group? : Option CheckGroup} {catalogue : Catalogue Unit}
    {problem : Problem}
    (hsettings : loadSettings machine invocation.noSettings none = .ok settings)
    (hgroup : groupOf options.group? settings = .ok group?)
    (hcatalogue : builtinCatalogue machine = .ok catalogue)
    (hchecks : catalogue.select (listPatternsOf options) group? = .error problem) :
    HindersList machine invocation options problem

/-- What keeps a command from being carried out. -/
inductive Hinders (machine : Machine) (invocation : Invocation) (problem : Problem) : Prop
  | run {options : RunOptions} (haction : invocation.action = .run options)
    (hhinders : HindersRun machine invocation options problem)
  | list {options : ListOptions} (haction : invocation.action = .list options)
    (hhinders : HindersList machine invocation options problem)

/-- A run whose deadline the clock cannot show: it has read the snapshot, and all is in order up to
the deadline. -/
inductive Overruns (machine : Machine) (invocation : Invocation) : Prop
  | run {options : RunOptions} (haction : invocation.action = .run options)
    (basis : Basis machine invocation options) {seconds : Nat}
    (htimeout : timeoutOf options.timeout? basis.settings = some seconds)
    (hoverruns : RunControl.Overruns machine.now seconds)

/-! ### Courses -/

/-- How an attempt may go, and what is done in its course. Nothing is, unless it succeeds. -/
inductive Takes (machine : Machine) (invocation : Invocation) :
    Except Failure Nat → List Effect → Prop
  | carriedOut {code : Nat} {text : String} {effects : List Effect}
    (hcompletes : Completes machine invocation code text)
    (hdelivers : Delivers machine text invocation.output? invocation.quiet effects) :
    Takes machine invocation (.ok code) effects
  | keptBack {problem : Problem} (hhinders : Hinders machine invocation problem) :
    Takes machine invocation (.error (.problem problem)) []
  | overrun (hoverruns : Overruns machine invocation) :
    Takes machine invocation (.error (.crash .deadlineOverflow)) []

section Courses

variable {machine : Machine} {invocation : Invocation}

theorem throw_run (failure : Failure) (before : List Effect) :
    (throw failure : Attempt Nat).run.run before = (.error failure, before) := rfl

theorem Delivers.attempt_run {text : String} {output? : Option String} {effects : List Effect}
    (hdelivers : Delivers machine text output? invocation.quiet effects) (code : Nat)
    (before : List Effect) :
    (do deliver machine output? invocation.quiet text; return code : Attempt Nat).run.run before =
      (.ok code, before ++ effects) := by
  rw [Effects.run_bind, hdelivers.deliver_run]
  rfl

theorem HindersRun.runChecks_eq {options : RunOptions} {problem : Problem}
    (hhinders : HindersRun machine invocation options problem) :
    runChecks machine invocation options = throw (.problem problem) := by
  cases hhinders with
  | settings hsettings => simp only [runChecks, hsettings, ofProblem_error_bind]
  | group hsettings hgroup =>
      simp only [runChecks, hsettings, hgroup, ofProblem_ok_bind, ofProblem_error_bind]
  | target hsettings hgroup htarget =>
      simp only [runChecks, hsettings, hgroup, htarget, ofProblem_ok_bind, ofProblem_error_bind]
  | snapshot hsettings hgroup htarget hstore =>
      simp only [runChecks, hsettings, hgroup, htarget, hstore, ofProblem_ok_bind,
        ofProblem_error_bind]
  | current hsettings hgroup htarget hstore hcurrent =>
      simp only [runChecks, hsettings, hgroup, htarget, hstore, hcurrent, ofProblem_ok_bind,
        ofProblem_error_bind]
  | @patterns basis catalogue control problem hcatalogue hcontrol hchecks =>
      have hselected := Run.executeSelected_of_select_error hchecks basis.upgrade
        { control, notes := () }
      rw [basis.runChecks_eq, hcatalogue, ofProblem_ok_bind, hcontrol, ofCrash_ok_bind]
      exact congrArg (ofProblem · >>= _) hselected
  | output conduct hpath hwrite =>
      rw [conduct.runChecks_eq, hpath, deliver_of_writeError hwrite]
      rfl

theorem HindersList.listChecks_eq {options : ListOptions} {problem : Problem}
    (hhinders : HindersList machine invocation options problem) :
    listChecks machine invocation options = throw (.problem problem) := by
  cases hhinders with
  | settings hsettings => simp only [listChecks, hsettings, ofProblem_error_bind]
  | group hsettings hgroup =>
      simp only [listChecks, hsettings, hgroup, ofProblem_ok_bind, ofProblem_error_bind]
  | patterns hsettings hgroup hcatalogue hchecks =>
      rw [listPatternsOf] at hchecks
      simp only [listChecks, hsettings, hgroup, hcatalogue, hchecks, ofProblem_ok_bind,
        ofProblem_error_bind]

/-- A command follows its course, whatever was done before. -/
theorem Takes.attempt_run {answer : Except Failure Nat} {effects : List Effect}
    (htakes : Takes machine invocation answer effects) (before : List Effect) :
    (attempt machine invocation).run.run before = (answer, before ++ effects) := by
  cases htakes with
  | carriedOut hcompletes hdelivers =>
      cases hcompletes with
      | run haction conduct =>
          rw [Invocation.output?_of_run haction] at hdelivers
          rw [attempt_of_run haction, conduct.runChecks_eq, hdelivers.attempt_run]
      | list haction listing =>
          rw [Invocation.output?_of_list haction] at hdelivers
          rw [attempt_of_list haction, listing.listChecks_eq, hdelivers.attempt_run]
  | keptBack hhinders =>
      rw [List.append_nil]
      cases hhinders with
      | run haction hhinders => rw [attempt_of_run haction, hhinders.runChecks_eq, throw_run]
      | list haction hhinders => rw [attempt_of_list haction, hhinders.listChecks_eq, throw_run]
  | overrun hoverruns =>
      obtain ⟨haction, basis, htimeout, hlate⟩ := hoverruns
      obtain ⟨catalogue, hcatalogue⟩ := exists_builtinCatalogue machine
      have hcontrol := controlOf_eq_error_iff.mpr ⟨_, htimeout, hlate, rfl⟩
      rw [List.append_nil, attempt_of_run haction, basis.runChecks_eq, hcatalogue,
        ofProblem_ok_bind, hcontrol, ofCrash_error_bind, throw_run]

/-- A run has read all that it needs, or is kept back before that. -/
theorem basis_cases (machine : Machine) (invocation : Invocation) (options : RunOptions) :
    Nonempty (Basis machine invocation options) ∨
      ∃ problem, HindersRun machine invocation options problem := by
  cases hsettings : loadSettings machine invocation.noSettings options.settings? with
  | error problem => exact .inr ⟨problem, .settings hsettings⟩
  | ok settings =>
      cases hgroup : groupOf options.group? settings with
      | error problem => exact .inr ⟨problem, .group hsettings hgroup⟩
      | ok group? =>
          cases htarget : targetOf options.target? settings with
          | error problem => exact .inr ⟨problem, .target hsettings hgroup htarget⟩
          | ok target? =>
              cases hstore : Snapshot.load machine.messages machine.files.read options.snapshot with
              | error problem => exact .inr ⟨problem, .snapshot hsettings hgroup htarget hstore⟩
              | ok store =>
                  cases hcurrent : currentOf options.current? store with
                  | error problem =>
                      exact .inr ⟨problem, .current hsettings hgroup htarget hstore hcurrent⟩
                  | ok current? =>
                      exact .inl ⟨⟨settings, group?, target?, store, current?, hsettings, hgroup,
                        htarget, hstore, hcurrent⟩⟩

theorem Basis.conduct_cases {options : RunOptions} (basis : Basis machine invocation options)
    (haction : invocation.action = .run options) :
    Nonempty (Conduct machine invocation options) ∨
      (∃ problem, HindersRun machine invocation options problem) ∨
      Overruns machine invocation := by
  obtain ⟨catalogue, hcatalogue⟩ := exists_builtinCatalogue machine
  cases hcontrol : controlOf machine (timeoutOf options.timeout? basis.settings) with
  | error crash =>
      obtain ⟨seconds, htimeout, hoverruns, _⟩ := controlOf_eq_error_iff.mp hcontrol
      exact .inr (.inr (.run haction basis htimeout hoverruns))
  | ok control =>
      cases hchecks : catalogue.select (patternsOf options basis.settings) basis.group? with
      | error problem => exact .inr (.inl ⟨problem, .patterns basis hcatalogue hcontrol hchecks⟩)
      | ok checks =>
          exact .inl ⟨{ basis with catalogue, control, checks, catalogue_eq := hcatalogue
                                   control_eq := hcontrol, checks_eq := hchecks }⟩

theorem exists_takes_of_run {options : RunOptions} (haction : invocation.action = .run options) :
    ∃ answer effects, Takes machine invocation answer effects := by
  rcases basis_cases machine invocation options with ⟨⟨basis⟩⟩ | ⟨problem, hhinders⟩
  · rcases basis.conduct_cases haction with ⟨⟨conduct⟩⟩ | ⟨problem, hhinders⟩ | hoverruns
    · rcases exists_delivers machine options.output? invocation.quiet conduct.report with
        ⟨path, message, hpath, hwrite⟩ | ⟨effects, hdelivers⟩
      · exact ⟨_, _, .keptBack (.run haction (.output conduct hpath hwrite))⟩
      · rw [← Invocation.output?_of_run haction] at hdelivers
        exact ⟨_, _, .carriedOut (.run haction conduct) hdelivers⟩
    · exact ⟨_, _, .keptBack (.run haction hhinders)⟩
    · exact ⟨_, _, .overrun hoverruns⟩
  · exact ⟨_, _, .keptBack (.run haction hhinders)⟩

theorem exists_takes_of_list {options : ListOptions}
    (haction : invocation.action = .list options) :
    ∃ answer effects, Takes machine invocation answer effects := by
  cases hsettings : loadSettings machine invocation.noSettings none with
  | error problem => exact ⟨_, _, .keptBack (.list haction (.settings hsettings))⟩
  | ok settings =>
      cases hgroup : groupOf options.group? settings with
      | error problem => exact ⟨_, _, .keptBack (.list haction (.group hsettings hgroup))⟩
      | ok group? =>
          obtain ⟨catalogue, hcatalogue⟩ := exists_builtinCatalogue machine
          cases hchecks : catalogue.select (listPatternsOf options) group? with
          | error problem =>
              exact ⟨_, _, .keptBack
                (.list haction (.patterns hsettings hgroup hcatalogue hchecks))⟩
          | ok checks =>
              let listing : Listing machine invocation options :=
                ⟨settings, group?, catalogue, checks, hsettings, hgroup, hcatalogue, hchecks⟩
              rcases exists_delivers machine none invocation.quiet listing.text with
                ⟨_, _, hpath, _⟩ | ⟨effects, hdelivers⟩
              · cases hpath
              · rw [← Invocation.output?_of_list haction] at hdelivers
                exact ⟨_, _, .carriedOut (.list haction listing) hdelivers⟩

/-- There is a course for every command. -/
theorem exists_takes (machine : Machine) (invocation : Invocation) :
    ∃ answer effects, Takes machine invocation answer effects := by
  cases haction : invocation.action with
  | run options => exact exists_takes_of_run haction
  | list options => exact exists_takes_of_list haction

end Courses

end UpgradeGate.Command
