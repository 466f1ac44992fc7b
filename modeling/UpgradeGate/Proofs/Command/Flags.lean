import UpgradeGate.Proofs.Command.Delivery

/-!
# What a command line hides of the settings

What is given on the command line goes before the settings. A run does not show in which of the
settings behind it two machines differ, neither when it is carried out nor when it is kept back.
-/

namespace UpgradeGate

theorem Snapshot.load_congr {messages : ParserMessages} {read other : String → Option String}
    {path : String} (hread : other path = read path) :
    load messages other path = load messages read path := by
  unfold load
  rw [hread]

namespace Command

/-- The settings differ at most in what is given on the command line. -/
structure AgreeBehind (options : RunOptions) (settings other : Settings) : Prop where
  failOn : other.failOn = settings.failOn
  checks : options.checks = [] → other.checks = settings.checks
  group? : options.group? = none → other.group? = settings.group?
  target? : options.target? = none → other.target? = settings.target?
  timeoutSeconds : options.timeout? = none → other.timeoutSeconds = settings.timeoutSeconds

/-! ### What goes before what -/

section Given

variable {settings other : Settings}

theorem groupOf_congr {given? : Option String}
    (hgroup : given? = none → other.group? = settings.group?) :
    groupOf given? other = groupOf given? settings := by
  cases given? with
  | some name => rfl
  | none =>
      unfold groupOf Settings.group
      rw [hgroup rfl]

theorem targetOf_congr {given? : Option String}
    (htarget : given? = none → other.target? = settings.target?) :
    targetOf given? other = targetOf given? settings := by
  cases given? with
  | some text => rfl
  | none =>
      unfold targetOf Settings.target
      rw [htarget rfl]

/-- A timeout of zero is given as well: it means none, whatever the settings say. -/
theorem timeoutOf_congr {given? : Option Nat}
    (htimeout : given? = none → other.timeoutSeconds = settings.timeoutSeconds) :
    timeoutOf given? other = timeoutOf given? settings := by
  cases given? with
  | some seconds => cases seconds <;> rfl
  | none =>
      unfold timeoutOf Settings.timeout?
      rw [htimeout rfl]

theorem patternsOf_congr {options : RunOptions}
    (hchecks : options.checks = [] → other.checks = settings.checks) :
    patternsOf options other = patternsOf options settings := by
  unfold patternsOf
  cases hgiven : options.checks with
  | nil => exact hchecks hgiven
  | cons pattern patterns => rfl

end Given

/-! ### Two runs -/

section Runs

variable {machine : Machine} {files : FileView} {invocation : Invocation} {options : RunOptions}
  {settings other : Settings}

theorem runChecks_congr
    (hsettings : loadSettings machine invocation.noSettings options.settings? = .ok settings)
    (hother : loadSettings { machine with files } invocation.noSettings options.settings? =
      .ok other)
    (hagree : AgreeBehind options settings other)
    (hsnapshot : files.read options.snapshot = machine.files.read options.snapshot) :
    runChecks { machine with files } invocation options =
      runChecks machine invocation options := by
  have hgroup := groupOf_congr hagree.group?
  have hpatterns := patternsOf_congr hagree.checks
  have htarget := targetOf_congr hagree.target?
  have htimeout := timeoutOf_congr hagree.timeoutSeconds
  have hstore : Snapshot.load machine.messages files.read options.snapshot =
      Snapshot.load machine.messages machine.files.read options.snapshot :=
    Snapshot.load_congr hsnapshot
  unfold patternsOf at hpatterns
  -- The settings are asked for nothing else, so that each step does the same in both runs.
  simp only [runChecks, hsettings, hother, ofProblem_ok_bind, hgroup, hpatterns, htarget, hstore,
    htimeout, hagree.failOn]
  rfl

/-- Two runs with the same command line, of the same snapshot and on machines that are alike but for
their settings, end alike, whatever the settings say that is given on the command line: with the
same exit code, the same texts and the same file. Alike are also the clock, by which checks run out
of time, the order that the catalogue gives its checks, and the messages of the parsers. -/
theorem outcome_hides_settings (haction : invocation.action = .run options)
    (hsettings : loadSettings machine invocation.noSettings options.settings? = .ok settings)
    (hother : loadSettings { machine with files } invocation.noSettings options.settings? =
      .ok other)
    (hagree : AgreeBehind options settings other)
    (hsnapshot : files.read options.snapshot = machine.files.read options.snapshot) :
    outcome { machine with files } invocation = outcome machine invocation := by
  have hattempt : attempt { machine with files } invocation = attempt machine invocation := by
    rw [attempt_of_run haction, attempt_of_run haction]
    exact runChecks_congr hsettings hother hagree hsnapshot
  rw [outcome, hattempt]
  rfl

end Runs

/-! A run for which all but the group is given, with settings that ask for something else. -/

def settingsText : String :=
  "[run]\nchecks = [\"[\"]\ntimeout_secs = 5\n[versions]\ntarget = \"2.0\"\n"

def hiddenSettings : Settings where
  checks := ["["]
  timeoutSeconds := 5
  target? := some "2.0"

/-- Files of which one holds settings and every other one a snapshot with a control plane. -/
def filesWith (settings : String) : FileView where
  read path := if path = "settings.toml" then some settings else some ("[" ++ planeText ++ "]")
  hasFile := fun _ => false
  workingDirectory? := none
  settingsDirectory? := none

def givenOptions : RunOptions where
  snapshot := "cluster.json"
  settings? := some "settings.toml"
  checks := ["*"]
  target? := some "3.0.0"
  timeout? := some 0

theorem outcome_hides_settings_given :
    let machine := { machineWith "" with files := filesWith "" }
    let invocation : Invocation := { action := .run givenOptions }
    (outcome machine invocation).exitCode = 1 ∧
    outcome { machine with files := filesWith settingsText } invocation =
      outcome machine invocation := by
  intro machine invocation
  have hsettings : loadSettings machine invocation.noSettings givenOptions.settings? = .ok {} := by
    decide +kernel
  have hother : loadSettings { machine with files := filesWith settingsText } invocation.noSettings
      givenOptions.settings? = .ok hiddenSettings := by
    decide +kernel
  refine ⟨by decide +kernel, outcome_hides_settings rfl hsettings hother ?_ rfl⟩
  exact ⟨rfl, nofun, fun _ => rfl, nofun, nofun⟩

end Command

end UpgradeGate
