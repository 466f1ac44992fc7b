import UpgradeGate.Proofs.Command.Course

/-!
# What a command leaves behind

A command that cannot be carried out says why and leaves everything as it was: by whatever step it
is kept back, nothing that others can see has been done before. A command that is carried out
delivers its whole text, and to one place only. A command ends by itself unless the time at which it
starts and its timeout, added up, are beyond the times of the clock. There are timeouts for which
they are, and the command line takes them.
-/

namespace UpgradeGate.Command

/-! ### Outcomes -/

/-- What the file at a path holds after some effects. -/
def contentsAfter (read : String → Option String) (effects : List Effect) (path : String) :
    Option String :=
  effects.foldl (fun content effect =>
    match effect with
    | .write other text => if other = path then some text else content
    | _ => content) (read path)

section Outcomes

variable {machine : Machine} {invocation : Invocation}

theorem outcome_of_ok {code : Nat} {effects : List Effect}
    (htakes : Takes machine invocation (.ok code) effects) :
    outcome machine invocation = { ending := .exited code, effects } := by
  rw [outcome, conclude, StateT.run_bind, htakes.attempt_run, List.nil_append]
  rfl

theorem outcome_of_hinders {problem : Problem} (hhinders : Hinders machine invocation problem) :
    outcome machine invocation =
      { ending := .exited 2, effects := [.complain ("Error: " ++ problem.message ++ "\n")] } := by
  rw [outcome, conclude, StateT.run_bind, (Takes.keptBack hhinders).attempt_run]
  rfl

theorem outcome_of_overruns (hoverruns : Overruns machine invocation) :
    outcome machine invocation = { ending := .crashed .deadlineOverflow, effects := [] } := by
  rw [outcome, conclude, StateT.run_bind, (Takes.overrun hoverruns).attempt_run]
  rfl

/-- Exit codes below those of failures are those of commands that are carried out. -/
theorem exists_completes_of_exitCode (hcode : (outcome machine invocation).exitCode < 2) :
    ∃ text effects, Completes machine invocation (outcome machine invocation).exitCode text ∧
      Delivers machine text invocation.output? invocation.quiet effects ∧
      (outcome machine invocation).effects = effects := by
  obtain ⟨answer, effects, htakes⟩ := exists_takes machine invocation
  cases htakes with
  | carriedOut hcompletes hdelivers =>
      rw [outcome_of_ok (.carriedOut hcompletes hdelivers)]
      exact ⟨_, _, hcompletes, hdelivers, rfl⟩
  | keptBack hhinders =>
      rw [outcome_of_hinders hhinders] at hcode
      exact absurd hcode (Nat.lt_irrefl 2)
  | overrun hoverruns =>
      rw [outcome_of_overruns hoverruns] at hcode
      exact absurd hcode (by decide)

/-- A run that ends with 0 or 1 has come to its checks, and they make its exit code. -/
theorem Conduct.exists_of_outcome {options : RunOptions}
    (haction : invocation.action = .run options)
    (hcode : (outcome machine invocation).exitCode < 2) :
    ∃ conduct : Conduct machine invocation options,
      (outcome machine invocation).exitCode = conduct.exitCode := by
  obtain ⟨text, _, hcompletes, _⟩ := exists_completes_of_exitCode hcode
  generalize (outcome machine invocation).exitCode = code at hcompletes ⊢
  cases hcompletes with
  | run hrun conduct =>
      cases haction.symm.trans hrun
      exact ⟨conduct, rfl⟩
  | list hlist => cases haction.symm.trans hlist

theorem exitCode_eq_two_iff :
    (outcome machine invocation).exitCode = 2 ↔
      ∃ problem, Hinders machine invocation problem := by
  constructor
  · intro hcode
    obtain ⟨answer, effects, htakes⟩ := exists_takes machine invocation
    cases htakes with
    | carriedOut hcompletes hdelivers =>
        rw [outcome_of_ok (.carriedOut hcompletes hdelivers)] at hcode
        obtain rfl : _ = 2 := hcode
        exact absurd hcompletes.eq_zero_or_one (by decide)
    | keptBack hhinders => exact ⟨_, hhinders⟩
    | overrun hoverruns =>
        rw [outcome_of_overruns hoverruns] at hcode
        exact absurd hcode (by decide)
  · rintro ⟨problem, hhinders⟩
    rw [outcome_of_hinders hhinders]
    rfl

/-- An attempt that fails does nothing that others can see, whatever was done before it. -/
theorem attempt_run_of_error {before : List Effect} {failure : Failure}
    (hfails : ((attempt machine invocation).run.run before).1 = .error failure) :
    ((attempt machine invocation).run.run before).2 = before := by
  obtain ⟨answer, effects, htakes⟩ := exists_takes machine invocation
  rw [htakes.attempt_run] at hfails ⊢
  cases htakes with
  | carriedOut => cases hfails
  | keptBack => exact List.append_nil before
  | overrun => exact List.append_nil before

theorem Delivers.contentsAfter_eq {text : String} {output? : Option String} {quiet : Bool}
    {effects : List Effect} (hdelivers : Delivers machine text output? quiet effects)
    (read : String → Option String) (path : String) :
    contentsAfter read effects path = if output? = some path then some text else read path := by
  cases hdelivers with
  | written => simp [contentsAfter]
  | printed => rfl
  | silent => rfl

end Outcomes

/-- The exit code is 2 exactly if a step keeps the command back; then nothing is done but to tell
what is wrong, and every file holds what it held. For whatever the command is stopped, it has done
nothing by then that others can see. If the exit code is 0 or 1 the command is carried out, and its
whole text goes to the file that is named, else to the standard output unless the command is to be
quiet. -/
theorem outcome_delivers (machine : Machine) (invocation : Invocation) :
    let ended := outcome machine invocation
    (ended.exitCode = 2 ↔ ∃ problem, Hinders machine invocation problem) ∧
    (∀ problem, Hinders machine invocation problem →
      ended.effects = [.complain ("Error: " ++ problem.message ++ "\n")] ∧
      ∀ path, contentsAfter machine.files.read ended.effects path = machine.files.read path) ∧
    (∀ before failure, ((attempt machine invocation).run.run before).1 = .error failure →
      ((attempt machine invocation).run.run before).2 = before) ∧
    (ended.exitCode = 0 ∨ ended.exitCode = 1 →
      ∃ text, Completes machine invocation ended.exitCode text ∧
        Delivers machine text invocation.output? invocation.quiet ended.effects ∧
        ∀ path, contentsAfter machine.files.read ended.effects path =
          if invocation.output? = some path then some text else machine.files.read path) := by
  intro ended
  refine ⟨exitCode_eq_two_iff, fun problem hhinders => ?_,
    fun before failure hfails => attempt_run_of_error hfails, fun hcode => ?_⟩
  · have hended : ended = _ := outcome_of_hinders hhinders
    rw [hended]
    exact ⟨rfl, fun _ => rfl⟩
  · have hlow : ended.exitCode < 2 := by omega
    obtain ⟨text, effects, hcompletes, hdelivers, heffects⟩ := exists_completes_of_exitCode hlow
    refine ⟨text, hcompletes, ?_⟩
    rw [heffects]
    exact ⟨hdelivers, hdelivers.contentsAfter_eq machine.files.read⟩

/-! A snapshot with a control plane whose version is no text, on a machine without settings. -/

def planeText : String :=
  "\x7b\"apiVersion\":\"maistra.io/v2\",\"kind\":\"ServiceMeshControlPlane\"," ++
    "\"spec\":\x7b\"version\":[]\x7d\x7d"

/-- A machine on which every file has the same text. Its parser of JSON says what it says of a list
that is not closed. -/
def machineWith (text : String) : Machine where
  files := {
    read := fun _ => some text
    hasFile := fun _ => false
    workingDirectory? := none
    settingsDirectory? := none }
  messages := {
    toml := fun _ => ""
    json := fun _ => "EOF while parsing a list at line 1 column 1"
    yaml := fun _ => "" }
  order := .unchanged
  writeError? _ := none
  showsColours := false
  now := 0
  time := default

def quietRun : Invocation where
  quiet := true
  action := .run {
    snapshot := "cluster.json", target? := some "3.0.0", output? := some "report.txt" }

theorem outcome_delivers_quiet :
    (outcome (machineWith "[") quietRun).effects =
      [.complain "Error: JSON error: EOF while parsing a list at line 1 column 1\n"] ∧
    contentsAfter (machineWith "[").files.read (outcome (machineWith "[") quietRun).effects
      "report.txt" = some "[" ∧
    ∃ text, (outcome (machineWith ("[" ++ planeText ++ "]")) quietRun).effects =
      [.write "report.txt" text] := by
  have hhinders : Hinders (machineWith "[") quietRun
      (.jsonText "EOF while parsing a list at line 1 column 1") :=
    .run rfl (.snapshot rfl rfl rfl rfl)
  obtain ⟨heffects, hcontents⟩ := (outcome_delivers _ _).2.1 _ hhinders
  refine ⟨heffects, hcontents "report.txt", ?_⟩
  have hfails : (outcome (machineWith ("[" ++ planeText ++ "]")) quietRun).exitCode = 1 := by
    decide +kernel
  obtain ⟨text, _, hdelivers, _⟩ := (outcome_delivers _ _).2.2.2 (.inr hfails)
  refine ⟨text, ?_⟩
  generalize (outcome (machineWith ("[" ++ planeText ++ "]")) quietRun).effects = effects
    at hdelivers ⊢
  cases hdelivers
  rfl

/-! ### Deadlines that the clock cannot show -/

/-- A command ends by itself, with 0, 1 or 2, exactly if it is none whose deadline the clock cannot
show. Such a command is stopped by a crash, before it does anything that others can see. -/
theorem ends_iff_not_overruns (machine : Machine) (invocation : Invocation) :
    let ended := outcome machine invocation
    ((∃ code ≤ 2, ended.ending = .exited code) ↔ ¬ Overruns machine invocation) ∧
    (Overruns machine invocation →
      ended = { ending := .crashed .deadlineOverflow, effects := [] }) := by
  intro ended
  refine ⟨⟨?_, fun hfits => ?_⟩, outcome_of_overruns⟩
  · rintro ⟨code, _, hended⟩ hoverruns
    have hcrashed : ended.ending = .crashed .deadlineOverflow :=
      congrArg Outcome.ending (outcome_of_overruns hoverruns)
    cases hended.symm.trans hcrashed
  · obtain ⟨answer, effects, htakes⟩ := exists_takes machine invocation
    cases htakes with
    | carriedOut hcompletes hdelivers =>
        have hcode := hcompletes.eq_zero_or_one
        exact ⟨_, by omega,
          congrArg Outcome.ending (outcome_of_ok (.carriedOut hcompletes hdelivers))⟩
    | keptBack hhinders =>
        exact ⟨2, Nat.le_refl 2, congrArg Outcome.ending (outcome_of_hinders hhinders)⟩
    | overrun hoverruns => exact absurd hoverruns hfits

/-- The least timeout that overruns whatever time the clock shows: even from zero it is one second
too many. -/
theorem ends_iff_not_overruns_late :
    let options : RunOptions :=
      { snapshot := "cluster.json", timeout? := some 0x8000000000000000 }
    let invocation : Invocation := { action := .run options }
    Overruns (machineWith "[]") invocation ∧
      outcome (machineWith "[]") invocation =
        { ending := .crashed .deadlineOverflow, effects := [] } := by
  intro options invocation
  have hstore : Snapshot.load (machineWith "[]").messages (machineWith "[]").files.read
      "cluster.json" = .ok Snapshot.bareStore := by
    rfl
  have hcurrent : currentOf none Snapshot.bareStore = .ok none := by
    rfl
  let basis : Basis (machineWith "[]") invocation options :=
    ⟨{}, none, none, Snapshot.bareStore, none, rfl, rfl, rfl, hstore, hcurrent⟩
  have hoverruns : Overruns (machineWith "[]") invocation :=
    .run rfl basis rfl (by unfold RunControl.Overruns; decide)
  exact ⟨hoverruns, (ends_iff_not_overruns (machineWith "[]") invocation).2 hoverruns⟩

/-- The greatest timeout that a command line takes overruns whatever time the clock shows, be it
zero, and be the snapshot empty. -/
theorem greatest_timeout_crashes :
    ∃ invocation, Invocation.ofArguments
        ["run", "--snapshot", "cluster.json", "--timeout", "18446744073709551615"] =
      .ok invocation ∧
      (machineWith "[]").now = 0 ∧
      (outcome (machineWith "[]") invocation).ending = .crashed .deadlineOverflow :=
  ⟨{ action := .run { snapshot := "cluster.json", timeout? := some 18446744073709551615 } },
    by decide +kernel, rfl, by decide +kernel⟩

end UpgradeGate.Command
