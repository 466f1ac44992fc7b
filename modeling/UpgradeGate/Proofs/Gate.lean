import Mathlib.Data.List.Perm.Basic
import UpgradeGate.Proofs.Builtin.Impact
import UpgradeGate.Proofs.Cluster.Snapshot
import UpgradeGate.Proofs.Run.Exit

/-!
# The upgrade gate

A run of the built-in checks against a snapshot, from a version below the next major to one that is
not: when it blocks the upgrade and when it reports an error, said of the items of the snapshot
alone. Neither the order of the checks nor what the run counts plays a part.
-/

namespace UpgradeGate.Gate

/-- The platform runs what the next major version removes: KServe in its serverless mode, or
ModelMesh, of which one knows in which namespace it runs. -/
def Blocks (items : List Json) : Prop :=
  ∃ cluster ∈ Snapshot.firstOf? .dataScienceCluster items,
    (cluster.HasTextAt (Platform.statePath "kserve") "Managed" ∧
      cluster.HasTextAt Builtin.Kserve.servingPath "Managed") ∨
    (cluster.HasTextAt (Platform.statePath "modelmeshserving") "Managed" ∧
      ∃ initialization ∈ Snapshot.firstOf? .dscInitialization items,
        ¬ initialization.IsMalformedAt Platform.namespacePath)

/-- Something that a check has to read is missing or stands in the wrong form. -/
def Fails (items : List Json) : Prop :=
  (∃ cluster ∈ Snapshot.firstOf? .dataScienceCluster items,
    cluster.IsMalformedAt (Platform.statePath "kserve") ∨
    cluster.IsMalformedAt (Platform.statePath "modelmeshserving") ∨
    (cluster.HasTextAt (Platform.statePath "kserve") "Managed" ∧
      cluster.IsMalformedAt Builtin.Kserve.servingPath) ∨
    (cluster.HasTextAt (Platform.statePath "modelmeshserving") "Managed" ∧
      ∀ initialization ∈ Snapshot.firstOf? .dscInitialization items,
        initialization.IsMalformedAt Platform.namespacePath)) ∨
  ∃ plane ∈ Snapshot.ofType .serviceMeshControlPlane items,
    plane.IsMalformedAt Builtin.ServiceMesh.versionPath

variable {σ : Type} {upgrade : Upgrade}

/-- The answers of the built-in checks, in their order. -/
def answers (σ : Type) (upgrade : Upgrade) : List Answer :=
  [Builtin.Kserve.servingAnswer upgrade, Builtin.ModelMesh.removalAnswer upgrade,
    Builtin.Kserve.servicesAnswer σ upgrade, Builtin.ServiceMesh.planesAnswer σ upgrade]

theorem forall₂_answers (hcrosses : upgrade.crosses Builtin.nextMajor = true) :
    List.Forall₂ (fun (check : Check σ) answer => check.Answers upgrade answer) Builtin.checks
      (answers σ upgrade) := by
  have htargets : upgrade.targetsAtLeast Builtin.nextMajor = true :=
    (Bool.and_eq_true_iff.mp hcrosses).2
  exact .cons (Builtin.Kserve.answers_serverlessRemoval upgrade hcrosses)
    (.cons (Builtin.ModelMesh.answers_removal upgrade hcrosses)
    (.cons (Builtin.Kserve.answers_serverlessServices upgrade hcrosses)
    (.cons (Builtin.ServiceMesh.answers_controlPlanes upgrade htargets) .nil)))

theorem isSound_of_mem_answers {answer : Answer} (hanswer : answer ∈ answers σ upgrade) :
    answer.IsSound := by
  simp only [answers, List.mem_cons, List.not_mem_nil, or_false] at hanswer
  rcases hanswer with rfl | rfl | rfl | rfl
  · exact Builtin.Kserve.isSound_serverlessRemoval
  · exact Builtin.ModelMesh.isSound_removal
  · exact Builtin.Kserve.isSound_serverlessServices
  · exact Builtin.ServiceMesh.isSound_controlPlanes

section Loaded

variable {items : List Json} (hstore : upgrade.store = Snapshot.storeOf items)

include hstore

theorem exists_answer_blocks_iff :
    (∃ answer ∈ answers σ upgrade, answer.Blocks) ↔ Blocks items := by
  have hcluster : upgrade.store.first? .dataScienceCluster = _ :=
    hstore ▸ Snapshot.first?_storeOf items _
  have hinitialization : upgrade.store.first? .dscInitialization = _ :=
    hstore ▸ Snapshot.first?_storeOf items _
  simp only [answers, List.mem_cons, List.not_mem_nil, or_false, exists_eq_or_imp, exists_eq_left,
    Builtin.Kserve.not_serverlessServices_blocks, Builtin.ServiceMesh.not_controlPlanes_blocks,
    Builtin.Kserve.serverlessRemoval_blocks_iff, Builtin.ModelMesh.removal_blocks_iff,
    Platform.exists_applications_eq_ok_iff hinitialization, hcluster]
  unfold Blocks Builtin.Kserve.component Builtin.ModelMesh.component Platform.managed
  cases Snapshot.firstOf? .dataScienceCluster items with
  | none => simp
  | some cluster => simp

theorem exists_answer_fails_iff :
    (∃ answer ∈ answers σ upgrade, answer.Fails) ↔ Fails items := by
  have hcluster : upgrade.store.first? .dataScienceCluster = _ :=
    hstore ▸ Snapshot.first?_storeOf items _
  have hinitialization : upgrade.store.first? .dscInitialization = _ :=
    hstore ▸ Snapshot.first?_storeOf items _
  have hservices : upgrade.store.listing .inferenceService = _ :=
    hstore ▸ Snapshot.listing_storeOf items _
  have hplanes : upgrade.store.listing .serviceMeshControlPlane = _ :=
    hstore ▸ Snapshot.listing_storeOf items _
  simp only [answers, List.mem_cons, List.not_mem_nil, or_false, exists_eq_or_imp, exists_eq_left,
    Builtin.Kserve.serverlessRemoval_fails_iff, Builtin.ModelMesh.removal_fails_iff,
    Builtin.Kserve.serverlessServices_fails_iff hservices,
    Builtin.ServiceMesh.controlPlanes_fails_iff hplanes,
    Platform.exists_applications_eq_error_iff hinitialization, hcluster]
  unfold Fails Builtin.Kserve.component Builtin.ModelMesh.component Platform.managed
  cases Snapshot.firstOf? .dataScienceCluster items with
  | none => simp
  | some cluster =>
      -- The serverless services fail over the state of KServe, as its serverless mode does.
      simp only [Option.map_some, reduceCtorEq, exists_false, Except.ok.injEq, Option.some.injEq,
        exists_eq_left', false_or, Option.mem_def, Option.map_eq_some_iff, forall_exists_index,
        and_imp, forall_apply_eq_imp_iff₂, List.mem_map, exists_exists_and_eq_and]
      tauto

end Loaded

theorem crosses_nextMajor {target : Version} (htarget : upgrade.target? = some target)
    (hnext : 3 ≤ target.major.toNat)
    (hcurrent : ∀ current ∈ upgrade.current?, current.major.toNat < 3) :
    upgrade.crosses Builtin.nextMajor = true := by
  unfold Upgrade.crosses Upgrade.targetsAtLeast Builtin.nextMajor
  rw [htarget, Bool.and_eq_true]
  refine ⟨?_, by simpa using hnext⟩
  cases hversion : upgrade.current? with
  | none => rfl
  | some current => simpa using hcurrent current hversion

/-- A run of the built-in checks, in any order, towards the next major version decides over any
snapshot as its items have it: which upgrades it blocks, which it reports errors for, and with which
exit code it ends if it is to fail on blocking impacts, or on errors alone. -/
theorem executeChecks_decides {document : Json}
    (hstore : Snapshot.ofDocument document = .ok upgrade.store)
    {target : Version} (htarget : upgrade.target? = some target) (hnext : 3 ≤ target.major.toNat)
    (hcurrent : ∀ current ∈ upgrade.current?, current.major.toNat < 3)
    {checks : List (Check σ)} (hchecks : checks.Perm Builtin.checks)
    {state : RunState σ} (hlive : state.control.isDone = false) :
    let executions := ((Run.executeChecks upgrade checks).run state).1
    let summary := Summary.ofExecutions executions
    ∃ items, Snapshot.items document = .ok items ∧
      executions.map Execution.check = checks ∧
      ((∃ execution ∈ executions, execution.diagnosis.isBlocking = true) ↔ Blocks items) ∧
      ((∃ execution ∈ executions, execution.isError = true) ↔ Fails items) ∧
      (Command.exitCodeOf .blocking summary = 1 ↔ Blocks items ∨ Fails items) ∧
      (Command.exitCodeOf .never summary = 1 ↔ Fails items) := by
  intro executions summary
  obtain ⟨items, hitems, hloaded⟩ := Snapshot.eq_storeOf_of_ofDocument hstore
  have hcrosses := crosses_nextMajor htarget hnext hcurrent
  -- Whatever the order of the checks, their answers stand in the same order.
  obtain ⟨arranged, hanswers, hperm⟩ := List.perm_comp_forall₂ hchecks (forall₂_answers hcrosses)
  have hsound : ∀ answer ∈ arranged, answer.IsSound := fun answer hanswer =>
    isSound_of_mem_answers (hperm.mem_iff.mp hanswer)
  have hblocking : (∃ execution ∈ executions, execution.diagnosis.isBlocking = true) ↔
      Blocks items := by
    rw [Run.exists_mem_executions_iff hanswers hlive fun check answer hanswer =>
      check.isBlocking_outcome_iff upgrade.time (hsound answer hanswer)]
    simp only [hperm.mem_iff, exists_answer_blocks_iff hloaded]
  have hfails : (∃ execution ∈ executions, execution.isError = true) ↔ Fails items := by
    rw [Run.exists_mem_executions_iff hanswers hlive fun check answer hanswer =>
      check.isError_outcome_iff upgrade.time (hsound answer hanswer)]
    simp only [hperm.mem_iff, exists_answer_fails_iff hloaded]
  refine ⟨items, hitems, Run.map_check_executions hanswers hlive, hblocking, hfails, ?_, ?_⟩
  · rw [Command.exitCodeOf_eq_one_iff, FailOn.isFailure, Summary.hasErrors_ofExecutions,
      Summary.hasBlocking_ofExecutions, Bool.or_eq_true, List.any_eq_true, List.any_eq_true,
      hblocking, hfails, or_comm]
  · rw [Command.exitCodeOf_eq_one_iff, FailOn.isFailure, Summary.hasErrors_ofExecutions,
      Bool.or_false, List.any_eq_true, hfails]

/-- A cluster that runs ModelMesh, its initialization, which names no namespace, and a control plane
whose version is a number. -/
def meshed : List Json :=
  [.obj [("apiVersion", .str "datasciencecluster.opendatahub.io/v1"),
      ("kind", .str "DataScienceCluster"),
      ("spec", .obj [("components", .obj [("modelmeshserving",
        .obj [("managementState", .str "Managed")])])])],
    .obj [("apiVersion", .str "dscinitialization.opendatahub.io/v1"),
      ("kind", .str "DSCInitialization")],
    .obj [("apiVersion", .str "maistra.io/v2"), ("kind", .str "ServiceMeshControlPlane"),
      ("spec", .obj [("version", .int 2)])]]

def meshedUpgrade : Upgrade where
  store := Snapshot.storeOf meshed
  target? := some { major := 3, minor := 0, patch := 0 }
  time := default

theorem blocks_meshed : Blocks meshed :=
  ⟨_, rfl, .inr ⟨rfl, _, rfl, by rintro ⟨_, ⟨⟩, _⟩⟩⟩

theorem fails_meshed : Fails meshed :=
  .inr ⟨_, List.mem_of_mem_head? rfl, _, rfl, rfl, nofun⟩

theorem executeChecks_decides_meshed :
    Snapshot.ofDocument (.arr meshed) = .ok meshedUpgrade.store ∧
    (∃ execution ∈ ((Run.executeChecks meshedUpgrade Builtin.checks).run
      ({ notes := () } : RunState Unit)).1, execution.diagnosis.isBlocking = true) ∧
    ∃ execution ∈ ((Run.executeChecks meshedUpgrade Builtin.checks).run
      ({ notes := () } : RunState Unit)).1, execution.isError = true := by
  have hstore : Snapshot.ofDocument (.arr meshed) = .ok meshedUpgrade.store := rfl
  obtain ⟨items, hitems, _, hblocks, hfails, _⟩ := executeChecks_decides hstore rfl (by decide)
    (by simp [meshedUpgrade]) (.refl Builtin.checks)
    (show ({ notes := () } : RunState Unit).control.isDone = false from rfl)
  rw [← Except.ok.inj hitems] at hblocks hfails
  exact ⟨hstore, hblocks.mpr blocks_meshed, hfails.mpr fails_meshed⟩

end UpgradeGate.Gate
