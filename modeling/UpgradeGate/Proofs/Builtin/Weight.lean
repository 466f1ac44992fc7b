import UpgradeGate.Proofs.Builtin.Reading
import UpgradeGate.Proofs.Cluster.Snapshot
import UpgradeGate.Proofs.Run.Exit

/-!
# Which answers make a run fail

A run that is to fail on advisory impacts, or only on blocking ones, fails over an answer that is an
error or has a condition of that weight. For each built-in check this hangs on the first cluster or
on what is listed, and it stays so however the cluster grows: what a check misses can only turn into
something that speaks against the upgrade.
-/

namespace UpgradeGate

variable {σ : Type} {upgrade : Upgrade} {failOn : FailOn}

namespace FailOn

/-- The answer makes a run fail. -/
def HeedsAnswer (failOn : FailOn) (answer : Answer) : Prop :=
  answer.Fails ∨ answer.Has fun condition => failOn.leastWeight ≤ condition.impact.weight

theorem heeds_outcome_iff (check : Check σ) (time : Instant) {answer : Answer}
    (hsound : answer.IsSound) :
    failOn.Heeds (check.outcome time (answer.mapError .resource)) ↔ failOn.HeedsAnswer answer := by
  unfold Heeds HeedsAnswer
  rw [check.isError_outcome_iff time hsound]
  cases answer with
  | error error => simp
  | ok diagnosis =>
      have hflaw : diagnosis.flaw? = none := hsound diagnosis rfl
      simp [Except.mapError, Check.outcome, hflaw]

theorem leastWeight_le_blocking_iff :
    failOn.leastWeight ≤ Impact.blocking.weight ↔ failOn ≠ .never := by
  cases failOn <;> decide

theorem leastWeight_le_advisory_iff :
    failOn.leastWeight ≤ Impact.advisory.weight ↔ failOn = .advisory := by
  cases failOn <;> decide

theorem not_leastWeight_le_none : ¬ failOn.leastWeight ≤ Impact.none.weight := by
  cases failOn <;> decide

theorem not_leastWeight_le_of_isIdle {condition : Condition} (hidle : condition.IsIdle) :
    ¬ failOn.leastWeight ≤ condition.impact.weight := by
  rw [hidle.impact]
  exact not_leastWeight_le_none

end FailOn

namespace Builtin

section Cluster

variable {cluster? : Option Object}
  (hfirst : upgrade.store.first? .dataScienceCluster = .ok cluster?)

include hfirst

theorem Kserve.heedsAnswer_servingAnswer_iff (hfailOn : failOn ≠ .never) :
    failOn.HeedsAnswer (servingAnswer upgrade) ↔
      ∃ cluster ∈ cluster?, cluster.value.IsMalformedAt (Platform.statePath component) ∨
        (cluster.value.HasTextAt (Platform.statePath component) Platform.managed ∧
          (cluster.value.IsMalformedAt servingPath ∨
            cluster.value.HasTextAt servingPath Platform.managed)) := by
  have hcondition : ∀ serving?,
      failOn.leastWeight ≤ (servingCondition upgrade serving?).impact.weight ↔
        serving? = some Platform.managed := by
    intro serving?
    unfold servingCondition
    split
    next hmanaged => exact iff_of_true (FailOn.leastWeight_le_blocking_iff.mpr hfailOn) hmanaged
    next hmanaged => exact iff_of_false FailOn.not_leastWeight_le_none hmanaged
  rw [FailOn.HeedsAnswer, serverlessRemoval_fails_iff,
    serverlessRemoval_has_iff fun _ => FailOn.not_leastWeight_le_of_isIdle, hfirst]
  simp only [hcondition, exists_eq_right, Object.text?_eq_ok_some_iff]
  cases cluster? with
  | none => simp
  | some cluster =>
      simp only [reduceCtorEq, exists_false, false_or, Except.ok.injEq, Option.some.injEq,
        exists_eq_left', Option.mem_def]
      rw [or_assoc, ← and_or_left]

/-- Whether or not the namespace of the applications can be read, ModelMesh must not be managed. -/
theorem ModelMesh.heedsAnswer_removalAnswer_iff (hfailOn : failOn ≠ .never) :
    failOn.HeedsAnswer (removalAnswer upgrade) ↔
      ∃ cluster ∈ cluster?, cluster.value.IsMalformedAt (Platform.statePath component) ∨
        cluster.value.HasTextAt (Platform.statePath component) Platform.managed := by
  have hmanaged : ∀ ns, failOn.leastWeight ≤ (managedCondition upgrade ns).impact.weight :=
    fun _ => FailOn.leastWeight_le_blocking_iff.mpr hfailOn
  have hunmanaged : ∀ state,
      ¬ failOn.leastWeight ≤ (unmanagedCondition upgrade state).impact.weight :=
    fun _ => FailOn.not_leastWeight_le_none
  rw [FailOn.HeedsAnswer, removal_fails_iff,
    removal_has_iff (fun _ => FailOn.not_leastWeight_le_of_isIdle) hunmanaged, hfirst]
  simp only [hmanaged, and_true]
  cases cluster? with
  | none => simp
  | some cluster => cases Platform.applications upgrade.store <;> simp

theorem Kserve.heedsAnswer_servicesAnswer_iff {objects : List Object}
    (hlisting : upgrade.store.listing .inferenceService = .ok objects) :
    failOn.HeedsAnswer (servicesAnswer σ upgrade) ↔
      ∃ cluster ∈ cluster?, cluster.value.IsMalformedAt (Platform.statePath component) ∨
        ((∃ state, Platform.componentState cluster component = .ok state ∧
            state ≠ Platform.removed) ∧
          (∃ object ∈ objects, isServerless object.header = true) ∧ failOn = .advisory) := by
  have hcondition : ∀ found : List Header,
      failOn.leastWeight ≤ (migrationCondition upgrade found.length).impact.weight ↔
        found ≠ [] ∧ failOn = .advisory := by
    intro found
    unfold migrationCondition
    split
    next hnone =>
      exact iff_of_false FailOn.not_leastWeight_le_none
        fun hsome => hsome.1 (List.length_eq_zero_iff.mp hnone)
    next hsome =>
      have hfound : found ≠ [] := fun hnone => hsome (List.length_eq_zero_iff.mpr hnone)
      exact FailOn.leastWeight_le_advisory_iff.trans (and_iff_right hfound).symm
  have hsome : (objects.map Object.header).filter isServerless ≠ [] ↔
      ∃ object ∈ objects, isServerless object.header = true := by
    simp [List.filter_eq_nil_iff]
  have hservices : services upgrade = .ok ((objects.map Object.header).filter isServerless) := by
    rw [services, hlisting]
    rfl
  rw [FailOn.HeedsAnswer, serverlessServices_fails_iff hlisting,
    serverlessServices_has_iff fun _ => FailOn.not_leastWeight_le_of_isIdle, hfirst, hservices]
  simp only [Except.ok.injEq, exists_eq_left', hcondition, hsome]
  cases cluster? with
  | none => simp
  | some cluster => simp

end Cluster

theorem ServiceMesh.heedsAnswer_planesAnswer_iff {planes : List Object}
    (hlisting : upgrade.store.listing .serviceMeshControlPlane = .ok planes) :
    failOn.HeedsAnswer (planesAnswer σ upgrade) ↔
      (∃ plane ∈ planes, plane.value.IsMalformedAt versionPath) ∨
        (failOn = .advisory ∧ planes ≠ []) := by
  have hcondition : failOn.leastWeight ≤ (planesCondition upgrade planes).impact.weight ↔
      planes ≠ [] ∧ failOn = .advisory := by
    unfold planesCondition
    split
    next hnone =>
      exact iff_of_false FailOn.not_leastWeight_le_none
        fun hsome => hsome.1 (List.isEmpty_iff.mp hnone)
    next hsome =>
      have hplanes : planes ≠ [] := fun hnone => hsome (List.isEmpty_iff.mpr hnone)
      exact FailOn.leastWeight_le_advisory_iff.trans (and_iff_right hplanes).symm
  rw [FailOn.HeedsAnswer, controlPlanes_fails_iff hlisting,
    controlPlanes_has_iff fun _ => FailOn.not_leastWeight_le_of_isIdle, hlisting]
  simp only [Except.ok.injEq, exists_eq_left', hcondition]
  constructor
  · rintro (hmalformed | ⟨_, hplanes, hadvisory⟩)
    · exact .inl hmalformed
    · exact .inr ⟨hadvisory, hplanes⟩
  · rintro (hmalformed | ⟨hadvisory, hplanes⟩)
    · exact .inl hmalformed
    · by_cases hmalformed : ∃ plane ∈ planes, plane.value.IsMalformedAt versionPath
      · exact .inl hmalformed
      · exact .inr ⟨fun plane hplane hbad => hmalformed ⟨plane, hplane, hbad⟩, hplanes, hadvisory⟩

/-! ### A cluster that grows -/

section Grown

variable {grown : Upgrade} (hextends : grown.Extends upgrade)

include hextends

/-- What the first cluster decides stays decided, and the same upgrade is asked about it. -/
theorem exists_first?_of_extends {holds : Object → Prop} {cluster? : Option Object}
    (hfirst : upgrade.store.first? .dataScienceCluster = .ok cluster?)
    (hholds : ∃ cluster ∈ cluster?, holds cluster) :
    ∃ grown? : Option Object, grown.store.first? .dataScienceCluster = .ok grown? ∧
      grown.crosses nextMajor = upgrade.crosses nextMajor ∧ ∃ cluster ∈ grown?, holds cluster := by
  obtain ⟨cluster, rfl, hcluster⟩ := hholds
  exact ⟨some cluster, hextends.store.first?_eq (by decide) hfirst,
    hextends.crosses nextMajor hfirst, cluster, rfl, hcluster⟩

section Governed

variable {cluster? : Option Object}
  (hfirst : upgrade.store.first? .dataScienceCluster = .ok cluster?)
  (hcrosses : upgrade.crosses nextMajor = true)

include hfirst hcrosses

theorem Kserve.heeds_serverlessRemoval_of_extends (hfailOn : failOn ≠ .never)
    (hheeds : failOn.HeedsAnswer (servingAnswer upgrade)) :
    ∃ answer, (serverlessRemoval : Check σ).Answers grown answer ∧ failOn.HeedsAnswer answer := by
  have hcluster := (heedsAnswer_servingAnswer_iff hfirst hfailOn).mp hheeds
  obtain ⟨grown?, hgrown, hsame, hstill⟩ := exists_first?_of_extends hextends hfirst hcluster
  exact ⟨_, answers_serverlessRemoval grown (hsame.trans hcrosses),
    (heedsAnswer_servingAnswer_iff hgrown hfailOn).mpr hstill⟩

theorem ModelMesh.heeds_removal_of_extends (hfailOn : failOn ≠ .never)
    (hheeds : failOn.HeedsAnswer (removalAnswer upgrade)) :
    ∃ answer, (removal : Check σ).Answers grown answer ∧ failOn.HeedsAnswer answer := by
  have hcluster := (heedsAnswer_removalAnswer_iff hfirst hfailOn).mp hheeds
  obtain ⟨grown?, hgrown, hsame, hstill⟩ := exists_first?_of_extends hextends hfirst hcluster
  exact ⟨_, answers_removal grown (hsame.trans hcrosses),
    (heedsAnswer_removalAnswer_iff hgrown hfailOn).mpr hstill⟩

theorem Kserve.heeds_serverlessServices_of_extends
    (hheeds : failOn.HeedsAnswer (servicesAnswer σ upgrade)) :
    ∃ answer, (serverlessServices : Check σ).Answers grown answer ∧ failOn.HeedsAnswer answer := by
  obtain ⟨services, more, hservices, hgrownServices⟩ :=
    hextends.store .inferenceService (by decide)
  have hcluster := (heedsAnswer_servicesAnswer_iff hfirst hservices).mp hheeds
  obtain ⟨grown?, hgrown, hsame, cluster, hmem, hstill⟩ :=
    exists_first?_of_extends hextends hfirst hcluster
  refine ⟨_, answers_serverlessServices grown (hsame.trans hcrosses),
    (heedsAnswer_servicesAnswer_iff hgrown hgrownServices).mpr ⟨cluster, hmem, ?_⟩⟩
  refine hstill.imp_right ?_
  rintro ⟨hstate, ⟨service, hservice, hserverless⟩, hadvisory⟩
  exact ⟨hstate, ⟨service, List.mem_append_left more hservice, hserverless⟩, hadvisory⟩

end Governed

theorem ServiceMesh.heeds_controlPlanes_of_extends
    (htargets : upgrade.targetsAtLeast nextMajor = true)
    (hheeds : failOn.HeedsAnswer (planesAnswer σ upgrade)) :
    ∃ answer, (controlPlanes : Check σ).Answers grown answer ∧ failOn.HeedsAnswer answer := by
  obtain ⟨planes, more, hplanes, hgrownPlanes⟩ :=
    hextends.store .serviceMeshControlPlane (by decide)
  have hgrownTargets := (hextends.targetsAtLeast nextMajor).trans htargets
  refine ⟨_, answers_controlPlanes grown hgrownTargets,
    (heedsAnswer_planesAnswer_iff hgrownPlanes).mpr ?_⟩
  rcases (heedsAnswer_planesAnswer_iff hplanes).mp hheeds with
    ⟨plane, hplane, hmalformed⟩ | ⟨hadvisory, hsome⟩
  · exact .inl ⟨plane, List.mem_append_left more hplane, hmalformed⟩
  · exact .inr ⟨hadvisory, List.append_ne_nil_of_left_ne_nil hsome more⟩

/-- A built-in check that makes a run fail does so again once the cluster holds more. -/
theorem heedsAnswer_of_extends (hfailOn : failOn ≠ .never) {check : Check σ}
    (hcheck : check ∈ checks) (state : RunState σ) {answer : Answer}
    (hanswers : check.Answers upgrade answer) (hheeds : failOn.HeedsAnswer answer) :
    ∃ answer, check.Answers grown answer ∧ failOn.HeedsAnswer answer := by
  have happlies : ((check.applies upgrade).run.run state).1 = .ok true := by
    rw [hanswers.applies_run]
  obtain ⟨cluster?, hfirst⟩ := hextends.store.exists_first?
    (by decide : ResourceType.dataScienceCluster ∈ ResourceType.wellKnown)
  rcases mem_checks_iff.mp hcheck with rfl | rfl | rfl | rfl
  · have hcrosses : upgrade.crosses nextMajor = true := Except.ok.inj happlies
    rw [(Kserve.answers_serverlessRemoval upgrade hcrosses).unique state hanswers] at hheeds
    exact Kserve.heeds_serverlessRemoval_of_extends hextends hfirst hcrosses hfailOn hheeds
  · have hcrosses : upgrade.crosses nextMajor = true := Except.ok.inj happlies
    rw [(ModelMesh.answers_removal upgrade hcrosses).unique state hanswers] at hheeds
    exact ModelMesh.heeds_removal_of_extends hextends hfirst hcrosses hfailOn hheeds
  · have hcrosses : upgrade.crosses nextMajor = true := Except.ok.inj happlies
    rw [(Kserve.answers_serverlessServices upgrade hcrosses).unique state hanswers] at hheeds
    exact Kserve.heeds_serverlessServices_of_extends hextends hfirst hcrosses hheeds
  · have htargets : upgrade.targetsAtLeast nextMajor = true := Except.ok.inj happlies
    rw [(ServiceMesh.answers_controlPlanes upgrade htargets).unique state hanswers] at hheeds
    exact ServiceMesh.heeds_controlPlanes_of_extends hextends htargets hheeds

end Grown

end Builtin

end UpgradeGate
