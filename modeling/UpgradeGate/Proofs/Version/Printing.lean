import UpgradeGate.Proofs.Diagnosis.Upsert
import UpgradeGate.Proofs.Dict
import UpgradeGate.Proofs.Pipeline.Component
import UpgradeGate.Proofs.Pipeline.Workload
import UpgradeGate.Proofs.Version.Reading

/-!
# Versions printed and read back

What a version prints is read as that version, also with a `v` in front and blanks around it. The
pipelines print the versions of the upgrade as annotations, so that a diagnosis tells them unless
its check writes over them.
-/

namespace UpgradeGate

namespace Version

/-! ### Printing -/

theorem isNumeral_toString (n : UInt64) : IsNumeral (toString n.toNat).toList n where
  ne_nil := Decimal.toList_toString_ne_nil n.toNat
  chars _ hc := Text.isDigit_iff.mp (Decimal.isDigit_of_mem_toString hc)
  first := Decimal.toList_toString_of_head?
  value := Decimal.ofDigitChars_toString n.toNat

theorem isPart_text (mark : String) {c : Char} (hmark : mark.toList = [c])
    {IsText : List Char → Prop} {labels : List String}
    (hlabels : ∀ label ∈ labels, IsText label.toList) :
    IsPart c IsText (if labels.isEmpty then "" else mark ++ labelsText labels).toList labels := by
  cases labels with
  | nil => exact .absent
  | cons label labels =>
      have hpart : IsPart c IsText (c :: ['.'].intercalate ((label :: labels).map String.toList))
          (label :: labels) := .present (List.cons_ne_nil label labels) hlabels
      have htext : (labelsText (label :: labels)).toList =
          ['.'].intercalate ((label :: labels).map String.toList) := String.toList_intercalate
      rw [List.isEmpty_cons, if_neg (by decide), String.toList_append, hmark, htext]
      exact hpart

theorem isFull_text (version : Version) : IsFull version.text.toList version := by
  have hpre : ∀ label ∈ version.preRelease, IsPreReleaseText label.toList := fun label hlabel =>
    isPreReleaseLabel_iff.mp (List.all_eq_true.mp version.preRelease_valid label hlabel)
  have hbuild : ∀ label ∈ version.build, IsBuildText label.toList := fun label hlabel =>
    isBuildLabel_iff.mp (List.all_eq_true.mp version.build_valid label hlabel)
  have hfull := IsFull.intro (isNumeral_toString version.major) (isNumeral_toString version.minor)
    (isNumeral_toString version.patch) (isPart_text "-" rfl hpre)
    (isPart_text "+" rfl hbuild)
  have hdot : ".".toList = ['.'] := rfl
  unfold text
  simp only [String.toList_append, hdot]
  simpa using hfull

theorem version_text (version : Version) {before mark after : String}
    (hbefore : ∀ c ∈ before.toList, Text.isBlank c = true)
    (hafter : ∀ c ∈ after.toList, Text.isBlank c = true) (hmark : mark = "" ∨ mark = "v") :
    Platform.version (before ++ mark ++ version.text ++ after) = .ok version := by
  have hfull := isFull_text version
  have hcore : Text.HasCore (before ++ mark ++ version.text ++ after).toList
      (mark.toList ++ version.text.toList) := by
    have hplain : ∀ c ∈ mark.toList ++ version.text.toList, Text.isBlank c = false := by
      intro c hc
      rcases List.mem_append.mp hc with hmem | hmem
      · rcases hmark with rfl | rfl
        · cases hmem
        · rw [List.mem_singleton.mp hmem]
          decide
      · exact hfull.isBlank_eq_false hmem
    have hwhole := Text.hasCore_of_forall hbefore hafter hplain
    simpa [String.toList_append] using hwhole
  refine version_eq_iff.mpr (.full ?_ hfull)
  rcases hmark with rfl | rfl
  · rw [String.toList_empty, List.nil_append] at hcore
    exact .plain hcore hfull.head?_ne_mark
  · have hv : "v".toList = ['v'] := rfl
    rw [hv, List.singleton_append] at hcore
    exact .marked hcore

theorem version_text_self (version : Version) : Platform.version version.text = .ok version := by
  have hnone : ∀ c ∈ "".toList, Text.isBlank c = true := nofun
  simpa using version_text version hnone hnone (.inl rfl)

end Version

/-! ### Annotations -/

theorem Diagnosis.annotationValue?_annotate (diagnosis : Diagnosis) (key value name : String) :
    (diagnosis.annotate key value).annotationValue? name =
      if name = key then some value else diagnosis.annotationValue? name :=
  Dict.find?_insert key name value diagnosis.annotations

/-- The diagnosis has an annotation for each version of the upgrade that is known and for no other,
and it reads back as that version. -/
structure TellsVersions (upgrade : Upgrade) (diagnosis : Diagnosis) : Prop where
  target : (diagnosis.annotationValue? "check.opendatahub.io/target-version").map
    Platform.version = upgrade.target?.map .ok
  current : (diagnosis.annotationValue? "check.opendatahub.io/current-version").map
    Platform.version = upgrade.current?.map .ok

namespace TellsVersions

variable {upgrade : Upgrade} {diagnosis : Diagnosis}

theorem annotate (htells : TellsVersions upgrade diagnosis) {key : String}
    (htarget : "check.opendatahub.io/target-version" ≠ key)
    (hcurrent : "check.opendatahub.io/current-version" ≠ key) (value : String) :
    TellsVersions upgrade (diagnosis.annotate key value) where
  target := by
    rw [Diagnosis.annotationValue?_annotate, if_neg htarget]
    exact htells.target
  current := by
    rw [Diagnosis.annotationValue?_annotate, if_neg hcurrent]
    exact htells.current

theorem setCondition (htells : TellsVersions upgrade diagnosis) (condition : Condition) :
    TellsVersions upgrade (diagnosis.setCondition condition) := ⟨htells.target, htells.current⟩

theorem setImpacted (htells : TellsVersions upgrade diagnosis) (objects : List ImpactedObject) :
    TellsVersions upgrade (diagnosis.setImpacted objects) := ⟨htells.target, htells.current⟩

theorem seeded (identity : CheckIdentity) (upgrade : Upgrade) :
    TellsVersions upgrade (Pipeline.seeded identity upgrade) := by
  have hnone (key : String) : identity.diagnosis.annotationValue? key = none := rfl
  unfold Pipeline.seeded
  constructor <;> cases upgrade.target? <;> cases upgrade.current? <;>
    simp [hnone, Diagnosis.annotationValue?_annotate, Version.version_text_self,
      AnnotationKey.targetVersion, AnnotationKey.currentVersion]

theorem of_isSettled {identity : CheckIdentity}
    (hsettled : Pipeline.IsSettled identity upgrade diagnosis) :
    TellsVersions upgrade diagnosis := by
  cases hsettled with
  | resourceNotFound type => exact (seeded identity upgrade).setCondition _
  | componentNotConfigured component state =>
      exact ((seeded identity upgrade).annotate (by decide) (by decide) state).setCondition _

end TellsVersions

variable {σ τ α : Type} {diagnosis : Diagnosis}

/-- If the step starts with a diagnosis that tells the versions and succeeds, it ends with one. -/
def LeavesVersions (upgrade : Upgrade) (written : τ → Diagnosis) (step : Step (σ × τ) Unit) :
    Prop :=
  ∀ state after : RunState (σ × τ), TellsVersions upgrade (written state.notes.2) →
    step.run.run state = (.ok (), after) → TellsVersions upgrade (written after.notes.2)

theorem ComponentPipeline.tellsVersions_run {pipeline : ComponentPipeline}
    {validate : ComponentRequest → Step (σ × ComponentDraft) Unit}
    (hleaves : ∀ request,
      LeavesVersions pipeline.upgrade ComponentDraft.diagnosis (validate request))
    {state after : RunState σ}
    (hrun : (pipeline.run validate).run.run state = (.ok diagnosis, after)) :
    TellsVersions pipeline.upgrade diagnosis := by
  rw [run_run] at hrun
  rcases hopening : pipeline.opening with error | settled | request
  · simp only [hopening] at hrun
    cases hrun
  · simp only [hopening] at hrun
    cases hrun
    exact .of_isSettled (isSettled_of_opening pipeline hopening)
  · rcases hasked : (validate request).run.run
      { state.counting 1 with notes := (state.notes, pipeline.draft request) } with
        ⟨_ | _, inner⟩
    · simp only [hopening, hasked] at hrun
      cases hrun
    · simp only [hopening, hasked] at hrun
      cases hrun
      refine hleaves request _ inner ?_ hasked
      exact (TellsVersions.seeded _ _).annotate (by decide) (by decide) _

theorem WorkloadPipeline.tellsVersions_run [HasHeader α] {pipeline : WorkloadPipeline σ α}
    {validate : WorkloadRequest α → Step (σ × Diagnosis) Unit}
    (hleaves : ∀ request, LeavesVersions pipeline.upgrade id (validate request))
    {state after : RunState σ}
    (hrun : (pipeline.run validate).run.run state = (.ok diagnosis, after)) :
    TellsVersions pipeline.upgrade diagnosis := by
  rcases hrequired : pipeline.required with error | settled | cluster?
  · rw [pipeline.run_of_settled (.error error) hrequired] at hrun
    cases hrun
  · rw [pipeline.run_of_settled (.ok settled) hrequired] at hrun
    cases hrun
    have hopening : pipeline.opening (.ok []) = .ok (.error diagnosis) := by
      rw [opening, hrequired]
    exact .of_isSettled (isSettled_of_opening hopening)
  · rcases hitems : pipeline.items.run.run (state.counting pipeline.requiredCalls) with
      ⟨_ | items, before⟩
    · rw [pipeline.run_of_required hrequired validate hitems] at hrun
      cases hrun
    · rw [pipeline.run_of_required hrequired validate hitems] at hrun
      rcases hasked : (validate (pipeline.requestOf cluster? items)).run.run
        { before with
          notes := (before.notes, pipeline.draft (pipeline.requestOf cluster? items)) } with
          ⟨_ | _, inner⟩
      · simp only [hasked] at hrun
        cases hrun
      · simp only [hasked] at hrun
        cases hrun
        have htells : TellsVersions pipeline.upgrade inner.notes.2 := by
          refine hleaves _ _ inner ?_ hasked
          exact (TellsVersions.seeded _ _).annotate (by decide) (by decide) _
        unfold WorkloadRequest.complete
        split
        · exact htells.setImpacted _
        · exact htells

theorem TellsVersions.setConditions {upgrade : Upgrade} (htells : TellsVersions upgrade diagnosis)
    (given : List Condition) : TellsVersions upgrade (diagnosis.setConditions given) := by
  rw [Diagnosis.setConditions_eq]
  exact ⟨htells.target, htells.current⟩

/-- A check that gives no more than conditions writes over no annotation. -/
theorem WorkloadPipeline.tellsVersions_complete [HasHeader α] {pipeline : WorkloadPipeline σ α}
    {validate : WorkloadRequest α → Step σ (List Condition)} {state after : RunState σ}
    (hrun : (pipeline.complete validate).run.run state = (.ok diagnosis, after)) :
    TellsVersions pipeline.upgrade diagnosis := by
  refine tellsVersions_run (fun request inner last htells hinner => ?_) hrun
  rw [Effects.run_bind, Step.run_outside] at hinner
  rcases hconditions : ((validate request).run.run { inner with notes := inner.notes.1 }).1 with
    _ | conditions
  · simp only [hconditions] at hinner
    cases hinner
  · simp only [hconditions] at hinner
    rw [Effects.run_bind, Step.run_forIn_amend] at hinner
    cases hinner
    exact htells.setConditions conditions

namespace Version

/-- Every text is read as what its bare text spells by the grammar, and as no version if that is
nothing. A version's own text is read as that version, with blanks and a `v` around it, and so are
the annotations of the pipelines, unless a check writes over them. -/
theorem versions_read_back :
    (∀ (s : String) answer, Platform.version s = answer ↔ Reads s answer) ∧
    (∀ (s : String) bare, Bares s.toList bare → IsOdd bare →
      Platform.version s = .error (.invalidVersion s)) ∧
    (∀ (version : Version) (before mark after : String),
      (∀ c ∈ before.toList, Text.isBlank c = true) → (∀ c ∈ after.toList, Text.isBlank c = true) →
      mark = "" ∨ mark = "v" →
      Platform.version (before ++ mark ++ version.text ++ after) = .ok version) ∧
    (∀ (σ : Type) (pipeline : ComponentPipeline) validate (state : RunState σ) diagnosis after,
      (∀ request, LeavesVersions pipeline.upgrade ComponentDraft.diagnosis (validate request)) →
      (pipeline.run validate).run.run state = (.ok diagnosis, after) →
      TellsVersions pipeline.upgrade diagnosis) ∧
    (∀ (σ α : Type) (_ : HasHeader α) (pipeline : WorkloadPipeline σ α) validate
      (state : RunState σ) diagnosis after,
      (∀ request, LeavesVersions pipeline.upgrade id (validate request)) →
      (pipeline.run validate).run.run state = (.ok diagnosis, after) →
      TellsVersions pipeline.upgrade diagnosis) ∧
    ∀ (σ α : Type) (_ : HasHeader α) (pipeline : WorkloadPipeline σ α) validate
      (state : RunState σ) diagnosis after,
      (pipeline.complete validate).run.run state = (.ok diagnosis, after) →
      TellsVersions pipeline.upgrade diagnosis := by
  refine ⟨fun s answer => version_eq_iff, ?_, ?_, ?_, ?_, ?_⟩
  · intro s bare hbare hodd
    exact version_eq_iff.mpr
      (.invalid hbare fun version => ⟨hodd.not_isFull, hodd.not_isShort⟩)
  · intro version before mark after hbefore hafter hmark
    exact version_text version hbefore hafter hmark
  · intro σ pipeline validate state diagnosis after hleaves hrun
    exact ComponentPipeline.tellsVersions_run hleaves hrun
  · intro σ α header pipeline validate state diagnosis after hleaves hrun
    exact WorkloadPipeline.tellsVersions_run hleaves hrun
  · intro σ α header pipeline validate state diagnosis after hrun
    exact WorkloadPipeline.tellsVersions_complete hrun

/-- A candidate of a release comes back from its text and from the annotation that a pipeline
without a cluster leaves, and a second `v` is one too many. -/
theorem versions_read_back_candidate :
    let version : Version :=
      { major := 3, minor := 0, patch := 0, preRelease := ["rc", "1"], build := ["build-5"] }
    let pipeline : ComponentPipeline := {
      identity := .of .component "kserve" "serverless-removal" "" ""
      component := "kserve"
      upgrade := { store := {}, target? := some version, time := default } }
    let diagnosis :=
      Pipeline.resourceNotFound pipeline.identity pipeline.upgrade .dataScienceCluster
    Platform.version "\u00a0 v3.0.0-rc.1+build-5\n" = .ok version ∧
    Platform.version "vv3.0.0" = .error (.invalidVersion "vv3.0.0") ∧
    (pipeline.run fun _ => return).run.run { notes := () } =
      (.ok diagnosis, { calls := 1, notes := () }) ∧
    TellsVersions pipeline.upgrade diagnosis := by
  intro version pipeline diagnosis
  obtain ⟨_, hodd, hprinted, hcomponent, _, _⟩ := versions_read_back
  have htext : "\u00a0 " ++ "v" ++ version.text ++ "\n" = "\u00a0 v3.0.0-rc.1+build-5\n" := by
    decide +kernel
  have hcore : Text.HasCore "vv3.0.0".toList "vv3.0.0".toList := by
    rw [Text.hasCore_iff]
    decide +kernel
  have hrun : (pipeline.run fun _ => return).run.run { notes := () } =
      (.ok diagnosis, { calls := 1, notes := () }) := by
    rfl
  refine ⟨?_, hodd _ _ (.marked hcore) (.marked rfl), hrun, ?_⟩
  · rw [← htext]
    exact hprinted version _ _ _ (List.all_eq_true.mp (by decide +kernel))
      (List.all_eq_true.mp (by decide +kernel)) (.inr rfl)
  · refine hcomponent Unit pipeline _ _ _ _ (fun request state after htells hreturn => ?_) hrun
    cases hreturn
    exact htells

end Version

end UpgradeGate
