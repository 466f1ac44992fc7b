import UpgradeGate.Proofs.Builtin.Reading
import UpgradeGate.Proofs.Check.Session
import UpgradeGate.Proofs.Report.Order

/-!
# What the built-in checks are about

Pipelines add to a diagnosis and leave its group, kind and name as they are. So whatever the
built-in checks find is about what they are about, and the text of their report is the same in
whatever order they are run.
-/

namespace UpgradeGate

/-! ### Diagnoses that keep their subject -/

namespace Diagnosis

variable (diagnosis : Diagnosis)

@[simp]
theorem subject_setCondition (condition : Condition) :
    (diagnosis.setCondition condition).subject = diagnosis.subject := rfl

@[simp]
theorem subject_annotate (key value : String) :
    (diagnosis.annotate key value).subject = diagnosis.subject := rfl

@[simp]
theorem subject_setImpacted (objects : List ImpactedObject) :
    (diagnosis.setImpacted objects).subject = diagnosis.subject := rfl

end Diagnosis

/-- Unless it is an error, the answer is about the subject. -/
def Answer.IsAbout (subject : String × String × String) (answer : Answer) : Prop :=
  ∀ diagnosis, answer = .ok diagnosis → diagnosis.subject = subject

theorem Answer.isAbout_map_iff {α : Type} {subject : String × String × String}
    {found : Except ReadError α} {write : α → Diagnosis} :
    IsAbout subject (found.map write) ↔ ∀ value, found = .ok value →
      (write value).subject = subject := by
  unfold IsAbout
  cases found <;> simp [Except.map]

namespace Pipeline

variable (identity : CheckIdentity) (upgrade : Upgrade)

@[simp]
theorem subject_seeded : (seeded identity upgrade).subject = identity.diagnosis.subject := by
  unfold seeded
  cases upgrade.target? <;> cases upgrade.current? <;> rfl

variable {identity} {upgrade}

theorem IsSettled.subject_eq {diagnosis : Diagnosis}
    (hsettled : IsSettled identity upgrade diagnosis) :
    diagnosis.subject = identity.diagnosis.subject := by
  cases hsettled with
  | resourceNotFound type => simp [Pipeline.resourceNotFound]
  | componentNotConfigured component state => simp [Pipeline.componentNotConfigured]

theorem isAbout_answerOf {ρ : Type} {opening : Except ReadError (Except Diagnosis ρ)}
    {finish : ρ → Answer}
    (hsettled : ∀ diagnosis, opening = .ok (.error diagnosis) →
      IsSettled identity upgrade diagnosis)
    (hfinish : ∀ request, (finish request).IsAbout identity.diagnosis.subject) :
    (answerOf opening finish).IsAbout identity.diagnosis.subject := by
  unfold answerOf
  rcases opening with error | settled | request
  · exact nofun
  · rintro diagnosis ⟨⟩
    exact (hsettled settled rfl).subject_eq
  · exact hfinish request

end Pipeline

theorem ComponentPipeline.isAbout_answer (pipeline : ComponentPipeline)
    (conclude : ComponentRequest → Except ReadError Condition) :
    (pipeline.answer conclude).IsAbout pipeline.identity.diagnosis.subject := by
  refine Pipeline.isAbout_answerOf (fun _ => isSettled_of_opening pipeline) fun request => ?_
  exact Answer.isAbout_map_iff.mpr fun _ _ => Pipeline.subject_seeded _ _

namespace WorkloadPipeline

variable {σ α : Type} [HasHeader α]

theorem subject_complete (request : WorkloadRequest α) (diagnosis : Diagnosis) :
    (request.complete diagnosis).subject = diagnosis.subject := by
  unfold WorkloadRequest.complete
  split <;> rfl

theorem isAbout_answer (pipeline : WorkloadPipeline σ α) (listed : Except ReadError (List α))
    {write : WorkloadRequest α → Except ReadError (Diagnosis → Diagnosis)}
    (hwrite : ∀ request change, write request = .ok change →
      ∀ diagnosis, (change diagnosis).subject = diagnosis.subject) :
    (pipeline.answer listed write).IsAbout pipeline.identity.diagnosis.subject := by
  refine Pipeline.isAbout_answerOf (fun _ => isSettled_of_opening) fun request => ?_
  refine Answer.isAbout_map_iff.mpr fun change hchange => ?_
  rw [subject_complete, hwrite request change hchange]
  exact Pipeline.subject_seeded _ _

end WorkloadPipeline

/-! ### Checks that always answer the same -/

namespace Check

variable {σ : Type} {check : Check σ} {upgrade : Upgrade}
  (hderived : check.identity = .of check.identity.group check.identity.kind check.identity.type
    check.identity.title check.identity.description)

include hderived

theorem Declines.isRegular (hdeclines : check.Declines upgrade) (control : RunControl) :
    check.IsRegular upgrade control where
  derived := hderived
  applies := ⟨.ok false, fun state hcontrol => by
    rw [hdeclines.applies_run]
    exact ⟨rfl, hcontrol⟩⟩
  diagnose state _ happlies := by
    rw [hdeclines.applies_run] at happlies
    cases happlies
  keeps state _ execution hexecution := by
    rw [hdeclines.executions] at hexecution
    cases hexecution

theorem Answers.isRegular {answer : Answer} (hanswers : check.Answers upgrade answer)
    (hkind : check.identity.kind ≠ "") (htype : check.identity.type ≠ "")
    (habout : answer.IsAbout check.subject) (control : RunControl) :
    check.IsRegular upgrade control where
  derived := hderived
  applies := ⟨.ok true, fun state hcontrol => by
    rw [hanswers.applies_run]
    exact ⟨rfl, hcontrol⟩⟩
  diagnose _ _ _ := ⟨answer.mapError .resource, fun state hcontrol => by
    obtain ⟨calls, hcalls⟩ := hanswers.diagnose_run state
    rw [hcalls]
    exact ⟨rfl, hcontrol⟩⟩
  keeps state _ execution hexecution := by
    rw [hanswers.executions, List.mem_singleton] at hexecution
    rw [hexecution]
    exact subject_outcome hkind htype upgrade.time fun diagnosis hdiagnosis _ =>
      habout diagnosis (Effects.mapError_eq_ok_iff.mp hdiagnosis)

end Check

namespace Builtin

variable {σ : Type}

theorem exists_answer_isAbout {check : Check σ} (hcheck : check ∈ checks) (upgrade : Upgrade) :
    check.Declines upgrade ∨
      ∃ answer, check.Answers upgrade answer ∧ answer.IsAbout check.subject := by
  refine declines_or_answers_of (fun check answer => answer.IsAbout check.subject)
    (ComponentPipeline.isAbout_answer _ _) (ComponentPipeline.isAbout_answer _ _)
    (WorkloadPipeline.isAbout_answer _ _ ?_) (WorkloadPipeline.isAbout_answer _ _ ?_) hcheck
  · rintro request _ ⟨⟩ diagnosis
    rfl
  · intro request change hchange diagnosis
    unfold ServiceMesh.writePlanes at hchange
    cases hplanes : ServiceMesh.impactedPlanes request with
    | error error =>
        rw [hplanes] at hchange
        cases hchange
    | ok planes =>
        rw [hplanes] at hchange
        rw [← Except.ok.inj hchange]
        rfl

def identities : List CheckIdentity :=
  [Kserve.serverlessRemovalIdentity, ModelMesh.removalIdentity, Kserve.serverlessServicesIdentity,
    ServiceMesh.identity]

theorem map_identity_checks : (checks : List (Check σ)).map Check.identity = identities := rfl

theorem isRegular_of_mem_checks {check : Check σ} (hcheck : check ∈ checks) (upgrade : Upgrade)
    (control : RunControl) : check.IsRegular upgrade control := by
  have hidentities : ∀ identity ∈ identities, identity = .of identity.group identity.kind
      identity.type identity.title identity.description ∧
        identity.kind ≠ "" ∧ identity.type ≠ "" := by decide
  have hidentity : check.identity ∈ identities := by
    rw [← @map_identity_checks σ]
    exact List.mem_map_of_mem hcheck
  obtain ⟨hderived, hkind, htype⟩ := hidentities _ hidentity
  rcases exists_answer_isAbout hcheck upgrade with hdeclines | ⟨answer, hanswers, habout⟩
  · exact hdeclines.isRegular hderived control
  · exact hanswers.isRegular hderived hkind htype habout control

/-- The built-in checks may be run in any order. -/
theorem text_executeChecks_eq_of_perm {arranged : List (Check σ)} (hperm : checks.Perm arranged)
    (upgrade : Upgrade) (state : RunState σ) (coloured : Bool) :
    Report.text coloured ((Run.executeChecks upgrade checks).run state).1 =
      Report.text coloured ((Run.executeChecks upgrade arranged).run state).1 :=
  Run.text_executeChecks_eq_of_perm hperm Catalogue.nodup_map_id_builtin
    (fun _ hcheck => isRegular_of_mem_checks hcheck upgrade state.control) coloured

end Builtin

end UpgradeGate
