import Mathlib.Data.List.Sort
import Mathlib.Data.Prod.Lex
import Mathlib.Data.String.Basic
import UpgradeGate.Proofs.Run.Exit
import UpgradeGate.Proofs.Selection
import UpgradeGate.Report

/-!
# The order of a report

A report for people stands in the order of what its executions are about. If no two of them are
about the same, the order in which they come makes no difference to its text, and so neither does
the order in which the catalogue holds the checks: ids that are made of the group, the kind and the
type are distinct only if these are.
-/

namespace UpgradeGate

variable {σ : Type}

/-- What a diagnosis is about: its group, kind and name. -/
def Diagnosis.subject (diagnosis : Diagnosis) : String × String × String :=
  (diagnosis.group, diagnosis.kind, diagnosis.name)

namespace Report

/-! ### Executions in any order -/

/-- Where a subject stands in a report: by its group, then its kind, then its name. -/
def place (subject : String × String × String) : String ×ₗ String ×ₗ String :=
  toLex (subject.1, toLex subject.2)

theorem place_injective : Function.Injective place := by
  intro first second hplace
  obtain ⟨hgroup, hrest⟩ := Prod.mk.inj (toLex.injective hplace)
  exact Prod.ext hgroup (toLex.injective hrest)

theorem isOrdered_iff (first second : Execution σ) :
    isOrdered first second = true ↔
      place first.diagnosis.subject ≤ place second.diagnosis.subject := by
  unfold isOrdered place Diagnosis.subject
  rw [Prod.Lex.toLex_le_toLex, Prod.Lex.toLex_le_toLex]
  by_cases hgroup : first.diagnosis.group = second.diagnosis.group
  · by_cases hkind : first.diagnosis.kind = second.diagnosis.kind <;> simp [hgroup, hkind]
  · simp [hgroup]

theorem isOrdered_trans (first second third : Execution σ) (hfirst : isOrdered first second = true)
    (hsecond : isOrdered second third = true) : isOrdered first third = true := by
  rw [isOrdered_iff] at hfirst hsecond ⊢
  exact le_trans hfirst hsecond

theorem isOrdered_total (first second : Execution σ) :
    (isOrdered first second || isOrdered second first) = true := by
  rw [Bool.or_eq_true, isOrdered_iff, isOrdered_iff]
  exact le_total _ _

theorem pairwise_mergeSort_isOrdered (executions : List (Execution σ)) :
    (executions.mergeSort isOrdered).Pairwise fun first second =>
      isOrdered first second = true :=
  List.pairwise_mergeSort isOrdered_trans isOrdered_total executions

/-- Sorting by distinct subjects leaves no choice. -/
theorem mergeSort_eq_of_perm {first second : List (Execution σ)} (hperm : first.Perm second)
    (hdistinct : (first.map fun execution => execution.diagnosis.subject).Nodup) :
    first.mergeSort isOrdered = second.mergeSort isOrdered := by
  have hsorted : (first.mergeSort isOrdered).Perm (second.mergeSort isOrdered) :=
    (first.mergeSort_perm isOrdered).trans (hperm.trans (second.mergeSort_perm isOrdered).symm)
  refine List.Perm.eq_of_pairwise (fun a b ha hb hab hba => ?_)
    (pairwise_mergeSort_isOrdered first) (pairwise_mergeSort_isOrdered second) hsorted
  have ha : a ∈ first := List.mem_mergeSort.mp ha
  have hb : b ∈ first := List.mem_mergeSort.mp (hsorted.mem_iff.mpr hb)
  rw [isOrdered_iff] at hab hba
  exact List.inj_on_of_nodup_map hdistinct ha hb (place_injective (le_antisymm hab hba))

theorem text_eq_of_perm {first second : List (Execution σ)} (hperm : first.Perm second)
    (hdistinct : (first.map fun execution => execution.diagnosis.subject).Nodup)
    (coloured : Bool) : text coloured first = text coloured second := by
  unfold text lines
  rw [mergeSort_eq_of_perm hperm hdistinct, Summary.ofExecutions_perm hperm, hperm.isEmpty_eq]

end Report

/-! ### Checks in any order -/

theorem CheckGroup.name_injective : Function.Injective name := by
  intro first second
  cases first <;> cases second <;> decide

/-- In every state of a run with the control the step gives the same, and it leaves the control as
it is. -/
def Step.IsConstant {α : Type} (step : Step σ α) (control : RunControl) : Prop :=
  ∃ answer, ∀ state : RunState σ, state.control = control →
    (step.run.run state).1 = answer ∧ (step.run.run state).2.control = control

namespace Check

def subject (check : Check σ) : String × String × String := check.identity.diagnosis.subject

/-- The id of the check is made of its group, kind and type. The check keeps no state and does not
cancel the run, and what comes of it is about what the check is about. -/
structure IsRegular (check : Check σ) (upgrade : Upgrade) (control : RunControl) : Prop where
  derived : check.identity = .of check.identity.group check.identity.kind check.identity.type
    check.identity.title check.identity.description
  applies : (check.applies upgrade).IsConstant control
  /-- Nothing is asked of a check that does not apply. -/
  diagnose : ∀ state : RunState σ, state.control = control →
    ((check.applies upgrade).run.run state).1 = .ok true →
    (check.diagnose upgrade).IsConstant control
  keeps : ∀ state : RunState σ, state.control = control →
    ∀ execution ∈ (Turn.mk check upgrade state).executions,
      execution.diagnosis.subject = check.subject

variable {check : Check σ} {upgrade : Upgrade} {control : RunControl}

theorem id_eq_of_subject {first second : Check σ} (hfirst : first.IsRegular upgrade control)
    (hsecond : second.IsRegular upgrade control) (hsubject : first.subject = second.subject) :
    first.id = second.id := by
  obtain ⟨hname, hrest⟩ := Prod.mk.inj hsubject
  obtain ⟨hkind, htype⟩ := Prod.mk.inj hrest
  have hgroup : first.identity.group = second.identity.group := CheckGroup.name_injective hname
  have hkind : first.identity.kind = second.identity.kind := hkind
  have htype : first.identity.type = second.identity.type := htype
  rw [id, id, hfirst.derived, hsecond.derived, CheckIdentity.of, CheckIdentity.of, hgroup, hkind,
    htype]

end Check

/-- A substitute is about what the check is about if neither its kind nor its type is empty. -/
theorem CheckIdentity.subject_substitute {identity : CheckIdentity} (hkind : identity.kind ≠ "")
    (htype : identity.type ≠ "") (time : Instant) (reason message : String) :
    (identity.substitute time reason message).subject = identity.diagnosis.subject := by
  have horElse {text : String} (htext : text ≠ "") (fallback : String) :
      orElse text fallback = text := by simp [orElse, htext]
  have hgroup : identity.group.name ≠ "" := by cases identity.group <;> decide
  unfold substitute Diagnosis.subject diagnosis
  dsimp only
  rw [horElse hgroup, horElse hkind, horElse htype]

theorem Check.subject_outcome {check : Check σ} (hkind : check.identity.kind ≠ "")
    (htype : check.identity.type ≠ "") (time : Instant) {answer : Except Problem Diagnosis}
    (hkeeps : ∀ diagnosis, answer = .ok diagnosis → diagnosis.flaw? = none →
      diagnosis.subject = check.subject) :
    (check.outcome time answer).diagnosis.subject = check.subject := by
  rcases check.outcome_cases time answer with
    ⟨diagnosis, hanswer, hflaw, houtcome⟩ | ⟨_, problem, reason, message, _, houtcome⟩
  · rw [houtcome]
    exact hkeeps diagnosis hanswer hflaw
  · rw [houtcome]
    exact CheckIdentity.subject_substitute hkind htype time reason message

namespace Check.IsRegular

variable {check : Check σ} {upgrade : Upgrade} (state : RunState σ)
  (hregular : check.IsRegular upgrade state.control)

include hregular

theorem control_asked : (Turn.mk check upgrade state).asked.control = state.control := by
  obtain ⟨answer, happlies⟩ := hregular.applies
  exact (happlies state rfl).2

theorem isConstant_of_isDiagnosed (hdiagnosed : (Turn.mk check upgrade state).isDiagnosed = true) :
    (check.diagnose upgrade).IsConstant state.control := by
  apply hregular.diagnose state rfl
  unfold Turn.isDiagnosed at hdiagnosed
  split at hdiagnosed
  · next happlies => rw [happlies, hdiagnosed]
  · cases hdiagnosed

theorem control_after : (Turn.mk check upgrade state).after.control = state.control := by
  unfold Turn.after
  split
  · next hdiagnosed =>
    obtain ⟨answer, hdiagnose⟩ := hregular.isConstant_of_isDiagnosed state hdiagnosed
    exact (hdiagnose _ (hregular.control_asked state)).2
  · exact hregular.control_asked state

/-- What the turn adds hangs on no more of the state than the control. -/
theorem executions_eq {other : RunState σ} (hcontrol : other.control = state.control) :
    (Turn.mk check upgrade other).executions = (Turn.mk check upgrade state).executions := by
  obtain ⟨applies, happlies⟩ := hregular.applies
  have hother := (hcontrol ▸ hregular).control_asked other
  have hsame : (Turn.mk check upgrade other).isDiagnosed =
      (Turn.mk check upgrade state).isDiagnosed := by
    unfold Turn.isDiagnosed
    rw [(happlies state rfl).1, (happlies other hcontrol).1]
  unfold Turn.executions
  rw [hsame]
  split
  · next hdiagnosed =>
    obtain ⟨answer, hdiagnose⟩ := hregular.isConstant_of_isDiagnosed state hdiagnosed
    unfold Turn.answer
    rw [(hdiagnose _ (hregular.control_asked state)).1,
      (hdiagnose _ (hother.trans hcontrol)).1]
  · rfl

end Check.IsRegular

namespace Run

variable {upgrade : Upgrade} {state : RunState σ}

/-- Regular checks take their turns as if each were alone. -/
theorem executeChecks_of_isRegular {checks : List (Check σ)} {start : RunState σ}
    (hregular : ∀ check ∈ checks, check.IsRegular upgrade start.control)
    (hcontrol : state.control = start.control) (hlive : start.control.isDone = false) :
    ((executeChecks upgrade checks).run state).1 =
      checks.flatMap fun check => (Turn.mk check upgrade start).executions := by
  induction checks generalizing state with
  | nil => rfl
  | cons check checks ih =>
      rw [List.forall_mem_cons] at hregular
      let turn : Turn σ := ⟨check, upgrade, state⟩
      have hcons : (executeChecks upgrade (check :: checks)).run state = _ :=
        executeChecks_cons turn checks (hcontrol ▸ hlive)
      have hafter : turn.after.control = start.control :=
        ((hcontrol ▸ hregular.1).control_after state).trans hcontrol
      rw [hcons, List.flatMap_cons, ih hregular.2 hafter,
        hregular.1.executions_eq start hcontrol]

theorem executeChecks_perm {checks arranged : List (Check σ)} (hperm : checks.Perm arranged)
    (hregular : ∀ check ∈ checks, check.IsRegular upgrade state.control) :
    (((executeChecks upgrade checks).run state).1).Perm
      ((executeChecks upgrade arranged).run state).1 := by
  cases hdone : state.control.isDone with
  | true => rw [executeChecks_of_isDone _ _ hdone, executeChecks_of_isDone _ _ hdone]
  | false =>
      have harranged : ∀ check ∈ arranged, check.IsRegular upgrade state.control :=
        fun check hcheck => hregular check (hperm.mem_iff.mpr hcheck)
      rw [executeChecks_of_isRegular hregular rfl hdone,
        executeChecks_of_isRegular harranged rfl hdone]
      exact hperm.flatMap_right _

/-- The executions are about what those checks are about that have one. -/
theorem sublist_map_subject {checks : List (Check σ)}
    (hregular : ∀ check ∈ checks, check.IsRegular upgrade state.control)
    (hlive : state.control.isDone = false) :
    (((executeChecks upgrade checks).run state).1.map fun execution =>
      execution.diagnosis.subject).Sublist (checks.map Check.subject) := by
  rw [executeChecks_of_isRegular hregular rfl hlive]
  induction checks with
  | nil => exact .slnil
  | cons check checks ih =>
      rw [List.forall_mem_cons] at hregular
      have hkeeps := hregular.1.keeps state rfl
      rw [List.flatMap_cons, List.map_append, List.map_cons]
      unfold Turn.executions at hkeeps ⊢
      split
      · next hdiagnosed =>
        rw [if_pos hdiagnosed, List.forall_mem_singleton] at hkeeps
        rw [List.map_singleton, hkeeps]
        exact (ih hregular.2).cons_cons _
      · exact (ih hregular.2).cons _

theorem nodup_map_subject {checks : List (Check σ)} (hdistinct : (checks.map Check.id).Nodup)
    (hregular : ∀ check ∈ checks, check.IsRegular upgrade state.control) :
    (((executeChecks upgrade checks).run state).1.map fun execution =>
      execution.diagnosis.subject).Nodup := by
  cases hdone : state.control.isDone with
  | true =>
      rw [executeChecks_of_isDone _ _ hdone]
      exact List.nodup_nil
  | false =>
      have hsubjects : (checks.map Check.subject).Nodup := by
        refine List.pairwise_map.mpr ((List.pairwise_map.mp hdistinct).imp_of_mem ?_)
        intro first second hfirst hsecond hne hsubject
        exact hne
          (Check.id_eq_of_subject (hregular first hfirst) (hregular second hsecond) hsubject)
      exact hsubjects.sublist (sublist_map_subject hregular hdone)

theorem text_executeChecks_eq_of_perm {checks arranged : List (Check σ)}
    (hperm : checks.Perm arranged) (hdistinct : (checks.map Check.id).Nodup)
    (hregular : ∀ check ∈ checks, check.IsRegular upgrade state.control) (coloured : Bool) :
    Report.text coloured ((executeChecks upgrade checks).run state).1 =
      Report.text coloured ((executeChecks upgrade arranged).run state).1 :=
  Report.text_eq_of_perm (executeChecks_perm hperm hregular)
    (nodup_map_subject hdistinct hregular) coloured

/-! ### Catalogues in any order -/

theorem map_text_executeSelected_eq {catalogue other : Catalogue σ}
    (hperm : catalogue.checks.Perm other.checks)
    (hregular : ∀ check ∈ catalogue.checks, check.IsRegular upgrade state.control)
    (patterns : List String) (group? : Option CheckGroup) (coloured : Bool) :
    ((executeSelected catalogue patterns group? upgrade).run.run state).1.map
        (Report.text coloured) =
      ((executeSelected other patterns group? upgrade).run.run state).1.map
        (Report.text coloured) := by
  rw [executeSelected_run, executeSelected_run]
  cases hselected : catalogue.select patterns group? with
  | error problem =>
      -- Whether the patterns can be read does not depend on the catalogue.
      have hother : other.select patterns group? = .error problem :=
        Catalogue.select_eq_error_iff.mpr (Catalogue.select_eq_error_iff.mp hselected)
      rw [hother]
  | ok selected =>
      obtain ⟨arranged, hother, harranged⟩ := Catalogue.exists_perm_of_select hselected hperm
      have hpart := Catalogue.isPartOf_of_select hselected
      rw [hother]
      exact congrArg Except.ok (text_executeChecks_eq_of_perm harranged hpart.distinct
        (fun check hcheck => hregular check (hpart.subset check hcheck)) coloured)

/-- Executions that are about different subjects give one text, in whatever order they come. So two
catalogues that hold the same regular checks lead to the same text, whether all checks are run or
those that patterns select, and in whatever order the selected ones are run. -/
theorem text_of_any_order :
    (∀ first second : List (Execution σ), first.Perm second →
      (first.map fun execution => execution.diagnosis.subject).Nodup →
      ∀ coloured, Report.text coloured first = Report.text coloured second) ∧
    ∀ (upgrade : Upgrade) (state : RunState σ) (catalogue other : Catalogue σ),
      (∀ check, check ∈ catalogue.checks ↔ check ∈ other.checks) →
      (∀ check ∈ catalogue.checks, check.IsRegular upgrade state.control) →
      ∀ coloured,
        Report.text coloured ((executeAll catalogue upgrade).run state).1 =
          Report.text coloured ((executeAll other upgrade).run state).1 ∧
        ∀ (patterns : List String) (group? : Option CheckGroup),
          ((executeSelected catalogue patterns group? upgrade).run.run state).1.map
              (Report.text coloured) =
            ((executeSelected other patterns group? upgrade).run.run state).1.map
              (Report.text coloured) ∧
          ∀ selected arranged, catalogue.select patterns group? = .ok selected →
            selected.Perm arranged →
            Report.text coloured ((executeChecks upgrade selected).run state).1 =
              Report.text coloured ((executeChecks upgrade arranged).run state).1 := by
  refine ⟨fun first second => Report.text_eq_of_perm, ?_⟩
  intro upgrade state catalogue other hsame hregular coloured
  have hperm : catalogue.checks.Perm other.checks :=
    (List.perm_ext_iff_of_nodup (.of_map _ catalogue.distinct) (.of_map _ other.distinct)).mpr hsame
  refine ⟨text_executeChecks_eq_of_perm hperm catalogue.distinct hregular coloured,
    fun patterns group? =>
      ⟨map_text_executeSelected_eq hperm hregular patterns group? coloured, ?_⟩⟩
  intro selected arranged hselected harranged
  have hpart := Catalogue.isPartOf_of_select hselected
  exact text_executeChecks_eq_of_perm harranged hpart.distinct
    (fun check hcheck => hregular check (hpart.subset check hcheck)) coloured

/-- A check that always applies and answers the same. -/
def constant (identity : CheckIdentity) (answer : Except Problem Diagnosis) : Check Unit where
  identity := identity
  applies _ := return true
  diagnose _ := ExceptT.mk (return answer)

theorem isRegular_constant {group : CheckGroup} {kind type : String} (hkind : kind ≠ "")
    (htype : type ≠ "") {answer : Except Problem Diagnosis}
    (hkeeps : ∀ diagnosis, answer = .ok diagnosis →
      diagnosis.subject = (group.name, kind, type)) (upgrade : Upgrade) (control : RunControl) :
    (constant (.of group kind type "" "") answer).IsRegular upgrade control where
  derived := rfl
  applies := ⟨.ok true, fun _ hcontrol => ⟨rfl, hcontrol⟩⟩
  diagnose _ _ _ := ⟨answer, fun _ hcontrol => ⟨rfl, hcontrol⟩⟩
  keeps := by
    intro state _ execution hexecution
    rw [List.mem_singleton.mp hexecution]
    exact Check.subject_outcome hkind htype upgrade.time fun diagnosis hanswer _ =>
      hkeeps diagnosis hanswer

def failing : Check Unit := constant (.of .service "mesh" "limits" "" "") (.error (.check "late"))

def flawed : Check Unit := constant (.of .component "mesh" "limits" "" "")
  (.ok (CheckIdentity.of .component "mesh" "limits" "" "").diagnosis)

theorem text_of_any_order_failing :
    Report.text true ((executeAll ⟨[failing, flawed], by decide⟩ default).run { notes := () }).1 =
      Report.text true
        ((executeAll ⟨[flawed, failing], by decide⟩ default).run { notes := () }).1 := by
  have hfailing : failing.IsRegular default {} :=
    isRegular_constant (by decide) (by decide) (by simp) default {}
  have hflawed : flawed.IsRegular default {} := by
    refine isRegular_constant (by decide) (by decide) ?_ default {}
    rintro diagnosis ⟨⟩
    rfl
  refine (text_of_any_order.2 default { notes := () } ⟨[failing, flawed], by decide⟩
    ⟨[flawed, failing], by decide⟩ ?_ ?_ true).1
  · simp [or_comm]
  · simp [hfailing, hflawed]

end Run

end UpgradeGate
