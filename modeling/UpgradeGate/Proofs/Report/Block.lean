import UpgradeGate.Proofs.Report.Order

/-!
# What a report shows of an execution

Each condition of a diagnosis stands in a report once: the first of those that weigh most in the
headline, whose label is that of its impact unless there is a problem, and all others in lines of
their own. The blocks of several executions stand in the order of what the executions are about, and
those about the same in the order in which they came.
-/

namespace UpgradeGate.Report

variable {σ : Type}

/-! ### The headline -/

/-- The first of the conditions that weigh most, and all others in their order. -/
inductive Leads : List Condition → Option Condition → List Condition → Prop
  | nothing : Leads [] none []
  | first {front later : List Condition} {shown : Condition}
    (hfront : ∀ other ∈ front, other.impact.weight < shown.impact.weight)
    (hlater : ∀ other ∈ later, other.impact.weight ≤ shown.impact.weight) :
    Leads (front ++ shown :: later) (some shown) (front ++ later)

theorem splitFirst_append {α : Type} {p : α → Bool} {front later : List α} {a : α}
    (hfront : ∀ other ∈ front, p other = false) (ha : p a = true) :
    splitFirst p (front ++ a :: later) = (some a, front ++ later) := by
  induction front with
  | nil => rw [List.nil_append, splitFirst, if_pos ha, List.nil_append]
  | cons other front ih =>
      rw [List.forall_mem_cons] at hfront
      rw [List.cons_append, splitFirst, if_neg (by simp [hfront.1]), ih hfront.2,
        List.cons_append]

section Leads

variable {diagnosis : Diagnosis} {shown? : Option Condition} {others : List Condition}

theorem exists_leads (diagnosis : Diagnosis) :
    ∃ shown? others, Leads diagnosis.conditions shown? others := by
  cases hfind : diagnosis.conditions.find? fun condition =>
      condition.impact == diagnosis.impact with
  | none =>
      have hnil : diagnosis.conditions = [] := by
        by_contra hne
        obtain ⟨condition, hmem, himpact⟩ := Diagnosis.exists_impact_eq hne
        exact List.find?_eq_none.mp hfind condition hmem (by simp [himpact])
      exact ⟨none, [], hnil ▸ .nothing⟩
  | some shown =>
      obtain ⟨himpact, front, later, hsplit, hfront⟩ := List.find?_eq_some_iff_append.mp hfind
      rw [beq_iff_eq] at himpact
      have hle : ∀ other ∈ diagnosis.conditions, other.impact.weight ≤ shown.impact.weight :=
        fun other hother => himpact ▸ Diagnosis.weight_le_weight_impact hother
      rw [hsplit] at hle ⊢
      refine ⟨some shown, front ++ later, .first (fun other hother => ?_) fun other hother => ?_⟩
      · refine Nat.lt_of_le_of_ne (hle other (by simp [hother])) fun hweight => ?_
        have hsame := (Impact.weight_injective hweight).trans himpact
        simpa [hsame] using hfront other hother
      · exact hle other (by simp [hother])

theorem Leads.le_weight {conditions : List Condition} (hleads : Leads conditions shown? others) :
    ∀ condition ∈ conditions, ∃ shown ∈ shown?,
      condition.impact.weight ≤ shown.impact.weight := by
  cases hleads with
  | nothing => exact List.forall_mem_nil _
  | @first front later shown hfront hlater =>
      intro condition hcondition
      refine ⟨shown, rfl, ?_⟩
      rw [List.mem_append, List.mem_cons] at hcondition
      rcases hcondition with hcondition | rfl | hcondition
      · exact Nat.le_of_lt (hfront condition hcondition)
      · exact Nat.le_refl _
      · exact hlater condition hcondition

theorem Leads.impact_eq (hleads : Leads diagnosis.conditions shown? others) :
    diagnosis.impact = shown?.elim .none (·.impact) := by
  have hle := hleads.le_weight
  generalize hconditions : diagnosis.conditions = conditions at hleads
  cases hleads with
  | nothing => rw [Diagnosis.impact, hconditions, List.foldl_nil, Option.elim_none]
  | @first front later shown hfront hlater =>
      have hmem : shown ∈ diagnosis.conditions := by simp [hconditions]
      obtain ⟨condition, hcondition, himpact⟩ :=
        Diagnosis.exists_impact_eq (List.ne_nil_of_mem hmem)
      obtain ⟨_, ⟨⟩, hweight⟩ := hle condition hcondition
      rw [himpact] at hweight
      exact Impact.weight_injective
        (Nat.le_antisymm hweight (Diagnosis.weight_le_weight_impact hmem))

theorem Leads.headline_eq (hleads : Leads diagnosis.conditions shown? others) :
    headline diagnosis = (shown?, others) := by
  have himpact := hleads.impact_eq
  unfold headline
  generalize hconditions : diagnosis.conditions = conditions at hleads
  cases hleads with
  | nothing => rw [splitFirst]
  | first hfront hlater =>
      rw [Option.elim_some] at himpact
      refine splitFirst_append (fun other hother => ?_) (by simp [himpact])
      rw [himpact, beq_eq_false_iff_ne]
      exact fun hsame => Nat.ne_of_lt (hfront other hother) (congrArg Impact.weight hsame)

theorem Leads.perm {conditions : List Condition} (hleads : Leads conditions shown? others) :
    (shown?.toList ++ others).Perm conditions := by
  cases hleads with
  | nothing => exact .refl _
  | first hfront hlater =>
      rw [Option.toList_some, List.singleton_append]
      exact List.perm_middle.symm

theorem headline_perm (diagnosis : Diagnosis) :
    ((headline diagnosis).1.toList ++ (headline diagnosis).2).Perm diagnosis.conditions := by
  obtain ⟨shown?, others, hleads⟩ := exists_leads diagnosis
  rw [hleads.headline_eq]
  exact hleads.perm

end Leads

/-- The verdict on an execution with the problem and the condition in its headline. -/
inductive IsVerdict : Option Problem → Option Condition → Verdict → Prop
  | error (problem : Problem) (shown? : Option Condition) : IsVerdict (some problem) shown? .error
  | empty : IsVerdict none none .passed
  | passed {shown : Condition} (himpact : shown.impact = .none) :
    IsVerdict none (some shown) .passed
  | advisory {shown : Condition} (himpact : shown.impact = .advisory) :
    IsVerdict none (some shown) .advisory
  | blocking {shown : Condition} (himpact : shown.impact = .blocking) :
    IsVerdict none (some shown) .blocking

theorem exists_isVerdict (problem? : Option Problem) (shown? : Option Condition) :
    ∃ verdict, IsVerdict problem? shown? verdict := by
  cases problem? with
  | some problem => exact ⟨_, .error problem shown?⟩
  | none =>
      cases shown? with
      | none => exact ⟨_, .empty⟩
      | some shown =>
          cases himpact : shown.impact with
          | none => exact ⟨_, .passed himpact⟩
          | advisory => exact ⟨_, .advisory himpact⟩
          | blocking => exact ⟨_, .blocking himpact⟩

theorem IsVerdict.verdict_eq {execution : Execution σ} {shown? : Option Condition}
    {others : List Condition} {expected : Verdict}
    (hleads : Leads execution.diagnosis.conditions shown? others)
    (hverdict : IsVerdict execution.problem? shown? expected) : verdict execution = expected := by
  have hdiagnosis := hleads.impact_eq
  unfold verdict Execution.isError
  generalize execution.problem? = problem? at hverdict
  cases hverdict with
  | error problem shown? => rfl
  | empty => simp [hdiagnosis]
  | passed himpact => simp [hdiagnosis, himpact]
  | advisory himpact => simp [hdiagnosis, himpact]
  | blocking himpact => simp [hdiagnosis, himpact]

/-! ### Blocks -/

/-- The lines that stand for an execution. -/
inductive IsBlock (coloured : Bool) (execution : Execution σ) : List String → Prop
  | intro {shown? : Option Condition} {others : List Condition} {verdict : Verdict}
    (hleads : Leads execution.diagnosis.conditions shown? others)
    (hverdict : IsVerdict execution.problem? shown? verdict) :
    IsBlock coloured execution <|
      (verdict.icon ++ " " ++ paint coloured verdict.colour verdict.label ++ ": " ++
        execution.diagnosis.group ++ "/" ++ execution.diagnosis.kind ++ "/" ++
        execution.diagnosis.name ++
        shown?.elim "" fun shown => " [" ++ shown.reason ++ "] " ++ shown.message) ::
      (others.map (fun other => "   " ++ other.type ++ "=" ++ other.status.text ++ " [" ++
        other.reason ++ "] " ++ other.message) ++
      (execution.diagnosis.conditions.filterMap (·.remediation)).map ("   Remediation: " ++ ·) ++
      execution.problem?.toList.map (fun problem => "   Error: " ++ problem.message) ++
      execution.check.lines?.elim
        (execution.diagnosis.impacted.map fun object => "   - " ++ object.kind ++ " " ++
          object.ns?.elim "" (· ++ "/") ++ object.name)
        fun lines => (lines execution.diagnosis).map ("   " ++ ·))

theorem append_append_eq {first second whole : String} (hwhole : first ++ second = whole)
    (rest : String) : first ++ (second ++ rest) = whole ++ rest := by
  rw [← String.append_assoc, hwhole]

theorem finding_eq (condition : Condition) :
    " " ++ finding condition = " [" ++ condition.reason ++ "] " ++ condition.message := by
  have hopen : " " ++ "[" = " [" := by decide
  simp only [finding, String.append_assoc, append_append_eq hopen]

theorem conditionText_eq (condition : Condition) :
    "   " ++ conditionText condition = "   " ++ condition.type ++ "=" ++ condition.status.text ++
      " [" ++ condition.reason ++ "] " ++ condition.message := by
  simp only [conditionText, finding_eq, String.append_assoc]

theorem objectText_eq (object : ImpactedObject) :
    "   " ++ objectText object =
      "   - " ++ object.kind ++ " " ++ object.ns?.elim "" (· ++ "/") ++ object.name := by
  have hdash : "   " ++ "- " = "   - " := by decide
  unfold objectText
  cases object.ns? with
  | none => simp only [String.append_assoc, append_append_eq hdash, Option.elim_none,
      String.empty_append]
  | some ns => simp only [String.append_assoc, append_append_eq hdash, Option.elim_some]

theorem headlineText_eq (coloured : Bool) (execution : Execution σ) :
    headlineText coloured execution = (verdict execution).icon ++ " " ++
      paint coloured (verdict execution).colour (verdict execution).label ++ ": " ++
      execution.diagnosis.group ++ "/" ++ execution.diagnosis.kind ++ "/" ++
      execution.diagnosis.name ++
      (headline execution.diagnosis).1.elim "" fun shown =>
        " [" ++ shown.reason ++ "] " ++ shown.message := by
  unfold headlineText
  cases hshown : (headline execution.diagnosis).1 with
  | none => simp only [hshown, String.append_assoc, Option.elim_none]
  | some shown => simp only [hshown, finding_eq, String.append_assoc, Option.elim_some]

theorem details_eq (execution : Execution σ) :
    (details execution).map ("   " ++ ·) =
      (headline execution.diagnosis).2.map (fun other => "   " ++ other.type ++ "=" ++
        other.status.text ++ " [" ++ other.reason ++ "] " ++ other.message) ++
      (execution.diagnosis.conditions.filterMap (·.remediation)).map ("   Remediation: " ++ ·) ++
      execution.problem?.toList.map (fun problem => "   Error: " ++ problem.message) ++
      execution.check.lines?.elim
        (execution.diagnosis.impacted.map fun object => "   - " ++ object.kind ++ " " ++
          object.ns?.elim "" (· ++ "/") ++ object.name)
        fun lines => (lines execution.diagnosis).map ("   " ++ ·) := by
  have hremediation : "   " ++ "Remediation: " = "   Remediation: " := by decide
  have herror : "   " ++ "Error: " = "   Error: " := by decide
  unfold details
  simp only [List.map_append, List.map_map, Option.toList_map, Function.comp_def,
    conditionText_eq, append_append_eq hremediation, append_append_eq herror]
  cases execution.check.lines? with
  | none => simp only [List.map_map, Function.comp_def, objectText_eq, Option.elim_none]
  | some lines => simp only [Option.elim_some]

theorem IsBlock.block_eq {coloured : Bool} {execution : Execution σ} {expected : List String}
    (hblock : IsBlock coloured execution expected) : block coloured execution = expected := by
  obtain ⟨hleads, hverdict⟩ := hblock
  rw [block, headlineText_eq, details_eq, hleads.headline_eq, hverdict.verdict_eq hleads]

theorem isBlock_block (coloured : Bool) (execution : Execution σ) :
    IsBlock coloured execution (block coloured execution) := by
  obtain ⟨shown?, others, hleads⟩ := exists_leads execution.diagnosis
  obtain ⟨verdict, hverdict⟩ := exists_isVerdict execution.problem? shown?
  have hblock : IsBlock coloured execution _ := .intro hleads hverdict
  rw [hblock.block_eq]
  exact hblock

theorem map_block_eq {coloured : Bool} {executions : List (Execution σ)}
    {blocks : List (List String)} (hblocks : List.Forall₂ (IsBlock coloured) executions blocks) :
    executions.map (block coloured) = blocks := by
  induction hblocks with
  | nil => rfl
  | cons hblock _ ih => rw [List.map_cons, hblock.block_eq, ih]

/-! ### The whole report -/

/-- The executions in the order of what they are about. Those about the same keep their order. -/
structure IsArranged (executions arranged : List (Execution σ)) : Prop where
  perm : arranged.Perm executions
  ordered : arranged.Pairwise fun first second =>
    place first.diagnosis.subject ≤ place second.diagnosis.subject
  kept : ∀ subject, (arranged.filter fun execution => execution.diagnosis.subject = subject) =
    executions.filter fun execution => execution.diagnosis.subject = subject

section Arrangement

variable {executions : List (Execution σ)}

theorem isArranged_mergeSort (executions : List (Execution σ)) :
    IsArranged executions (executions.mergeSort isOrdered) where
  perm := executions.mergeSort_perm isOrdered
  ordered := (pairwise_mergeSort_isOrdered executions).imp (isOrdered_iff _ _).mp
  kept := by
    intro subject
    let isAbout (execution : Execution σ) : Bool := execution.diagnosis.subject = subject
    have hsame : (executions.filter isAbout).Pairwise fun first second =>
        isOrdered first second = true := by
      refine List.pairwise_of_forall_mem_list fun first hfirst second hsecond => ?_
      rw [isOrdered_iff, of_decide_eq_true (List.mem_filter.mp hfirst).2,
        of_decide_eq_true (List.mem_filter.mp hsecond).2]
    have hsublist : (executions.filter isAbout).Sublist (executions.mergeSort isOrdered) :=
      List.sublist_mergeSort isOrdered_trans isOrdered_total hsame List.filter_sublist
    have hfilter := hsublist.filter isAbout
    simp only [List.filter_filter, Bool.and_self] at hfilter
    have hlength := ((executions.mergeSort_perm isOrdered).filter isAbout).length_eq
    exact (hfilter.eq_of_length hlength.symm).symm

/-- The order and what is kept of each subject leave no choice. -/
theorem eq_of_ordered {first second : List (Execution σ)} (hperm : first.Perm second)
    (hfirst : first.Pairwise fun a b => place a.diagnosis.subject ≤ place b.diagnosis.subject)
    (hsecond : second.Pairwise fun a b => place a.diagnosis.subject ≤ place b.diagnosis.subject)
    (hkept : ∀ subject, (first.filter fun execution => execution.diagnosis.subject = subject) =
      second.filter fun execution => execution.diagnosis.subject = subject) : first = second := by
  induction first generalizing second with
  | nil => exact hperm.nil_eq
  | cons a first ih =>
      cases second with
      | nil => exact hperm.eq_nil
      | cons b second =>
          rw [List.pairwise_cons] at hfirst hsecond
          have hsubject : a.diagnosis.subject = b.diagnosis.subject := by
            refine place_injective (le_antisymm ?_ ?_)
            · rcases List.mem_cons.mp (hperm.mem_iff.mpr List.mem_cons_self) with rfl | hb
              · exact le_rfl
              · exact hfirst.1 b hb
            · rcases List.mem_cons.mp (hperm.mem_iff.mp List.mem_cons_self) with rfl | ha
              · exact le_rfl
              · exact hsecond.1 a ha
          have hheads := hkept b.diagnosis.subject
          simp only [List.filter_cons, hsubject, decide_true, if_true, List.cons.injEq] at hheads
          obtain ⟨rfl, _⟩ := hheads
          refine congrArg (a :: ·) (ih hperm.cons_inv hfirst.2 hsecond.2 fun subject => ?_)
          have htails := hkept subject
          rw [List.filter_cons, List.filter_cons] at htails
          split at htails
          · exact (List.cons.inj htails).2
          · exact htails

theorem IsArranged.mergeSort_eq {arranged : List (Execution σ)}
    (harranged : IsArranged executions arranged) : executions.mergeSort isOrdered = arranged := by
  have hsorted := isArranged_mergeSort executions
  exact eq_of_ordered (hsorted.perm.trans harranged.perm.symm) hsorted.ordered harranged.ordered
    fun subject => (hsorted.kept subject).trans (harranged.kept subject).symm

end Arrangement

/-- The text of a report: a block for each execution, then an empty line unless there is none, and
the summary. -/
inductive IsReport (coloured : Bool) (executions : List (Execution σ)) : String → Prop
  | intro {arranged : List (Execution σ)} {blocks : List (List String)}
    (harranged : IsArranged executions arranged)
    (hblocks : List.Forall₂ (IsBlock coloured) arranged blocks) :
    IsReport coloured executions <|
      String.join (blocks.flatten.map (· ++ "\n")) ++
      (if executions.isEmpty then "" else "\n") ++
      summaryText coloured (Summary.ofExecutions executions) ++ "\n"

theorem text_eq (coloured : Bool) (executions : List (Execution σ)) :
    text coloured executions =
      String.join (((executions.mergeSort isOrdered).map (block coloured)).flatten.map
        (· ++ "\n")) ++ (if executions.isEmpty then "" else "\n") ++
      summaryText coloured (Summary.ofExecutions executions) ++ "\n" := by
  unfold text lines
  rw [List.flatMap_def, List.map_append, List.map_append, String.join_append, String.join_append]
  cases executions.isEmpty <;> simp [String.append_assoc]

theorem text_eq_iff_isReport {coloured : Bool} {executions : List (Execution σ)}
    {expected : String} :
    text coloured executions = expected ↔ IsReport coloured executions expected := by
  constructor
  · rintro rfl
    rw [text_eq]
    refine .intro (isArranged_mergeSort executions) ?_
    rw [List.forall₂_map_right_iff, List.forall₂_same]
    exact fun execution _ => isBlock_block coloured execution
  · rintro ⟨harranged, hblocks⟩
    rw [text_eq, harranged.mergeSort_eq]
    rw [map_block_eq hblocks]

end UpgradeGate.Report
