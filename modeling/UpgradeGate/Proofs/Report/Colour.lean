import UpgradeGate.Proofs.Decimal
import UpgradeGate.Proofs.Report.Block

/-!
# Colours in a report

Colours put codes around the labels and the counts of a report and change nothing else. A text may
hold codes of its own, or pieces of them; but in front of each code that a colour puts in, and
behind it, the report has a character that no code has, so that no piece of a text makes up a code
with it. Without its codes a coloured report is therefore what the plain one is without the codes of
its texts.
-/

namespace UpgradeGate.Report

/-- The codes that colours put into a report. -/
def codes : List (List Char) :=
  [Colour.red.code, Colour.green.code, Colour.yellow.code, Colour.cyan.code, resetCode].map
    String.toList

/-- What is left of a text when it is read from the front and each code that comes up is left out.
-/
def withoutCodes : List Char → List Char
  | [] => []
  | c :: text =>
    match codes.find? fun code => code.isPrefixOf (c :: text) with
    | some code => withoutCodes (text.drop (code.length - 1))
    | none => c :: withoutCodes text
termination_by text => text.length
decreasing_by
  · rw [List.length_drop, List.length_cons]
    omega
  · rw [List.length_cons]
    omega

/-- The character that all codes begin with. -/
def escape : Char := '\x1b'

theorem codes_eq : codes = [[escape, '[', '3', '1', 'm'], [escape, '[', '3', '2', 'm'],
    [escape, '[', '3', '3', 'm'], [escape, '[', '3', '6', 'm'], [escape, '[', '0', 'm']] := by
  decide

/-! ### Leaving out codes -/

/-- The character is in no code. -/
def IsApart (c : Char) : Prop := ∀ code ∈ codes, c ∉ code

instance (c : Char) : Decidable (IsApart c) :=
  inferInstanceAs (Decidable (∀ code ∈ codes, c ∉ code))

theorem withoutCodes_code_append {code : List Char} (hcode : code ∈ codes) (text : List Char) :
    withoutCodes (code ++ text) = withoutCodes text := by
  simp only [codes_eq, List.mem_cons, List.not_mem_nil, or_false] at hcode
  rcases hcode with rfl | rfl | rfl | rfl | rfl <;>
    rw [List.cons_append, withoutCodes] <;> simp [codes_eq, escape]

theorem withoutCodes_cons_of_ne {c : Char} (hc : c ≠ escape) (text : List Char) :
    withoutCodes (c :: text) = c :: withoutCodes text := by
  rw [withoutCodes]
  simp [codes_eq, Ne.symm hc]

/-- Nothing is left out up to the first character that a code begins with. -/
theorem withoutCodes_append_of_notMem {plain : List Char} (hplain : escape ∉ plain)
    (text : List Char) : withoutCodes (plain ++ text) = plain ++ withoutCodes text := by
  induction plain with
  | nil => rfl
  | cons c plain ih =>
      rw [List.mem_cons, not_or] at hplain
      rw [List.cons_append, withoutCodes_cons_of_ne (Ne.symm hplain.1), ih hplain.2,
        List.cons_append]

theorem isPrefixOf_append_cons {code : List Char} {c : Char} (hc : c ∉ code)
    (front text : List Char) : code.isPrefixOf (front ++ c :: text) = code.isPrefixOf front := by
  induction code generalizing front with
  | nil => simp
  | cons d code ih =>
      rw [List.mem_cons, not_or] at hc
      cases front with
      | nil => simp [List.isPrefixOf, Ne.symm hc.1]
      | cons e front =>
          rw [List.cons_append, List.isPrefixOf_cons_cons, List.isPrefixOf_cons_cons, ih hc.2]

theorem find?_append_cons {c : Char} {among : List (List Char)} (hc : ∀ code ∈ among, c ∉ code)
    (front text : List Char) :
    (among.find? fun code => code.isPrefixOf (front ++ c :: text)) =
      among.find? fun code => code.isPrefixOf front := by
  induction among with
  | nil => rfl
  | cons code among ih =>
      rw [List.forall_mem_cons] at hc
      rw [List.find?_cons, List.find?_cons, isPrefixOf_append_cons hc.1, ih hc.2]

/-- No code reaches over a character that is in none. -/
theorem withoutCodes_append_cons {c : Char} (hc : IsApart c) (front text : List Char) :
    withoutCodes (front ++ c :: text) = withoutCodes front ++ c :: withoutCodes text := by
  induction front using withoutCodes.induct with
  | case1 =>
      have hne : c ≠ escape := by
        rintro rfl
        exact absurd hc (by decide)
      rw [List.nil_append, withoutCodes_cons_of_ne hne, withoutCodes, List.nil_append]
  | case2 d front code hfind ih =>
      have hlong : (codes.find? fun code => code.isPrefixOf (d :: (front ++ c :: text))) =
          some code := (find?_append_cons hc (d :: front) text).trans hfind
      -- The code ends in front of the character, since it is a prefix of what is there.
      have hlength : code.length - 1 ≤ front.length := by
        have hprefix : code.isPrefixOf (d :: front) = true := by simpa using List.find?_some hfind
        have hle := (List.isPrefixOf_iff_prefix.mp hprefix).length_le
        rw [List.length_cons] at hle
        omega
      rw [List.cons_append, withoutCodes, hlong, withoutCodes, hfind]
      dsimp only
      rw [List.drop_append_of_le_length hlength, ih]
  | case3 d front hfind ih =>
      have hlong : (codes.find? fun code => code.isPrefixOf (d :: (front ++ c :: text))) = none :=
        (find?_append_cons hc (d :: front) text).trans hfind
      rw [List.cons_append, withoutCodes, hlong, withoutCodes, hfind]
      dsimp only
      rw [ih, List.cons_append]

/-! ### Texts that differ in codes only -/

/-- Without codes the two texts are alike, also with whatever is alike without codes behind them. -/
def DifferInCodes (first second : String) : Prop :=
  ∀ rest later, withoutCodes rest = withoutCodes later →
    withoutCodes (first.toList ++ rest) = withoutCodes (second.toList ++ later)

namespace DifferInCodes

theorem empty : DifferInCodes "" "" := fun _ _ hrest => hrest

theorem append {first second third fourth : String} (hfront : DifferInCodes first second)
    (hback : DifferInCodes third fourth) : DifferInCodes (first ++ third) (second ++ fourth) := by
  intro rest later hrest
  rw [String.toList_append, String.toList_append, List.append_assoc, List.append_assoc]
  exact hfront _ _ (hback _ _ hrest)

theorem withoutCodes_eq {first second : String} (hdiffer : DifferInCodes first second) :
    withoutCodes first.toList = withoutCodes second.toList := by
  simpa using hdiffer [] [] rfl

end DifferInCodes

/-- The text has a last character, and no code holds it. -/
def IsClosed (text : String) : Prop := ∃ c ∈ text.toList.getLast?, IsApart c

instance (text : String) : Decidable (IsClosed text) :=
  decidable_of_iff (text.toList.getLast?.any fun c => IsApart c) <| by
    simp [IsClosed, Option.any_eq_true]

theorem IsClosed.append (front : String) {text : String} (hclosed : IsClosed text) :
    IsClosed (front ++ text) := by
  obtain ⟨c, hlast, hc⟩ := hclosed
  refine ⟨c, ?_, hc⟩
  rw [Option.mem_def] at hlast ⊢
  rw [String.toList_append, List.getLast?_append, hlast, Option.some_or]

theorem IsClosed.differInCodes {text : String} (hclosed : IsClosed text) :
    DifferInCodes text text := by
  obtain ⟨c, hlast, hc⟩ := hclosed
  obtain ⟨front, hfront⟩ := List.getLast?_eq_some_iff.mp hlast
  intro rest later hrest
  rw [hfront, List.append_assoc, List.append_assoc, List.singleton_append, List.singleton_append,
    withoutCodes_append_cons hc, withoutCodes_append_cons hc, hrest]

theorem isClosed_line (line : String) : IsClosed (line ++ "\n") :=
  IsClosed.append line (by decide)

/-- The text has no character that a code begins with. -/
def IsPlain (text : String) : Prop := escape ∉ text.toList

instance (text : String) : Decidable (IsPlain text) :=
  inferInstanceAs (Decidable (escape ∉ text.toList))

theorem differInCodes_paint {label : String} (hlabel : IsPlain label) (colour : Colour) :
    DifferInCodes (paint true colour label) (paint false colour label) := by
  have hcolour : colour.code.toList ∈ codes := by cases colour <;> decide
  have hreset : resetCode.toList ∈ codes := by decide
  intro rest later hrest
  have hpainted : withoutCodes ((paint true colour label).toList ++ rest) =
      label.toList ++ withoutCodes rest := by
    rw [paint, if_pos rfl, String.toList_append, String.toList_append, List.append_assoc,
      List.append_assoc, withoutCodes_code_append hcolour, withoutCodes_append_of_notMem hlabel,
      withoutCodes_code_append hreset]
  calc
    withoutCodes ((paint true colour label).toList ++ rest)
      = label.toList ++ withoutCodes later := by rw [hpainted, hrest]
    _ = withoutCodes ((paint false colour label).toList ++ later) := by
      rw [paint, if_neg Bool.false_ne_true, withoutCodes_append_of_notMem hlabel]

theorem isPlain_toString (n : Nat) : IsPlain (toString n) := by
  intro hescape
  have hdigit := Decimal.isDigit_of_mem_toString hescape
  exact absurd hdigit (by decide)

theorem Verdict.isPlain_icon (verdict : Verdict) : IsPlain verdict.icon := by
  cases verdict <;> decide

theorem Verdict.isPlain_label (verdict : Verdict) : IsPlain verdict.label := by
  cases verdict <;> decide

variable {σ : Type}

/-! ### Reports with and without colours -/

theorem differInCodes_headline (execution : Execution σ) :
    DifferInCodes (headlineText true execution ++ "\n") (headlineText false execution ++ "\n") := by
  let ending : String := ": " ++ execution.diagnosis.group ++ "/" ++ execution.diagnosis.kind ++
    "/" ++ execution.diagnosis.name ++
    (headline execution.diagnosis).1.elim "" fun shown =>
      " [" ++ shown.reason ++ "] " ++ shown.message
  have hparts (coloured : Bool) : headlineText coloured execution ++ "\n" =
      ((verdict execution).icon ++ " ") ++
        (paint coloured (verdict execution).colour (verdict execution).label ++
          (ending ++ "\n")) := by
    simp only [ending, headlineText_eq, String.append_assoc]
  have hspace : IsClosed " " := by decide
  have hlabel := differInCodes_paint (verdict execution).isPlain_label (verdict execution).colour
  rw [hparts, hparts]
  exact (hspace.append _).differInCodes.append (hlabel.append (isClosed_line ending).differInCodes)

theorem differInCodes_lines (lines : List String) :
    DifferInCodes (String.join (lines.map (· ++ "\n"))) (String.join (lines.map (· ++ "\n"))) := by
  induction lines with
  | nil => exact .empty
  | cons line lines ih =>
      rw [List.map_cons, String.join_cons]
      exact (isClosed_line line).differInCodes.append ih

theorem differInCodes_block (execution : Execution σ) :
    DifferInCodes (String.join ((block true execution).map (· ++ "\n")))
      (String.join ((block false execution).map (· ++ "\n"))) := by
  rw [block, block, List.map_cons, List.map_cons, String.join_cons, String.join_cons]
  exact (differInCodes_headline execution).append (differInCodes_lines _)

theorem differInCodes_blocks (executions : List (Execution σ)) :
    DifferInCodes (String.join ((executions.map (block true)).flatten.map (· ++ "\n")))
      (String.join ((executions.map (block false)).flatten.map (· ++ "\n"))) := by
  induction executions with
  | nil => exact .empty
  | cons execution executions ih =>
      simp only [List.map_cons, List.flatten_cons, List.map_append, String.join_append]
      exact (differInCodes_block execution).append ih

theorem differInCodes_summary (summary : Summary) :
    DifferInCodes (summaryText true summary) (summaryText false summary) := by
  have hcount (colour : Colour) (n : Nat) {what : String} (hwhat : IsClosed what) :
      DifferInCodes (", " ++ paint true colour (toString n) ++ " " ++ what)
        (", " ++ paint false colour (toString n) ++ " " ++ what) := by
    have hcomma : IsClosed ", " := by decide
    have hspace : IsClosed " " := by decide
    exact ((hcomma.differInCodes.append (differInCodes_paint (isPlain_toString n) colour)).append
      hspace.differInCodes).append hwhat.differInCodes
  have hrun : IsClosed " checks run" := by decide
  have htotal := (hrun.append ("Summary: " ++ toString summary.total)).differInCodes
  exact (((htotal.append (hcount .green summary.passed (by decide))).append
    (hcount .yellow summary.advisory (by decide))).append
    (hcount .red summary.blocking (by decide))).append (hcount .cyan summary.errors (by decide))

theorem differInCodes_text (executions : List (Execution σ)) :
    DifferInCodes (text true executions) (text false executions) := by
  have hend : IsClosed "\n" := by decide
  have hgap : DifferInCodes (if executions.isEmpty then "" else "\n")
      (if executions.isEmpty then "" else "\n") := by
    split
    · exact .empty
    · exact hend.differInCodes
  rw [text_eq, text_eq]
  exact (((differInCodes_blocks _).append hgap).append (differInCodes_summary _)).append
    hend.differInCodes

/-! ### Reports of texts without codes -/

/-- The texts of a condition that a report shows. -/
def conditionTexts (condition : Condition) : List String :=
  [condition.type, condition.reason, condition.message] ++ condition.remediation.toList

def objectTexts (object : ImpactedObject) : List String :=
  [object.kind, object.name] ++ object.ns?.toList

/-- The texts of an execution that a report shows. -/
def shownTexts (execution : Execution σ) : List String :=
  [execution.diagnosis.group, execution.diagnosis.kind, execution.diagnosis.name] ++
    execution.diagnosis.conditions.flatMap conditionTexts ++
    (execution.problem?.map Problem.message).toList ++
    execution.check.lines?.elim (execution.diagnosis.impacted.flatMap objectTexts)
      fun lines => lines execution.diagnosis

theorem isPlain_append {first second : String} :
    IsPlain (first ++ second) ↔ IsPlain first ∧ IsPlain second := by
  simp only [IsPlain, String.toList_append, List.mem_append, not_or]

theorem isPlain_join {parts : List String} :
    IsPlain (String.join parts) ↔ ∀ part ∈ parts, IsPlain part := by
  induction parts with
  | nil => simp [IsPlain]
  | cons part parts ih => rw [String.join_cons, isPlain_append, ih, List.forall_mem_cons]

theorem isPlain_elim {α : Type} {a? : Option α} {f : α → String} (hf : ∀ a ∈ a?, IsPlain (f a)) :
    IsPlain (a?.elim "" f) := by
  cases a? with
  | none =>
      rw [Option.elim_none]
      decide
  | some a => exact hf a rfl

theorem withoutCodes_eq_self {plain : String} (hplain : IsPlain plain) :
    withoutCodes plain.toList = plain.toList := by
  simpa [withoutCodes] using withoutCodes_append_of_notMem hplain []

theorem isPlain_status_text (status : Status) : IsPlain status.text := by
  cases status <;> decide

theorem isPlain_finding {condition : Condition}
    (htexts : ∀ part ∈ conditionTexts condition, IsPlain part) : IsPlain (finding condition) := by
  have hreason : IsPlain condition.reason := htexts _ (by simp [conditionTexts])
  have hmessage : IsPlain condition.message := htexts _ (by simp [conditionTexts])
  simp only [finding, String.append_assoc, isPlain_append]
  exact ⟨by decide, hreason, by decide, hmessage⟩

theorem isPlain_conditionText {condition : Condition}
    (htexts : ∀ part ∈ conditionTexts condition, IsPlain part) :
    IsPlain (conditionText condition) := by
  have htype : IsPlain condition.type := htexts _ (by simp [conditionTexts])
  simp only [conditionText, String.append_assoc, isPlain_append]
  exact ⟨htype, by decide, isPlain_status_text _, by decide, isPlain_finding htexts⟩

theorem isPlain_objectText {object : ImpactedObject}
    (htexts : ∀ part ∈ objectTexts object, IsPlain part) : IsPlain (objectText object) := by
  have hkind : IsPlain object.kind := htexts _ (by simp [objectTexts])
  have hname : IsPlain object.name := htexts _ (by simp [objectTexts])
  unfold objectText
  cases hns : object.ns? with
  | none =>
      simp only [String.append_assoc, isPlain_append]
      exact ⟨by decide, hkind, by decide, hname⟩
  | some ns =>
      have hplace : IsPlain ns := htexts _ (by simp [objectTexts, hns])
      simp only [String.append_assoc, isPlain_append]
      exact ⟨by decide, hkind, by decide, hplace, by decide, hname⟩

section Execution

variable {execution : Execution σ} (htexts : ∀ part ∈ shownTexts execution, IsPlain part)
include htexts

theorem isPlain_conditionTexts {condition : Condition}
    (hcondition : condition ∈ execution.diagnosis.conditions) :
    ∀ part ∈ conditionTexts condition, IsPlain part := by
  intro part hpart
  refine htexts part ?_
  simp only [shownTexts, List.mem_append, List.mem_flatMap]
  exact .inl (.inl (.inr ⟨condition, hcondition, hpart⟩))

theorem isPlain_headlineText : IsPlain (headlineText false execution) := by
  have hgroup : IsPlain execution.diagnosis.group := htexts _ (by simp [shownTexts])
  have hkind : IsPlain execution.diagnosis.kind := htexts _ (by simp [shownTexts])
  have hname : IsPlain execution.diagnosis.name := htexts _ (by simp [shownTexts])
  simp only [headlineText_eq, paint, Bool.false_eq_true, if_false, String.append_assoc,
    isPlain_append]
  refine ⟨Verdict.isPlain_icon _, by decide, Verdict.isPlain_label _, by decide, hgroup, by decide,
    hkind, by decide, hname, isPlain_elim fun shown hshown => ?_⟩
  have hmem : shown ∈ execution.diagnosis.conditions :=
    (headline_perm execution.diagnosis).mem_iff.mp
      (List.mem_append_left _ (Option.mem_toList.mpr hshown))
  rw [← String.append_assoc, ← String.append_assoc, ← finding_eq, isPlain_append]
  exact ⟨by decide, isPlain_finding (isPlain_conditionTexts htexts hmem)⟩

theorem isPlain_details {line : String} (hline : line ∈ details execution) : IsPlain line := by
  simp only [details, List.mem_append, List.mem_map, List.mem_filterMap, Option.mem_toList,
    Option.map_eq_some_iff] at hline
  rcases hline with ((⟨other, hother, rfl⟩ | ⟨remediation, ⟨condition, hcondition, hsome⟩, rfl⟩) |
    ⟨problem, hproblem, rfl⟩) | hline
  · have hmem : other ∈ execution.diagnosis.conditions :=
      (headline_perm execution.diagnosis).mem_iff.mp (List.mem_append_right _ hother)
    exact isPlain_conditionText (isPlain_conditionTexts htexts hmem)
  · have hremediation : IsPlain remediation :=
      isPlain_conditionTexts htexts hcondition _ (by simp [conditionTexts, hsome])
    exact isPlain_append.mpr ⟨by decide, hremediation⟩
  · have hmessage : IsPlain problem.message := htexts _ (by simp [shownTexts, hproblem])
    exact isPlain_append.mpr ⟨by decide, hmessage⟩
  · cases hlines : execution.check.lines? with
    | some lines =>
        rw [hlines] at hline
        exact htexts line (by simp [shownTexts, hlines, hline])
    | none =>
        rw [hlines, List.mem_map] at hline
        obtain ⟨object, hobject, rfl⟩ := hline
        refine isPlain_objectText fun part hpart => htexts part ?_
        simp only [shownTexts, hlines, Option.elim_none, List.mem_append, List.mem_flatMap]
        exact .inr ⟨object, hobject, hpart⟩

theorem isPlain_block {line : String} (hline : line ∈ block false execution) : IsPlain line := by
  rw [block, List.mem_cons, List.mem_map] at hline
  rcases hline with rfl | ⟨detail, hdetail, rfl⟩
  · exact isPlain_headlineText htexts
  · exact isPlain_append.mpr ⟨by decide, isPlain_details htexts hdetail⟩

end Execution

theorem isPlain_summaryText (summary : Summary) : IsPlain (summaryText false summary) := by
  simp only [summaryText, paint, Bool.false_eq_true, if_false, isPlain_append]
  simp only [isPlain_toString, and_true]
  decide

theorem isPlain_text {executions : List (Execution σ)}
    (htexts : ∀ execution ∈ executions, ∀ part ∈ shownTexts execution, IsPlain part) :
    IsPlain (text false executions) := by
  rw [text, isPlain_join]
  intro part hpart
  obtain ⟨line, hline, rfl⟩ := List.mem_map.mp hpart
  refine isPlain_append.mpr ⟨?_, by decide⟩
  rw [lines, List.mem_append, List.mem_append, List.mem_flatMap, List.mem_singleton] at hline
  rcases hline with (⟨execution, hexecution, hline⟩ | hline) | rfl
  · exact isPlain_block (htexts execution (List.mem_mergeSort.mp hexecution)) hline
  · cases hempty : executions.isEmpty with
    | true => simp [hempty] at hline
    | false =>
        rw [hempty, if_neg Bool.false_ne_true, List.mem_singleton] at hline
        exact hline ▸ by decide
  · exact isPlain_summaryText _

/-- Coloured or not, a report is the same without its codes; and if no text that it shows has the
character that codes begin with, then leaving out the codes takes nothing but the colours from it.
-/
theorem withoutCodes_text (executions : List (Execution σ)) :
    withoutCodes (text true executions).toList = withoutCodes (text false executions).toList ∧
    ((∀ execution ∈ executions, ∀ part ∈ shownTexts execution, IsPlain part) →
      withoutCodes (text true executions).toList = (text false executions).toList) := by
  have hcodes := (differInCodes_text executions).withoutCodes_eq
  refine ⟨hcodes, fun htexts => ?_⟩
  calc
    withoutCodes (text true executions).toList
      = withoutCodes (text false executions).toList := hcodes
    _ = (text false executions).toList := withoutCodes_eq_self (isPlain_text htexts)

/-- The text of a code without its first character stays. -/
theorem withoutCodes_text_remainder :
    let execution : Execution Unit :=
      { check := default
        diagnosis :=
          { group := "component", kind := "kserve", name := "removal",
            conditions := [{ type := "Ready", status := .fails, reason := "Found",
                             message := "[31m", time := default, remediation := "[0m" }] } }
    (∀ part ∈ shownTexts execution, IsPlain part) ∧
      withoutCodes (text true [execution]).toList = (text false [execution]).toList := by
  intro execution
  have htexts : ∀ part ∈ shownTexts execution, IsPlain part := by decide
  exact ⟨htexts, (withoutCodes_text [execution]).2 (List.forall_mem_singleton.mpr htexts)⟩

end UpgradeGate.Report
