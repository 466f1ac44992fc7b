import Mathlib.Data.List.Induction
import Mathlib.Data.List.Nodup
import UpgradeGate.Check.Basic
import UpgradeGate.Diagnosis.Basic

/-!
# Conditions set one after the other

A diagnosis has room for one condition of each type. Setting a condition replaces the one of its
type where it stands, so that after any number of them the last one of each type is left, in the
place that the first one took.
-/

namespace UpgradeGate.Diagnosis

variable {condition : Condition} {conditions : List Condition}

/-! ### One condition -/

theorem upsert_append {front later : List Condition} {old : Condition}
    (hold : old.type = condition.type) (hfront : ∀ other ∈ front, other.type ≠ condition.type) :
    upsert condition (front ++ old :: later) = front ++ condition :: later := by
  induction front with
  | nil => rw [List.nil_append, upsert, if_pos hold, List.nil_append]
  | cons other front ih =>
      rw [List.forall_mem_cons] at hfront
      rw [List.cons_append, upsert, if_neg hfront.1, ih hfront.2, List.cons_append]

theorem upsert_of_forall_ne (hnew : ∀ other ∈ conditions, other.type ≠ condition.type) :
    upsert condition conditions = conditions ++ [condition] := by
  induction conditions with
  | nil => rfl
  | cons other conditions ih =>
      rw [List.forall_mem_cons] at hnew
      rw [upsert, if_neg hnew.1, ih hnew.2, List.cons_append]

/-- The first condition of a type, if there is one. -/
theorem exists_first_or_forall_ne (type : String) (conditions : List Condition) :
    (∃ front old later, conditions = front ++ old :: later ∧ old.type = type ∧
      ∀ other ∈ front, other.type ≠ type) ∨ ∀ other ∈ conditions, other.type ≠ type := by
  cases hfound : conditions.find? fun other => other.type = type with
  | none => exact .inr fun other hother => by simpa using List.find?_eq_none.mp hfound other hother
  | some old =>
      obtain ⟨htype, front, later, hsplit, hfront⟩ := List.find?_eq_some_iff_append.mp hfound
      exact .inl ⟨front, old, later, hsplit, by simpa using htype, by simpa using hfront⟩

/-- The first condition of the type is replaced where it stands. If there is none, the condition
comes last. -/
inductive Upserts (condition : Condition) : List Condition → List Condition → Prop
  | replaced {front later : List Condition} {old : Condition} (hold : old.type = condition.type)
    (hfront : ∀ other ∈ front, other.type ≠ condition.type) :
    Upserts condition (front ++ old :: later) (front ++ condition :: later)
  | added {conditions : List Condition}
    (hnew : ∀ other ∈ conditions, other.type ≠ condition.type) :
    Upserts condition conditions (conditions ++ [condition])

theorem upserts_upsert (condition : Condition) (conditions : List Condition) :
    Upserts condition conditions (upsert condition conditions) := by
  rcases exists_first_or_forall_ne condition.type conditions with
    ⟨front, old, later, rfl, hold, hfront⟩ | hnew
  · rw [upsert_append hold hfront]
    exact .replaced hold hfront
  · rw [upsert_of_forall_ne hnew]
    exact .added hnew

/-- A type that has come up keeps its place among the types, and a new one takes the last. -/
theorem map_type_upsert (condition : Condition) (conditions : List Condition) :
    (upsert condition conditions).map (·.type) =
      if condition.type ∈ conditions.map (·.type) then conditions.map (·.type)
      else conditions.map (·.type) ++ [condition.type] := by
  rcases exists_first_or_forall_ne condition.type conditions with
    ⟨front, old, later, rfl, hold, hfront⟩ | hnew
  · rw [upsert_append hold hfront, if_pos (by simp [hold])]
    simp [hold]
  · rw [upsert_of_forall_ne hnew, if_neg (by simpa using hnew)]
    simp

theorem find?_upsert (condition : Condition) (conditions : List Condition) (type : String) :
    ((upsert condition conditions).find? fun other => other.type = type) =
      if condition.type = type then some condition
      else conditions.find? fun other => other.type = type := by
  induction conditions with
  | nil => by_cases htype : condition.type = type <;> simp [upsert, htype]
  | cons other conditions ih =>
      rw [upsert]
      by_cases hother : other.type = condition.type
      · by_cases htype : condition.type = type <;> simp [hother, htype]
      · rw [if_neg hother, List.find?_cons, List.find?_cons, ih]
        by_cases htype : other.type = type
        · have hne : condition.type ≠ type := fun hsame => hother (htype.trans hsame.symm)
          simp [htype, hne]
        · simp [htype]

/-! ### Many conditions -/

/-- The diagnosis after the conditions have been set, one after the other. -/
def setConditions (given : List Condition) (diagnosis : Diagnosis) : Diagnosis :=
  given.foldl (fun diagnosis condition => diagnosis.setCondition condition) diagnosis

theorem setConditions_concat (given : List Condition) (condition : Condition)
    (diagnosis : Diagnosis) : diagnosis.setConditions (given ++ [condition]) =
      (diagnosis.setConditions given).setCondition condition := by
  rw [setConditions, List.foldl_append]
  rfl

/-- The condition is given, and none of its type after it. -/
def IsLastOf (given : List Condition) (condition : Condition) : Prop :=
  ∃ front later, given = front ++ condition :: later ∧
    ∀ other ∈ later, other.type ≠ condition.type

theorem find?_reverse_eq_some_iff {given : List Condition} {type : String} :
    (given.reverse.find? fun other => other.type = type) = some condition ↔
      condition.type = type ∧ IsLastOf given condition := by
  rw [List.find?_eq_some_iff_append, decide_eq_true_eq]
  refine and_congr_right fun htype => ?_
  subst htype
  constructor
  · rintro ⟨later, front, hsplit, hlater⟩
    refine ⟨front.reverse, later.reverse, ?_, by simpa using hlater⟩
    rw [← List.reverse_reverse given, hsplit]
    simp
  · rintro ⟨front, later, rfl, hlater⟩
    exact ⟨later.reverse, front.reverse, by simp, by simpa using hlater⟩

section Run

variable {diagnosis : Diagnosis} (hempty : diagnosis.conditions = [])

include hempty

/-- The types that are left are the ones given. -/
theorem mem_types_setConditions {given : List Condition} {type : String} :
    type ∈ (diagnosis.setConditions given).conditions.map (·.type) ↔
      type ∈ given.map (·.type) := by
  induction given using List.reverseRecOn with
  | nil => rw [setConditions, List.foldl_nil, hempty]
  | append_singleton given condition ih =>
      rw [setConditions_concat, setCondition, map_type_upsert, List.map_append, List.mem_append,
        ← ih]
      split
      · next hmem =>
        refine ⟨.inl, ?_⟩
        rintro (hold | hnew)
        · exact hold
        · rwa [List.mem_singleton.mp hnew]
      · exact List.mem_append

/-- A type that came up earlier stands before one that came up later. -/
theorem pairwise_idxOf_setConditions (given : List Condition) :
    ((diagnosis.setConditions given).conditions.map (·.type)).Pairwise fun first second =>
      (given.map (·.type)).idxOf first < (given.map (·.type)).idxOf second := by
  induction given using List.reverseRecOn with
  | nil =>
      rw [setConditions, List.foldl_nil, hempty]
      exact .nil
  | append_singleton given condition ih =>
      -- What stands further on does not change where a type came up first.
      have hplace : ∀ type ∈ (diagnosis.setConditions given).conditions.map (·.type),
          ((given ++ [condition]).map (·.type)).idxOf type =
            (given.map (·.type)).idxOf type := by
        intro type htype
        rw [List.map_append, List.idxOf_append_of_mem ((mem_types_setConditions hempty).mp htype)]
      have hold : ((diagnosis.setConditions given).conditions.map (·.type)).Pairwise
          fun first second => ((given ++ [condition]).map (·.type)).idxOf first <
            ((given ++ [condition]).map (·.type)).idxOf second := by
        refine ih.imp_of_mem fun hfirst hsecond hlt => ?_
        rwa [hplace _ hfirst, hplace _ hsecond]
      rw [setConditions_concat, setCondition, map_type_upsert]
      split
      · exact hold
      · next hnew =>
        refine List.pairwise_append.mpr ⟨hold, List.pairwise_singleton _ _, ?_⟩
        intro first hfirst second hsecond
        rw [List.mem_singleton.mp hsecond, hplace _ hfirst, List.map_append,
          List.idxOf_append_of_notMem fun hmem => hnew ((mem_types_setConditions hempty).mpr hmem)]
        have hlt := List.idxOf_lt_length_of_mem ((mem_types_setConditions hempty).mp hfirst)
        omega

theorem condition?_setConditions (given : List Condition) (type : String) :
    (diagnosis.setConditions given).condition? type =
      given.reverse.find? fun other => other.type = type := by
  unfold condition?
  induction given using List.reverseRecOn with
  | nil => rw [setConditions, List.foldl_nil, hempty, List.reverse_nil]
  | append_singleton given condition ih =>
      rw [setConditions_concat, setCondition, find?_upsert, ih, List.reverse_append,
        List.reverse_singleton, List.singleton_append, List.find?_cons]
      by_cases htype : condition.type = type <;> simp [htype]

end Run

theorem setConditions_eq (given : List Condition) (diagnosis : Diagnosis) :
    diagnosis.setConditions given =
      { diagnosis with conditions := (diagnosis.setConditions given).conditions } := by
  induction given using List.reverseRecOn with
  | nil => rfl
  | append_singleton given condition ih =>
      rw [setConditions_concat, setCondition]
      rw [ih]

/-- Of conditions with different types, each is the one that its type leads to. -/
theorem find?_type_of_mem (hdistinct : (conditions.map (·.type)).Nodup)
    (hmem : condition ∈ conditions) :
    (conditions.find? fun other => other.type = condition.type) = some condition := by
  obtain ⟨found, hfound⟩ : ∃ found, (conditions.find? fun other =>
      other.type = condition.type) = some found := by
    rw [← Option.isSome_iff_exists, List.find?_isSome]
    exact ⟨condition, hmem, by simp⟩
  have htype : found.type = condition.type := by simpa using List.find?_some hfound
  have hsame : found = condition :=
    List.inj_on_of_nodup_map hdistinct (List.mem_of_find?_eq_some hfound) hmem htype
  rw [hfound, hsame]

/-- What conditions that were given one after the other leave in a diagnosis that had none. -/
structure KeepsLast (given : List Condition) (before after : Diagnosis) : Prop where
  /-- Nothing but the conditions changes. -/
  unchanged : after = { before with conditions := after.conditions }
  distinct : (after.conditions.map (·.type)).Nodup
  /-- The types stand in the order in which they first came up. -/
  ordered : (after.conditions.map (·.type)).Pairwise fun first second =>
    (given.map (·.type)).idxOf first < (given.map (·.type)).idxOf second
  mem_iff : ∀ condition, condition ∈ after.conditions ↔ IsLastOf given condition
  condition?_eq_some_iff : ∀ type condition, after.condition? type = some condition ↔
    condition.type = type ∧ IsLastOf given condition
  condition?_eq_none_iff : ∀ type, after.condition? type = none ↔
    ∀ condition ∈ given, condition.type ≠ type

theorem keepsLast_setConditions {diagnosis : Diagnosis} (hempty : diagnosis.conditions = [])
    (given : List Condition) : KeepsLast given diagnosis (diagnosis.setConditions given) := by
  have hordered := pairwise_idxOf_setConditions hempty given
  have hdistinct : ((diagnosis.setConditions given).conditions.map (·.type)).Nodup :=
    hordered.imp fun {first second} hlt (hsame : first = second) =>
      Nat.lt_irrefl _ (hsame ▸ hlt)
  have hsome : ∀ type condition, (diagnosis.setConditions given).condition? type = some condition ↔
      condition.type = type ∧ IsLastOf given condition := by
    intro type condition
    rw [condition?_setConditions hempty, find?_reverse_eq_some_iff]
  refine ⟨setConditions_eq given diagnosis, hdistinct, hordered, ?_, hsome, ?_⟩
  · intro condition
    constructor
    · intro hmem
      exact ((hsome condition.type condition).mp (find?_type_of_mem hdistinct hmem)).2
    · intro hlast
      exact List.mem_of_find?_eq_some ((hsome condition.type condition).mpr ⟨rfl, hlast⟩)
  · intro type
    rw [condition?_setConditions hempty, List.find?_eq_none]
    simp

/-- In a diagnosis without conditions, any series of conditions leaves the last one of each type, in
the order in which the types first came up, and leaves all else as it was. In any diagnosis, also
one with several conditions of a type, one condition takes the place of the first one of its type or
comes last, and is then the one that its type leads to. -/
theorem conditions_keep_last (diagnosis : Diagnosis) :
    (diagnosis.conditions = [] → ∀ given : List Condition,
      KeepsLast given diagnosis (diagnosis.setConditions given)) ∧
    ∀ condition : Condition,
      (∃ after, Upserts condition diagnosis.conditions after ∧
        diagnosis.setCondition condition = { diagnosis with conditions := after }) ∧
      (diagnosis.setCondition condition).condition? condition.type = some condition := by
  refine ⟨fun hempty given => keepsLast_setConditions hempty given, fun condition => ⟨?_, ?_⟩⟩
  · exact ⟨_, upserts_upsert condition diagnosis.conditions, rfl⟩
  · rw [condition?, setCondition, find?_upsert, if_pos rfl]

/-- A condition without a type, set twice, stays in front of the one that was set between. -/
theorem conditions_keep_last_untyped :
    let diagnosis := (CheckIdentity.of .component "kserve" "removal" "" "").diagnosis
    let condition (type reason : String) : Condition :=
      { type, status := .fails, reason, message := "", time := default }
    let given := [condition "" "First", condition "Available" "Found", condition "" "Second"]
    KeepsLast given diagnosis (diagnosis.setConditions given) ∧
      (diagnosis.setConditions given).conditions =
        [condition "" "Second", condition "Available" "Found"] := by
  intro diagnosis condition given
  exact ⟨(conditions_keep_last diagnosis).1 rfl given, rfl⟩

end UpgradeGate.Diagnosis
