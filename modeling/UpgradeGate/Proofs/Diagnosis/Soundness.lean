import UpgradeGate.Check.Basic
import UpgradeGate.Diagnosis.Basic

/-!
# Sound diagnoses

A diagnosis has no flaw exactly if it is a draft that has come to some condition. What checks do to
a diagnosis keeps it a draft, and the first condition makes it sound. The impact of a diagnosis is
at least of some weight exactly if that of one of its conditions is.
-/

namespace UpgradeGate

/-! ### Weights -/

namespace Impact

theorem le_weight_max_iff (weight : Nat) (a b : Impact) :
    weight ≤ (a.max b).weight ↔ weight ≤ a.weight ∨ weight ≤ b.weight := by
  unfold max
  split <;> omega

theorem weight_injective : Function.Injective weight := by
  intro a b
  cases a <;> cases b <;> decide

end Impact

namespace Diagnosis

theorem le_weight_foldl_iff (weight : Nat) (start : Impact) (conditions : List Condition) :
    weight ≤ (conditions.foldl (fun impact c => impact.max c.impact) start).weight ↔
      weight ≤ start.weight ∨ ∃ condition ∈ conditions, weight ≤ condition.impact.weight := by
  induction conditions generalizing start with
  | nil => simp
  | cons condition conditions ih =>
      rw [List.foldl_cons, ih, Impact.le_weight_max_iff, or_assoc]
      simp only [List.mem_cons, exists_eq_or_imp]

theorem le_weight_impact_iff {weight : Nat} (hweight : 0 < weight) (diagnosis : Diagnosis) :
    weight ≤ diagnosis.impact.weight ↔
      ∃ condition ∈ diagnosis.conditions, weight ≤ condition.impact.weight := by
  have hnone : ¬ weight ≤ Impact.none.weight := Nat.not_le_of_lt hweight
  rw [impact, le_weight_foldl_iff, or_iff_right hnone]

theorem weight_le_weight_impact {diagnosis : Diagnosis} {condition : Condition}
    (hmem : condition ∈ diagnosis.conditions) :
    condition.impact.weight ≤ diagnosis.impact.weight := by
  rcases Nat.eq_zero_or_pos condition.impact.weight with hzero | hpos
  · exact hzero ▸ Nat.zero_le _
  · exact (le_weight_impact_iff hpos diagnosis).mpr ⟨condition, hmem, Nat.le_refl _⟩

/-- The impact of a diagnosis is that of one of its conditions. -/
theorem exists_impact_eq {diagnosis : Diagnosis} (hne : diagnosis.conditions ≠ []) :
    ∃ condition ∈ diagnosis.conditions, condition.impact = diagnosis.impact := by
  rcases Nat.eq_zero_or_pos diagnosis.impact.weight with hzero | hpos
  · obtain ⟨condition, hmem⟩ := List.exists_mem_of_ne_nil _ hne
    refine ⟨condition, hmem, Impact.weight_injective ?_⟩
    have hle := weight_le_weight_impact hmem
    omega
  · obtain ⟨condition, hmem, hge⟩ := (le_weight_impact_iff hpos diagnosis).mp (Nat.le_refl _)
    exact ⟨condition, hmem,
      Impact.weight_injective (Nat.le_antisymm (weight_le_weight_impact hmem) hge)⟩

theorem isBlocking_iff (diagnosis : Diagnosis) :
    diagnosis.isBlocking = true ↔
      ∃ condition ∈ diagnosis.conditions, condition.isBlocking = true := by
  have hblocking : ∀ impact : Impact, (impact == .blocking) = true ↔ 2 ≤ impact.weight := by
    intro impact
    cases impact <;> decide
  simp only [isBlocking, Condition.isBlocking, hblocking]
  exact le_weight_impact_iff (by decide) diagnosis

end Diagnosis

/-! ### Drafts -/

namespace Diagnosis

/-- A diagnosis without a flaw, save that it may have no conditions yet. -/
structure IsDraft (diagnosis : Diagnosis) : Prop where
  group : diagnosis.group ≠ ""
  kind : diagnosis.kind ≠ ""
  name : diagnosis.name ≠ ""
  conditions : ∀ condition ∈ diagnosis.conditions, condition.type ≠ "" ∧ condition.reason ≠ ""
  keys : ∀ key ∈ diagnosis.annotations.keys, AnnotationKey.isValid key = true

theorem conditionFlaw?_eq_none_iff (index : Nat) (conditions : List Condition) :
    conditionFlaw? index conditions = none ↔
      ∀ condition ∈ conditions, condition.type ≠ "" ∧ condition.reason ≠ "" := by
  induction conditions generalizing index with
  | nil => simp [conditionFlaw?]
  | cons condition conditions ih =>
      rw [conditionFlaw?, List.forall_mem_cons]
      by_cases htype : condition.type = ""
      · simp [htype]
      · by_cases hreason : condition.reason = ""
        · simp [htype, hreason]
        · simp [htype, hreason, ih]

theorem flaw?_eq_none_iff (diagnosis : Diagnosis) :
    diagnosis.flaw? = none ↔ diagnosis.IsDraft ∧ diagnosis.conditions ≠ [] := by
  have hkeys : (diagnosis.annotations.keys.find? fun key => !AnnotationKey.isValid key) = none ↔
      ∀ key ∈ diagnosis.annotations.keys, AnnotationKey.isValid key = true := by
    simp
  unfold flaw?
  constructor
  · intro hflaw
    split at hflaw
    · cases hflaw
    next hgroup =>
    split at hflaw
    · cases hflaw
    next hkind =>
    split at hflaw
    · cases hflaw
    next hname =>
    split at hflaw
    · cases hflaw
    next hconditions =>
    split at hflaw
    · cases hflaw
    next hcondition =>
    rw [Option.map_eq_none_iff] at hflaw
    exact ⟨⟨by simpa using hgroup, by simpa using hkind, by simpa using hname,
      (conditionFlaw?_eq_none_iff _ _).mp hcondition, hkeys.mp hflaw⟩, by simpa using hconditions⟩
  · rintro ⟨⟨hgroup, hkind, hname, hcondition, hkey⟩, hconditions⟩
    simp [hgroup, hkind, hname, hconditions, (conditionFlaw?_eq_none_iff 0 _).mpr hcondition,
      hkeys.mpr hkey]

theorem mem_upsert {condition other : Condition} {conditions : List Condition}
    (hother : other ∈ upsert condition conditions) : other = condition ∨ other ∈ conditions := by
  induction conditions with
  | nil => exact .inl (List.mem_singleton.mp hother)
  | cons first rest ih =>
      rw [upsert] at hother
      split at hother
      · rcases List.mem_cons.mp hother with rfl | hother
        · exact .inl rfl
        · exact .inr (List.mem_cons_of_mem _ hother)
      · rcases List.mem_cons.mp hother with rfl | hother
        · exact .inr List.mem_cons_self
        · exact (ih hother).imp_right (List.mem_cons_of_mem _)

theorem upsert_ne_nil (condition : Condition) (conditions : List Condition) :
    upsert condition conditions ≠ [] := by
  cases conditions with
  | nil => simp [upsert]
  | cons first rest =>
      rw [upsert]
      split <;> simp

namespace IsDraft

variable {diagnosis : Diagnosis} (hdraft : diagnosis.IsDraft)

include hdraft

theorem annotate {key : String} (hkey : AnnotationKey.isValid key = true) (value : String) :
    (diagnosis.annotate key value).IsDraft where
  group := hdraft.group
  kind := hdraft.kind
  name := hdraft.name
  conditions := hdraft.conditions
  keys := by
    intro other hother
    rcases Dict.mem_keys_insert.mp hother with rfl | hother
    · exact hkey
    · exact hdraft.keys other hother

theorem setImpacted (objects : List ImpactedObject) : (diagnosis.setImpacted objects).IsDraft :=
  ⟨hdraft.group, hdraft.kind, hdraft.name, hdraft.conditions, hdraft.keys⟩

theorem setCondition {condition : Condition} (htype : condition.type ≠ "")
    (hreason : condition.reason ≠ "") : (diagnosis.setCondition condition).IsDraft where
  group := hdraft.group
  kind := hdraft.kind
  name := hdraft.name
  conditions := by
    intro other hother
    rcases mem_upsert hother with rfl | hother
    · exact ⟨htype, hreason⟩
    · exact hdraft.conditions other hother
  keys := hdraft.keys

/-- A draft that gets a condition is sound. -/
theorem flaw?_setCondition {condition : Condition} (htype : condition.type ≠ "")
    (hreason : condition.reason ≠ "") : (diagnosis.setCondition condition).flaw? = none :=
  (flaw?_eq_none_iff _).mpr
    ⟨hdraft.setCondition htype hreason, upsert_ne_nil condition diagnosis.conditions⟩

end IsDraft

theorem conditions_setCondition {diagnosis : Diagnosis} (hconditions : diagnosis.conditions = [])
    (condition : Condition) : (diagnosis.setCondition condition).conditions = [condition] := by
  unfold setCondition
  rw [hconditions]
  rfl

@[simp]
theorem conditions_setImpacted (diagnosis : Diagnosis) (objects : List ImpactedObject) :
    (diagnosis.setImpacted objects).conditions = diagnosis.conditions := rfl

@[simp]
theorem flaw?_setImpacted (diagnosis : Diagnosis) (objects : List ImpactedObject) :
    (diagnosis.setImpacted objects).flaw? = diagnosis.flaw? := rfl

@[simp]
theorem conditions_annotate (diagnosis : Diagnosis) (key value : String) :
    (diagnosis.annotate key value).conditions = diagnosis.conditions := rfl

end Diagnosis

theorem CheckIdentity.isDraft_diagnosis {identity : CheckIdentity} (hkind : identity.kind ≠ "")
    (htype : identity.type ≠ "") : identity.diagnosis.IsDraft where
  group := by
    change identity.group.name ≠ ""
    cases identity.group <;> decide
  kind := hkind
  name := htype
  conditions := by simp [diagnosis]
  keys := by simp [diagnosis, Dict.keys]

/-! ### What checks answer -/

/-- A diagnosis, or why the cluster could not be read. -/
abbrev Answer := Except ReadError Diagnosis

namespace Answer

/-- The diagnosis speaks against the upgrade. -/
def Blocks (answer : Answer) : Prop :=
  ∃ diagnosis, answer = .ok diagnosis ∧ diagnosis.isBlocking = true

def Fails (answer : Answer) : Prop := ∃ error, answer = .error error

/-- The diagnosis has a condition of the kind. -/
def Has (holds : Condition → Prop) (answer : Answer) : Prop :=
  ∃ diagnosis, answer = .ok diagnosis ∧ ∃ condition ∈ diagnosis.conditions, holds condition

/-- The diagnosis, if it is one, has no flaw. -/
def IsSound (answer : Answer) : Prop :=
  ∀ diagnosis, answer = .ok diagnosis → diagnosis.flaw? = none

variable {α : Type}

theorem blocks_iff_has {answer : Answer} :
    answer.Blocks ↔ answer.Has fun condition => condition.isBlocking = true := by
  simp only [Blocks, Has, Diagnosis.isBlocking_iff]

@[simp]
theorem has_ok_iff {holds : Condition → Prop} {diagnosis : Diagnosis} :
    Has holds (.ok diagnosis) ↔ ∃ condition ∈ diagnosis.conditions, holds condition := by
  simp [Has]

@[simp]
theorem not_has_error (holds : Condition → Prop) (error : ReadError) :
    ¬ Has holds (.error error) := by
  simp [Has]

@[simp]
theorem has_map_iff {holds : Condition → Prop} {reading : Except ReadError α}
    {write : α → Diagnosis} :
    Has holds (reading.map write) ↔
      ∃ value, reading = .ok value ∧ ∃ condition ∈ (write value).conditions, holds condition := by
  cases reading <;> simp [Except.map]

@[simp]
theorem not_fails_ok (diagnosis : Diagnosis) : ¬ Fails (.ok diagnosis) := by
  simp [Fails]

@[simp]
theorem fails_error (error : ReadError) : Fails (.error error) := ⟨error, rfl⟩

@[simp]
theorem fails_map_iff {reading : Except ReadError α} {write : α → Diagnosis} :
    Fails (reading.map write) ↔ ∃ error, reading = .error error := by
  cases reading <;> simp [Except.map]

@[simp]
theorem isSound_ok_iff {diagnosis : Diagnosis} :
    IsSound (.ok diagnosis) ↔ diagnosis.flaw? = none := by
  simp [IsSound]

@[simp]
theorem isSound_error (error : ReadError) : IsSound (.error error) := by
  simp [IsSound]

@[simp]
theorem isSound_map_iff {reading : Except ReadError α} {write : α → Diagnosis} :
    IsSound (reading.map write) ↔ ∀ value, reading = .ok value → (write value).flaw? = none := by
  cases reading <;> simp [Except.map]

end Answer

end UpgradeGate
