import UpgradeGate.Proofs.Diagnosis.AnnotationKey
import UpgradeGate.Proofs.Diagnosis.Soundness
import UpgradeGate.Proofs.Text

/-!
# The first flaw of a diagnosis

A diagnosis without a flaw has all that is asked of it: a name in three parts, a condition or more,
each with a type and a reason, and keys of the grammar. Of several flaws the first is told: those of
the name come before those of the conditions, the conditions are gone through in their order, and of
the keys the least counts.
-/

namespace UpgradeGate

/-- The condition says what it is about and how its status came about. -/
def Condition.IsStated (condition : Condition) : Prop :=
  condition.type ≠ "" ∧ condition.reason ≠ ""

/-- What the condition with the index lacks. That it has no type comes first. -/
inductive Condition.Lacks (condition : Condition) (index : Nat) : Flaw → Prop
  | type (htype : condition.type = "") : Lacks condition index (.emptyConditionType index)
  | reason (htype : condition.type ≠ "") (hreason : condition.reason = "") :
    Lacks condition index (.emptyConditionReason index)

namespace Diagnosis

structure IsNamed (diagnosis : Diagnosis) : Prop where
  group : diagnosis.group ≠ ""
  kind : diagnosis.kind ≠ ""
  name : diagnosis.name ≠ ""

/-- All that is asked of a diagnosis. -/
structure IsFlawless (diagnosis : Diagnosis) : Prop where
  named : diagnosis.IsNamed
  ne_nil : diagnosis.conditions ≠ []
  stated : ∀ condition ∈ diagnosis.conditions, condition.IsStated
  keys : ∀ key ∈ diagnosis.annotations.keys, AnnotationKey.IsKey key.toList

/-- The flaw is one of the diagnosis, and what comes before it in the order of flaws is in order. -/
inductive HasFirst (diagnosis : Diagnosis) : Flaw → Prop
  | emptyGroup (hgroup : diagnosis.group = "") : HasFirst diagnosis .emptyGroup
  | emptyKind (hgroup : diagnosis.group ≠ "") (hkind : diagnosis.kind = "") :
    HasFirst diagnosis .emptyKind
  | emptyName (hgroup : diagnosis.group ≠ "") (hkind : diagnosis.kind ≠ "")
    (hname : diagnosis.name = "") : HasFirst diagnosis .emptyName
  | noConditions (hnamed : diagnosis.IsNamed) (hnil : diagnosis.conditions = []) :
    HasFirst diagnosis .noConditions
  /-- The first condition that lacks something. -/
  | condition (hnamed : diagnosis.IsNamed) {front later : List Condition} {condition : Condition}
    {flaw : Flaw} (hsplit : diagnosis.conditions = front ++ condition :: later)
    (hfront : ∀ other ∈ front, other.IsStated) (hlacks : condition.Lacks front.length flaw) :
    HasFirst diagnosis flaw
  /-- The key that is least as bytes among those that are not of the grammar. -/
  | invalidAnnotationKey (hnamed : diagnosis.IsNamed) (hne : diagnosis.conditions ≠ [])
    (hstated : ∀ condition ∈ diagnosis.conditions, condition.IsStated) {key : String}
    (hmem : key ∈ diagnosis.annotations.keys) (hkey : ¬ AnnotationKey.IsKey key.toList)
    (hleast : ∀ other ∈ diagnosis.annotations.keys, ¬ AnnotationKey.IsKey other.toList →
      Text.bytes key ≤ Text.bytes other) :
    HasFirst diagnosis (.invalidAnnotationKey key)

variable {diagnosis : Diagnosis} {flaw : Flaw}

/-! ### Conditions -/

theorem conditionFlaw?_cons_of_isStated {condition : Condition} (hstated : condition.IsStated)
    (index : Nat) (later : List Condition) :
    conditionFlaw? index (condition :: later) = conditionFlaw? (index + 1) later := by
  obtain ⟨htype, hreason⟩ := hstated
  simp [conditionFlaw?, htype, hreason]

theorem conditionFlaw?_cons_of_lacks {condition : Condition} {index : Nat}
    (hlacks : condition.Lacks index flaw) (later : List Condition) :
    conditionFlaw? index (condition :: later) = some flaw := by
  cases hlacks with
  | type htype => simp [conditionFlaw?, htype]
  | reason htype hreason => simp [conditionFlaw?, htype, hreason]

theorem exists_lacks_of_not_isStated {condition : Condition} (hstated : ¬ condition.IsStated)
    (index : Nat) : ∃ flaw, condition.Lacks index flaw := by
  by_cases htype : condition.type = ""
  · exact ⟨_, .type htype⟩
  · have hreason : condition.reason = "" := by
      by_contra hreason
      exact hstated ⟨htype, hreason⟩
    exact ⟨_, .reason htype hreason⟩

/-- The conditions are gone through up to the first that lacks something. -/
theorem conditionFlaw?_eq_some_iff (index : Nat) (conditions : List Condition) :
    conditionFlaw? index conditions = some flaw ↔
      ∃ front condition later, conditions = front ++ condition :: later ∧
        (∀ other ∈ front, other.IsStated) ∧ condition.Lacks (index + front.length) flaw := by
  constructor
  · intro hflaw
    induction conditions generalizing index with
    | nil => cases hflaw
    | cons condition conditions ih =>
        by_cases hstated : condition.IsStated
        · rw [conditionFlaw?_cons_of_isStated hstated] at hflaw
          obtain ⟨front, first, later, rfl, hfront, hlacks⟩ := ih (index + 1) hflaw
          refine ⟨condition :: front, first, later, rfl, ?_, ?_⟩
          · exact List.forall_mem_cons.mpr ⟨hstated, hfront⟩
          · rwa [List.length_cons, Nat.add_comm front.length, ← Nat.add_assoc]
        · obtain ⟨lacked, hlacks⟩ := exists_lacks_of_not_isStated hstated index
          rw [conditionFlaw?_cons_of_lacks hlacks] at hflaw
          exact ⟨[], condition, conditions, rfl, List.forall_mem_nil _,
            Option.some.inj hflaw ▸ hlacks⟩
  · rintro ⟨front, condition, later, rfl, hfront, hlacks⟩
    induction front generalizing index with
    | nil => exact conditionFlaw?_cons_of_lacks hlacks later
    | cons first front ih =>
        rw [List.forall_mem_cons] at hfront
        rw [List.cons_append, conditionFlaw?_cons_of_isStated hfront.1]
        refine ih (index + 1) hfront.2 ?_
        rwa [List.length_cons, Nat.add_comm front.length, ← Nat.add_assoc] at hlacks

/-! ### Keys -/

/-- The keys stand in the order of their bytes, so that the first of a kind is the least. -/
theorem find?_keys_eq_some_iff (annotations : Dict String) (key : String) :
    (annotations.keys.find? fun key => !AnnotationKey.isValid key) = some key ↔
      key ∈ annotations.keys ∧ ¬ AnnotationKey.IsKey key.toList ∧
        ∀ other ∈ annotations.keys, ¬ AnnotationKey.IsKey other.toList →
          Text.bytes key ≤ Text.bytes other := by
  have hinvalid : ∀ key : String, (!AnnotationKey.isValid key) = true ↔
      ¬ AnnotationKey.IsKey key.toList := fun key => by
    rw [Bool.not_eq_true', Bool.eq_false_iff, ne_eq, AnnotationKey.isValid_eq_true_iff]
  rw [List.find?_eq_some_iff_append, hinvalid]
  constructor
  · rintro ⟨hkey, front, later, hsplit, hfront⟩
    have hsorted : (front ++ key :: later).Pairwise (· < ·) := hsplit ▸ annotations.sorted
    refine ⟨hsplit ▸ by simp, hkey, fun other hother hne => ?_⟩
    rw [hsplit, List.mem_append, List.mem_cons] at hother
    rcases hother with hother | rfl | hother
    · have hvalid := hfront other hother
      rw [(hinvalid other).mpr hne] at hvalid
      cases hvalid
    · exact List.le_refl _
    · have hlt := (List.pairwise_cons.mp (List.pairwise_append.mp hsorted).2.1).1 other hother
      exact List.le_of_lt (Text.bytes_lt_bytes hlt)
  · rintro ⟨hmem, hkey, hleast⟩
    obtain ⟨front, later, hsplit⟩ := List.append_of_mem hmem
    have hsorted : (front ++ key :: later).Pairwise (· < ·) := hsplit ▸ annotations.sorted
    refine ⟨hkey, front, later, hsplit, fun other hother => ?_⟩
    by_contra hvalid
    have hne := (hinvalid other).mp (by simpa using hvalid)
    have hlt := (List.pairwise_append.mp hsorted).2.2 other hother key List.mem_cons_self
    exact absurd (Text.bytes_lt_bytes hlt)
      (List.not_lt.mpr (hleast other (hsplit ▸ List.mem_append_left _ hother) hne))

/-! ### The whole diagnosis -/

theorem flaw?_eq_none_iff_isFlawless : diagnosis.flaw? = none ↔ diagnosis.IsFlawless := by
  rw [flaw?_eq_none_iff]
  constructor
  · rintro ⟨⟨hgroup, hkind, hname, hstated, hkeys⟩, hne⟩
    exact ⟨⟨hgroup, hkind, hname⟩, hne, hstated, fun key hkey =>
      AnnotationKey.isValid_eq_true_iff.mp (hkeys key hkey)⟩
  · rintro ⟨⟨hgroup, hkind, hname⟩, hne, hstated, hkeys⟩
    exact ⟨⟨hgroup, hkind, hname, hstated, fun key hkey =>
      AnnotationKey.isValid_eq_true_iff.mpr (hkeys key hkey)⟩, hne⟩

theorem HasFirst.flaw?_eq (hfirst : diagnosis.HasFirst flaw) : diagnosis.flaw? = some flaw := by
  cases hfirst with
  | emptyGroup hgroup => simp [flaw?, hgroup]
  | emptyKind hgroup hkind => simp [flaw?, hgroup, hkind]
  | emptyName hgroup hkind hname => simp [flaw?, hgroup, hkind, hname]
  | noConditions hnamed hnil => simp [flaw?, hnamed.group, hnamed.kind, hnamed.name, hnil]
  | condition hnamed hsplit hfront hlacks =>
      have hflaw : conditionFlaw? 0 diagnosis.conditions = some flaw :=
        (conditionFlaw?_eq_some_iff 0 _).mpr
          ⟨_, _, _, hsplit, hfront, by rwa [Nat.zero_add]⟩
      have hne : diagnosis.conditions ≠ [] := by simp [hsplit]
      simp [flaw?, hnamed.group, hnamed.kind, hnamed.name, hne, hflaw]
  | invalidAnnotationKey hnamed hne hstated hmem hkey hleast =>
      have hfind := (find?_keys_eq_some_iff diagnosis.annotations _).mpr ⟨hmem, hkey, hleast⟩
      simp [flaw?, hnamed.group, hnamed.kind, hnamed.name, hne,
        (conditionFlaw?_eq_none_iff 0 _).mpr hstated, hfind]

theorem hasFirst_of_flaw? (hflaw : diagnosis.flaw? = some flaw) : diagnosis.HasFirst flaw := by
  unfold flaw? at hflaw
  split at hflaw
  · next hgroup =>
    cases hflaw
    exact .emptyGroup (by simpa using hgroup)
  next hgroup =>
  have hgroup : diagnosis.group ≠ "" := by simpa using hgroup
  split at hflaw
  · next hkind =>
    cases hflaw
    exact .emptyKind hgroup (by simpa using hkind)
  next hkind =>
  have hkind : diagnosis.kind ≠ "" := by simpa using hkind
  split at hflaw
  · next hname =>
    cases hflaw
    exact .emptyName hgroup hkind (by simpa using hname)
  next hname =>
  have hnamed : diagnosis.IsNamed := ⟨hgroup, hkind, by simpa using hname⟩
  split at hflaw
  · next hnil =>
    cases hflaw
    exact .noConditions hnamed (by simpa using hnil)
  next hne =>
  split at hflaw
  · next lacked hcondition =>
    cases hflaw
    obtain ⟨front, condition, later, hsplit, hfront, hlacks⟩ :=
      (conditionFlaw?_eq_some_iff 0 _).mp hcondition
    exact .condition hnamed hsplit hfront (by rwa [Nat.zero_add] at hlacks)
  next hcondition =>
  obtain ⟨key, hfind, rfl⟩ := Option.map_eq_some_iff.mp hflaw
  obtain ⟨hmem, hkey, hleast⟩ := (find?_keys_eq_some_iff _ _).mp hfind
  exact .invalidAnnotationKey hnamed (by simpa using hne)
    ((conditionFlaw?_eq_none_iff 0 _).mp hcondition) hmem hkey hleast

/-- A diagnosis has no flaw exactly if it has all that is asked of it. If it has one, the one told
is the first. A diagnosis without a flaw gets none from a condition that is stated, nor from a key
of the grammar. -/
theorem flaw?_tells_first (diagnosis : Diagnosis) :
    (diagnosis.flaw? = none ↔ diagnosis.IsFlawless) ∧
    (∀ flaw, diagnosis.flaw? = some flaw ↔ diagnosis.HasFirst flaw) ∧
    (diagnosis.flaw? = none →
      (∀ condition : Condition, condition.IsStated →
        (diagnosis.setCondition condition).flaw? = none) ∧
      ∀ key value : String, AnnotationKey.IsKey key.toList →
        (diagnosis.annotate key value).flaw? = none) := by
  refine ⟨flaw?_eq_none_iff_isFlawless, fun flaw => ⟨hasFirst_of_flaw?, HasFirst.flaw?_eq⟩, ?_⟩
  intro hnone
  obtain ⟨hdraft, hne⟩ := (flaw?_eq_none_iff diagnosis).mp hnone
  constructor
  · rintro condition ⟨htype, hreason⟩
    exact hdraft.flaw?_setCondition htype hreason
  · intro key value hkey
    have hvalid := AnnotationKey.isValid_eq_true_iff.mpr hkey
    exact (flaw?_eq_none_iff _).mpr ⟨hdraft.annotate hvalid value, hne⟩

/-- Of a condition that has neither a type nor a reason the missing type is told. -/
theorem flaw?_tells_first_untyped :
    let condition (type reason : String) : Condition :=
      { type, status := .holds, reason, message := "", time := default }
    let diagnosis : Diagnosis :=
      { group := "component", kind := "kserve", name := "removal",
        conditions := [condition "Available" "Found"] }
    diagnosis.flaw? = none ∧
      (diagnosis.setCondition (condition "Validated" "Found")).flaw? = none ∧
      (diagnosis.annotate "a.b/c" "").flaw? = none ∧
      (diagnosis.setCondition (condition "" "")).HasFirst (.emptyConditionType 1) := by
  intro condition diagnosis
  have hnone : diagnosis.flaw? = none := by decide +kernel
  obtain ⟨hset, hannotated⟩ := (flaw?_tells_first diagnosis).2.2 hnone
  refine ⟨hnone, hset _ ⟨by decide, by decide⟩, hannotated _ _ ?_, ?_⟩
  · exact AnnotationKey.isValid_eq_true_iff.mp (by decide +kernel)
  · exact ((flaw?_tells_first _).2.1 _).mp (by decide +kernel)

end Diagnosis

end UpgradeGate
