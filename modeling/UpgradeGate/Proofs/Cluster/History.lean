import Mathlib.Data.List.Induction
import UpgradeGate.Proofs.Cluster.Listing

/-!
# Stores by their history

A store is known by the changes that made it. What it answers for a type hangs on the last failure
that was set for the type, then on whether anything made the type known, and then on the objects
that came, in the order in which they came.
-/

namespace UpgradeGate

/-! ### The type of an object -/

/-- The group is what the object's API version has in front of its last slash, be it nothing; an API
version without a slash is of the group without a name. -/
def Object.HasGroup (group : String) (object : Object) : Prop :=
  (∃ version : String, '/' ∉ version.toList ∧ object.apiVersion = group ++ "/" ++ version) ∨
    ('/' ∉ object.apiVersion.toList ∧ group = "")

/-- The object is of the type, whatever its version. -/
structure Object.IsOf (type : ResourceType) (object : Object) : Prop where
  kind : object.kind = type.kind
  group : object.HasGroup type.group

namespace Object

theorem group_typeKey_eq_iff {object : Object} {group : String} :
    object.typeKey.group = group ↔ object.HasGroup group := by
  unfold typeKey HasGroup
  cases hsplit : Text.splitLast? '/' object.apiVersion.toList with
  | none =>
      have hslash := Text.splitLast?_eq_none_iff.mp hsplit
      constructor
      · rintro rfl
        exact .inr ⟨hslash, rfl⟩
      · rintro (⟨version, _, hversion⟩ | ⟨_, rfl⟩)
        · simp [hversion] at hslash
        · rfl
  | some pieces =>
      obtain ⟨before, after⟩ := pieces
      obtain ⟨htext, hafter⟩ := Text.splitLast?_eq_some hsplit
      constructor
      · rintro rfl
        refine .inl ⟨String.ofList after, by simpa using hafter, String.toList_injective ?_⟩
        simp [htext]
      · rintro (⟨version, hversion, heq⟩ | ⟨hnone, _⟩)
        · have hagain := Text.splitLast?_append group.toList hversion
          rw [heq] at hsplit
          simp only [String.toList_append, List.append_assoc] at hsplit
          have hpieces := hsplit.symm.trans hagain
          simp only [Option.some.injEq, Prod.mk.injEq] at hpieces
          simp [hpieces.1]
        · simp [htext] at hnone

theorem typeKey_eq_key_iff {object : Object} {type : ResourceType} :
    object.typeKey = type.key ↔ object.IsOf type := by
  have hkind : object.typeKey.kind = object.kind := by
    unfold typeKey
    split <;> rfl
  constructor
  · intro hkey
    exact ⟨by rw [← hkind, hkey]; rfl, group_typeKey_eq_iff.mp (by rw [hkey]; rfl)⟩
  · rintro ⟨hsame, hgroup⟩
    exact TypeKey.mk.injEq .. ▸ ⟨group_typeKey_eq_iff.mpr hgroup, hkind.trans hsame⟩

instance (type : ResourceType) (object : Object) : Decidable (object.IsOf type) :=
  decidable_of_iff (object.typeKey = type.key) typeKey_eq_key_iff

/-- An object that has the type's own API version is of the type. -/
theorem isOf_of_apiVersion {object : Object} {type : ResourceType}
    (hversion : object.apiVersion = type.apiVersion) (hkind : object.kind = type.kind)
    (hslash : '/' ∉ type.version.toList) : object.IsOf type := by
  refine ⟨hkind, ?_⟩
  unfold HasGroup
  rw [hversion, ResourceType.apiVersion]
  by_cases hcore : type.group.isEmpty
  · rw [if_pos hcore]
    exact .inr ⟨hslash, by simpa using hcore⟩
  · rw [if_neg hcore]
    exact .inl ⟨type.version, hslash, rfl⟩

end Object

namespace Store

/-! ### Changes -/

/-- A change of a store. -/
inductive Change where
  | register (type : ResourceType)
  | insert (object : Object)
  | failWith (type : ResourceType) (error : ReadError)

namespace Change

def apply (store : Store) : Change → Store
  | register type => store.register type
  | insert object => store.insert object
  | failWith type error => store.failWith type error

def inserted? : Change → Option Object
  | insert object => some object
  | _ => none

/-- The change registers the key, or comes with an object of it. -/
def MakesKnown (key : TypeKey) : Change → Prop
  | register type => type.key = key
  | insert object => object.typeKey = key
  | failWith .. => False

/-- With what calls for the key fail after the change, if it makes them fail. -/
def failure? (key : TypeKey) : Change → Option ReadError
  | failWith type error => if type.key = key then some error else none
  | _ => none

theorem objects_apply (store : Store) (change : Change) :
    (change.apply store).objects = store.objects ++ change.inserted?.toList := by
  cases change <;> simp [apply, inserted?, Store.register, Store.insert, Store.failWith]

theorem serves_apply (store : Store) (change : Change) (key : TypeKey) :
    (change.apply store).serves key ↔ store.serves key ∨ change.MakesKnown key := by
  cases change with
  | register type =>
      simp only [apply, serves, Store.register, MakesKnown, List.contains_cons, Bool.or_eq_true,
        beq_iff_eq, eq_comm (a := key)]
      tauto
  | insert object =>
      simp only [apply, serves, Store.insert, MakesKnown, List.any_append, Bool.or_eq_true,
        List.any_cons, List.any_nil, Bool.or_false, decide_eq_true_eq]
      tauto
  | failWith type error => simp [apply, serves, Store.failWith, MakesKnown]

theorem lookup_failures_apply (store : Store) (change : Change) (key : TypeKey) :
    (change.apply store).failures.lookup key =
      (change.failure? key).or (store.failures.lookup key) := by
  cases change with
  | register type => rfl
  | insert object => rfl
  | failWith type error =>
      rw [apply, Store.failWith, List.lookup_cons, failure?]
      by_cases hkey : type.key = key
      · simp [hkey]
      · simp [hkey, beq_eq_false_iff_ne.mpr (Ne.symm hkey)]

end Change

/-! ### Histories -/

/-- The store that the changes make out of an empty one. -/
def after (changes : List Change) : Store := changes.foldl Change.apply {}

/-- The objects that came, in the order in which they came. -/
def inserted (changes : List Change) : List Object := changes.filterMap Change.inserted?

/-- One of the changes registers the type, or comes with an object of it. -/
def IsKnown (changes : List Change) (type : ResourceType) : Prop :=
  (∃ other, .register other ∈ changes ∧ other.key = type.key) ∨
    ∃ object ∈ inserted changes, object.IsOf type

/-- No later change sets another failure for the type. -/
def IsLatestFailure (changes : List Change) (type : ResourceType) (error : ReadError) : Prop :=
  ∃ earlier other later, changes = earlier ++ .failWith other error :: later ∧
    other.key = type.key ∧
    ∀ another mistake, .failWith another mistake ∈ later → another.key ≠ type.key

/-- What a history of changes has a store answer for a type. -/
inductive Answers (changes : List Change) (type : ResourceType) :
    Except ReadError (List Object) → Prop
  | failing {error : ReadError} (hlatest : IsLatestFailure changes type error) :
    Answers changes type (.error error)
  | unknown (hsound : ∀ error, ¬ IsLatestFailure changes type error)
    (hunknown : ¬ IsKnown changes type) : Answers changes type (.error (.ofUnknownType type))
  | listed (hsound : ∀ error, ¬ IsLatestFailure changes type error)
    (hknown : IsKnown changes type) :
    Answers changes type (.ok ((inserted changes).filter fun object => object.IsOf type))

variable {changes : List Change} {type : ResourceType}

theorem after_concat (changes : List Change) (change : Change) :
    after (changes ++ [change]) = change.apply (after changes) := by
  rw [after, List.foldl_append]
  rfl

theorem objects_after (changes : List Change) : (after changes).objects = inserted changes := by
  induction changes using List.reverseRecOn with
  | nil => rfl
  | append_singleton changes change ih =>
      rw [after_concat, Change.objects_apply, ih, inserted, inserted, List.filterMap_append]
      cases hchange : change.inserted? <;> simp [hchange]

theorem serves_after_iff_exists {key : TypeKey} :
    (after changes).serves key ↔ ∃ change ∈ changes, change.MakesKnown key := by
  induction changes using List.reverseRecOn with
  | nil => simp [after, serves]
  | append_singleton changes change ih =>
      rw [after_concat, Change.serves_apply, ih]
      simp [or_and_right, exists_or]

theorem serves_after_iff : (after changes).serves type.key ↔ IsKnown changes type := by
  rw [serves_after_iff_exists]
  constructor
  · rintro ⟨change, hmem, hknown⟩
    cases change with
    | register other => exact .inl ⟨other, hmem, hknown⟩
    | insert object =>
        have hinserted : object ∈ inserted changes := List.mem_filterMap.mpr ⟨_, hmem, rfl⟩
        exact .inr ⟨object, hinserted, Object.typeKey_eq_key_iff.mp hknown⟩
    | failWith other error => exact hknown.elim
  · rintro (⟨other, hmem, hkey⟩ | ⟨object, hinserted, hof⟩)
    · exact ⟨.register other, hmem, hkey⟩
    · obtain ⟨change, hmem, hchange⟩ := List.mem_filterMap.mp hinserted
      cases change with
      | insert found =>
          cases hchange
          exact ⟨.insert object, hmem, Object.typeKey_eq_key_iff.mpr hof⟩
      | register other => cases hchange
      | failWith other error => cases hchange

/-- The store finds the failure that was set last, looking back from the end of its history. -/
theorem lookup_failures_after (changes : List Change) (key : TypeKey) :
    (after changes).failures.lookup key = changes.reverse.findSome? (Change.failure? key) := by
  induction changes using List.reverseRecOn with
  | nil => rfl
  | append_singleton changes change ih =>
      rw [after_concat, Change.lookup_failures_apply, ih, List.reverse_append,
        List.reverse_singleton, List.singleton_append, List.findSome?_cons]
      cases change.failure? key <;> rfl

theorem failure?_eq_some_iff {change : Change} {key : TypeKey} {error : ReadError} :
    change.failure? key = some error ↔
      ∃ other, change = .failWith other error ∧ other.key = key := by
  cases change with
  | register other => simp [Change.failure?]
  | insert object => simp [Change.failure?]
  | failWith other mistake =>
      rw [Change.failure?]
      by_cases hkey : other.key = key <;> simp [hkey]

theorem lookup_failures_after_eq_some_iff {error : ReadError} :
    (after changes).failures.lookup type.key = some error ↔ IsLatestFailure changes type error := by
  rw [lookup_failures_after, List.findSome?_eq_some_iff]
  constructor
  · rintro ⟨later, change, earlier, hsplit, hchange, hlater⟩
    obtain ⟨other, rfl, hkey⟩ := failure?_eq_some_iff.mp hchange
    refine ⟨earlier.reverse, other, later.reverse, ?_, hkey, fun another mistake hmem hsame => ?_⟩
    · rw [← List.reverse_reverse changes, hsplit]
      simp
    · have hnone := hlater _ (List.mem_reverse.mp hmem)
      rw [failure?_eq_some_iff.mpr ⟨another, rfl, hsame⟩] at hnone
      cases hnone
  · rintro ⟨earlier, other, later, rfl, hkey, hlater⟩
    refine ⟨later.reverse, .failWith other error, earlier.reverse, by simp,
      failure?_eq_some_iff.mpr ⟨other, rfl, hkey⟩, fun change hmem => ?_⟩
    rw [Option.eq_none_iff_forall_ne_some]
    intro mistake hchange
    obtain ⟨another, rfl, hsame⟩ := failure?_eq_some_iff.mp hchange
    exact hlater another mistake (List.mem_reverse.mp hmem) hsame

theorem answer_eq_of_answers {answer : Except ReadError (List Object)}
    (hanswers : Answers changes type answer) : (after changes).answer type = answer := by
  have hnone (hsound : ∀ error, ¬ IsLatestFailure changes type error) :
      (after changes).failures.lookup type.key = none := by
    rw [Option.eq_none_iff_forall_ne_some]
    intro error hlookup
    exact hsound error (lookup_failures_after_eq_some_iff.mp hlookup)
  unfold Store.answer
  cases hanswers with
  | failing hlatest => rw [lookup_failures_after_eq_some_iff.mpr hlatest]
  | unknown hsound hunknown =>
      rw [hnone hsound]
      exact if_neg (mt serves_after_iff.mp hunknown)
  | listed hsound hknown =>
      rw [hnone hsound, objects_after]
      simp only [Object.typeKey_eq_key_iff]
      exact if_pos (serves_after_iff.mpr hknown)

theorem exists_answers (changes : List Change) (type : ResourceType) :
    ∃ answer, Answers changes type answer := by
  by_cases hfailing : ∃ error, IsLatestFailure changes type error
  · obtain ⟨error, hlatest⟩ := hfailing
    exact ⟨_, .failing hlatest⟩
  · have hsound := not_exists.mp hfailing
    by_cases hknown : IsKnown changes type
    · exact ⟨_, .listed hsound hknown⟩
    · exact ⟨_, .unknown hsound hknown⟩

/-- The history leaves one answer, which is the store's. -/
theorem answers_iff {answer : Except ReadError (List Object)} :
    Answers changes type answer ↔ answer = (after changes).answer type := by
  constructor
  · intro hanswers
    exact (answer_eq_of_answers hanswers).symm
  · rintro rfl
    obtain ⟨answer, hanswers⟩ := exists_answers changes type
    exact (answer_eq_of_answers hanswers).symm ▸ hanswers

/-! ### Readings -/

/-- The first of the objects that has the name and the namespace. -/
def named (type : ResourceType) (name : String) (ns? : Option String) (objects : List Object) :
    Except ReadError Object :=
  match objects.find? fun object => object.name = name ∧ object.ns? = ns? with
  | some object => .ok object
  | none => .error (.ofNotFound type name ns?)

theorem get_run (store : Store) (type : ResourceType) (name : String) (ns? : Option String)
    (calls : Nat) :
    (store.get type name ns?).run.run calls =
      ((store.answer type).bind (named type name ns?), calls + 1) := by
  unfold get
  rw [Effects.run_bind, list_run]
  cases store.answer type with
  | error error => rfl
  | ok objects =>
      simp only [Except.bind, named]
      cases objects.find? fun object => object.name = name ∧ object.ns? = ns? <;> rfl

/-- All readings of a type hang on one answer, which the history leaves; each is one call, whether
or not it fails. -/
theorem readings_after (changes : List Change) (type : ResourceType) :
    ∃ answer, (∀ other, Answers changes type other ↔ other = answer) ∧
      (∀ calls : Nat,
        ((after changes).list type).run.run calls = (answer, calls + 1) ∧
        ((after changes).listHeaders type).run.run calls =
          (answer.map (List.map Object.header), calls + 1) ∧
        ∀ name ns?, ((after changes).get type name ns?).run.run calls =
          (answer.bind (named type name ns?), calls + 1)) ∧
      ∀ object ∈ inserted changes, object.apiVersion = type.apiVersion →
        object.kind = type.kind → '/' ∉ type.version.toList →
        (∀ other error, .failWith other error ∈ changes → other.key ≠ type.key) →
        ∃ objects, answer = .ok objects ∧ object ∈ objects := by
  refine ⟨(after changes).answer type, fun other => answers_iff, fun calls => ?_, ?_⟩
  · exact ⟨list_run _ type calls, listHeaders_run _ type calls,
      fun name ns? => get_run _ type name ns? calls⟩
  · intro object hinserted hversion hkind hslash hsound
    have hof : object.IsOf type := Object.isOf_of_apiVersion hversion hkind hslash
    have hlisted : Answers changes type (.ok ((inserted changes).filter fun object =>
        object.IsOf type)) := by
      refine .listed ?_ (.inr ⟨object, hinserted, hof⟩)
      rintro error ⟨earlier, other, later, rfl, hkey, _⟩
      exact hsound other error (by simp) hkey
    exact ⟨_, (answers_iff.mp hlisted).symm, List.mem_filter.mpr ⟨hinserted, by simpa using hof⟩⟩

/-- An inference service of which no more is known than its name. -/
def service (name : String) : Object where
  value := .obj [("apiVersion", .str "serving.kserve.io/v1beta1"),
    ("kind", .str "InferenceService"), ("metadata", .obj [("name", .str name)])]

theorem readings_after_services :
    let changes := [.insert (service "a"), .failWith .notebook ⟨.forbidden, "denied"⟩,
      .register .configMap, .insert (service "b")]
    let type := ResourceType.inferenceService
    (service "b" ∈ inserted changes ∧ (service "b").apiVersion = type.apiVersion ∧
      (service "b").kind = type.kind ∧ '/' ∉ type.version.toList ∧
      ∀ other error, .failWith other error ∈ changes → other.key ≠ type.key) ∧
    ∃ answer, Answers changes type answer ∧
      ((after changes).list type).run.run 4 = (answer, 5) ∧
      ∃ objects, answer = .ok objects ∧ service "b" ∈ objects := by
  intro changes type
  have hinserted : service "b" ∈ inserted changes := by simp [changes, inserted, Change.inserted?]
  have hversion : (service "b").apiVersion = type.apiVersion := by decide
  have hkind : (service "b").kind = type.kind := by decide
  have hslash : '/' ∉ type.version.toList := by decide
  have hsound : ∀ other error, .failWith other error ∈ changes → other.key ≠ type.key := by
    intro other error hmem
    simp only [changes, List.mem_cons, Change.failWith.injEq, reduceCtorEq, List.not_mem_nil,
      false_or, or_false] at hmem
    rw [hmem.1]
    decide
  obtain ⟨answer, hanswer, hreadings, hlisted⟩ := readings_after changes type
  exact ⟨⟨hinserted, hversion, hkind, hslash, hsound⟩, answer, (hanswer answer).mpr rfl,
    (hreadings 4).1, hlisted _ hinserted hversion hkind hslash hsound⟩

end Store

end UpgradeGate
