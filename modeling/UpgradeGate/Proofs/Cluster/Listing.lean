import UpgradeGate.Cluster.Store
import UpgradeGate.Proofs.Effects

/-!
# What a store answers

A reading is a function of the number of calls so far. What it answers does not hang on that number,
and every listing adds one to it. Asking an object for a text field has three ends: there is a text,
there is nothing, or something else stands in its place.
-/

namespace UpgradeGate

/-! ### Text fields -/

namespace Json

/-- The path leads through objects to the text. -/
def HasTextAt (path : List String) (text : String) (json : Json) : Prop :=
  json.at? path = some (.str text)

/-- The path leads through objects to a value that is neither a text nor null. -/
def IsMalformedAt (path : List String) (json : Json) : Prop :=
  ∃ value, json.at? path = some value ∧ value.isStr = false ∧ value ≠ .null

end Json

namespace Object

variable {path : List String} {object : Object}

/-- The three ends of asking for a text. -/
theorem text?_cases (path : List String) (object : Object) :
    (object.text? path = .error (.ofField (".".intercalate path) "string") ∧
      object.value.IsMalformedAt path) ∨
    (object.text? path = .ok none ∧ ¬ object.value.IsMalformedAt path ∧
      ∀ text, ¬ object.value.HasTextAt path text) ∨
    ∃ text, object.text? path = .ok (some text) ∧ ¬ object.value.IsMalformedAt path ∧
      object.value.HasTextAt path text := by
  unfold text? Json.IsMalformedAt Json.HasTextAt
  cases hvalue : object.value.at? path with
  | none => simp
  | some value =>
      cases value <;> simp [Json.isStr, Json.str?]

theorem text?_eq_ok_some_iff {text : String} :
    object.text? path = .ok (some text) ↔ object.value.HasTextAt path text := by
  rcases text?_cases path object with ⟨h, hbad⟩ | ⟨h, _, hnone⟩ | ⟨found, h, _, hfound⟩
  · rw [h]
    obtain ⟨value, hvalue, hstr, _⟩ := hbad
    simp only [reduceCtorEq, false_iff, Json.HasTextAt, hvalue, Option.some.injEq]
    rintro rfl
    cases hstr
  · simp [h, hnone]
  · rw [h, Except.ok.injEq, Option.some.injEq]
    unfold Json.HasTextAt at *
    rw [hfound, Option.some.injEq, Json.str.injEq]

theorem textAt?_eq_some_iff {text : String} :
    object.textAt? path = some text ↔ object.value.HasTextAt path text := by
  unfold textAt? Json.HasTextAt
  rcases object.value.at? path with _ | value
  · exact iff_of_false nofun nofun
  · cases value <;> simp [Json.str?]

theorem exists_text?_eq_error_iff :
    (∃ error, object.text? path = .error error) ↔ object.value.IsMalformedAt path := by
  rcases text?_cases path object with ⟨h, hbad⟩ | ⟨h, hgood, _⟩ | ⟨found, h, hgood, _⟩
  · simp [h, hbad]
  · simp [h, hgood]
  · simp [h, hgood]

end Object

namespace Platform

variable {cluster : Object}

/-- Where a cluster says in which state a component is. -/
def statePath (component : String) : List String :=
  ["spec", "components", component, "managementState"]

theorem managed_ne_removed : managed ≠ removed := by
  decide

theorem componentState_eq_map (cluster : Object) (component : String) :
    componentState cluster component =
      (cluster.text? (statePath component)).map fun text? => text?.getD removed := by
  unfold componentState statePath
  cases cluster.text? ["spec", "components", component, "managementState"] <;> rfl

theorem exists_componentState_eq_error_iff {component : String} :
    (∃ error, componentState cluster component = .error error) ↔
      cluster.value.IsMalformedAt (statePath component) := by
  rw [componentState_eq_map, ← Object.exists_text?_eq_error_iff]
  cases cluster.text? (statePath component) <;> simp [Except.map]

/-- A component is in a state other than the one by default only if the cluster says so. -/
theorem componentState_eq_ok_iff {component state : String} (hstate : state ≠ removed) :
    componentState cluster component = .ok state ↔
      cluster.value.HasTextAt (statePath component) state := by
  rw [componentState_eq_map, ← Object.text?_eq_ok_some_iff]
  rcases cluster.text? (statePath component) with error | _ | text
  · simp [Except.map]
  · simp [Except.map, hstate.symm]
  · simp [Except.map]

theorem exists_componentState_managed_iff {component : String} {holds : String → Prop} :
    (∃ state, componentState cluster component = .ok state ∧ state = managed ∧ holds state) ↔
      cluster.value.HasTextAt (statePath component) managed ∧ holds managed := by
  rw [← componentState_eq_ok_iff managed_ne_removed]
  constructor
  · rintro ⟨_, hstate, rfl, hholds⟩
    exact ⟨hstate, hholds⟩
  · rintro ⟨hstate, hholds⟩
    exact ⟨managed, hstate, rfl, hholds⟩

end Platform

/-! ### Listings -/

variable {α : Type}

/-- An answer in which a type that is not served counts as a type without objects. -/
def Reading.forgiving : Except ReadError (List α) → Except ReadError (List α)
  | .ok items => .ok items
  | .error error => if error.isUnknownType then .ok [] else .error error

theorem Reading.orEmpty_run {reading : Reading (List α)} {calls after : Nat}
    {answer : Except ReadError (List α)} (hreading : reading.run.run calls = (answer, after)) :
    reading.orEmpty.run.run calls = (forgiving answer, after) := by
  unfold Reading.orEmpty
  rw [ExceptT.run_tryCatch, StateT.run_bind, hreading]
  cases answer with
  | ok items => rfl
  | error error =>
      change (ExceptT.run (if error.isUnknownType then (return [] : Reading (List α))
        else throw error)).run after = _
      simp only [forgiving]
      cases error.isUnknownType <;> rfl

namespace Store

variable (store : Store) (type : ResourceType)

/-- The objects of a type, of which there are none if the type is not served. -/
def listing : Except ReadError (List Object) := Reading.forgiving (store.answer type)

/-- The first object of a type. -/
def first? : Except ReadError (Option Object) := (store.listing type).map List.head?

theorem list_run (calls : Nat) :
    (store.list type).run.run calls = (store.answer type, calls + 1) := by
  unfold list
  cases store.answer type <;> rfl

theorem orEmpty_list_run (calls : Nat) :
    (store.list type).orEmpty.run.run calls = (store.listing type, calls + 1) :=
  Reading.orEmpty_run (store.list_run type calls)

theorem listHeaders_run (calls : Nat) :
    (store.listHeaders type).run.run calls =
      ((store.answer type).map (List.map Object.header), calls + 1) := by
  unfold listHeaders list
  cases store.answer type <;> rfl

theorem orEmpty_listHeaders_run (calls : Nat) :
    (store.listHeaders type).orEmpty.run.run calls =
      ((store.listing type).map (List.map Object.header), calls + 1) := by
  rw [Reading.orEmpty_run (store.listHeaders_run type calls), listing]
  cases store.answer type with
  | ok objects => rfl
  | error error =>
      simp only [Except.map, Reading.forgiving]
      cases error.isUnknownType <;> rfl

theorem singleton?_run (calls : Nat) :
    (store.singleton? type).run.run calls = (store.first? type, calls + 1) := by
  unfold singleton? first?
  rw [Effects.run_bind, orEmpty_list_run]
  cases store.listing type <;> rfl

section Errors

variable {store : Store} {type : ResourceType} {error : ReadError}
  (herror : store.answer type = .error error) (hkind : error.kind ≠ .unknownType)

include herror hkind

theorem listing_eq_error : store.listing type = .error error := by
  have hknown : error.isUnknownType = false := beq_eq_false_iff_ne.mpr hkind
  rw [listing, herror, Reading.forgiving, hknown]
  rfl

theorem first?_eq_error : store.first? type = .error error := by
  rw [first?, listing_eq_error herror hkind]
  rfl

end Errors

section Lookup

variable {store : Store} {type : ResourceType} (hlookup : store.failures.lookup type.key = none)

include hlookup

/-- A store that is not told to fail for a type answers with its objects of it, unless it does not
serve the type, of which it then has none. -/
theorem answer_cases_of_lookup :
    store.answer type = .ok (store.objects.filter fun object => object.typeKey = type.key) ∨
      store.answer type = .error (.ofUnknownType type) ∧
        (store.objects.filter fun object => object.typeKey = type.key) = [] := by
  rw [answer, hlookup]
  by_cases hserves : store.serves type.key = true
  · exact .inl (if_pos hserves)
  · refine .inr ⟨if_neg hserves, List.filter_eq_nil_iff.mpr fun object hobject hkey => hserves ?_⟩
    rw [serves, Bool.or_eq_true]
    exact .inr (List.any_eq_true.mpr ⟨object, hobject, hkey⟩)

theorem listing_of_lookup :
    store.listing type = .ok (store.objects.filter fun object => object.typeKey = type.key) := by
  rcases answer_cases_of_lookup hlookup with hanswer | ⟨hanswer, hnone⟩
  · rw [listing, hanswer]
    rfl
  · rw [listing, hanswer, hnone]
    rfl

end Lookup

end Store

namespace Platform

/-- Where the initialization of the platform names the namespace of its applications. -/
def namespacePath : List String := ["spec", "applicationsNamespace"]

/-- The namespace of the platform's applications, as the store's objects have it. -/
def applications (store : Store) : Except ReadError String :=
  match store.first? .dscInitialization with
  | .error error => .error error
  | .ok none => .error (.ofNotFound .dscInitialization "default-dsci" none)
  | .ok (some initialization) =>
    (initialization.text? namespacePath).map fun ns? =>
      (ns?.filter fun ns => !ns.isEmpty).getD defaultNamespace

theorem applicationsNamespace_run (store : Store) (calls : Nat) :
    (applicationsNamespace store).run.run calls = (applications store, calls + 1) := by
  unfold applicationsNamespace applications namespacePath
  rw [Effects.run_bind, Store.singleton?_run]
  rcases store.first? .dscInitialization with error | _ | initialization
  · rfl
  · rfl
  · simp only [Effects.run_bind, Effects.run_liftM]
    rcases initialization.text? ["spec", "applicationsNamespace"] with error | _ | ns
    · rfl
    · rfl
    · cases hempty : ns.isEmpty <;> simp [hempty, Except.map, Option.filter] <;> rfl

section Applications

variable {store : Store} {initialization? : Option Object}
  (hfirst : store.first? .dscInitialization = .ok initialization?)

include hfirst

theorem exists_applications_eq_ok_iff :
    (∃ ns, applications store = .ok ns) ↔
      ∃ initialization ∈ initialization?, ¬ initialization.value.IsMalformedAt namespacePath := by
  unfold applications
  rw [hfirst]
  cases initialization? with
  | none => simp
  | some initialization =>
      simp only [← Object.exists_text?_eq_error_iff, Option.mem_some_iff, exists_eq_left']
      cases initialization.text? namespacePath <;> simp [Except.map]

theorem exists_applications_eq_error_iff :
    (∃ error, applications store = .error error) ↔
      ∀ initialization ∈ initialization?, initialization.value.IsMalformedAt namespacePath := by
  unfold applications
  rw [hfirst]
  cases initialization? with
  | none => simp
  | some initialization =>
      simp only [← Object.exists_text?_eq_error_iff, Option.mem_some_iff, forall_eq']
      cases initialization.text? namespacePath <;> simp [Except.map]

end Applications

end Platform

end UpgradeGate
