import UpgradeGate.Proofs.Dict
import UpgradeGate.Proofs.Pipeline.Governing

/-!
# Preconditions of a pipeline

What the governing cluster must be like for a pipeline to ask its check, in terms of what the store
answers for its type and of what stands at the component's place in it. If there is nothing to ask,
the error or the diagnosis that the pipeline ends with is given in full.
-/

namespace UpgradeGate

/-! ### The first object of a type -/

namespace Store

/-- The store fails for the type, and not because the cluster does not serve it. -/
structure Refuses (store : Store) (type : ResourceType) (error : ReadError) : Prop where
  answer : store.answer type = .error error
  kind : error.kind ≠ .unknownType

/-- The store has no object of the type, be it that none came or that the type is unknown. -/
inductive Lacks (store : Store) (type : ResourceType) : Prop
  | noneCame (hanswer : store.answer type = .ok [])
  | unknown {error : ReadError} (hanswer : store.answer type = .error error)
    (hkind : error.kind = .unknownType)

/-- The object is the first one of the type. -/
def Leads (store : Store) (type : ResourceType) (object : Object) : Prop :=
  ∃ others, store.answer type = .ok (object :: others)

variable {store : Store} {type : ResourceType}

theorem Refuses.first?_eq {error : ReadError} (hrefuses : store.Refuses type error) :
    store.first? type = .error error :=
  first?_eq_error hrefuses.answer hrefuses.kind

theorem Lacks.first?_eq (hlacks : store.Lacks type) : store.first? type = .ok none := by
  unfold first? listing
  cases hlacks with
  | noneCame hanswer => rw [hanswer]; rfl
  | @unknown error hanswer hkind =>
      have hunknown : error.isUnknownType = true := beq_iff_eq.mpr hkind
      rw [hanswer, Reading.forgiving, hunknown]
      rfl

theorem Leads.first?_eq {object : Object} (hleads : store.Leads type object) :
    store.first? type = .ok (some object) := by
  obtain ⟨others, hanswer⟩ := hleads
  rw [first?, listing, hanswer]
  rfl

theorem first?_cases (store : Store) (type : ResourceType) :
    (∃ error, store.Refuses type error) ∨ store.Lacks type ∨
      ∃ object, store.Leads type object := by
  rcases hanswer : store.answer type with error | _ | ⟨object, others⟩
  · by_cases hkind : error.kind = .unknownType
    · exact .inr (.inl (.unknown hanswer hkind))
    · exact .inl ⟨error, hanswer, hkind⟩
  · exact .inr (.inl (.noneCame hanswer))
  · exact .inr (.inr ⟨object, others, hanswer⟩)

/-- What the store yields of a type: its objects in the order in which they came, and nothing if it
is told not to know the type. -/
inductive Yields (store : Store) (type : ResourceType) : List Object → Prop
  | held (hlookup : store.failures.lookup type.key = none) :
    Yields store type (store.objects.filter fun object => object.typeKey = type.key)
  | denied {error : ReadError} (hlookup : store.failures.lookup type.key = some error)
    (hkind : error.kind = .unknownType) : Yields store type []

/-- What a store yields is what it lists, as long as it lists anything. -/
theorem yields_iff {objects : List Object} :
    store.Yields type objects ↔ store.listing type = .ok objects := by
  constructor
  · rintro (hlookup | ⟨hlookup, hkind⟩)
    · exact listing_of_lookup hlookup
    · rw [listing, answer, hlookup]
      exact if_pos (beq_iff_eq.mpr hkind)
  · intro hlisting
    cases hlookup : store.failures.lookup type.key with
    | none =>
        rw [listing_of_lookup hlookup] at hlisting
        exact Except.ok.inj hlisting ▸ .held hlookup
    | some error =>
        rw [listing, answer, hlookup, Reading.forgiving] at hlisting
        by_cases hkind : error.isUnknownType = true
        · rw [if_pos hkind] at hlisting
          exact Except.ok.inj hlisting ▸ .denied hlookup (beq_iff_eq.mp hkind)
        · rw [if_neg hkind] at hlisting
          cases hlisting

theorem Yields.unique {objects others : List Object} (hobjects : store.Yields type objects)
    (hothers : store.Yields type others) : objects = others :=
  Except.ok.inj ((yields_iff.mp hobjects).symm.trans (yields_iff.mp hothers))

end Store

/-! ### The state of a component -/

namespace Platform

/-- The state of a component in a cluster. One that is absent or null counts as removed. -/
inductive IsInState (cluster : Object) (component : String) : String → Prop
  | told {state : String} (htext : cluster.value.HasTextAt (statePath component) state) :
    IsInState cluster component state
  | absent (hnone : cluster.value.at? (statePath component) = none) :
    IsInState cluster component "Removed"
  | null (hnull : cluster.value.at? (statePath component) = some .null) :
    IsInState cluster component "Removed"

/-- The error for a state that is neither a text nor null. -/
def malformedState (component : String) : ReadError where
  kind := .invalid
  detail := "field spec.components." ++ component ++ ".managementState is not a string"

theorem ofField_statePath (component : String) :
    ReadError.ofField (".".intercalate (statePath component)) "string" =
      malformedState component := by
  have hpath : ".".intercalate (statePath component) =
      "spec.components." ++ component ++ ".managementState" := by
    simp only [statePath, String.intercalate_cons_cons, String.intercalate_singleton,
      String.append_assoc]
    rfl
  simp only [ReadError.ofField, malformedState, hpath, String.append_assoc]
  rfl

variable {cluster : Object} {component : String}

theorem componentState_of_isMalformedAt
    (hmalformed : cluster.value.IsMalformedAt (statePath component)) :
    componentState cluster component = .error (malformedState component) := by
  rw [componentState_eq_map, ← ofField_statePath]
  rcases Object.text?_cases (statePath component) cluster with
    ⟨htext, _⟩ | ⟨_, hgood, _⟩ | ⟨_, _, hgood, _⟩
  · rw [htext]
    rfl
  · exact absurd hmalformed hgood
  · exact absurd hmalformed hgood

theorem IsInState.componentState_eq {state : String} (hstate : IsInState cluster component state) :
    componentState cluster component = .ok state := by
  rw [componentState_eq_map]
  cases hstate with
  | told htext => rw [Object.text?_eq_ok_some_iff.mpr htext]; rfl
  | absent hnone => rw [Object.text?, hnone]; rfl
  | null hnull => rw [Object.text?, hnull]; rfl

theorem isMalformedAt_or_isInState (cluster : Object) (component : String) :
    cluster.value.IsMalformedAt (statePath component) ∨
      ∃ state, IsInState cluster component state := by
  rcases hvalue : cluster.value.at? (statePath component) with _ | value
  · exact .inr ⟨_, .absent hvalue⟩
  · cases value with
    | null => exact .inr ⟨_, .null hvalue⟩
    | str text => exact .inr ⟨text, .told hvalue⟩
    | bool value => exact .inl ⟨_, hvalue, rfl, nofun⟩
    | int value => exact .inl ⟨_, hvalue, rfl, nofun⟩
    | float value => exact .inl ⟨_, hvalue, rfl, nofun⟩
    | arr items => exact .inl ⟨_, hvalue, rfl, nofun⟩
    | obj members => exact .inl ⟨_, hvalue, rfl, nofun⟩

theorem exists_componentState_eq_ok_iff :
    (∃ state, componentState cluster component = .ok state) ↔
      ¬ cluster.value.IsMalformedAt (statePath component) := by
  rw [← exists_componentState_eq_error_iff]
  cases componentState cluster component <;> simp

end Platform

/-! ### Diagnoses in full -/

/-- A condition that fails without weight for the upgrade. -/
def Condition.idle (time : Instant) (type reason message : String) : Condition where
  type := type
  status := .fails
  reason := reason
  message := message
  time := time
  impact := .none

namespace Pipeline

variable (identity : CheckIdentity) (upgrade : Upgrade)

/-- The versions of the upgrade that are known, as annotations. -/
def versions : List (String × String) :=
  (upgrade.target?.map fun version =>
    ("check.opendatahub.io/target-version", version.text)).toList ++
  (upgrade.current?.map fun version =>
    ("check.opendatahub.io/current-version", version.text)).toList

/-- The diagnosis of a check with the versions, more annotations and some conditions. -/
def diagnosisWith (annotations : List (String × String)) (conditions : List Condition) :
    Diagnosis where
  group := identity.group.name
  kind := identity.kind
  name := identity.type
  description := identity.description
  annotations := Dict.ofList (versions upgrade ++ annotations)
  conditions := conditions
  impacted? := none

theorem seeded_eq : seeded identity upgrade = diagnosisWith identity upgrade [] [] := by
  unfold seeded diagnosisWith versions
  cases upgrade.target? <;> cases upgrade.current? <;> rfl

theorem annotate_diagnosisWith (annotations : List (String × String)) (key value : String) :
    (diagnosisWith identity upgrade annotations []).annotate key value =
      diagnosisWith identity upgrade (annotations ++ [(key, value)]) [] := by
  simp only [Diagnosis.annotate, diagnosisWith, ← List.append_assoc, Dict.ofList_concat]

theorem annotationValue?_diagnosisWith (key value : String) (conditions : List Condition) :
    (diagnosisWith identity upgrade [(key, value)] conditions).annotationValue? key =
      some value := by
  rw [diagnosisWith, Diagnosis.annotationValue?]
  dsimp only
  rw [Dict.ofList_concat, Dict.find?_insert, if_pos rfl]

/-- What stands for a cluster that is not there. -/
def noCluster : Diagnosis :=
  diagnosisWith identity upgrade []
    [.idle upgrade.time "Available" "ResourceNotFound" "No DataScienceCluster found in the cluster"]

theorem resourceNotFound_eq :
    resourceNotFound identity upgrade .dataScienceCluster = noCluster identity upgrade := by
  rw [resourceNotFound, seeded_eq]
  rfl

/-- What stands for components in a state in which there is nothing to check. -/
def notConfigured (components state : String) : Diagnosis :=
  diagnosisWith identity upgrade [("component.opendatahub.io/management-state", state)]
    [.idle upgrade.time "Configured" "ComponentNotConfigured"
      ("Component " ++ components ++ " is " ++ state ++ ", nothing to check")]

theorem componentNotConfigured_eq (components state : String) :
    componentNotConfigured identity upgrade components state =
      notConfigured identity upgrade components state := by
  rw [componentNotConfigured, seeded_eq, annotate_diagnosisWith]
  rfl

/-- The pipeline has no cluster to look into: the store fails for its type, or lacks it. -/
inductive LacksCluster : Answer → Prop
  | refused {error : ReadError} (hrefuses : upgrade.store.Refuses .dataScienceCluster error) :
    LacksCluster (.error error)
  | missing (hlacks : upgrade.store.Lacks .dataScienceCluster) :
    LacksCluster (.ok (noCluster identity upgrade))

variable {identity upgrade}

theorem LacksCluster.governing_eq {answer : Answer}
    (hlacks : LacksCluster identity upgrade answer) :
    governing identity upgrade = answer.map .settled := by
  unfold governing
  cases hlacks with
  | refused hrefuses => rw [hrefuses.first?_eq]; rfl
  | missing hlacks => rw [hlacks.first?_eq, ← resourceNotFound_eq]; rfl

theorem governing_of_leads {cluster : Object}
    (hleads : upgrade.store.Leads .dataScienceCluster cluster) :
    governing identity upgrade = .ok (.found cluster) := by
  rw [governing, hleads.first?_eq]
  rfl

theorem lacksCluster_or_leads (identity : CheckIdentity) (upgrade : Upgrade) :
    (∃ answer, LacksCluster identity upgrade answer) ∨
      ∃ cluster, upgrade.store.Leads .dataScienceCluster cluster := by
  rcases upgrade.store.first?_cases .dataScienceCluster with ⟨error, hrefuses⟩ | hlacks | hleads
  · exact .inl ⟨_, .refused hrefuses⟩
  · exact .inl ⟨_, .missing hlacks⟩
  · exact .inr hleads

/-! ### Required components -/

section Required

variable (identity : CheckIdentity) (upgrade : Upgrade) (components : List String)

/-- The required components leave nothing to check: there is no cluster to ask for their states, one
of the states cannot be read, or all of the components are removed. -/
inductive Precludes : Answer → Prop
  | noCluster {answer : Answer} (hgiven : components ≠ [])
    (hlacks : LacksCluster identity upgrade answer) : Precludes answer
  | malformed {cluster : Object} {front later : List String} {component : String}
    (hsplit : components = front ++ component :: later)
    (hcluster : upgrade.store.Leads .dataScienceCluster cluster)
    (hfront : ∀ earlier ∈ front, ¬ cluster.value.IsMalformedAt (Platform.statePath earlier))
    (hmalformed : cluster.value.IsMalformedAt (Platform.statePath component)) :
    Precludes (.error (Platform.malformedState component))
  | allRemoved {cluster : Object} (hgiven : components ≠ [])
    (hcluster : upgrade.store.Leads .dataScienceCluster cluster)
    (hremoved : ∀ component ∈ components, Platform.IsInState cluster component "Removed") :
    Precludes (.ok (notConfigured identity upgrade (", ".intercalate components) "Removed"))

/-- There may be something to check: no components are required, or there is a cluster that tells
all of their states and one of them is not removed. -/
inductive Admits : Option Object → Prop
  | free (hnone : components = []) : Admits none
  | governed {cluster : Object} {component state : String}
    (hcluster : upgrade.store.Leads .dataScienceCluster cluster)
    (hformed : ∀ component ∈ components,
      ¬ cluster.value.IsMalformedAt (Platform.statePath component))
    (hcomponent : component ∈ components) (hstate : Platform.IsInState cluster component state)
    (hother : state ≠ "Removed") : Admits (some cluster)

variable {identity} {upgrade} {components}

theorem Precludes.ne_nil {answer : Answer}
    (hprecludes : Precludes identity upgrade components answer) : components ≠ [] := by
  cases hprecludes with
  | noCluster hgiven _ => exact hgiven
  | malformed hsplit _ _ _ => simp [hsplit]
  | allRemoved hgiven _ _ => exact hgiven

theorem Precludes.governingComponents_eq {answer : Answer}
    (hprecludes : Precludes identity upgrade components answer) :
    governingComponents identity upgrade components = answer.map .settled := by
  unfold governingComponents
  cases hprecludes with
  | noCluster _ hlacks =>
      rw [hlacks.governing_eq]
      cases answer <;> rfl
  | @malformed cluster front later component hsplit hcluster hfront hmalformed =>
      have hstates : components.mapM (Platform.componentState cluster) =
          .error (Platform.malformedState component) :=
        Traversal.mapM_eq_error_iff.mpr ⟨front, component, later, hsplit, fun earlier hearlier =>
          Platform.exists_componentState_eq_ok_iff.mpr (hfront earlier hearlier),
          Platform.componentState_of_isMalformedAt hmalformed⟩
      simp only [governing_of_leads hcluster, unlessRemoved, hstates, Except.map]
  | @allRemoved cluster hgiven hcluster hremoved =>
      have hstates : components.mapM (Platform.componentState cluster) =
          .ok (components.map fun _ => Platform.removed) := by
        rw [Traversal.mapM_eq_ok_iff, List.forall₂_map_right_iff, List.forall₂_same]
        exact fun component hcomponent => (hremoved component hcomponent).componentState_eq
      simp [governing_of_leads hcluster, unlessRemoved, hstates, hgiven, componentNotConfigured_eq,
        Except.map, Platform.removed]

theorem governingComponents_of_isInState {cluster : Object} {component state : String}
    (hcluster : upgrade.store.Leads .dataScienceCluster cluster)
    (hformed : ∀ component ∈ components,
      ¬ cluster.value.IsMalformedAt (Platform.statePath component))
    (hcomponent : component ∈ components) (hstate : Platform.IsInState cluster component state)
    (hother : state ≠ Platform.removed) :
    governingComponents identity upgrade components = .ok (.found cluster) := by
  obtain ⟨states, hstates⟩ := Traversal.exists_mapM_eq_ok_iff.mpr fun other hother =>
    Platform.exists_componentState_eq_ok_iff.mpr (hformed other hother)
  have hmem : state ∈ states :=
    Traversal.mem_of_mapM_eq_ok hstates hcomponent hstate.componentState_eq
  exact (governingComponents_eq_found_iff identity upgrade).mpr
    ⟨hcluster.first?_eq, states, hstates, .inr ⟨state, hmem, hother⟩⟩

theorem precludes_or_admits (identity : CheckIdentity) (upgrade : Upgrade)
    (components : List String) :
    (∃ answer, Precludes identity upgrade components answer) ∨
      ∃ cluster?, Admits upgrade components cluster? := by
  by_cases hnone : components = []
  · exact .inr ⟨none, .free hnone⟩
  rcases lacksCluster_or_leads identity upgrade with ⟨answer, hlacks⟩ | ⟨cluster, hcluster⟩
  · exact .inl ⟨answer, .noCluster hnone hlacks⟩
  -- All states are read before any is looked at: one that cannot be read goes before removed ones.
  rcases hstates : components.mapM (Platform.componentState cluster) with error | states
  · obtain ⟨front, component, later, hsplit, hfront, herror⟩ :=
      Traversal.mapM_eq_error_iff.mp hstates
    exact .inl ⟨_, .malformed hsplit hcluster
      (fun earlier hearlier =>
        Platform.exists_componentState_eq_ok_iff.mp (hfront earlier hearlier))
      (Platform.exists_componentState_eq_error_iff.mp ⟨error, herror⟩)⟩
  · have hformed : ∀ component ∈ components,
        ¬ cluster.value.IsMalformedAt (Platform.statePath component) :=
      fun component hcomponent => Platform.exists_componentState_eq_ok_iff.mp
        (Traversal.exists_mapM_eq_ok_iff.mp ⟨states, hstates⟩ component hcomponent)
    by_cases hremoved : ∀ component ∈ components,
        Platform.IsInState cluster component "Removed"
    · exact .inl ⟨_, .allRemoved hnone hcluster hremoved⟩
    · simp only [not_forall] at hremoved
      obtain ⟨component, hcomponent, hnot⟩ := hremoved
      obtain ⟨state, hstate⟩ := (Platform.isMalformedAt_or_isInState cluster component).resolve_left
        (hformed component hcomponent)
      exact .inr ⟨_, .governed hcluster hformed hcomponent hstate fun hsame =>
        hnot (hsame ▸ hstate)⟩

end Required

end Pipeline

end UpgradeGate
