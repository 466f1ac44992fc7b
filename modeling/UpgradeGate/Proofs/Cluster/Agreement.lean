import UpgradeGate.Pipeline
import UpgradeGate.Proofs.Cluster.Listing

/-!
# Stores that list the same

Pipelines read a store through its listings, for which a type that is not served is a type without
objects. Two stores that list the same cannot be told apart that way, not even by the calls made.
-/

namespace UpgradeGate

variable {σ : Type}

namespace Store

/-- The store answers as another one does, but knows types that the other does not know, and holds
no objects of them. -/
def Completes (completed store : Store) : Prop :=
  ∀ type, completed.answer type = store.answer type ∨
    (∃ error, store.answer type = .error error ∧ error.kind = .unknownType) ∧
      completed.answer type = .ok []

theorem Completes.listing_eq {completed store : Store} (hcompletes : completed.Completes store)
    (type : ResourceType) : completed.listing type = store.listing type := by
  unfold listing
  rcases hcompletes type with hsame | ⟨⟨error, herror, hkind⟩, hempty⟩
  · rw [hsame]
  · rw [herror, hempty, Reading.forgiving, Reading.forgiving, ReadError.isUnknownType, hkind]
    rfl

/-- The store that serves the type and holds no objects of it. -/
def emptied (type : ResourceType) (store : Store) : Store where
  served := type.key :: store.served
  objects := store.objects.filter fun object => object.typeKey ≠ type.key
  failures := store.failures.filter fun failure => failure.1 ≠ type.key

theorem lookup_failures_emptied (store : Store) (type : ResourceType) (key : TypeKey) :
    (store.emptied type).failures.lookup key =
      if key = type.key then none else store.failures.lookup key := by
  unfold emptied
  dsimp only
  induction store.failures with
  | nil => simp
  | cons failure failures ih =>
      by_cases htype : failure.1 = type.key
      · rw [List.filter_cons_of_neg (by simpa using htype), ih, List.lookup_cons, htype]
        by_cases hkey : key = type.key
        · simp [hkey]
        · simp [hkey, beq_eq_false_iff_ne.mpr hkey]
      · rw [List.filter_cons_of_pos (by simpa using htype), List.lookup_cons, List.lookup_cons, ih]
        by_cases hfirst : key = failure.1
        · simp [hfirst, htype]
        · simp [beq_eq_false_iff_ne.mpr hfirst]

theorem answer_emptied_self {store : Store} {type other : ResourceType}
    (hkey : other.key = type.key) : (store.emptied type).answer other = .ok [] := by
  have hserves : (store.emptied type).serves other.key = true := by
    simp [serves, emptied, hkey]
  have hobjects :
      ((store.emptied type).objects.filter fun object => object.typeKey = other.key) = [] := by
    simp [emptied, hkey]
  unfold answer
  rw [lookup_failures_emptied, if_pos hkey, hserves, hobjects]
  rfl

theorem answer_emptied_of_ne {store : Store} {type other : ResourceType}
    (hkey : other.key ≠ type.key) : (store.emptied type).answer other = store.answer other := by
  have hkept : ∀ object : Object,
      (decide (object.typeKey ≠ type.key) && decide (object.typeKey = other.key)) =
        decide (object.typeKey = other.key) := by
    intro object
    by_cases hobject : object.typeKey = other.key
    · simp [hobject, hkey]
    · simp [hobject]
  have hobjects : ((store.emptied type).objects.filter fun object => object.typeKey = other.key) =
      store.objects.filter fun object => object.typeKey = other.key := by
    simp only [emptied, List.filter_filter, Bool.and_comm, hkept]
  have hserves : (store.emptied type).serves other.key = store.serves other.key := by
    simp only [serves, emptied, List.any_filter, hkept, List.contains_cons,
      beq_eq_false_iff_ne.mpr hkey, Bool.false_or]
  unfold answer
  rw [lookup_failures_emptied, if_neg hkey, hserves, hobjects]

/-- Types of one key are known or unknown together. -/
theorem exists_answer_eq_unknown {store : Store} {type other : ResourceType} {error : ReadError}
    (hkey : other.key = type.key) (herror : store.answer type = .error error)
    (hkind : error.kind = .unknownType) :
    ∃ error, store.answer other = .error error ∧ error.kind = .unknownType := by
  unfold answer at herror ⊢
  rw [hkey]
  cases hlookup : store.failures.lookup type.key with
  | some failure =>
      rw [hlookup] at herror
      exact ⟨failure, rfl, Except.error.inj herror ▸ hkind⟩
  | none =>
      rw [hlookup] at herror
      cases hserves : store.serves type.key with
      | true => simp [hserves] at herror
      | false => exact ⟨_, rfl, rfl⟩

theorem completes_emptied {store : Store} {type : ResourceType} {error : ReadError}
    (herror : store.answer type = .error error) (hkind : error.kind = .unknownType) :
    (store.emptied type).Completes store := by
  intro other
  by_cases hkey : other.key = type.key
  · exact .inr ⟨exists_answer_eq_unknown hkey herror hkind, answer_emptied_self hkey⟩
  · exact .inl (answer_emptied_of_ne hkey)

section Same

variable {store other : Store} (hlisting : ∀ type, other.listing type = store.listing type)

include hlisting

theorem orEmpty_list_congr (type : ResourceType) :
    (other.list type).orEmpty = (store.list type).orEmpty := by
  funext calls
  have hother := other.orEmpty_list_run type calls
  have hstore := store.orEmpty_list_run type calls
  rw [hlisting] at hother
  exact hother.trans hstore.symm

theorem orEmpty_listHeaders_congr (type : ResourceType) :
    (other.listHeaders type).orEmpty = (store.listHeaders type).orEmpty := by
  funext calls
  have hother := other.orEmpty_listHeaders_run type calls
  have hstore := store.orEmpty_listHeaders_run type calls
  rw [hlisting] at hother
  exact hother.trans hstore.symm

theorem first?_congr (type : ResourceType) : other.first? type = store.first? type := by
  rw [first?, hlisting, first?]

end Same

/-- What is read of a type of which there should be one object hangs on its first object alone. -/
theorem singleton?_congr {store other : Store} {type : ResourceType}
    (hfirst : other.first? type = store.first? type) :
    other.singleton? type = store.singleton? type := by
  funext calls
  have hother := other.singleton?_run type calls
  have hstore := store.singleton?_run type calls
  rw [hfirst] at hother
  exact hother.trans hstore.symm

end Store

theorem Platform.version?_congr {store other : Store}
    (hfirst : other.first? .dataScienceCluster = store.first? .dataScienceCluster) :
    version? other = version? store := by
  unfold version? reportedVersion? cluster?
  rw [Store.singleton?_congr hfirst]

section Same

variable {store other : Store} (hlisting : ∀ type, other.listing type = store.listing type)

include hlisting

theorem Platform.applicationsNamespace_congr :
    applicationsNamespace other = applicationsNamespace store := by
  unfold applicationsNamespace
  rw [Store.singleton?_congr (Store.first?_congr hlisting _)]

namespace Pipeline

variable (identity : CheckIdentity) (upgrade : Upgrade)

theorem resolveCluster_congr :
    (resolveCluster identity { upgrade with store := other } : Step σ Governing) =
      resolveCluster identity { upgrade with store } := by
  unfold resolveCluster Platform.cluster?
  dsimp only
  rw [Store.singleton?_congr (Store.first?_congr hlisting _)]
  rfl

theorem resolveComponents_congr (components : List String) :
    (resolveComponents identity { upgrade with store := other } components : Step σ Governing) =
      resolveComponents identity { upgrade with store } components := by
  unfold resolveComponents
  rw [resolveCluster_congr hlisting]
  rfl

end Pipeline

end Same

end UpgradeGate
