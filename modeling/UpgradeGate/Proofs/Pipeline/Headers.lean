import UpgradeGate.Pipeline
import UpgradeGate.Proofs.Cluster.Listing
import UpgradeGate.Proofs.Dict
import UpgradeGate.Proofs.Run.Steps

/-!
# Workloads seen by their headers

A pipeline of workloads may list the objects of its type or no more than their headers. A check that
looks at an item only through what the header keeps of it cannot tell the two apart, however the
objects are shaped.
-/

namespace UpgradeGate

/-! ### Views -/

/-- What an object and its header have in common, apart from the API version. -/
structure ItemView where
  kind : String
  name : String
  ns? : Option String
  annotationValue? : String → Option String
  annotations : Dict String

instance : HasHeader ItemView where
  header view :=
    { kind := view.kind, name := view.name, ns? := view.ns?, annotations := view.annotations }

def Object.view (object : Object) : ItemView where
  kind := object.kind
  name := object.name
  ns? := object.ns?
  annotationValue? key := object.annotationValue? key
  annotations := object.annotations

def Header.view (header : Header) : ItemView where
  kind := header.kind
  name := header.name
  ns? := header.ns?
  annotationValue? key := header.annotationValue? key
  annotations := header.annotations

/-- An annotation is found in the header exactly if it is found in the object. -/
theorem Object.annotationValue?_header (object : Object) (key : String) :
    object.header.annotationValue? key = object.annotationValue? key := by
  have hpath : object.value.at? ["metadata", "annotations", key] =
      (object.value.at? ["metadata", "annotations"]).bind (Json.get? key) := by
    simp [Option.bind_assoc]
  rw [Header.annotationValue?, Object.annotationValue?, textAt?, hpath]
  change object.annotations.find? key = _
  rw [annotations]
  cases object.value.at? ["metadata", "annotations"] with
  | none => rfl
  | some json => exact (Dict.find?_filterMap _ key _).trans (by rw [Json.find?_members]; rfl)

theorem Object.view_header (object : Object) : object.header.view = object.view := by
  unfold Header.view Object.view
  simp only [annotationValue?_header]
  rfl

/-! ### Requests and pipelines -/

namespace WorkloadRequest

variable {α β : Type}

def map (f : α → β) (request : WorkloadRequest α) : WorkloadRequest β where
  items := request.items.map f
  type := request.type
  upgrade := request.upgrade
  cluster? := request.cluster?

theorem map_map {γ : Type} (g : β → γ) (f : α → β) (request : WorkloadRequest α) :
    (request.map f).map g = request.map fun item => g (f item) := by
  simp [map, Function.comp_def]

theorem impactedObjects_map [HasHeader α] [HasHeader β] (f : α → β)
    (himpacted : ∀ item, (HasHeader.header (f item)).impacted = (HasHeader.header item).impacted)
    (request : WorkloadRequest α) : (request.map f).impactedObjects = request.impactedObjects := by
  simp [impactedObjects, map, himpacted]

end WorkloadRequest

theorem filterAuxM_map {m : Type → Type} [Monad m] [LawfulMonad m] {α β : Type} (f : α → β)
    (keep : β → m Bool) (items kept : List α) :
    (items.map f).filterAuxM keep (kept.map f) =
      List.map f <$> items.filterAuxM (fun item => keep (f item)) kept := by
  induction items generalizing kept with
  | nil => simp [List.filterAuxM]
  | cons item items ih =>
      simp only [List.map_cons, List.filterAuxM, map_bind]
      refine bind_congr fun isKept => ?_
      cases isKept with
      | true => exact ih (item :: kept)
      | false => exact ih kept

/-- Filtering the images of items keeps the images of those that are kept. -/
theorem filterM_map {m : Type → Type} [Monad m] [LawfulMonad m] {α β : Type} (f : α → β)
    (keep : β → m Bool) (items : List α) :
    (items.map f).filterM keep = List.map f <$> items.filterM fun item => keep (f item) := by
  unfold List.filterM
  have haux := filterAuxM_map f keep items []
  rw [List.map_nil] at haux
  rw [haux]
  simp

namespace Store

theorem orEmpty_listHeaders (store : Store) (type : ResourceType) :
    (store.listHeaders type).orEmpty = List.map Object.header <$> (store.list type).orEmpty := by
  funext calls
  refine (store.orEmpty_listHeaders_run type calls).trans ?_
  change _ = (List.map Object.header <$> (store.list type).orEmpty).run.run calls
  rw [ExceptT.run_map, StateT.run_map, orEmpty_list_run]
  rfl

end Store

theorem Step.read_map {σ α β : Type} (f : α → β) (reading : Reading α) :
    (Step.read (f <$> reading) : Step σ β) = f <$> Step.read reading := by
  funext state
  change (Step.read (f <$> reading)).run.run state = (f <$> Step.read reading).run.run state
  rw [ExceptT.run_map, StateT.run_map, run_read, run_read, ExceptT.run_map, StateT.run_map]
  rcases reading.run.run state.calls with ⟨answer, calls⟩
  cases answer <;> rfl

namespace WorkloadPipeline

variable {σ : Type} (identity : CheckIdentity) (upgrade : Upgrade) (type : ResourceType)
  (components : List String)

/-- The pipeline that shows its check whole objects, with a filter and required components. -/
def objectsWith (keep : Object → Step σ Bool) : WorkloadPipeline σ Object :=
  { (ofObjects identity upgrade type : WorkloadPipeline σ Object) with
    keep
    requiredComponents := components }

/-- The pipeline that shows its check headers only. -/
def headersWith (keep : Header → Step σ Bool) : WorkloadPipeline σ Header :=
  { (ofHeaders identity upgrade type : WorkloadPipeline σ Header) with
    keep
    requiredComponents := components }

section Headers

variable (keep : Header → Step σ Bool)

theorem items_headersWith :
    (headersWith identity upgrade type components keep).items =
      List.map Object.header <$>
        (objectsWith identity upgrade type components fun object => keep object.header).items := by
  unfold items
  change (Step.read (upgrade.store.listHeaders type).orEmpty >>= fun all => all.filterM keep) = _
  rw [Store.orEmpty_listHeaders, Step.read_map, bind_map_left, map_bind]
  exact bind_congr fun objects => filterM_map Object.header keep objects

/-- A check that sees headers finds what it would find in the headers of the objects. -/
theorem run_headersWith (validate : WorkloadRequest Header → Step (σ × Diagnosis) Unit) :
    (headersWith identity upgrade type components keep).run validate =
      (objectsWith identity upgrade type components fun object => keep object.header).run
        fun request => validate (request.map Object.header) := by
  unfold run
  refine bind_congr fun opening => ?_
  cases opening with
  | error diagnosis => rfl
  | ok cluster? =>
      dsimp only
      rw [items_headersWith, bind_map_left]
      refine bind_congr fun objects => ?_
      rw [List.length_map]
      refine bind_congr fun outcome => ?_
      let request : WorkloadRequest Object := { items := objects, type, upgrade, cluster? }
      have himpacted : (request.map Object.header).impactedObjects = request.impactedObjects :=
        WorkloadRequest.impactedObjects_map Object.header (fun _ => rfl) request
      exact if_congr Iff.rfl
        (congrArg (fun impacted => pure (outcome.2.setImpacted impacted)) himpacted) rfl

end Headers

/-- The pipeline over whole objects and the one over headers, with checks that look at views, have
the same run from every state: the same diagnosis or problem, the same notes and as many calls. -/
theorem headers_agree_with_objects (identity : CheckIdentity) (upgrade : Upgrade)
    (type : ResourceType) (components : List String) (keep : ItemView → Step σ Bool) :
    let objects := objectsWith identity upgrade type components fun object => keep object.view
    let headers := headersWith identity upgrade type components fun header => keep header.view
    (∀ (validate : WorkloadRequest ItemView → Step (σ × Diagnosis) Unit) (state : RunState σ),
      (headers.run fun request => validate (request.map Header.view)).run.run state =
        (objects.run fun request => validate (request.map Object.view)).run.run state) ∧
    (∀ (validate : WorkloadRequest ItemView → Step σ (List Condition)) (state : RunState σ),
      (headers.complete fun request => validate (request.map Header.view)).run.run state =
        (objects.complete fun request => validate (request.map Object.view)).run.run state) ∧
    (∀ state : RunState σ, (List.map Header.view <$> headers.items).run.run state =
      (List.map Object.view <$> objects.items).run.run state) ∧
    (∀ request : WorkloadRequest Object,
      (request.map Object.view).impactedObjects = request.impactedObjects) ∧
    (∀ request : WorkloadRequest Header,
      (request.map Header.view).impactedObjects = request.impactedObjects) ∧
    ∀ (object : Object) (key : String),
      object.header.annotationValue? key = object.annotationValue? key := by
  intro objects headers
  have hobjects : (objectsWith identity upgrade type components fun object =>
      keep object.header.view) = objects := by
    simp only [Object.view_header, objects]
  have hrun : ∀ validate : WorkloadRequest ItemView → Step (σ × Diagnosis) Unit,
      (headers.run fun request => validate (request.map Header.view)) =
        objects.run fun request => validate (request.map Object.view) := by
    intro validate
    rw [run_headersWith, hobjects]
    simp only [WorkloadRequest.map_map, Object.view_header]
  have hitems : List.map Header.view <$> headers.items =
      List.map Object.view <$> objects.items := by
    rw [items_headersWith, hobjects, Functor.map_map]
    simp only [List.map_map, Function.comp_def, Object.view_header]
  refine ⟨fun validate state => by rw [hrun], fun validate state => ?_,
    fun state => by rw [hitems],
    WorkloadRequest.impactedObjects_map Object.view fun _ => rfl,
    WorkloadRequest.impactedObjects_map Header.view fun _ => rfl, Object.annotationValue?_header⟩
  unfold complete
  rw [hrun fun request => do
    for condition in ← (validate request).outside do
      Step.amend (Diagnosis.setCondition condition)]

end WorkloadPipeline

end UpgradeGate
