import UpgradeGate.Check.Basic
import UpgradeGate.Cluster.Snapshot
import UpgradeGate.Proofs.Cluster.Agreement
import UpgradeGate.Proofs.Cluster.History
import UpgradeGate.Proofs.Cluster.Listing

/-!
# What a loaded snapshot answers

A snapshot loads to a store that serves the well-known types and never fails, so that its listings
are read off the items of the document. A store extends another one if its listings go on where
those of the other end. The first object of a type stays the first one then, which is why what the
platform is known to run does not change once there is a cluster that says so.
-/

namespace UpgradeGate

namespace Snapshot

/-- The items that are objects of a type. -/
def ofType (type : ResourceType) (items : List Json) : List Json :=
  items.filter fun item => (Object.mk item).typeKey = type.key

/-- The first item that is an object of a type. -/
def firstOf? (type : ResourceType) (items : List Json) : Option Json := (ofType type items).head?

/-- The store that items load to, if all of them say what they are. -/
def storeOf (items : List Json) : Store :=
  items.foldl (fun store item => store.insert ⟨item⟩) bareStore

/-- Loading is a loop over the items that stops at the first one that does not say what it is. -/
theorem foldlM_insertItem (items : List Json) (index : Nat) (store : Store) :
    (items.zipIdx index).foldlM insertItem store =
      match items.findIdx? fun item => !isIdentified item with
      | some least => .error (.configuration (.unidentifiedItem (index + least)))
      | none => .ok (items.foldl (fun store item => store.insert ⟨item⟩) store) := by
  induction items generalizing index store with
  | nil => rfl
  | cons item items ih =>
      rw [List.zipIdx_cons, List.foldlM_cons, List.findIdx?_cons, insertItem]
      by_cases hidentified : isIdentified item = true
      · have hrest := ih (index + 1) (store.insert ⟨item⟩)
        simp only [hidentified, if_true, Bool.not_true, Bool.false_eq_true, if_false]
        refine hrest.trans ?_
        cases items.findIdx? fun item => !isIdentified item with
        | none => rfl
        | some least => simp only [Option.map_some, Nat.add_assoc, Nat.add_comm 1]
      · simp only [hidentified, if_false, Bool.not_false, if_true, Bool.false_eq_true,
          Nat.add_zero]
        rfl

theorem ofDocument_of_items {document : Json} {listed : List Json}
    (hitems : items document = .ok listed) :
    ofDocument document =
      match listed.findIdx? fun item => !isIdentified item with
      | some index => .error (.configuration (.unidentifiedItem index))
      | none => .ok (storeOf listed) := by
  have hloop := foldlM_insertItem listed 0 bareStore
  simp only [Nat.zero_add] at hloop
  rw [ofDocument, hitems]
  exact hloop

theorem eq_storeOf_of_ofDocument {document : Json} {store : Store}
    (hstore : ofDocument document = .ok store) :
    ∃ found, items document = .ok found ∧ store = storeOf found := by
  cases hitems : items document with
  | error problem =>
      rw [ofDocument, hitems] at hstore
      cases hstore
  | ok found =>
      rw [ofDocument_of_items hitems] at hstore
      split at hstore
      · cases hstore
      · exact ⟨found, rfl, (Except.ok.inj hstore).symm⟩

/-! ### The store as its history makes it -/

/-- What happens to a store while items are loaded. -/
def changes (items : List Json) : List Store.Change :=
  ResourceType.wellKnown.map .register ++ items.map fun item => .insert ⟨item⟩

theorem storeOf_eq_after (items : List Json) : storeOf items = .after (changes items) := by
  rw [Store.after, changes, List.foldl_append, List.foldl_map, List.foldl_map]
  rfl

theorem inserted_changes (items : List Json) :
    Store.inserted (changes items) = items.map Object.mk := by
  have hregistered : (ResourceType.wellKnown.map Store.Change.register).filterMap
      Store.Change.inserted? = [] := rfl
  rw [Store.inserted, changes, List.filterMap_append, hregistered, List.nil_append,
    List.filterMap_map]
  exact congrFun List.filterMap_eq_map' items

theorem objects_storeOf (items : List Json) : (storeOf items).objects = items.map Object.mk := by
  rw [storeOf_eq_after, Store.objects_after, inserted_changes]

theorem failures_storeOf (items : List Json) : (storeOf items).failures = [] := by
  exact List.foldlRecOn (motive := fun store : Store => store.failures = []) items
    (fun store item => store.insert ⟨item⟩) rfl fun _ hnone _ _ => hnone

theorem filter_objects_storeOf (items : List Json) (type : ResourceType) :
    ((storeOf items).objects.filter fun object => object.typeKey = type.key) =
      (ofType type items).map Object.mk := by
  rw [objects_storeOf, ofType, List.filter_map]
  rfl

theorem answer_storeOf (items : List Json) (type : ResourceType) :
    (storeOf items).answer type =
      if (storeOf items).serves type.key then .ok ((ofType type items).map Object.mk)
      else .error (.ofUnknownType type) := by
  rw [← filter_objects_storeOf, Store.answer, failures_storeOf]
  rfl

theorem listing_storeOf (items : List Json) (type : ResourceType) :
    (storeOf items).listing type = .ok ((ofType type items).map Object.mk) := by
  rw [Store.listing_of_lookup (by rw [failures_storeOf]; rfl), filter_objects_storeOf]

theorem first?_storeOf (items : List Json) (type : ResourceType) :
    (storeOf items).first? type = .ok ((firstOf? type items).map Object.mk) := by
  rw [Store.first?, listing_storeOf, firstOf?, Except.map, List.head?_map]

end Snapshot

/-! ### Clusters that hold more -/

namespace Store

/-- Both stores list the well-known types, and the one lists what the other does, and then more. -/
def Extends (grown store : Store) : Prop :=
  ∀ type ∈ ResourceType.wellKnown, ∃ objects more,
    store.listing type = .ok objects ∧ grown.listing type = .ok (objects ++ more)

variable {grown store : Store} {type : ResourceType} (hextends : grown.Extends store)
  (hserved : type ∈ ResourceType.wellKnown)

include hextends hserved

theorem Extends.exists_first? : ∃ object?, store.first? type = .ok object? := by
  obtain ⟨objects, _, hstore, _⟩ := hextends type hserved
  exact ⟨objects.head?, by rw [first?, hstore, Except.map]⟩

theorem Extends.first?_eq {object : Object} (hfirst : store.first? type = .ok (some object)) :
    grown.first? type = .ok (some object) := by
  obtain ⟨objects, more, hstore, hgrown⟩ := hextends type hserved
  rw [first?, hstore] at hfirst
  have hhead : objects.head? = some object := Except.ok.inj hfirst
  rw [first?, hgrown, Except.map, List.head?_append, hhead, Option.some_or]

end Store

/-- Another upgrade to the same version, of a cluster that holds more. From which version it leads
may be another matter only if there was no cluster to tell. -/
structure Upgrade.Extends (grown upgrade : Upgrade) : Prop where
  store : grown.store.Extends upgrade.store
  target : grown.target? = upgrade.target?
  current : ∀ cluster, upgrade.store.first? .dataScienceCluster = .ok (some cluster) →
    grown.current? = upgrade.current?

namespace Upgrade.Extends

variable {grown upgrade : Upgrade} (hextends : grown.Extends upgrade) (major : Nat)

include hextends

theorem targetsAtLeast : grown.targetsAtLeast major = upgrade.targetsAtLeast major := by
  unfold Upgrade.targetsAtLeast
  rw [hextends.target]

theorem crosses {cluster : Object}
    (hfirst : upgrade.store.first? .dataScienceCluster = .ok (some cluster)) :
    grown.crosses major = upgrade.crosses major := by
  unfold Upgrade.crosses
  rw [hextends.targetsAtLeast, hextends.current cluster hfirst]

end Upgrade.Extends

/-! ### Documents that list more -/

namespace Snapshot

theorem extends_storeOf (items more : List Json) :
    (storeOf (items ++ more)).Extends (storeOf items) := by
  intro type _
  refine ⟨_, (ofType type more).map Object.mk, listing_storeOf items type, ?_⟩
  rw [listing_storeOf, ofType, List.filter_append, List.map_append]
  rfl

/-- The document that a text is, in a format. -/
def document? (format : Format) (text : String) : Option Json :=
  match format with
  | .json => Json.parse? text
  | .yaml => Yaml.load? text

theorem ofText_eq {messages : ParserMessages} {format : Format} {text : String} {document : Json}
    (hdocument : document? format text = some document) :
    ofText messages format text = ofDocument document := by
  unfold ofText
  cases format with
  | json =>
      have hparse : Json.parse? text = some document := hdocument
      rw [hparse]
  | yaml =>
      have hload : Yaml.load? text = some document := hdocument
      rw [hload]

/-- The document is a list of the items, bare or as its member `items`. -/
inductive IsListOf : Json → List Json → Prop
  | bare (items : List Json) : IsListOf (.arr items) items
  | member {members : List (String × Json)} {items : List Json}
      (hitems : (Json.obj members).get? "items" = some (.arr items)) :
      IsListOf (.obj members) items

theorem IsListOf.items_eq {document : Json} {listed : List Json}
    (hlist : IsListOf document listed) : items document = .ok listed := by
  cases hlist with
  | bare => rfl
  | member hitems => rw [items, hitems]

/-- The file at the path is a list of the items. -/
def Shows (files : String → Option String) (path : String) (listed : List Json) : Prop :=
  ∃ text document, files path = some text ∧ document? (formatOf path) text = some document ∧
    IsListOf document listed

theorem Shows.load_eq {files : String → Option String} {path : String} {listed : List Json}
    (hshows : Shows files path listed) {messages : ParserMessages} {store : Store}
    (hload : load messages files path = .ok store) : store = storeOf listed := by
  obtain ⟨text, document, hread, hdocument, hlist⟩ := hshows
  rw [load, hread] at hload
  have hstore : ofDocument document = .ok store := (ofText_eq hdocument).symm.trans hload
  obtain ⟨found, hfound, rfl⟩ := eq_storeOf_of_ofDocument hstore
  rw [hlist.items_eq] at hfound
  rw [Except.ok.inj hfound]

end Snapshot

end UpgradeGate
