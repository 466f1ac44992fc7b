import Mathlib.Data.List.Perm.Basic
import UpgradeGate.Proofs.Cluster.History
import UpgradeGate.Proofs.Cluster.Snapshot

/-!
# What a snapshot loads to

A document loads as a whole or not at all: only if it has the shape of a list and all its items say
what they are. Each of its items is then found under its own group and kind and nowhere else, and
the listings of the types, taken together, are the items again.
-/

namespace UpgradeGate.Snapshot

/-! ### What a document holds -/

/-- The document is a list of the items, or an object without `items`, which is the only item. -/
inductive Holds : Json → List Json → Prop
  | list {document : Json} {listed : List Json} (hlist : IsListOf document listed) :
    Holds document listed
  | alone {members : List (String × Json)} (hnone : (Json.obj members).get? "items" = none) :
    Holds (.obj members) [.obj members]

theorem items_eq_ok_iff {document : Json} {listed : List Json} :
    items document = .ok listed ↔ Holds document listed := by
  constructor
  · intro hitems
    unfold items at hitems
    split at hitems
    · rw [← Except.ok.inj hitems]
      exact .list (.bare _)
    · split at hitems
      · next hmember =>
        rw [← Except.ok.inj hitems]
        exact .list (.member hmember)
      · cases hitems
      · next hnone =>
        rw [← Except.ok.inj hitems]
        exact .alone hnone
    · cases hitems
  · rintro (hlist | hnone)
    · exact hlist.items_eq
    · rw [items, hnone]

/-- The item names the API version and the kind that it is of. -/
def Identifies (item : Json) : Prop :=
  ∃ version kind, item.get? "apiVersion" = some (.str version) ∧ item.get? "kind" = some (.str kind)

theorem isIdentified_iff {item : Json} : isIdentified item = true ↔ Identifies item := by
  have htext (name : String) : ((item.get? name).map Json.isStr == some true) = true ↔
      ∃ text, item.get? name = some (.str text) := by
    rcases item.get? name with _ | value
    · simp
    · cases value <;> simp [Json.isStr, Json.str?]
  unfold isIdentified Identifies
  rw [Bool.and_eq_true, htext, htext, exists_and_exists_comm]

/-- What is wrong with a document that does not load. -/
inductive Refuses : Json → Misconfiguration → Prop
  | otherItems {members : List (String × Json)} {other : Json}
    (hmember : (Json.obj members).get? "items" = some other)
    (hother : ∀ listed, other ≠ .arr listed) : Refuses (.obj members) .itemsNotList
  | scalar {document : Json} (hlist : ∀ listed, document ≠ .arr listed)
    (hobject : ∀ members, document ≠ .obj members) : Refuses document .notObjects
  | unidentified {document item : Json} {listed : List Json} {index : Nat}
    (hholds : Holds document listed) (hitem : listed[index]? = some item)
    (hunidentified : ¬ Identifies item)
    (hleast : ∀ earlier < index, ∀ other, listed[earlier]? = some other → Identifies other) :
    Refuses document (.unidentifiedItem index)

theorem findIdx?_eq_some_iff {listed : List Json} {index : Nat} :
    listed.findIdx? (fun item => !isIdentified item) = some index ↔
      ∃ item, listed[index]? = some item ∧ ¬ Identifies item ∧
        ∀ earlier < index, ∀ other, listed[earlier]? = some other → Identifies other := by
  simp only [← isIdentified_iff]
  rw [List.findIdx?_eq_some_iff_getElem]
  constructor
  · rintro ⟨hindex, hitem, hleast⟩
    refine ⟨listed[index], List.getElem?_eq_getElem hindex, by simpa using hitem, ?_⟩
    intro earlier hearlier other hother
    obtain ⟨_, rfl⟩ := List.getElem?_eq_some_iff.mp hother
    simpa using hleast earlier hearlier
  · rintro ⟨item, hitem, hunidentified, hleast⟩
    obtain ⟨hindex, rfl⟩ := List.getElem?_eq_some_iff.mp hitem
    refine ⟨hindex, by simpa using hunidentified, fun earlier hearlier => ?_⟩
    simpa using hleast earlier hearlier _ (List.getElem?_eq_getElem (Nat.lt_trans hearlier hindex))

theorem findIdx?_eq_none_iff {listed : List Json} :
    listed.findIdx? (fun item => !isIdentified item) = none ↔ ∀ item ∈ listed, Identifies item := by
  simp only [List.findIdx?_eq_none_iff, Bool.not_eq_false', isIdentified_iff]

theorem ofDocument_of_holds {document : Json} {listed : List Json}
    (hholds : Holds document listed) :
    ofDocument document =
      match listed.findIdx? fun item => !isIdentified item with
      | some index => .error (.configuration (.unidentifiedItem index))
      | none => .ok (storeOf listed) :=
  ofDocument_of_items (items_eq_ok_iff.mpr hholds)

theorem ofDocument_eq_ok_iff {document : Json} {store : Store} :
    ofDocument document = .ok store ↔
      ∃ listed, Holds document listed ∧ (∀ item ∈ listed, Identifies item) ∧
        store = storeOf listed := by
  constructor
  · intro hstore
    obtain ⟨listed, hitems, rfl⟩ := eq_storeOf_of_ofDocument hstore
    have hholds := items_eq_ok_iff.mp hitems
    rw [ofDocument_of_holds hholds] at hstore
    cases hindex : listed.findIdx? fun item => !isIdentified item with
    | none => exact ⟨listed, hholds, findIdx?_eq_none_iff.mp hindex, rfl⟩
    | some index =>
        rw [hindex] at hstore
        cases hstore
  · rintro ⟨listed, hholds, hidentified, rfl⟩
    rw [ofDocument_of_holds hholds, findIdx?_eq_none_iff.mpr hidentified]

theorem refuses_of_items_eq_error {document : Json} {problem : Problem}
    (hitems : items document = .error problem) :
    ∃ cause, Refuses document cause ∧ problem = .configuration cause := by
  unfold items at hitems
  split at hitems
  · cases hitems
  · split at hitems
    · cases hitems
    · next hother hmember =>
      exact ⟨_, .otherItems hmember hother, (Except.error.inj hitems).symm⟩
    · cases hitems
  · next hlist hobject => exact ⟨_, .scalar hlist hobject, (Except.error.inj hitems).symm⟩

theorem ofDocument_eq_error_of_items {document : Json} {problem : Problem}
    (hitems : items document = .error problem) : ofDocument document = .error problem := by
  rw [ofDocument, hitems]
  rfl

theorem ofDocument_of_refuses {document : Json} {cause : Misconfiguration}
    (hrefuses : Refuses document cause) : ofDocument document = .error (.configuration cause) := by
  cases hrefuses with
  | @otherItems members other hmember hother =>
      apply ofDocument_eq_error_of_items
      rw [items, hmember]
      cases other with
      | arr listed => exact absurd rfl (hother listed)
      | _ => rfl
  | scalar hlist hobject =>
      apply ofDocument_eq_error_of_items
      cases document with
      | arr listed => exact absurd rfl (hlist listed)
      | obj members => exact absurd rfl (hobject members)
      | _ => rfl
  | unidentified hholds hitem hunidentified hleast =>
      rw [ofDocument_of_holds hholds,
        findIdx?_eq_some_iff.mpr ⟨_, hitem, hunidentified, hleast⟩]

theorem ofDocument_eq_error_iff {document : Json} {problem : Problem} :
    ofDocument document = .error problem ↔
      ∃ cause, Refuses document cause ∧ problem = .configuration cause := by
  constructor
  · intro herror
    cases hitems : items document with
    | error found =>
        rw [ofDocument_eq_error_of_items hitems] at herror
        exact Except.error.inj herror ▸ refuses_of_items_eq_error hitems
    | ok listed =>
        have hholds := items_eq_ok_iff.mp hitems
        rw [ofDocument_of_holds hholds] at herror
        cases hindex : listed.findIdx? fun item => !isIdentified item with
        | none =>
            rw [hindex] at herror
            cases herror
        | some index =>
            rw [hindex] at herror
            obtain ⟨item, hitem, hunidentified, hleast⟩ := findIdx?_eq_some_iff.mp hindex
            exact ⟨_, .unidentified hholds hitem hunidentified hleast,
              (Except.error.inj herror).symm⟩
  · rintro ⟨cause, hrefuses, rfl⟩
    exact ofDocument_of_refuses hrefuses

/-! ### What the store lists -/

/-- The type is well known or that of one of the items, whatever its version. -/
def IsServed (listed : List Json) (type : ResourceType) : Prop :=
  (∃ known ∈ ResourceType.wellKnown, known.key = type.key) ∨
    ∃ item ∈ listed, (Object.mk item).IsOf type

theorem serves_storeOf_iff {listed : List Json} {type : ResourceType} :
    (storeOf listed).serves type.key = true ↔ IsServed listed type := by
  rw [storeOf_eq_after, Store.serves_after_iff, Store.IsKnown, inserted_changes, IsServed]
  simp [changes]

theorem map_mk_ofType (type : ResourceType) (listed : List Json) :
    (ofType type listed).map Object.mk =
      (listed.map Object.mk).filter fun object => object.IsOf type := by
  simp only [← Object.typeKey_eq_key_iff, ofType, List.filter_map]
  rfl

theorem ofType_cons (type : ResourceType) (item : Json) (listed : List Json) :
    ofType type (item :: listed) =
      (if (Object.mk item).IsOf type then [item] else []) ++ ofType type listed := by
  simp only [ofType, List.filter_cons, decide_eq_true_eq, Object.typeKey_eq_key_iff]
  split <;> rfl

/-- Of types with distinct groups and kinds an item is of one at most. -/
theorem flatMap_ite_isOf {types : List ResourceType}
    (hdistinct : (types.map ResourceType.key).Nodup) {item : Json}
    (hof : ∃ type ∈ types, (Object.mk item).IsOf type) :
    (types.flatMap fun type => if (Object.mk item).IsOf type then [item] else []) = [item] := by
  induction types with
  | nil => simp at hof
  | cons type types ih =>
      rw [List.map_cons, List.nodup_cons] at hdistinct
      rw [List.exists_mem_cons_iff] at hof
      rw [List.flatMap_cons]
      by_cases htype : (Object.mk item).IsOf type
      · have hothers : ∀ other ∈ types, ¬ (Object.mk item).IsOf other := by
          intro other hother hagain
          have hkey : other.key = type.key :=
            (Object.typeKey_eq_key_iff.mpr hagain).symm.trans (Object.typeKey_eq_key_iff.mpr htype)
          exact hdistinct.1 (hkey ▸ List.mem_map_of_mem hother)
        have hnone :
            (types.flatMap fun type => if (Object.mk item).IsOf type then [item] else []) = [] :=
          List.flatMap_eq_nil_iff.mpr fun other hother => if_neg (hothers other hother)
        rw [if_pos htype, hnone, List.append_nil]
      · rw [if_neg htype, List.nil_append, ih hdistinct.2 (hof.resolve_left htype)]

/-- Listed type by type, the items are all there, each as often as in the document. -/
theorem perm_flatMap_ofType {types : List ResourceType}
    (hdistinct : (types.map ResourceType.key).Nodup) {listed : List Json}
    (hcovered : ∀ item ∈ listed, ∃ type ∈ types, (Object.mk item).IsOf type) :
    (types.flatMap fun type => ofType type listed).Perm listed := by
  induction listed with
  | nil => simp [ofType]
  | cons item listed ih =>
      rw [List.forall_mem_cons] at hcovered
      have hall := List.flatMap_append_perm types
        (fun type => if (Object.mk item).IsOf type then [item] else [])
        (fun type => ofType type listed)
      rw [flatMap_ite_isOf hdistinct hcovered.1] at hall
      simp only [ofType_cons]
      exact hall.symm.trans ((ih hcovered.2).cons item)

/-- The store holds what the items are: each under its group and kind, once and unchanged. -/
structure IsLoadedFrom (store : Store) (listed : List Json) : Prop where
  served : ∀ type, IsServed listed type → ∀ calls : Nat,
    (store.list type).run.run calls =
      (.ok ((listed.map Object.mk).filter fun object => object.IsOf type), calls + 1)
  unknown : ∀ type, ¬ IsServed listed type → ∀ calls : Nat,
    (store.list type).run.run calls = (.error (.ofUnknownType type), calls + 1)
  complete : ∀ types : List ResourceType, (types.map ResourceType.key).Nodup →
    (∀ item ∈ listed, ∃ type ∈ types, (Object.mk item).IsOf type) →
    ∃ listings, List.Forall₂ (fun type objects => store.listing type = .ok objects) types listings ∧
      listings.flatten.Perm (listed.map Object.mk)

theorem isLoadedFrom_storeOf (listed : List Json) : IsLoadedFrom (storeOf listed) listed where
  served := by
    intro type hserved calls
    rw [Store.list_run, answer_storeOf, if_pos (serves_storeOf_iff.mpr hserved), map_mk_ofType]
  unknown := by
    intro type hserved calls
    rw [Store.list_run, answer_storeOf, if_neg (mt serves_storeOf_iff.mp hserved)]
  complete := by
    intro types hdistinct hcovered
    refine ⟨types.map fun type => (ofType type listed).map Object.mk, ?_, ?_⟩
    · rw [List.forall₂_map_right_iff, List.forall₂_same]
      exact fun type _ => listing_storeOf listed type
    · rw [← List.flatMap_def, ← List.map_flatMap]
      exact (perm_flatMap_ofType hdistinct hcovered).map Object.mk

/-- A document loads if it is a list of items, or is the one item itself, and all items say what
they are. It is refused otherwise, over its shape or over the first item that does not. The store
that it loads to serves the well-known types and those of the items, and lists every item where it
belongs. A text loads as the document that it is. -/
theorem loads_wholly (document : Json) :
    ((∃ store, ofDocument document = .ok store) ↔
      ∃ listed, Holds document listed ∧ ∀ item ∈ listed, Identifies item) ∧
    (∀ problem, ofDocument document = .error problem ↔
      ∃ cause, Refuses document cause ∧ problem = .configuration cause) ∧
    (∀ store, ofDocument document = .ok store →
      ∃ listed, Holds document listed ∧ IsLoadedFrom store listed) ∧
    ∀ messages format text, document? format text = some document →
      ofText messages format text = ofDocument document := by
  refine ⟨?_, fun problem => ofDocument_eq_error_iff, ?_, fun messages format text => ofText_eq⟩
  · simp only [ofDocument_eq_ok_iff]
    constructor
    · rintro ⟨_, listed, hholds, hidentified, _⟩
      exact ⟨listed, hholds, hidentified⟩
    · rintro ⟨listed, hholds, hidentified⟩
      exact ⟨_, listed, hholds, hidentified, rfl⟩
  · intro store hstore
    obtain ⟨listed, hholds, _, rfl⟩ := ofDocument_eq_ok_iff.mp hstore
    exact ⟨listed, hholds, isLoadedFrom_storeOf listed⟩

/-- An object whose API version has two slashes, of a type that is not well known. -/
def nested : Json := .obj [("apiVersion", .str "a/b/v1"), ("kind", .str "C")]

theorem loads_wholly_nested :
    (∃ store, ofDocument nested = .ok store ∧
      (store.list ⟨"a/b", "v2", "C", "cs"⟩).run.run 0 = (.ok [⟨nested⟩], 1) ∧
      (store.list .configMap).run.run 1 = (.ok [], 2)) ∧
    ofDocument (.arr [nested, .null, .null]) = .error (.configuration (.unidentifiedItem 1)) := by
  have hidentified : Identifies nested := ⟨"a/b/v1", "C", rfl, rfl⟩
  constructor
  · obtain ⟨hloads, _, hstore, _⟩ := loads_wholly nested
    obtain ⟨store, hdocument⟩ :=
      hloads.mpr ⟨[nested], .alone rfl, List.forall_mem_singleton.mpr hidentified⟩
    obtain ⟨listed, hholds, hloaded⟩ := hstore store hdocument
    obtain rfl : [nested] = listed :=
      Except.ok.inj ((items_eq_ok_iff.mpr (.alone rfl)).symm.trans (items_eq_ok_iff.mpr hholds))
    have hof : (Object.mk nested).IsOf ⟨"a/b", "v2", "C", "cs"⟩ := by decide
    have hother : ¬ (Object.mk nested).IsOf .configMap := by decide
    refine ⟨store, hdocument, ?_, ?_⟩
    · rw [hloaded.served _ (.inr ⟨nested, List.mem_singleton_self _, hof⟩)]
      simp [hof]
    · rw [hloaded.served _ (.inl ⟨.configMap, by decide, rfl⟩)]
      simp [hother]
  · refine ((loads_wholly _).2.1 _).mpr ⟨_, .unidentified (.list (.bare _)) rfl ?_ ?_, rfl⟩
    · rintro ⟨version, kind, hversion, _⟩
      cases hversion
    · intro earlier hearlier other hother
      obtain rfl : earlier = 0 := Nat.lt_one_iff.mp hearlier
      exact Option.some.inj hother ▸ hidentified

end UpgradeGate.Snapshot
