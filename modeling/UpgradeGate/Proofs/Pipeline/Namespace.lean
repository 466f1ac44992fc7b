import UpgradeGate.Proofs.Cluster.Listing
import UpgradeGate.Proofs.Pipeline.Precondition

/-!
# The applications' namespace

What a store says of the namespace of the platform's applications, and what an object says in one of
its text fields. Either is one answer in every case: a value, or an error in full.
-/

namespace UpgradeGate

/-! ### Text fields -/

/-- What an object says in a text field: the text, nothing if the path leads to nothing or to null,
and an error if it leads to anything else. -/
inductive Object.Tells (object : Object) (path : List String) :
    Except ReadError (Option String) → Prop
  | text {text : String} (htext : object.value.HasTextAt path text) :
    Tells object path (.ok (some text))
  | absent (hnone : object.value.at? path = none) : Tells object path (.ok none)
  | null (hnull : object.value.at? path = some .null) : Tells object path (.ok none)
  | malformed (hmalformed : object.value.IsMalformedAt path) :
    Tells object path
      (.error ⟨.invalid, "field " ++ ".".intercalate path ++ " is not a string"⟩)

theorem ReadError.ofField_string (path : String) :
    ofField path "string" = ⟨.invalid, "field " ++ path ++ " is not a string"⟩ := by
  have htext : "field " ++ path ++ " is not a " ++ "string" =
      "field " ++ path ++ " is not a string" := by
    simp only [String.append_assoc]
    rfl
  rw [ofField, htext]

namespace Object

variable {object : Object} {path : List String}

theorem Tells.text?_eq {answer : Except ReadError (Option String)}
    (htells : object.Tells path answer) : object.text? path = answer := by
  cases htells with
  | text htext => exact text?_eq_ok_some_iff.mpr htext
  | absent hnone => rw [text?, hnone]
  | null hnull => rw [text?, hnull]
  | malformed hmalformed =>
      rw [← ReadError.ofField_string]
      rcases text?_cases path object with ⟨htext, _⟩ | ⟨_, hgood, _⟩ | ⟨_, _, hgood, _⟩
      · exact htext
      · exact absurd hmalformed hgood
      · exact absurd hmalformed hgood

theorem exists_tells (object : Object) (path : List String) :
    ∃ answer, object.Tells path answer := by
  rcases hvalue : object.value.at? path with _ | value
  · exact ⟨_, .absent hvalue⟩
  · cases value with
    | null => exact ⟨_, .null hvalue⟩
    | str text => exact ⟨_, .text hvalue⟩
    | _ => exact ⟨_, .malformed ⟨_, hvalue, rfl, nofun⟩⟩

theorem tells_iff {answer : Except ReadError (Option String)} :
    object.Tells path answer ↔ object.text? path = answer := by
  constructor
  · exact Tells.text?_eq
  · rintro rfl
    obtain ⟨answer, htells⟩ := exists_tells object path
    rwa [htells.text?_eq]

end Object

/-! ### The namespace -/

namespace Platform

/-- What a store says of the namespace: the text in its first initialization, the namespace by
default if that has none or an empty one, and an error without an initialization or with a malformed
one. An error of the store is passed on. -/
inductive NamespaceIs (store : Store) : Except ReadError String → Prop
  | refused {error : ReadError} (hrefuses : store.Refuses .dscInitialization error) :
    NamespaceIs store (.error error)
  | missing (hlacks : store.Lacks .dscInitialization) :
    NamespaceIs store (.error ⟨.notFound, "DSCInitialization \"default-dsci\" not found"⟩)
  | malformed {initialization : Object} (hleads : store.Leads .dscInitialization initialization)
    (hmalformed : initialization.value.IsMalformedAt ["spec", "applicationsNamespace"]) :
    NamespaceIs store (.error ⟨.invalid, "field spec.applicationsNamespace is not a string"⟩)
  | told {initialization : Object} {ns : String}
    (hleads : store.Leads .dscInitialization initialization)
    (htext : initialization.value.HasTextAt ["spec", "applicationsNamespace"] ns) (hne : ns ≠ "") :
    NamespaceIs store (.ok ns)
  | empty {initialization : Object} (hleads : store.Leads .dscInitialization initialization)
    (htext : initialization.value.HasTextAt ["spec", "applicationsNamespace"] "") :
    NamespaceIs store (.ok "opendatahub")
  | null {initialization : Object} (hleads : store.Leads .dscInitialization initialization)
    (hnull : initialization.value.at? ["spec", "applicationsNamespace"] = some .null) :
    NamespaceIs store (.ok "opendatahub")
  | absent {initialization : Object} (hleads : store.Leads .dscInitialization initialization)
    (hnone : initialization.value.at? ["spec", "applicationsNamespace"] = none) :
    NamespaceIs store (.ok "opendatahub")

variable {store : Store} {answer : Except ReadError String}

theorem applications_of_leads {initialization : Object} {told : Except ReadError (Option String)}
    (hleads : store.Leads .dscInitialization initialization)
    (htells : initialization.Tells ["spec", "applicationsNamespace"] told) :
    applications store =
      told.map fun ns? => (ns?.filter fun ns => !ns.isEmpty).getD "opendatahub" := by
  rw [applications, hleads.first?_eq]
  simp only [namespacePath, htells.text?_eq]
  rfl

theorem NamespaceIs.applications_eq (hns : NamespaceIs store answer) :
    applications store = answer := by
  cases hns with
  | refused hrefuses => rw [applications, hrefuses.first?_eq]
  | missing hlacks => rw [applications, hlacks.first?_eq]; rfl
  | malformed hleads hmalformed => exact applications_of_leads hleads (.malformed hmalformed)
  | @told _ ns hleads htext hne =>
      have hempty : ns.isEmpty = false := Bool.eq_false_iff.mpr (mt String.isEmpty_iff.mp hne)
      rw [applications_of_leads hleads (.text htext)]
      simp [Except.map, Option.filter, hempty]
  | empty hleads htext => exact applications_of_leads hleads (.text htext)
  | null hleads hnull => exact applications_of_leads hleads (.null hnull)
  | absent hleads hnone => exact applications_of_leads hleads (.absent hnone)

theorem exists_namespaceIs (store : Store) : ∃ answer, NamespaceIs store answer := by
  rcases store.first?_cases .dscInitialization with
    ⟨error, hrefuses⟩ | hlacks | ⟨initialization, hleads⟩
  · exact ⟨_, .refused hrefuses⟩
  · exact ⟨_, .missing hlacks⟩
  · obtain ⟨told, htells⟩ := initialization.exists_tells ["spec", "applicationsNamespace"]
    cases htells with
    | @text ns htext =>
        by_cases hne : ns = ""
        · subst hne
          exact ⟨_, .empty hleads htext⟩
        · exact ⟨_, .told hleads htext hne⟩
    | absent hnone => exact ⟨_, .absent hleads hnone⟩
    | null hnull => exact ⟨_, .null hleads hnull⟩
    | malformed hmalformed => exact ⟨_, .malformed hleads hmalformed⟩

theorem namespaceIs_iff : NamespaceIs store answer ↔ applications store = answer := by
  constructor
  · exact NamespaceIs.applications_eq
  · rintro rfl
    obtain ⟨answer, hns⟩ := exists_namespaceIs store
    rwa [hns.applications_eq]

end Platform

end UpgradeGate
