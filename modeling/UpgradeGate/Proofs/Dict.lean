import Mathlib.Data.List.Induction
import UpgradeGate.Json.Basic

/-!
# Looking into maps

What a map holds under a name after each way to make one, and that a map is made again of its own
entries.
-/

namespace UpgradeGate

namespace Dict

variable {α β : Type}

@[ext]
theorem ext {first second : Dict α} (hentries : first.entries = second.entries) :
    first = second := by
  cases first
  cases second
  cases hentries
  rfl

/-! ### Look-up -/

theorem lookup_cons (name : String) (entry : String × α) (entries : List (String × α)) :
    (entry :: entries).lookup name =
      if name = entry.1 then some entry.2 else entries.lookup name := by
  rw [List.lookup_cons]
  by_cases hname : name = entry.1
  · simp [hname]
  · simp [hname, beq_eq_false_iff_ne.mpr hname]

theorem lookup_insertEntry (key name : String) (value : α) (entries : List (String × α)) :
    (insertEntry key value entries).lookup name =
      if name = key then some value else entries.lookup name := by
  induction entries with
  | nil => exact lookup_cons name (key, value) []
  | cons entry entries ih =>
      rw [insertEntry]
      split
      · exact lookup_cons name (key, value) _
      · split
        · next hkey =>
          rw [lookup_cons, lookup_cons, hkey]
          split <;> rfl
        · next hkey =>
          rw [lookup_cons, lookup_cons, ih]
          by_cases hname : name = entry.1
          · simp [hname, Ne.symm hkey]
          · simp [hname]

theorem find?_insert (key name : String) (value : α) (dict : Dict α) :
    (dict.insert key value).find? name = if name = key then some value else dict.find? name :=
  lookup_insertEntry key name value dict.entries

theorem ofList_concat (pairs : List (String × α)) (pair : String × α) :
    ofList (pairs ++ [pair]) = (ofList pairs).insert pair.1 pair.2 := by
  rw [ofList, List.foldl_append]
  rfl

/-- The last pair with a name counts. -/
theorem find?_ofList (name : String) (pairs : List (String × α)) :
    (ofList pairs).find? name = pairs.reverse.lookup name := by
  induction pairs using List.reverseRecOn with
  | nil => rfl
  | append_singleton pairs pair ih =>
      rw [ofList_concat, find?_insert, ih, List.reverse_append, List.reverse_singleton,
        List.singleton_append, lookup_cons]

theorem lookup_eq_none_of_notMem {name : String} {entries : List (String × α)}
    (hname : name ∉ entries.map Prod.fst) : entries.lookup name = none := by
  rw [List.lookup_eq_none_iff]
  intro entry hentry
  rw [bne_iff_ne]
  rintro rfl
  exact hname (List.mem_map_of_mem hentry)

theorem lookup_filterMap (f : String → α → Option β) (name : String) {entries : List (String × α)}
    (hsorted : (entries.map Prod.fst).Pairwise (· < ·)) :
    (entries.filterMap fun entry => (f entry.1 entry.2).map (entry.1, ·)).lookup name =
      (entries.lookup name).bind (f name) := by
  induction entries with
  | nil => rfl
  | cons entry entries ih =>
      rw [List.map_cons, List.pairwise_cons] at hsorted
      rw [List.filterMap_cons, lookup_cons]
      by_cases hname : name = entry.1
      · subst hname
        cases hvalue : f entry.1 entry.2 with
        | some value => simp [hvalue]
        | none =>
            have hnew : entry.1 ∉ entries.map Prod.fst := fun hmem =>
              String.lt_irrefl _ (hsorted.1 _ hmem)
            simp [ih hsorted.2, lookup_eq_none_of_notMem hnew, hvalue]
      · cases f entry.1 entry.2 with
        | none => simp [hname, ih hsorted.2]
        | some value => simp [hname, lookup_cons, ih hsorted.2]

theorem find?_filterMap (f : String → α → Option β) (name : String) (dict : Dict α) :
    (dict.filterMap f).find? name = (dict.find? name).bind (f name) :=
  lookup_filterMap f name dict.sorted

/-! ### Entries -/

theorem insertEntry_eq_append {key : String} {value : α} {entries : List (String × α)}
    (hlast : ∀ name ∈ entries.map Prod.fst, name < key) :
    insertEntry key value entries = entries ++ [(key, value)] := by
  induction entries with
  | nil => rfl
  | cons entry entries ih =>
      rw [List.map_cons, List.forall_mem_cons] at hlast
      have hne : key ≠ entry.1 := fun hsame => String.lt_irrefl _ (hsame ▸ hlast.1)
      rw [insertEntry, if_neg (String.lt_asymm hlast.1), if_neg hne, ih hlast.2, List.cons_append]

theorem entries_ofList {entries : List (String × α)}
    (hsorted : (entries.map Prod.fst).Pairwise (· < ·)) : (ofList entries).entries = entries := by
  induction entries using List.reverseRecOn with
  | nil => rfl
  | append_singleton entries entry ih =>
      rw [List.map_append, List.pairwise_append] at hsorted
      obtain ⟨hfront, _, hlast⟩ := hsorted
      rw [ofList_concat, entries_insert, ih hfront]
      exact insertEntry_eq_append fun name hname => hlast name hname _ (by simp)

/-- A map is made again of its entries. -/
theorem ofList_entries (dict : Dict α) : ofList dict.entries = dict :=
  ext (entries_ofList dict.sorted)

end Dict

theorem Json.find?_members (name : String) (json : Json) :
    json.members.find? name = json.get? name := by
  cases json with
  | obj pairs => exact Dict.find?_ofList name pairs
  | null => rfl
  | bool value => rfl
  | int value => rfl
  | float value => rfl
  | str value => rfl
  | arr items => rfl

end UpgradeGate
