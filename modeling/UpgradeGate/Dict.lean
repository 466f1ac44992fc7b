/-!
Maps from names to values, kept in the order of the names.
-/

namespace UpgradeGate

/-- A finite map from names; its entries stand in strictly increasing order of their names. -/
structure Dict (α : Type) where
  entries : List (String × α)
  sorted : (entries.map Prod.fst).Pairwise (· < ·)
deriving DecidableEq

namespace Dict

variable {α β : Type}

def empty : Dict α := ⟨[], List.Pairwise.nil⟩

instance : EmptyCollection (Dict α) := ⟨empty⟩

instance : Inhabited (Dict α) := ⟨empty⟩

def isEmpty (dict : Dict α) : Bool := dict.entries.isEmpty

def keys (dict : Dict α) : List String := dict.entries.map Prod.fst

def insertEntry (key : String) (value : α) : List (String × α) → List (String × α)
  | [] => [(key, value)]
  | entry :: rest =>
    if key < entry.1 then (key, value) :: entry :: rest
    else if key = entry.1 then (key, value) :: rest
    else entry :: insertEntry key value rest

theorem mem_keys_insertEntry {key name : String} {value : α} {entries : List (String × α)} :
    name ∈ (insertEntry key value entries).map Prod.fst ↔
      name = key ∨ name ∈ entries.map Prod.fst := by
  induction entries with
  | nil => simp [insertEntry]
  | cons entry rest ih =>
    unfold insertEntry
    split
    · simp
    · split
      · next h => subst h; simp
      · rw [List.map_cons, List.mem_cons, ih, List.map_cons, List.mem_cons]
        constructor
        · rintro (h | h | h) <;> simp [h]
        · rintro (h | h | h) <;> simp [h]

theorem insertEntry_sorted (key : String) (value : α) {entries : List (String × α)}
    (h : (entries.map Prod.fst).Pairwise (· < ·)) :
    ((insertEntry key value entries).map Prod.fst).Pairwise (· < ·) := by
  induction entries with
  | nil => simp [insertEntry]
  | cons entry rest ih =>
    rw [List.map_cons, List.pairwise_cons] at h
    unfold insertEntry
    split
    · next hlt =>
      rw [List.map_cons, List.map_cons, List.pairwise_cons, List.pairwise_cons]
      refine ⟨?_, h⟩
      intro name hname
      rcases List.mem_cons.1 hname with rfl | hname
      · exact hlt
      · exact String.lt_trans hlt (h.1 name hname)
    · next hnot =>
      split
      · next heq =>
        subst heq
        rw [List.map_cons, List.pairwise_cons]
        exact h
      · next hne =>
        rw [List.map_cons, List.pairwise_cons]
        refine ⟨?_, ih h.2⟩
        intro name hname
        rcases mem_keys_insertEntry.1 hname with rfl | hname
        · exact Std.Trichotomous.rel_or_eq_or_rel_swap (r := (· < · : String → String → Prop))
            (a := name) (b := entry.1) |>.elim (absurd · hnot) fun hor =>
              hor.elim (absurd · hne) id
        · exact h.1 name hname

/-- Sets the value of a name, replacing the value that the name had. -/
def insert (key : String) (value : α) (dict : Dict α) : Dict α :=
  ⟨insertEntry key value dict.entries, insertEntry_sorted key value dict.sorted⟩

def find? (key : String) (dict : Dict α) : Option α := dict.entries.lookup key

/-- Of two pairs with one name the later one counts. -/
def ofList (pairs : List (String × α)) : Dict α :=
  pairs.foldl (fun dict pair => dict.insert pair.1 pair.2) ∅

theorem map_fst_filterMap_sublist (f : String → α → Option β) (entries : List (String × α)) :
    ((entries.filterMap fun e => (f e.1 e.2).map (e.1, ·)).map Prod.fst).Sublist
      (entries.map Prod.fst) := by
  induction entries with
  | nil => simp
  | cons entry rest ih =>
    rw [List.filterMap_cons, List.map_cons]
    cases f entry.1 entry.2 with
    | none => exact ih.cons _
    | some value => simpa using ih

def filterMap (f : String → α → Option β) (dict : Dict α) : Dict β :=
  ⟨dict.entries.filterMap fun e => (f e.1 e.2).map (e.1, ·),
    dict.sorted.sublist (map_fst_filterMap_sublist f dict.entries)⟩

@[simp]
theorem entries_empty : (∅ : Dict α).entries = [] := rfl

@[simp]
theorem entries_insert (key : String) (value : α) (dict : Dict α) :
    (dict.insert key value).entries = insertEntry key value dict.entries := rfl

theorem mem_keys_insert {key name : String} {value : α} {dict : Dict α} :
    name ∈ (dict.insert key value).keys ↔ name = key ∨ name ∈ dict.keys :=
  mem_keys_insertEntry

end Dict

end UpgradeGate
