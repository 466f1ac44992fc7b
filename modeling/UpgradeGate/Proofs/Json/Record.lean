import UpgradeGate.Diagnosis.Json
import UpgradeGate.Proofs.Dict
import UpgradeGate.Proofs.Json.Printing

/-!
# Records read back

What is found under each field of a record that was written as an object. A field that may be left
out comes back if it is left out only at the value that its absence is read as.
-/

namespace UpgradeGate

theorem mapM_map_eq_some {α β γ : Type} {write : α → β} {read : β → Option γ} {settle : α → γ}
    {values : List α} (hread : ∀ value ∈ values, read (write value) = some (settle value)) :
    (values.map write).mapM read = some (values.map settle) := by
  induction values with
  | nil => rfl
  | cons value values ih =>
      rw [List.forall_mem_cons] at hread
      rw [List.map_cons, List.mapM_cons, hread.1, ih hread.2]
      rfl

theorem exists_of_mem_of_mapM_eq_some {α β : Type} {read : α → Option β} {items : List α}
    {values : List β} (hread : items.mapM read = some values) {value : β}
    (hvalue : value ∈ values) : ∃ item, read item = some value := by
  induction items generalizing values with
  | nil =>
      cases hread
      cases hvalue
  | cons item items ih =>
      rw [List.mapM_cons, Option.bind_eq_bind, Option.bind_eq_some_iff] at hread
      obtain ⟨first, hfirst, hrest⟩ := hread
      obtain ⟨others, hothers, hcons⟩ := Option.bind_eq_some_iff.mp hrest
      cases hcons
      rcases List.mem_cons.mp hvalue with rfl | hvalue
      · exact ⟨item, hfirst⟩
      · exact ih hothers hvalue

namespace Json

/-! ### Objects of parts that may be missing -/

/-- The object of the parts that are there. -/
def ofParts (parts : List (String × Option Json)) : Json :=
  .obj (parts.flatMap fun part => member? part.1 part.2)

theorem fits_ofParts {depth : Nat} {parts : List (String × Option Json)}
    (hparts : ∀ part ∈ parts, ∀ json ∈ part.2, json.Fits depth) :
    (ofParts parts).Fits (depth + 1) := by
  apply Fits.obj
  intro member hmember
  obtain ⟨part, hpart, hmember⟩ := List.mem_flatMap.mp hmember
  have hfits := hparts part hpart
  obtain ⟨name, value⟩ := part
  cases value with
  | none => cases hmember
  | some json =>
      obtain rfl := List.mem_singleton.mp hmember
      exact hfits json rfl

namespace Document

/-! ### Values -/

theorem str?_ofJson (s : String) : str? (ofJson (.str s)) = some s := rfl

theorem list?_map {α β : Type} {write : α → Json} {read : Document → Option β} {settle : α → β}
    {values : List α}
    (hread : ∀ value ∈ values, read (ofJson (write value)) = some (settle value)) :
    list? read (ofJson (.arr (values.map write))) = some (values.map settle) := by
  rw [ofJson, ofItems_eq_map, List.map_map]
  exact mapM_map_eq_some hread

theorem exists_of_mem_of_list? {α : Type} {read : Document → Option α} {document : Document}
    {values : List α} (hlist : list? read document = some values) {value : α}
    (hvalue : value ∈ values) : ∃ item, read item = some value := by
  cases document with
  | arr items => exact exists_of_mem_of_mapM_eq_some hlist hvalue
  | _ => cases hlist

theorem strings?_toJson (dict : Dict String) : strings? (ofJson dict.toJson) = some dict := by
  rw [Dict.toJson, ofJson, ofMembers_eq_map, List.map_map]
  refine Option.bind_eq_some_iff.mpr ⟨dict.entries.map id, mapM_map_eq_some fun _ _ => rfl, ?_⟩
  rw [List.map_id]
  exact congrArg some (Dict.ofList_entries dict)

/-! ### Fields -/

/-- Under the name of each part there is its value, or nothing if it is missing. -/
structure Shows (names : List String) (parts : List (String × Option Json))
    (present : List (String × Document)) : Prop where
  lookup : ∀ part ∈ parts, part.1 ∈ names → present.lookup part.1 = part.2.map ofJson
  others : ∀ name ∉ parts.map Prod.fst, present.lookup name = none

namespace Shows

variable {names : List String} {parts : List (String × Option Json)}
  {present : List (String × Document)} {name : String}

theorem cons_unread (hshows : Shows names parts present) (hnew : name ∉ parts.map Prod.fst)
    {value : Option Json} (hunread : name ∈ names → value = none) :
    Shows names ((name, value) :: parts) present where
  lookup := by
    refine List.forall_mem_cons.mpr ⟨fun hname => ?_, hshows.lookup⟩
    rw [hunread hname]
    exact hshows.others name hnew
  others := fun _ hother => hshows.others _ (mt (List.mem_cons_of_mem name) hother)

theorem cons_read (hshows : Shows names parts present) (hnew : name ∉ parts.map Prod.fst)
    (json : Json) : Shows names ((name, some json) :: parts) ((name, ofJson json) :: present) where
  lookup := by
    refine List.forall_mem_cons.mpr ⟨fun _ => ?_, fun part hpart hname => ?_⟩
    · rw [Dict.lookup_cons, if_pos rfl, Option.map_some]
    · have hne : part.1 ≠ name := ne_of_mem_of_not_mem (List.mem_map_of_mem hpart) hnew
      rw [Dict.lookup_cons, if_neg hne, hshows.lookup part hpart hname]
  others := by
    intro other hother
    rw [List.map_cons, List.mem_cons, not_or] at hother
    rw [Dict.lookup_cons, if_neg hother.1, hshows.others other hother.2]

end Shows

theorem fieldsOf_cons {names : List String} {name : String} {document : Document}
    {members : List (Option String × Document)} {present : List (String × Document)}
    (hfields : fieldsOf names members = some present) (hnew : present.lookup name = none) :
    fieldsOf names ((some name, document) :: members) =
      some (if name ∈ names then (name, document) :: present else present) := by
  rw [fieldsOf, hfields]
  by_cases hname : name ∈ names <;> simp [hname, hnew]

theorem exists_fieldsOf (names : List String) {parts : List (String × Option Json)}
    (hnodup : (parts.map Prod.fst).Nodup) :
    ∃ present,
      fieldsOf names (ofMembers (parts.flatMap fun part => member? part.1 part.2)) =
        some present ∧ Shows names parts present := by
  induction parts with
  | nil => exact ⟨[], rfl, by simp, fun _ _ => rfl⟩
  | cons part parts ih =>
      obtain ⟨name, value⟩ := part
      rw [List.map_cons, List.nodup_cons] at hnodup
      obtain ⟨present, hfields, hshows⟩ := ih hnodup.2
      cases value with
      | none => exact ⟨present, hfields, hshows.cons_unread hnodup.1 fun _ => rfl⟩
      | some json =>
          refine ⟨_, fieldsOf_cons hfields (hshows.others name hnodup.1), ?_⟩
          by_cases hname : name ∈ names
          · rw [if_pos hname]
            exact hshows.cons_read hnodup.1 json
          · rw [if_neg hname]
            exact hshows.cons_unread hnodup.1 fun hmem => absurd hmem hname

theorem exists_record? (names : List String) (parts : List (String × Option Json))
    (hnames : parts.map Prod.fst = names) (hnodup : names.Nodup) :
    ∃ fields, record? names (ofJson (ofParts parts)) = some fields ∧
      ∀ part ∈ parts, fields.present.lookup part.1 = part.2.map ofJson := by
  obtain ⟨present, hfields, hshows⟩ := exists_fieldsOf names (hnames ▸ hnodup)
  refine ⟨⟨present⟩, by rw [ofParts, ofJson, record?, hfields]; rfl, fun part hpart => ?_⟩
  exact hshows.lookup part hpart (hnames ▸ List.mem_map_of_mem hpart)

/-- The values under a name in an object, all of them if there are several. -/
def named (name : String) : Document → List Document
  | .obj members => (members.filter fun member => member.1 = some name).map Prod.snd
  | _ => []

theorem named_cons (name : String) (member : String × Json) (members : List (String × Json)) :
    (ofJson (.obj (member :: members))).named name =
      (if member.1 = name then [ofJson member.2] else []) ++
        (ofJson (.obj members)).named name := by
  simp only [ofJson, ofMembers, named, List.filter_cons, Option.some.injEq, decide_eq_true_eq]
  split <;> rfl

theorem named_ofParts_cons (name : String) (part : String × Option Json)
    (parts : List (String × Option Json)) :
    (ofJson (ofParts (part :: parts))).named name =
      (if part.1 = name then (part.2.map ofJson).toList else []) ++
        (ofJson (ofParts parts)).named name := by
  obtain ⟨other, _ | json⟩ := part
  · rw [Option.map_none, Option.toList_none, ite_self]
    rfl
  · exact named_cons name (other, json) _

theorem named_ofParts_of_notMem {name : String} {parts : List (String × Option Json)}
    (hname : name ∉ parts.map Prod.fst) : (ofJson (ofParts parts)).named name = [] := by
  induction parts with
  | nil => rfl
  | cons part parts ih =>
      rw [List.map_cons, List.mem_cons, not_or] at hname
      rw [named_ofParts_cons, if_neg (Ne.symm hname.1), ih hname.2, List.nil_append]

/-- A part that is there stands in the object once, and one that is missing does not. -/
theorem named_ofParts {parts : List (String × Option Json)}
    (hnodup : (parts.map Prod.fst).Nodup) {name : String} {value : Option Json}
    (hpart : (name, value) ∈ parts) :
    (ofJson (ofParts parts)).named name = (value.map ofJson).toList := by
  induction parts with
  | nil => cases hpart
  | cons part parts ih =>
      rw [List.map_cons, List.nodup_cons] at hnodup
      rw [named_ofParts_cons]
      rcases List.mem_cons.mp hpart with rfl | hpart
      · rw [if_pos rfl, named_ofParts_of_notMem hnodup.1, List.append_nil]
      · have hne : part.1 ≠ name :=
          (ne_of_mem_of_not_mem (List.mem_map_of_mem hpart) hnodup.1).symm
        rw [if_neg hne, List.nil_append, ih hnodup.2 hpart]

namespace Fields

variable {α : Type} {fields : Fields} {name : String} {read : Document → Option α} {value : α}

theorem required_of_lookup {json : Json}
    (hlookup : fields.present.lookup name = some (ofJson json))
    (hread : read (ofJson json) = some value) : fields.required name read = some value := by
  rw [required, hlookup]
  exact hread

theorem required_str? {s : String}
    (hlookup : fields.present.lookup name = some (ofJson (.str s))) :
    fields.required name str? = some s :=
  required_of_lookup hlookup (str?_ofJson s)

theorem withDefault_of_lookup_some {json : Json} {default : α}
    (hlookup : fields.present.lookup name = some (ofJson json))
    (hread : read (ofJson json) = some value) :
    fields.withDefault name read default = some value := by
  rw [withDefault, hlookup]
  exact hread

theorem exists_of_required (hread : fields.required name read = some value) :
    ∃ document, read document = some value := by
  obtain ⟨document, _, hread⟩ := Option.bind_eq_some_iff.mp hread
  exact ⟨document, hread⟩

theorem eq_or_exists_of_withDefault {default : α}
    (hread : fields.withDefault name read default = some value) :
    value = default ∨ ∃ document, read document = some value := by
  unfold withDefault at hread
  split at hread
  · exact .inl (Option.some.inj hread).symm
  · next document _ => exact .inr ⟨document, hread⟩

/-- A field is either written, and read back, or left out at its default. -/
theorem withDefault_of_lookup {json? : Option Json} {default : α}
    (hlookup : fields.present.lookup name = json?.map ofJson)
    (hread : ∀ json ∈ json?, read (ofJson json) = some value)
    (habsent : json? = none → default = value) :
    fields.withDefault name read default = some value := by
  cases json? with
  | none =>
      rw [withDefault, hlookup, ← habsent rfl]
      rfl
  | some json => exact withDefault_of_lookup_some hlookup (hread json rfl)

theorem withDefault_optional? {write : α → Json} {value? : Option α}
    (hlookup : fields.present.lookup name = (value?.map write).map ofJson)
    (hread : ∀ value ∈ value?, optional? read (ofJson (write value)) = some (some value)) :
    fields.withDefault name (optional? read) none = some value? := by
  apply withDefault_of_lookup hlookup
  · cases value? with
    | none => rintro json ⟨⟩
    | some value =>
        rintro json ⟨⟩
        exact hread value rfl
  · exact fun habsent => (Option.map_eq_none_iff.mp habsent).symm

theorem withDefault_strings? {dict : Dict String}
    (hlookup : fields.present.lookup name = dict.toJson?.map ofJson) :
    fields.withDefault name strings? ∅ = some dict := by
  apply withDefault_of_lookup hlookup
  · rw [Dict.toJson?]
    split
    · rintro json ⟨⟩
    · rintro json ⟨⟩
      exact strings?_toJson dict
  · rw [Dict.toJson?]
    split
    · next hempty => exact fun _ => Dict.ext (List.isEmpty_iff.mp hempty).symm
    · rintro ⟨⟩

end Fields

end Document

end Json

end UpgradeGate
