import UpgradeGate.Proofs.Json.Reading

/-!
# Values read back

The text of a value without floats, in one line or indented, is read as the document of the value:
what is quoted, however it has to be escaped, comes back as it was, and so do all parts in their
order. It is read as the value itself if the numbers in it fit 64 bits and if its lists and objects
do not stand too deep inside each other.
-/

namespace UpgradeGate.Json

/-- No float occurs in the value. -/
inductive IsFloatless : Json → Prop
  | null : IsFloatless .null
  | bool (b : Bool) : IsFloatless (.bool b)
  | int (n : Int) : IsFloatless (.int n)
  | str (s : String) : IsFloatless (.str s)
  | arr {items : List Json} (hitems : ∀ item ∈ items, IsFloatless item) : IsFloatless (.arr items)
  | obj {members : List (String × Json)} (hmembers : ∀ member ∈ members, IsFloatless member.2) :
    IsFloatless (.obj members)

namespace Document

mutual

/-- The document that the text of a value is read as. Floats are left out. -/
def ofJson : Json → Document
  | .null => .null
  | .bool b => .bool b
  | .int n => .number (.ofInt n)
  | .float _ => .null
  | .str s => .str (some s)
  | .arr items => .arr (ofItems items)
  | .obj members => .obj (ofMembers members)

def ofItems : List Json → List Document
  | [] => []
  | item :: items => ofJson item :: ofItems items

def ofMembers : List (String × Json) → List (Option String × Document)
  | [] => []
  | (name, value) :: members => (some name, ofJson value) :: ofMembers members

end

theorem ofItems_eq_map (items : List Json) : ofItems items = items.map ofJson := by
  induction items with
  | nil => rfl
  | cons item items ih => rw [ofItems, ih, List.map_cons]

theorem ofMembers_eq_map (members : List (String × Json)) :
    ofMembers members = members.map fun member => (some member.1, ofJson member.2) := by
  induction members with
  | nil => rfl
  | cons member members ih => rw [ofMembers, ih, List.map_cons]

end Document

theorem compactItems_eq_map (items : List Json) : compactItems items = items.map compact := by
  induction items with
  | nil => rfl
  | cons item items ih => rw [compactItems, ih, List.map_cons]

theorem compactMembers_eq_map (members : List (String × Json)) :
    compactMembers members =
      members.map fun member => quote member.1 ++ ":" ++ compact member.2 := by
  induction members with
  | nil => rfl
  | cons member members ih => rw [compactMembers, ih, List.map_cons]

theorem indentedItems_eq_map (indent : Nat) (items : List Json) :
    indentedItems indent items = items.map (indented indent) := by
  induction items with
  | nil => rfl
  | cons item items ih => rw [indentedItems, ih, List.map_cons]

theorem indentedMembers_eq_map (indent : Nat) (members : List (String × Json)) :
    indentedMembers indent members =
      members.map fun member => quote member.1 ++ ": " ++ indented indent member.2 := by
  induction members with
  | nil => rfl
  | cons member members ih => rw [indentedMembers, ih, List.map_cons]

/-! ### Lines between brackets -/

theorem isSpace_of_mem_lineAt {indent : Nat} {c : Char} (hc : c ∈ (lineAt indent).toList) :
    Document.isSpace c = true := by
  rw [lineAt, String.toList_append, List.mem_append] at hc
  cases hc with
  | inl hbreak =>
      rw [List.mem_singleton.mp hbreak]
      rfl
  | inr hblank =>
      rw [String.toList_ofList] at hblank
      rw [List.eq_of_mem_replicate hblank]
      rfl

/-- Brackets enclose the lines, each after a break, and a break of their own if there are any. -/
theorem exists_toList_bracketed (opening closing : String) (indent : Nat) (lines : List String) :
    ∃ after : List Char, (∀ c ∈ after, Document.isSpace c = true) ∧
      (bracketed opening closing indent lines).toList =
        opening.toList ++ ([','].intercalate
          (lines.map fun line => (lineAt (indent + 1)).toList ++ line.toList) ++
            (after ++ closing.toList)) := by
  rw [bracketed]
  split
  · next hempty =>
    rw [List.isEmpty_iff] at hempty
    exact ⟨[], by simp, by rw [hempty, String.toList_append]; rfl⟩
  · refine ⟨(lineAt indent).toList, fun c => isSpace_of_mem_lineAt, ?_⟩
    rw [String.toList_append, String.toList_append, String.toList_append,
      String.toList_intercalate, List.map_map]
    simp only [Function.comp_def, String.toList_append, List.append_assoc]
    rfl

namespace Document

theorem spells_compact {json : Json} (hfloatless : json.IsFloatless) :
    Spells json.compact.toList (ofJson json) := by
  induction hfloatless with
  | null => exact spells_null
  | bool b => exact spells_bool b
  | int n => exact spells_int n
  | str s => exact spells_quote s
  | @arr items hitems ih =>
      have htext : (compact (.arr items)).toList =
          '[' :: ([','].intercalate (items.map (String.toList ∘ compact)) ++ ([] ++ [']'])) := by
        rw [compact, String.toList_append, String.toList_append, String.toList_intercalate,
          compactItems_eq_map, List.map_map]
        rfl
      rw [htext, ofJson, ofItems_eq_map]
      apply spells_list (by simp)
      rw [List.forall₂_map_left_iff, List.forall₂_map_right_iff, List.forall₂_same]
      exact ih
  | @obj members hmembers ih =>
      have htext : (compact (.obj members)).toList =
          '\x7b' :: ([','].intercalate (members.map fun member =>
            (quote member.1).toList ++ ':' :: (compact member.2).toList) ++ ([] ++ ['\x7d'])) := by
        rw [compact, String.toList_append, String.toList_append, String.toList_intercalate,
          compactMembers_eq_map, List.map_map]
        simp only [Function.comp_def, String.toList_append, List.append_assoc]
        rfl
      rw [htext, ofJson, ofMembers_eq_map]
      apply spells_object (by simp)
      rw [List.forall₂_map_left_iff, List.forall₂_map_right_iff, List.forall₂_same]
      intro member hmember
      exact ⟨[], member.1, (compact member.2).toList, (List.nil_append _).symm, by simp, rfl,
        ih member hmember⟩

theorem spells_indented {json : Json} (hfloatless : json.IsFloatless) (indent : Nat) :
    Spells (json.indented indent).toList (ofJson json) := by
  induction hfloatless generalizing indent with
  | null => exact spells_null
  | bool b => exact spells_bool b
  | int n => exact spells_int n
  | str s => exact spells_quote s
  | @arr items hitems ih =>
      obtain ⟨after, hafter, htext⟩ :=
        exists_toList_bracketed "[" "]" indent (indentedItems (indent + 1) items)
      rw [indented, htext, ofJson, ofItems_eq_map, indentedItems_eq_map, List.map_map]
      apply spells_list hafter
      rw [List.forall₂_map_left_iff, List.forall₂_map_right_iff, List.forall₂_same]
      exact fun item hitem => (ih item hitem (indent + 1)).append fun c => isSpace_of_mem_lineAt
  | @obj members hmembers ih =>
      obtain ⟨after, hafter, htext⟩ :=
        exists_toList_bracketed "\x7b" "\x7d" indent (indentedMembers (indent + 1) members)
      rw [indented, htext, ofJson, ofMembers_eq_map, indentedMembers_eq_map, List.map_map]
      apply spells_object hafter
      rw [List.forall₂_map_left_iff, List.forall₂_map_right_iff, List.forall₂_same]
      intro member hmember
      refine ⟨(lineAt (indent + 1)).toList, member.1,
        [' '] ++ (indented (indent + 1) member.2).toList, ?_, fun c => isSpace_of_mem_lineAt, rfl,
        (ih member hmember (indent + 1)).append (List.forall_mem_singleton.mpr rfl)⟩
      rw [Function.comp_apply, String.toList_append, String.toList_append, List.append_assoc]
      rfl

/-- Without floats nothing of a value is lost in its text. -/
theorem parse?_compact {json : Json} (hfloatless : json.IsFloatless) :
    parse? json.compact = some (ofJson json) :=
  parse?_of_spells (spells_compact hfloatless)

theorem parse?_pretty {json : Json} (hfloatless : json.IsFloatless) :
    parse? json.pretty = some (ofJson json) :=
  parse?_of_spells (spells_indented hfloatless 0)

end Document

/-! ### Whole numbers -/

namespace Numeral

theorem le_ofDigitChars (cs : List Char) (sum : Nat) : sum ≤ Nat.ofDigitChars 10 cs sum := by
  induction cs generalizing sum with
  | nil => exact Nat.le_refl sum
  | cons c cs ih =>
      rw [Nat.ofDigitChars_cons]
      exact Nat.le_trans (by omega) (ih _)

/-- All digits of a number that fits are taken in. -/
theorem accumulate_map_digitValue {cs : List Char} {sum : Nat}
    (hfits : Nat.ofDigitChars 10 cs sum ≤ greatestWhole) :
    accumulate sum (cs.map Document.digitValue) = (Nat.ofDigitChars 10 cs sum, []) := by
  induction cs generalizing sum with
  | nil => rfl
  | cons c cs ih =>
      rw [Nat.ofDigitChars_cons, Nat.mul_comm 10 sum] at hfits ⊢
      rw [List.map_cons, accumulate, Document.digitValue,
        if_pos (Nat.le_trans (le_ofDigitChars cs _) hfits)]
      exact ih hfits

theorem accumulate_toString {n : Nat} (hfits : n ≤ greatestWhole) :
    accumulate 0 ((toString n).toList.map Document.digitValue) = (n, []) := by
  rw [accumulate_map_digitValue, Decimal.ofDigitChars_toString]
  rwa [Decimal.ofDigitChars_toString]

theorem value?_ofInt {n : Int} (hlow : -(greatestNegative : Int) ≤ n)
    (hhigh : n ≤ (greatestWhole : Int)) : (ofInt n).value? = some (.int n) := by
  have hwhole : n.natAbs ≤ greatestWhole := by
    unfold greatestNegative greatestWhole at *
    omega
  rw [ofInt, value?, accumulate_toString hwhole]
  by_cases hnegative : n < 0
  · have hvalue : -(n.natAbs : Int) = n := by omega
    have hexact : ¬ (n.natAbs = 0 ∨ greatestNegative < n.natAbs) := by omega
    simp only [hnegative, decide_true, Bool.not_true, Bool.false_eq_true, if_false, if_neg hexact,
      hvalue, pure]
  · have hvalue : (n.natAbs : Int) = n := by omega
    simp only [hnegative, decide_false, Bool.not_false, if_true, hvalue, pure]

end Numeral

namespace Document

/-- The natural number that is written in digits alone, however great it is. -/
def natural? : Document → Option Nat
  | .number ⟨false, whole, [], none⟩ => some (whole.foldl (fun sum d => sum * 10 + d) 0)
  | _ => none

theorem foldl_map_digitValue (cs : List Char) (sum : Nat) :
    (cs.map digitValue).foldl (fun sum d => sum * 10 + d) sum = Nat.ofDigitChars 10 cs sum := by
  induction cs generalizing sum with
  | nil => rfl
  | cons c cs ih =>
      rw [List.map_cons, List.foldl_cons, ih, Nat.ofDigitChars_cons, Nat.mul_comm 10 sum]
      rfl

theorem natural?_ofJson (n : Nat) : natural? (ofJson (.int n)) = some n := by
  change some (((toString n).toList.map digitValue).foldl (fun sum d => sum * 10 + d) 0) = some n
  rw [foldl_map_digitValue, Decimal.ofDigitChars_toString]

end Document

/-! ### Values that fit -/

/-- The numbers of the value are whole and fit 64 bits, and no more than the given number of lists
and objects stand inside each other. -/
inductive Fits : Nat → Json → Prop
  | null (depth : Nat) : Fits depth .null
  | bool (depth : Nat) (b : Bool) : Fits depth (.bool b)
  | int (depth : Nat) {n : Int} (hlow : -(Numeral.greatestNegative : Int) ≤ n)
    (hhigh : n ≤ (Numeral.greatestWhole : Int)) : Fits depth (.int n)
  | str (depth : Nat) (s : String) : Fits depth (.str s)
  | arr {depth : Nat} {items : List Json} (hitems : ∀ item ∈ items, Fits depth item) :
    Fits (depth + 1) (.arr items)
  | obj {depth : Nat} {members : List (String × Json)}
    (hmembers : ∀ member ∈ members, Fits depth member.2) : Fits (depth + 1) (.obj members)

namespace Fits

variable {depth : Nat} {json : Json}

theorem isFloatless (hfits : json.Fits depth) : json.IsFloatless := by
  induction hfits with
  | null depth => exact .null
  | bool depth b => exact .bool b
  | @int depth n hlow hhigh => exact .int n
  | str depth s => exact .str s
  | arr hitems ih => exact .arr ih
  | obj hmembers ih => exact .obj ih

theorem mono (hfits : json.Fits depth) {deeper : Nat} (hdepth : depth ≤ deeper) :
    json.Fits deeper := by
  induction hfits generalizing deeper with
  | null depth => exact .null deeper
  | bool depth b => exact .bool deeper b
  | int depth hlow hhigh => exact .int deeper hlow hhigh
  | str depth s => exact .str deeper s
  | arr hitems ih =>
      obtain ⟨deeper, rfl⟩ := Nat.exists_eq_add_of_le' hdepth
      exact .arr fun item hitem => ih item hitem (Nat.le_add_left _ _)
  | obj hmembers ih =>
      obtain ⟨deeper, rfl⟩ := Nat.exists_eq_add_of_le' hdepth
      exact .obj fun member hmember => ih member hmember (Nat.le_add_left _ _)

end Fits

namespace Document

theorem values?_map {depth : Nat} {items : List Json}
    (hitems : ∀ item ∈ items, value? depth (ofJson item) = some item) :
    values? depth (items.map ofJson) = some items := by
  induction items with
  | nil => rfl
  | cons item items ih =>
      rw [List.forall_mem_cons] at hitems
      rw [List.map_cons, values?, hitems.1, ih hitems.2]
      rfl

theorem memberValues?_map {depth : Nat} {members : List (String × Json)}
    (hmembers : ∀ member ∈ members, value? depth (ofJson member.2) = some member.2) :
    memberValues? depth (members.map fun member => (some member.1, ofJson member.2)) =
      some members := by
  induction members with
  | nil => rfl
  | cons member members ih =>
      rw [List.forall_mem_cons] at hmembers
      rw [List.map_cons, memberValues?, hmembers.1, ih hmembers.2]
      rfl

theorem value?_ofJson {depth : Nat} {json : Json} (hfits : json.Fits depth) :
    value? depth (ofJson json) = some json := by
  induction hfits with
  | null depth => rw [ofJson, value?]
  | bool depth b => rw [ofJson, value?]
  | int depth hlow hhigh => rw [ofJson, value?, Numeral.value?_ofInt hlow hhigh]
  | str depth s => rw [ofJson, value?, Option.map_some]
  | arr hitems ih => rw [ofJson, value?, ofItems_eq_map, values?_map ih, Option.map_some]
  | obj hmembers ih => rw [ofJson, value?, ofMembers_eq_map, memberValues?_map ih, Option.map_some]

end Document

theorem parse?_pretty {json : Json} (hfits : json.Fits Document.greatestDepth) :
    parse? json.pretty = some json := by
  unfold parse?
  rw [Document.parse?_pretty hfits.isFloatless]
  exact Document.value?_ofJson hfits

end UpgradeGate.Json
