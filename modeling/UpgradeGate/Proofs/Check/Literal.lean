import UpgradeGate.Glob
import UpgradeGate.Proofs.Selection
import UpgradeGate.Proofs.Text

/-!
# Checks selected by their id or its beginning

A pattern without signs selects the check that has it as its id. With a star behind it, it selects
the checks whose ids begin with it. Only the plurals of the groups are set apart, which select a
group also where a check has one as its id. As a glob, a pattern without signs matches its own text
and no other. What the parts of a glob leave of a text is put here as membership, in which the order
and the repetitions of the rests do not show.
-/

namespace UpgradeGate

/-! ### Globs without signs -/

namespace Glob

/-- The characters that need not stand for themselves. -/
def signs : List Char := ['*', '?', '[', ']', '\x7b', '\x7d', '\\']

def IsLiteral (text : String) : Prop := ∀ c ∈ text.toList, c ∉ signs

instance (text : String) : Decidable (IsLiteral text) :=
  List.decidableBAll (fun c => c ∉ signs) text.toList

/-! ### What parts leave -/

section Rests

variable {text rest : List UInt8}

theorem mem_suffixes_iff : rest ∈ suffixes text ↔ rest <:+ text := by
  induction text with
  | nil => simp [suffixes]
  | cons byte text ih => rw [suffixes, List.mem_cons, ih, List.suffix_cons_iff]

theorem without?_eq_some_iff {front : List UInt8} :
    without? front text = some rest ↔ text = front ++ rest := by
  induction front generalizing text with
  | nil => simp [without?]
  | cons byte front ih =>
      cases text with
      | nil => simp [without?]
      | cons other text =>
          rw [without?, List.cons_append, List.cons.injEq]
          split
          · next hsame => rw [ih, and_iff_right hsame.symm]
          · next hne => simp [Ne.symm hne]

theorem mem_rests_char_iff {c : Char} :
    rest ∈ (Part.char c).rests text ↔ text = charBytes c ++ rest := by
  rw [Part.rests, Option.mem_toList, without?_eq_some_iff]

/-- What is left of several texts is left of one of them. -/
theorem mem_restsOf_iff {parts : List Part} {texts : List (List UInt8)} :
    rest ∈ restsOf parts texts ↔ ∃ text ∈ texts, rest ∈ restsOf parts [text] := by
  induction parts generalizing texts with
  | nil => simp [restsOf]
  | cons part parts ih =>
      simp only [restsOf, List.flatMap_singleton]
      rw [ih]
      simp only [List.mem_eraseDups, List.mem_flatMap]
      constructor
      · rintro ⟨left, ⟨text, htext, hleft⟩, hrest⟩
        exact ⟨text, htext, ih.mpr ⟨left, List.mem_eraseDups.mpr hleft, hrest⟩⟩
      · rintro ⟨text, htext, hrest⟩
        obtain ⟨left, hleft, hrest⟩ := ih.mp hrest
        exact ⟨left, ⟨text, htext, List.mem_eraseDups.mp hleft⟩, hrest⟩

/-- The parts of a glob take their fronts of a text one after the other. -/
theorem mem_restsOf_cons_iff {part : Part} {parts : List Part} :
    rest ∈ restsOf (part :: parts) [text] ↔
      ∃ left ∈ part.rests text, rest ∈ restsOf parts [left] := by
  rw [restsOf, List.flatMap_singleton, mem_restsOf_iff]
  simp only [List.mem_eraseDups]

/-- Characters in front of a glob take their own bytes. -/
theorem mem_restsOf_chars_append_iff {cs : List Char} {parts : List Part} :
    rest ∈ restsOf (cs.map .char ++ parts) [text] ↔
      ∃ left, text = cs.flatMap charBytes ++ left ∧ rest ∈ restsOf parts [left] := by
  induction cs generalizing text with
  | nil => simp
  | cons c cs ih =>
      rw [List.map_cons, List.cons_append, mem_restsOf_cons_iff]
      simp only [mem_rests_char_iff, ih, List.flatMap_cons, List.append_assoc]
      constructor
      · rintro ⟨left, rfl, last, rfl, hrest⟩
        exact ⟨last, rfl, hrest⟩
      · rintro ⟨last, rfl, hrest⟩
        exact ⟨_, rfl, last, rfl, hrest⟩

end Rests

/-! ### What globs match -/

/-- A glob matches a text of which nothing may be left, unless it stands for all texts. -/
theorem isMatch_iff {parts : List Part} (hparts : parts ≠ [.leading]) (text : String) :
    isMatch ⟨parts⟩ text = true ↔ [] ∈ restsOf parts [Text.bytes text] := by
  unfold isMatch
  split
  · next hleading => exact absurd hleading hparts
  · simp

theorem isMatch_chars_append_iff {cs : List Char} {parts : List Part}
    (hparts : parts ≠ [.leading]) (text : String) :
    isMatch ⟨cs.map .char ++ parts⟩ text = true ↔
      ∃ rest, text.toList = cs ++ rest ∧
        [] ∈ restsOf parts [rest.flatMap String.utf8EncodeChar] := by
  have hne : cs.map .char ++ parts ≠ [.leading] := by
    cases cs with
    | nil => exact hparts
    | cons c cs => simp
  rw [isMatch_iff hne, mem_restsOf_chars_append_iff]
  constructor
  · rintro ⟨left, htext, hleft⟩
    obtain ⟨rest, hsplit, rfl⟩ := Text.flatMap_utf8EncodeChar_append_iff.mp htext
    exact ⟨rest, hsplit, hleft⟩
  · rintro ⟨rest, hsplit, hrest⟩
    exact ⟨_, Text.flatMap_utf8EncodeChar_append_iff.mpr ⟨rest, hsplit, rfl⟩, hrest⟩

/-- Characters match the text that they make up. -/
theorem isMatch_chars_iff {cs : List Char} {text : String} :
    isMatch ⟨cs.map .char⟩ text = true ↔ text.toList = cs := by
  have hparts : ([] : List Part) ≠ [.leading] := by simp
  rw [← List.append_nil (cs.map Part.char), isMatch_chars_append_iff hparts]
  constructor
  · rintro ⟨rest, hsplit, hrest⟩
    have hnil : rest = [] := by
      rw [restsOf, List.mem_singleton, eq_comm, List.flatMap_eq_nil_iff] at hrest
      exact List.eq_nil_iff_forall_not_mem.mpr fun c hc =>
        String.utf8EncodeChar_ne_nil (hrest c hc)
    rw [hsplit, hnil, List.append_nil]
  · rintro rfl
    exact ⟨[], by simp [restsOf]⟩

/-- Characters and a star match the texts that begin with the characters. -/
theorem isMatch_chars_star_iff {cs : List Char} {text : String} :
    isMatch ⟨cs.map .char ++ [.anyBytes]⟩ text = true ↔ cs <+: text.toList := by
  rw [isMatch_chars_append_iff (by simp)]
  constructor
  · rintro ⟨rest, hsplit, _⟩
    exact ⟨rest, hsplit.symm⟩
  · rintro ⟨rest, hsplit⟩
    refine ⟨rest, hsplit.symm, mem_restsOf_cons_iff.mpr ⟨[], ?_, by simp [restsOf]⟩⟩
    rw [Part.rests, mem_suffixes_iff]
    exact List.nil_suffix

/-! ### Reading globs without signs -/

/-- A character that is no sign is read as itself. -/
theorem Progress.next_of_notMem {c : Char} (hc : c ∉ signs) (previous : Option Char)
    (current : List Part) :
    next ⟨previous, .plain, current, []⟩ c = some ⟨some c, .plain, .char c :: current, []⟩ := by
  simp only [signs, List.mem_cons, List.not_mem_nil, or_false, not_or] at hc
  obtain ⟨hstar, hone, hopen, hclose, hbrace, hend, hescape⟩ := hc
  -- A comma is a sign within braces only.
  by_cases hcomma : c = ','
  · subst hcomma
    rfl
  · simp [next, plainChar, push]

theorem Progress.foldlM_next_of_forall_notMem {cs : List Char} (hcs : ∀ c ∈ cs, c ∉ signs)
    (previous : Option Char) (current : List Part) :
    ∃ last, cs.foldlM next ⟨previous, .plain, current, []⟩ =
      some ⟨last, .plain, (cs.map .char).reverse ++ current, []⟩ := by
  induction cs generalizing previous current with
  | nil => exact ⟨previous, rfl⟩
  | cons c cs ih =>
      rw [List.forall_mem_cons] at hcs
      obtain ⟨last, hread⟩ := ih hcs.2 (some c) (.char c :: current)
      refine ⟨last, ?_⟩
      rw [List.foldlM_cons, next_of_notMem hcs.1, Option.bind_eq_bind, Option.bind_some, hread,
        List.map_cons, List.reverse_cons, List.append_assoc, List.singleton_append]

theorem ofString?_of_isLiteral {text : String} (hliteral : IsLiteral text) :
    ofString? text = some ⟨text.toList.map .char⟩ := by
  obtain ⟨last, hread⟩ := Progress.foldlM_next_of_forall_notMem hliteral none []
  rw [ofString?, hread, List.append_nil, Option.bind_eq_bind, Option.bind_some]
  simp [Progress.finish]

theorem ofString?_append_star {text : String} (hliteral : IsLiteral text) :
    ofString? (text ++ "*") = some ⟨text.toList.map .char ++ [.anyBytes]⟩ := by
  obtain ⟨last, hread⟩ := Progress.foldlM_next_of_forall_notMem hliteral none []
  have hstar : "*".toList = ['*'] := by decide
  rw [ofString?, String.toList_append, hstar, List.foldlM_append, hread, List.append_nil]
  simp [Progress.next, Progress.plainChar, Progress.finish, Progress.push]

end Glob

/-! ### Selections -/

variable {σ : Type}

/-- The texts that select a whole group. -/
def CheckGroup.IsShortcut (text : String) : Prop := ∃ group : CheckGroup, group.shortcut = text

theorem CheckGroup.ofShortcut?_eq_none_iff {text : String} :
    ofShortcut? text = none ↔ ¬ IsShortcut text := by
  have hall : ∀ group : CheckGroup, group ∈ all := fun group => by cases group <;> decide
  rw [ofShortcut?, List.find?_eq_none, IsShortcut, not_exists]
  exact ⟨fun hnone group => by simpa using hnone group (hall group),
    fun hnone group _ => by simpa using hnone group⟩

theorem CheckGroup.IsShortcut.star_notMem {text : String} (hshortcut : IsShortcut text) :
    '*' ∉ text.toList := by
  obtain ⟨group, rfl⟩ := hshortcut
  cases group <;> decide

namespace Selector

variable {text : String}

theorem ofPattern_of_isLiteral (hliteral : Glob.IsLiteral text)
    (hshortcut : ¬ CheckGroup.IsShortcut text) :
    ∃ selector, ofPattern text = .ok selector ∧
      ∀ {σ : Type} (check : Check σ), selector.selects check = decide (check.id = text) := by
  have hwildcard : text ≠ wildcard := by
    rintro rfl
    exact hliteral '*' (by decide) (by decide)
  refine ⟨.pattern text ⟨text.toList.map .char⟩, ?_, fun check => ?_⟩
  · rw [ofPattern, if_neg hwildcard, CheckGroup.ofShortcut?_eq_none_iff.mpr hshortcut, globOf,
      Glob.ofString?_of_isLiteral hliteral]
    rfl
  · rw [selects, Bool.eq_iff_iff, Bool.or_eq_true, decide_eq_true_iff, Glob.isMatch_chars_iff,
      String.toList_inj, or_self]

theorem ofPattern_append_star (hliteral : Glob.IsLiteral text) :
    ∃ selector, ofPattern (text ++ "*") = .ok selector ∧ ∀ {σ : Type} (check : Check σ),
      selector.selects check = decide (text.toList <+: check.id.toList) := by
  have hstar : (text ++ "*").toList = text.toList ++ ['*'] := String.toList_append
  by_cases hwildcard : text ++ "*" = wildcard
  · -- Nothing is in front of the star, and every id begins with nothing.
    have hnil : text.toList = [] := by
      rw [hwildcard] at hstar
      exact List.self_eq_append_left.mp hstar
    refine ⟨.all, if_pos hwildcard, fun check => ?_⟩
    rw [hnil]
    exact (decide_eq_true List.nil_prefix).symm
  · have hshortcut : ¬ CheckGroup.IsShortcut (text ++ "*") := fun hshortcut =>
      hshortcut.star_notMem (by simp [hstar])
    refine ⟨.pattern (text ++ "*") ⟨text.toList.map .char ++ [.anyBytes]⟩, ?_, fun check => ?_⟩
    · rw [ofPattern, if_neg hwildcard, CheckGroup.ofShortcut?_eq_none_iff.mpr hshortcut, globOf,
        Glob.ofString?_append_star hliteral]
      rfl
    · rw [selects, Bool.eq_iff_iff, Bool.or_eq_true, decide_eq_true_iff, decide_eq_true_iff,
        Glob.isMatch_chars_star_iff]
      refine or_iff_right_of_imp fun hid => ?_
      rw [hid, hstar]
      exact List.prefix_append _ _

end Selector

namespace Catalogue

variable {catalogue : Catalogue σ}

theorem select_singleton {pattern : String} {selector : Selector}
    (hselector : Selector.ofPattern pattern = .ok selector) (group? : Option CheckGroup) :
    catalogue.select [pattern] group? = .ok (catalogue.checks.filter fun check =>
      group?.all (check.group = ·) && selector.selects check) := by
  have hmap : [pattern].mapM Selector.ofPattern = .ok [selector] := by
    rw [List.mapM_cons, hselector, List.mapM_nil]
    rfl
  rw [select_eq, hmap, Except.map, List.foldl_cons, List.foldl_nil,
    keepSelected_eq catalogue.distinct, List.nil_append]
  simp [takes]

/-- At most one check has the id. -/
theorem filter_id_eq (catalogue : Catalogue σ) (id : String) :
    (catalogue.checks.filter fun check => check.id = id) = (catalogue.find? id).toList := by
  obtain ⟨checks, hdistinct⟩ := catalogue
  unfold find?
  induction checks with
  | nil => rfl
  | cons check checks ih =>
      rw [List.map_cons, List.nodup_cons] at hdistinct
      by_cases hid : check.id = id
      · have hothers : (checks.filter fun other => other.id = id) = [] := by
          refine List.filter_eq_nil_iff.mpr fun other hother hsame => hdistinct.1 ?_
          rw [hid, ← of_decide_eq_true hsame]
          exact List.mem_map_of_mem hother
        simp [hid, hothers]
      · simpa [hid] using ih hdistinct.2

/-- The id of a check leads to it. -/
theorem find?_id_of_mem {check : Check σ} (hmem : check ∈ catalogue.checks) :
    catalogue.find? check.id = some check := by
  have hfilter : check ∈ (catalogue.find? check.id).toList := by
    rw [← filter_id_eq, List.mem_filter]
    exact ⟨hmem, decide_eq_true rfl⟩
  exact Option.mem_toList.mp hfilter

/-- A text without signs and a star behind it select the checks whose ids begin with the text. The
text alone, unless it stands for a group, selects the check with that id. So each check whose id has
no signs and does not stand for a group can be selected alone. -/
theorem select_literal (catalogue : Catalogue σ) (text : String)
    (hliteral : Glob.IsLiteral text) :
    (∀ group?, catalogue.select [text ++ "*"] group? = .ok (catalogue.checks.filter fun check =>
      group?.all (check.group = ·) && decide (text.toList <+: check.id.toList))) ∧
    (¬ CheckGroup.IsShortcut text →
      (∀ group?, catalogue.select [text] group? =
        .ok ((catalogue.find? text).filter fun check => group?.all (check.group = ·)).toList) ∧
      ∀ check ∈ catalogue.checks, check.id = text →
        catalogue.select [check.id] none = .ok [check]) := by
  constructor
  · intro group?
    obtain ⟨selector, hselector, hselects⟩ := Selector.ofPattern_append_star hliteral
    simp only [select_singleton hselector, hselects]
  · intro hshortcut
    have hselect : ∀ group?, catalogue.select [text] group? =
        .ok ((catalogue.find? text).filter fun check => group?.all (check.group = ·)).toList := by
      intro group?
      obtain ⟨selector, hselector, hselects⟩ := Selector.ofPattern_of_isLiteral hliteral hshortcut
      rw [Option.toList_filter, ← filter_id_eq, List.filter_filter]
      simp only [select_singleton hselector, hselects]
    refine ⟨hselect, ?_⟩
    rintro check hmem rfl
    rw [hselect, find?_id_of_mem hmem]
    simp

/-- Characters of several bytes, a comma and a slash stand for themselves. -/
theorem select_literal_accented :
    let check (id : String) : Check Unit :=
      { (default : Check Unit) with identity := { (default : CheckIdentity) with id } }
    let catalogue : Catalogue Unit := ⟨[check "é,/x", check "services", check "é,"], by decide⟩
    Glob.IsLiteral "é," ∧ ¬ CheckGroup.IsShortcut "é," ∧
      catalogue.select ["é,*"] none = .ok [check "é,/x", check "é,"] ∧
      catalogue.select ["é,"] none = .ok [check "é,"] := by
  intro check catalogue
  have hliteral : Glob.IsLiteral "é," := by decide
  have hshortcut : ¬ CheckGroup.IsShortcut "é," := by
    rw [← CheckGroup.ofShortcut?_eq_none_iff]
    decide
  obtain ⟨hfront, hwhole⟩ := select_literal catalogue "é," hliteral
  refine ⟨hliteral, hshortcut, ?_, (hwhole hshortcut).2 (check "é,") (by simp [catalogue]) rfl⟩
  have hstar : "é," ++ "*" = "é,*" := by decide
  rw [← hstar, hfront none]
  simp [catalogue, check, Check.id]

end Catalogue

end UpgradeGate
