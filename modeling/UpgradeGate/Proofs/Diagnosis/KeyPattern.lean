import Mathlib.Computability.Language
import Mathlib.Data.Char
import UpgradeGate.Proofs.Diagnosis.AnnotationKey

/-!
# Annotation keys as a regular language

The keys of annotations are specified by a regular expression, which is given here as data. A key is
valid exactly if it matches from its first character to its last.
-/

namespace UpgradeGate

namespace Text

open Computability

/-- Regular expressions whose classes are ranges of characters, with both ends. -/
inductive Pattern where
  | oneOf (ranges : List (Char × Char))
  | seq (first second : Pattern)
  | optional (body : Pattern)
  | star (body : Pattern)
  | plus (body : Pattern)

namespace Pattern

def InRanges (ranges : List (Char × Char)) (c : Char) : Prop :=
  ∃ range ∈ ranges, range.1 ≤ c ∧ c ≤ range.2

def char (c : Char) : Pattern := oneOf [(c, c)]

/-- The texts that match as a whole. -/
def language : Pattern → Language Char
  | oneOf ranges => {cs | ∃ c, cs = [c] ∧ InRanges ranges c}
  | seq first second => first.language * second.language
  | optional body => 1 + body.language
  | star body => body.language∗
  | plus body => body.language * body.language∗

section

variable {ranges : List (Char × Char)} {body first second : Pattern} {c d : Char} {cs : List Char}

theorem inRanges_nil : ¬ InRanges [] c := nofun

theorem inRanges_cons {range : Char × Char} :
    InRanges (range :: ranges) c ↔ (range.1 ≤ c ∧ c ≤ range.2) ∨ InRanges ranges c := by
  simp [InRanges]

theorem inRanges_cons_self : InRanges ((d, d) :: ranges) c ↔ c = d ∨ InRanges ranges c := by
  rw [inRanges_cons, and_comm, le_antisymm_iff]

theorem mem_oneOf : cs ∈ (oneOf ranges).language ↔ ∃ c, cs = [c] ∧ InRanges ranges c := Iff.rfl

theorem mem_char : cs ∈ (char d).language ↔ cs = [d] := by
  simp only [char, mem_oneOf, inRanges_cons_self, inRanges_nil, or_false, exists_eq_right]

theorem mem_seq : cs ∈ (seq first second).language ↔
    ∃ front ∈ first.language, ∃ back ∈ second.language, front ++ back = cs :=
  Language.mem_mul

theorem mem_optional : cs ∈ (optional body).language ↔ cs = [] ∨ cs ∈ body.language := by
  rw [language, Language.mem_add, Language.mem_one]

theorem mem_star_oneOf : cs ∈ (star (oneOf ranges)).language ↔ ∀ c ∈ cs, InRanges ranges c := by
  rw [language, Language.mem_kstar]
  constructor
  · rintro ⟨parts, rfl, hparts⟩ c hc
    obtain ⟨part, hpart, hc⟩ := List.mem_flatten.mp hc
    obtain ⟨d, rfl, hd⟩ := hparts part hpart
    exact List.mem_singleton.mp hc ▸ hd
  · intro hall
    refine ⟨cs.map fun c => [c], ?_, List.forall_mem_map.mpr fun c hc => ⟨c, rfl, hall c hc⟩⟩
    rw [← List.flatMap_def, List.flatMap_singleton']

theorem mem_plus : cs ∈ (plus body).language ↔
    ∃ parts : List (List Char), parts ≠ [] ∧ (∀ part ∈ parts, part ∈ body.language) ∧
      parts.flatten = cs := by
  rw [language, Language.mem_mul]
  constructor
  · rintro ⟨front, hfront, rest, hrest, rfl⟩
    obtain ⟨parts, rfl, hparts⟩ := Language.mem_kstar.mp hrest
    exact ⟨front :: parts, List.cons_ne_nil _ _, List.forall_mem_cons.mpr ⟨hfront, hparts⟩, rfl⟩
  · rintro ⟨parts, hne, hparts, rfl⟩
    obtain ⟨front, rest, rfl⟩ := List.exists_cons_of_ne_nil hne
    rw [List.forall_mem_cons] at hparts
    exact ⟨front, hparts.1, rest.flatten, Language.join_mem_kstar hparts.2, rfl⟩

end

end Pattern

end Text

namespace AnnotationKey

open Text (Pattern)
open Text.Pattern

/-! ### The pattern -/

/-- One of the letters, and perhaps more of them behind it, with other characters in between. -/
def wordPattern (letters inner : List (Char × Char)) : Pattern :=
  .seq (.oneOf letters) (.optional (.seq (.star (.oneOf inner)) (.oneOf letters)))

/-- The pattern `[a-z0-9]([-a-z0-9]*[a-z0-9])?`. -/
def labelPattern : Pattern :=
  wordPattern [('a', 'z'), ('0', '9')] [('-', '-'), ('a', 'z'), ('0', '9')]

/-- The pattern `[A-Za-z0-9]([-A-Za-z0-9_.]*[A-Za-z0-9])?`. -/
def namePattern : Pattern :=
  wordPattern [('A', 'Z'), ('a', 'z'), ('0', '9')]
    [('-', '-'), ('A', 'Z'), ('a', 'z'), ('0', '9'), ('_', '_'), ('.', '.')]

/-- A label, more labels with a dot in front of each, a slash and a name. -/
def pattern : Pattern :=
  .seq labelPattern (.seq (.plus (.seq (.char '.') labelPattern)) (.seq (.char '/') namePattern))

/-! ### Words -/

section Words

variable {letters inner : List (Char × Char)} {c : Char} {cs : List Char}

theorem nil_notMem_wordPattern : [] ∉ (wordPattern letters inner).language := by
  rintro ⟨_, ⟨c, rfl, _⟩, rest, _, hnil⟩
  exact List.cons_ne_nil c rest hnil

theorem cons_mem_wordPattern : c :: cs ∈ (wordPattern letters inner).language ↔
    InRanges letters c ∧ (cs = [] ∨ ∃ middle last, cs = middle ++ [last] ∧
      (∀ d ∈ middle, InRanges inner d) ∧ InRanges letters last) := by
  simp only [wordPattern, mem_seq, mem_optional, mem_star_oneOf, mem_oneOf]
  constructor
  · rintro ⟨_, ⟨d, rfl, hd⟩, rest, hrest, hsame⟩
    cases hsame
    refine ⟨hd, hrest.imp id ?_⟩
    rintro ⟨middle, hmiddle, _, ⟨last, rfl, hlast⟩, rfl⟩
    exact ⟨middle, last, rfl, hmiddle, hlast⟩
  · rintro ⟨hc, hrest⟩
    refine ⟨[c], ⟨c, rfl, hc⟩, cs, hrest.imp id ?_, rfl⟩
    rintro ⟨middle, last, rfl, hmiddle, hlast⟩
    exact ⟨middle, hmiddle, [last], ⟨last, rfl, hlast⟩, rfl⟩

/-- What does not end otherwise than in a letter is nothing at all, or has a letter at its end. -/
theorem forall_and_last_iff {letter any : Char → Prop} (hany : ∀ c, letter c → any c) :
    (cs = [] ∨ ∃ middle last, cs = middle ++ [last] ∧ (∀ d ∈ middle, any d) ∧ letter last) ↔
      (∀ c ∈ cs, any c) ∧ ∀ c, cs.getLast? = some c → letter c := by
  rcases List.eq_nil_or_concat cs with rfl | ⟨front, last, rfl⟩
  · simp
  · simp only [List.concat_eq_append, List.forall_mem_append, List.forall_mem_singleton,
      List.getLast?_append, List.getLast?_singleton, Option.some_or, Option.some.injEq,
      forall_eq', List.append_eq_nil_iff, List.cons_ne_nil, and_false, false_or]
    constructor
    · rintro ⟨_, _, hsame, hmiddle, hlast⟩
      obtain ⟨rfl, hlasts⟩ := List.append_inj' hsame rfl
      cases hlasts
      exact ⟨⟨hmiddle, hany _ hlast⟩, hlast⟩
    · rintro ⟨⟨hmiddle, _⟩, hlast⟩
      exact ⟨front, last, rfl, hmiddle, hlast⟩

theorem inRanges_label : InRanges [('a', 'z'), ('0', '9')] c ↔ IsLabelLetter c := by
  simp only [inRanges_cons, inRanges_nil, or_false, IsLabelLetter]

theorem inRanges_name : InRanges [('A', 'Z'), ('a', 'z'), ('0', '9')] c ↔ IsNameLetter c := by
  rw [inRanges_cons, inRanges_label, IsNameLetter]

theorem isLabelEnd_iff : IsLabelEnd cs ↔
    (∀ c ∈ cs, IsLabelLetter c ∨ c = '-') ∧ ∀ c, cs.getLast? = some c → IsLabelLetter c := by
  constructor
  · rintro ⟨hchars, hlast⟩
    refine ⟨hchars, fun c hc => (hchars c (List.mem_of_getLast? hc)).resolve_right ?_⟩
    rintro rfl
    exact hlast hc
  · rintro ⟨hchars, hlast⟩
    exact ⟨hchars, fun hdash => (hlast '-' hdash).notMem_marks (by decide)⟩

theorem isNameEnd_iff : IsNameEnd cs ↔
    (∀ c ∈ cs, IsNameLetter c ∨ c = '-' ∨ c = '_' ∨ c = '.') ∧
      ∀ c, cs.getLast? = some c → IsNameLetter c :=
  ⟨fun hend => ⟨hend.chars, hend.last⟩, fun hend => ⟨hend.1, hend.2⟩⟩

theorem mem_labelPattern : cs ∈ labelPattern.language ↔ IsLabel cs := by
  cases cs with
  | nil => exact iff_of_false nil_notMem_wordPattern fun hlabel => hlabel.ne_nil rfl
  | cons c cs =>
      have hinner (d : Char) :
          InRanges [('-', '-'), ('a', 'z'), ('0', '9')] d ↔ IsLabelLetter d ∨ d = '-' := by
        rw [inRanges_cons_self, inRanges_label, or_comm]
      rw [labelPattern, cons_mem_wordPattern, isLabel_cons_iff, isLabelEnd_iff]
      simp only [hinner, inRanges_label]
      rw [forall_and_last_iff fun _ => Or.inl]

theorem mem_namePattern : cs ∈ namePattern.language ↔ IsName cs := by
  cases cs with
  | nil => exact iff_of_false nil_notMem_wordPattern fun hname => hname.ne_nil rfl
  | cons c cs =>
      have hinner (d : Char) : InRanges [('-', '-'), ('A', 'Z'), ('a', 'z'), ('0', '9'), ('_', '_'),
          ('.', '.')] d ↔ IsNameLetter d ∨ d = '-' ∨ d = '_' ∨ d = '.' := by
        rw [inRanges_cons_self, inRanges_cons, inRanges_cons, inRanges_cons, inRanges_cons_self,
          inRanges_cons_self, or_iff_left inRanges_nil, IsNameLetter, IsLabelLetter]
        tauto
      rw [namePattern, cons_mem_wordPattern, isName_cons_iff, isNameEnd_iff]
      simp only [hinner, inRanges_name]
      rw [forall_and_last_iff fun _ => Or.inl]

end Words

/-! ### Keys -/

theorem intercalate_cons (front : List Char) (labels : List (List Char)) :
    ['.'].intercalate (front :: labels) = front ++ (labels.map ('.' :: ·)).flatten := by
  induction labels generalizing front with
  | nil => simp
  | cons label labels ih => simp [List.intercalate_cons_cons, ih]

/-- Dotted labels are labels each with a dot in front of it. -/
theorem mem_dottedLabels {cs : List Char} :
    cs ∈ (Pattern.plus (.seq (.char '.') labelPattern)).language ↔
      ∃ labels : List (List Char), labels ≠ [] ∧ (∀ label ∈ labels, IsLabel label) ∧
        (labels.map ('.' :: ·)).flatten = cs := by
  have hdotted (part : List Char) : part ∈ (Pattern.seq (.char '.') labelPattern).language ↔
      ∃ label, IsLabel label ∧ '.' :: label = part := by
    simp [mem_seq, mem_char, mem_labelPattern]
  simp only [mem_plus, hdotted]
  constructor
  · rintro ⟨parts, hne, hparts, rfl⟩
    have htail : (parts.map List.tail).map ('.' :: ·) = parts := by
      rw [List.map_map]
      refine (List.map_congr_left fun part hpart => ?_).trans (List.map_id parts)
      obtain ⟨label, _, rfl⟩ := hparts part hpart
      rfl
    refine ⟨parts.map List.tail, by simpa using hne, List.forall_mem_map.mpr fun part hpart => ?_,
      congrArg List.flatten htail⟩
    obtain ⟨label, hlabel, rfl⟩ := hparts part hpart
    exact hlabel
  · rintro ⟨labels, hne, hlabels, rfl⟩
    exact ⟨labels.map ('.' :: ·), by simpa using hne,
      List.forall_mem_map.mpr fun label hlabel => ⟨label, hlabels label hlabel, rfl⟩, rfl⟩

theorem mem_pattern_iff_inDomain {cs : List Char} :
    cs ∈ pattern.language ↔ InDomain false IsLabel cs := by
  have hkey (front : List Char) (labels : List (List Char)) (name : List Char) :
      ['.'].intercalate (front :: labels) ++ '/' :: name =
        front ++ ((labels.map ('.' :: ·)).flatten ++ (['/'] ++ name)) := by
    rw [intercalate_cons, List.append_assoc, List.singleton_append]
  simp only [pattern, mem_seq, mem_labelPattern, mem_dottedLabels, mem_char, mem_namePattern]
  constructor
  · rintro ⟨front, hfront, _, ⟨_, ⟨labels, hne, hlabels, rfl⟩, _, ⟨_, rfl, name, hname, rfl⟩, rfl⟩,
      rfl⟩
    rw [← hkey]
    exact .intro hfront hlabels (.inr hne) hname
  · rintro @⟨front, name, labels, hfront, hlabels, hdot, hname⟩
    exact ⟨front, hfront, _, ⟨_, ⟨labels, hdot.resolve_left nofun, hlabels, rfl⟩, _,
      ⟨_, rfl, name, hname, rfl⟩, rfl⟩, (hkey front labels name).symm⟩

/-- The automaton accepts what matches the pattern. -/
theorem isValid_iff_mem_pattern {key : String} :
    isValid key = true ↔ key.toList ∈ pattern.language := by
  rw [isValid_eq_true_iff, mem_pattern_iff_inDomain, inDomain_iff_isKey]

end AnnotationKey

end UpgradeGate
