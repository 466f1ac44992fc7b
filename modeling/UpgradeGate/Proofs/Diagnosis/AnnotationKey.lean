import UpgradeGate.Diagnosis.Basic
import UpgradeGate.Proofs.Text

/-!
# The grammar of annotation keys

A key is valid exactly if it has one slash, with two or more labels in front of it and a name behind
it. For each place in a key the grammar says what may follow, and reading one more character leads
from what may follow one place to what may follow the next.
-/

namespace UpgradeGate.AnnotationKey

/-! ### The grammar -/

/-- A letter of a label: `a` to `z`, `0` to `9`. -/
def IsLabelLetter (c : Char) : Prop := ('a' ≤ c ∧ c ≤ 'z') ∨ ('0' ≤ c ∧ c ≤ '9')

/-- A letter of a name, which may be an upper-case one. -/
def IsNameLetter (c : Char) : Prop := ('A' ≤ c ∧ c ≤ 'Z') ∨ IsLabelLetter c

structure IsLabel (label : List Char) : Prop where
  ne_nil : label ≠ []
  chars : ∀ c ∈ label, IsLabelLetter c ∨ c = '-'
  first : label.head? ≠ some '-'
  last : label.getLast? ≠ some '-'

structure IsName (name : List Char) : Prop where
  ne_nil : name ≠ []
  chars : ∀ c ∈ name, IsNameLetter c ∨ c = '-' ∨ c = '_' ∨ c = '.'
  first : ∀ c, name.head? = some c → IsNameLetter c
  last : ∀ c, name.getLast? = some c → IsNameLetter c

/-- Labels with dots between them, two at least. -/
structure IsDomain (domain : List Char) : Prop where
  labels : ∀ label ∈ domain.splitOn '.', IsLabel label
  two_le : 2 ≤ (domain.splitOn '.').length

/-- A domain, a slash, which is the only one, and a name. -/
inductive IsKey : List Char → Prop
  | intro {domain name : List Char} (hdomain : IsDomain domain) (hname : IsName name)
    (hslash : (domain ++ '/' :: name).count '/' = 1) : IsKey (domain ++ '/' :: name)

/-! ### Letters -/

theorem isLabelChar_iff {c : Char} : isLabelChar c = true ↔ IsLabelLetter c := by
  rw [isLabelChar, Bool.or_eq_true, Text.isLower_iff, Text.isDigit_iff, IsLabelLetter]

theorem isNameChar_iff {c : Char} : isNameChar c = true ↔ IsNameLetter c := by
  rw [isNameChar, Text.isAlphanum_iff, IsNameLetter, IsLabelLetter]

/-- The marks of a key are no letters. -/
theorem IsNameLetter.notMem_marks {c : Char} (hc : IsNameLetter c) :
    c ∉ ['-', '_', '.', '/'] := by
  rw [← isNameChar_iff] at hc
  intro hmem
  have hnone : ['-', '_', '.', '/'].all (fun mark => !isNameChar mark) = true := by decide
  have hmark := List.all_eq_true.mp hnone c hmem
  rw [hc] at hmark
  cases hmark

theorem IsLabelLetter.notMem_marks {c : Char} (hc : IsLabelLetter c) :
    c ∉ ['-', '_', '.', '/'] :=
  IsNameLetter.notMem_marks (.inr hc)

/-! ### Ends of labels and of names -/

/-- What may follow a letter within a label. -/
structure IsLabelEnd (cs : List Char) : Prop where
  chars : ∀ c ∈ cs, IsLabelLetter c ∨ c = '-'
  last : cs.getLast? ≠ some '-'

/-- What may follow a letter within a name. -/
structure IsNameEnd (cs : List Char) : Prop where
  chars : ∀ c ∈ cs, IsNameLetter c ∨ c = '-' ∨ c = '_' ∨ c = '.'
  last : ∀ c, cs.getLast? = some c → IsNameLetter c

section Ends

variable {c : Char} {cs : List Char}

theorem isLabelEnd_nil : IsLabelEnd [] := ⟨nofun, nofun⟩

theorem isNameEnd_nil : IsNameEnd [] := ⟨nofun, nofun⟩

theorem isLabel_cons_iff : IsLabel (c :: cs) ↔ IsLabelLetter c ∧ IsLabelEnd cs := by
  constructor
  · rintro ⟨_, hchars, hfirst, hlast⟩
    rw [List.forall_mem_cons] at hchars
    refine ⟨hchars.1.resolve_right (by simpa using hfirst), hchars.2, ?_⟩
    cases cs with
    | nil => exact nofun
    | cons d cs => rwa [List.getLast?_cons_cons] at hlast
  · rintro ⟨hc, hchars, hlast⟩
    have hdash : c ≠ '-' := fun hsame => hc.notMem_marks (by simp [hsame])
    refine ⟨by simp, List.forall_mem_cons.mpr ⟨.inl hc, hchars⟩, by simpa using hdash, ?_⟩
    cases cs with
    | nil => simpa using hdash
    | cons d cs => rwa [List.getLast?_cons_cons]

theorem isLabelEnd_cons_iff : IsLabelEnd (c :: cs) ↔
    IsLabelLetter c ∧ IsLabelEnd cs ∨ c = '-' ∧ IsLabelEnd cs ∧ cs ≠ [] := by
  constructor
  · rintro ⟨hchars, hlast⟩
    rw [List.forall_mem_cons] at hchars
    cases cs with
    | nil => exact .inl ⟨hchars.1.resolve_right (by simpa using hlast), isLabelEnd_nil⟩
    | cons d cs =>
        rw [List.getLast?_cons_cons] at hlast
        exact hchars.1.imp (fun hc => ⟨hc, hchars.2, hlast⟩) fun hc =>
          ⟨hc, ⟨hchars.2, hlast⟩, List.cons_ne_nil d cs⟩
  · rintro (⟨hc, hcs⟩ | ⟨hc, hcs, hne⟩)
    · exact ⟨(isLabel_cons_iff.mpr ⟨hc, hcs⟩).chars, (isLabel_cons_iff.mpr ⟨hc, hcs⟩).last⟩
    · refine ⟨List.forall_mem_cons.mpr ⟨.inr hc, hcs.chars⟩, ?_⟩
      obtain ⟨d, cs, rfl⟩ := List.exists_cons_of_ne_nil hne
      rw [List.getLast?_cons_cons]
      exact hcs.last

theorem isName_cons_iff : IsName (c :: cs) ↔ IsNameLetter c ∧ IsNameEnd cs := by
  constructor
  · rintro ⟨_, hchars, hfirst, hlast⟩
    rw [List.forall_mem_cons] at hchars
    refine ⟨hfirst c rfl, hchars.2, fun d hd => hlast d ?_⟩
    rw [List.getLast?_cons, hd]
    rfl
  · rintro ⟨hc, hchars, hlast⟩
    refine ⟨by simp, List.forall_mem_cons.mpr ⟨.inl hc, hchars⟩, by simpa using hc, fun d hd => ?_⟩
    cases cs with
    | nil => simpa [← Option.some.inj hd] using hc
    | cons e cs => exact hlast d (by rwa [List.getLast?_cons_cons] at hd)

theorem isNameEnd_cons_iff : IsNameEnd (c :: cs) ↔
    IsNameLetter c ∧ IsNameEnd cs ∨
      (c = '-' ∨ c = '_' ∨ c = '.') ∧ IsNameEnd cs ∧ cs ≠ [] := by
  constructor
  · rintro ⟨hchars, hlast⟩
    rw [List.forall_mem_cons] at hchars
    cases cs with
    | nil => exact .inl ⟨hlast c rfl, isNameEnd_nil⟩
    | cons d cs =>
        rw [List.getLast?_cons_cons] at hlast
        exact hchars.1.imp (fun hc => ⟨hc, hchars.2, hlast⟩) fun hc =>
          ⟨hc, ⟨hchars.2, hlast⟩, List.cons_ne_nil d cs⟩
  · rintro (⟨hc, hcs⟩ | ⟨hc, hcs, hne⟩)
    · exact ⟨(isName_cons_iff.mpr ⟨hc, hcs⟩).chars, (isName_cons_iff.mpr ⟨hc, hcs⟩).last⟩
    · refine ⟨List.forall_mem_cons.mpr ⟨.inr hc, hcs.chars⟩, ?_⟩
      obtain ⟨d, cs, rfl⟩ := List.exists_cons_of_ne_nil hne
      rw [List.getLast?_cons_cons]
      exact hcs.last

end Ends

/-! ### What may follow -/

/-- What may follow within a domain: an end of the label at hand, more labels, a slash and a name.
Unless a dot is already passed there is one to come. -/
inductive InDomain (dotted : Bool) (isEnd : List Char → Prop) : List Char → Prop
  | intro {front name : List Char} {labels : List (List Char)} (hfront : isEnd front)
    (hlabels : ∀ label ∈ labels, IsLabel label) (hdot : dotted = true ∨ labels ≠ [])
    (hname : IsName name) :
    InDomain dotted isEnd (['.'].intercalate (front :: labels) ++ '/' :: name)

section InDomain

variable {dotted : Bool} {isEnd : List Char → Prop} {c : Char} {cs : List Char}

theorem inDomain_and_iff {holds : Prop} :
    InDomain dotted (fun front => holds ∧ isEnd front) cs ↔ holds ∧ InDomain dotted isEnd cs := by
  constructor
  · rintro ⟨⟨hholds, hfront⟩, hlabels, hdot, hname⟩
    exact ⟨hholds, .intro hfront hlabels hdot hname⟩
  · rintro ⟨hholds, ⟨hfront, hlabels, hdot, hname⟩⟩
    exact .intro ⟨hholds, hfront⟩ hlabels hdot hname

theorem inDomain_or_iff {isOther : List Char → Prop} :
    InDomain dotted (fun front => isEnd front ∨ isOther front) cs ↔
      InDomain dotted isEnd cs ∨ InDomain dotted isOther cs := by
  constructor
  · rintro ⟨hfront | hfront, hlabels, hdot, hname⟩
    · exact .inl (.intro hfront hlabels hdot hname)
    · exact .inr (.intro hfront hlabels hdot hname)
  · rintro (⟨hfront, hlabels, hdot, hname⟩ | ⟨hfront, hlabels, hdot, hname⟩)
    · exact .intro (.inl hfront) hlabels hdot hname
    · exact .intro (.inr hfront) hlabels hdot hname

theorem not_inDomain_nil : ¬ InDomain dotted isEnd [] := by
  generalize hcs : ([] : List Char) = cs
  rintro ⟨⟩
  simp at hcs

theorem inDomain_cons_iff : InDomain dotted isEnd (c :: cs) ↔
    (c = '/' ∧ dotted = true ∧ isEnd [] ∧ IsName cs) ∨
    (c = '.' ∧ isEnd [] ∧ InDomain true IsLabel cs) ∨
    InDomain dotted (fun front => isEnd (c :: front)) cs := by
  constructor
  · generalize htext : c :: cs = text
    intro hrest
    cases hrest with
    | @intro front name labels hfront hlabels hdot hname =>
      match front, labels with
      | d :: front, labels =>
          -- The character belongs to the label at hand.
          obtain ⟨rfl, rfl⟩ : c = d ∧ cs = ['.'].intercalate (front :: labels) ++ '/' :: name := by
            cases labels <;> simpa [List.intercalate_cons_cons] using htext
          exact .inr (.inr (.intro hfront hlabels hdot hname))
      | [], [] =>
          obtain ⟨rfl, rfl⟩ : c = '/' ∧ cs = name := by simpa using htext
          exact .inl ⟨rfl, hdot.resolve_right (by simp), hfront, hname⟩
      | [], label :: labels =>
          obtain ⟨rfl, rfl⟩ : c = '.' ∧
              cs = ['.'].intercalate (label :: labels) ++ '/' :: name := by
            simpa [List.intercalate_cons_cons] using htext
          rw [List.forall_mem_cons] at hlabels
          exact .inr (.inl ⟨rfl, hfront, .intro hlabels.1 hlabels.2 (.inl rfl) hname⟩)
  · rintro (⟨rfl, hdot, hfront, hname⟩ | ⟨rfl, hfront, hrest⟩ | hrest)
    · have hrest : InDomain dotted isEnd (['.'].intercalate [[]] ++ '/' :: cs) :=
        .intro hfront nofun (.inl hdot) hname
      exact hrest
    · cases hrest with
      | @intro label name labels hlabel hlabels _ hname =>
        have hcons : (['.'].intercalate ([] :: label :: labels) ++ '/' :: name) =
            '.' :: (['.'].intercalate (label :: labels) ++ '/' :: name) := by
          simp [List.intercalate_cons_cons]
        rw [← hcons]
        exact .intro hfront (List.forall_mem_cons.mpr ⟨hlabel, hlabels⟩) (.inr (by simp)) hname
    · cases hrest with
      | @intro front name labels hfront hlabels hdot hname =>
        have hcons : (['.'].intercalate ((c :: front) :: labels) ++ '/' :: name) =
            c :: (['.'].intercalate (front :: labels) ++ '/' :: name) := by
          cases labels <;> simp [List.intercalate_cons_cons]
        rw [← hcons]
        exact .intro hfront hlabels hdot hname

theorem inDomain_isLabel_cons_iff : InDomain dotted IsLabel (c :: cs) ↔
    IsLabelLetter c ∧ InDomain dotted IsLabelEnd cs := by
  have hempty : ¬ IsLabel [] := fun hlabel => hlabel.ne_nil rfl
  simp only [inDomain_cons_iff, isLabel_cons_iff, inDomain_and_iff, hempty, false_and, and_false,
    false_or]

/-- Behind a letter or a dash, the label at hand goes on in the same two ways. -/
theorem inDomain_isLabelEnd_cons_iff :
    InDomain dotted (fun front => IsLabelEnd (c :: front)) cs ↔
      IsLabelLetter c ∧ InDomain dotted IsLabelEnd cs ∨
      c = '-' ∧ InDomain dotted (fun front => IsLabelEnd front ∧ front ≠ []) cs := by
  simp only [isLabelEnd_cons_iff, inDomain_or_iff, inDomain_and_iff]

end InDomain

/-! ### Reading a key -/

/-- What may follow a place for a key to be complete. -/
def Place.Allows : Place → List Char → Prop
  | .beforeLabel dotted => InDomain dotted IsLabel
  | .inLabel dotted => InDomain dotted IsLabelEnd
  | .afterDash dotted => InDomain dotted fun cs => IsLabelEnd cs ∧ cs ≠ []
  | .beforeName => IsName
  | .inName => IsNameEnd
  | .afterMark => fun cs => IsNameEnd cs ∧ cs ≠ []

theorem Place.allows_nil_iff (place : Place) : place.Allows [] ↔ place = .inName := by
  cases place with
  | beforeLabel dotted => simp [Allows, not_inDomain_nil]
  | inLabel dotted => simp [Allows, not_inDomain_nil]
  | afterDash dotted => simp [Allows, not_inDomain_nil]
  | beforeName => simpa [Allows] using fun hname : IsName [] => hname.ne_nil rfl
  | inName => simp [Allows, isNameEnd_nil]
  | afterMark => simp [Allows]

theorem Place.allows_inLabel_cons_iff {dotted : Bool} {c : Char} {cs : List Char} :
    (Place.inLabel dotted).Allows (c :: cs) ↔
      (c = '/' ∧ dotted = true ∧ IsName cs) ∨ (c = '.' ∧ InDomain true IsLabel cs) ∨
      IsLabelLetter c ∧ InDomain dotted IsLabelEnd cs ∨
      c = '-' ∧ InDomain dotted (fun front => IsLabelEnd front ∧ front ≠ []) cs := by
  simp only [Allows, inDomain_cons_iff, inDomain_isLabelEnd_cons_iff, isLabelEnd_nil, true_and]

theorem Place.allows_afterDash_cons_iff {dotted : Bool} {c : Char} {cs : List Char} :
    (Place.afterDash dotted).Allows (c :: cs) ↔
      IsLabelLetter c ∧ InDomain dotted IsLabelEnd cs ∨
      c = '-' ∧ InDomain dotted (fun front => IsLabelEnd front ∧ front ≠ []) cs := by
  simp [Allows, inDomain_cons_iff, inDomain_isLabelEnd_cons_iff]

/-- Within a name a letter and a mark lead on in the same two ways. -/
theorem exists_next_inName_iff {c : Char} {cs : List Char} :
    (∃ next, Place.inName.next c = some next ∧ next.Allows cs) ↔ IsNameEnd (c :: cs) := by
  rw [isNameEnd_cons_iff]
  by_cases hletter : IsNameLetter c
  · have hmarks := hletter.notMem_marks
    simp only [List.mem_cons, List.not_mem_nil, not_or] at hmarks
    simp [Place.next, isNameChar_iff, hletter, hmarks, Place.Allows]
  · by_cases hmark : c = '-' ∨ c = '_' ∨ c = '.' <;>
      simp [Place.next, isNameChar_iff, hletter, hmark, Place.Allows]

/-- One more character leads from what may follow a place to what may follow the next. -/
theorem Place.allows_cons_iff (place : Place) (c : Char) (cs : List Char) :
    place.Allows (c :: cs) ↔ ∃ next, place.next c = some next ∧ next.Allows cs := by
  cases place with
  | beforeLabel dotted =>
      by_cases hletter : IsLabelLetter c
      · simp [Allows, inDomain_isLabel_cons_iff, next, isLabelChar_iff, hletter]
      · simp [Allows, inDomain_isLabel_cons_iff, next, isLabelChar_iff, hletter]
  | inLabel dotted =>
      rw [allows_inLabel_cons_iff]
      by_cases hletter : IsLabelLetter c
      · have hmarks := hletter.notMem_marks
        simp only [List.mem_cons, List.not_mem_nil, not_or] at hmarks
        simp [next, isLabelChar_iff, hletter, hmarks, Allows]
      · by_cases hdash : c = '-'
        · subst hdash
          simp [next, isLabelChar_iff, hletter, Allows]
        by_cases hdot : c = '.'
        · subst hdot
          simp [next, isLabelChar_iff, hletter, Allows]
        by_cases hslash : c = '/'
        · subst hslash
          cases dotted <;> simp [next, isLabelChar_iff, hletter, Allows]
        · simp [next, isLabelChar_iff, hletter, hdash, hdot, hslash]
  | afterDash dotted =>
      rw [allows_afterDash_cons_iff]
      by_cases hletter : IsLabelLetter c
      · have hmarks := hletter.notMem_marks
        simp only [List.mem_cons, List.not_mem_nil, not_or] at hmarks
        simp [next, isLabelChar_iff, hletter, hmarks, Allows]
      · by_cases hdash : c = '-'
        · subst hdash
          simp [next, isLabelChar_iff, hletter, Allows]
        · simp [next, isLabelChar_iff, hletter, hdash]
  | beforeName =>
      by_cases hletter : IsNameLetter c <;>
        simp [Allows, isName_cons_iff, next, isNameChar_iff, hletter]
  | inName => exact exists_next_inName_iff.symm
  | afterMark => exact (and_iff_left (List.cons_ne_nil c cs)).trans exists_next_inName_iff.symm

/-- A key is complete behind some characters exactly if they may follow the place. -/
theorem Place.after_eq_inName_iff (place : Place) (cs : List Char) :
    place.after cs = some .inName ↔ place.Allows cs := by
  induction cs generalizing place with
  | nil => rw [after, Option.some.injEq, allows_nil_iff]
  | cons c cs ih =>
      rw [after, Option.bind_eq_some_iff, allows_cons_iff]
      exact exists_congr fun next => and_congr_right fun _ => ih next

/-! ### Whole keys -/

theorem IsLabel.notMem {label : List Char} (hlabel : IsLabel label) {c : Char}
    (hc : c ∈ ['.', '/']) : c ∉ label := by
  intro hmem
  rcases hlabel.chars c hmem with hletter | rfl
  · exact hletter.notMem_marks (List.mem_cons_of_mem _ (List.mem_cons_of_mem _ hc))
  · exact absurd hc (by decide)

theorem IsName.slash_notMem {name : List Char} (hname : IsName name) : '/' ∉ name := by
  intro hmem
  rcases hname.chars '/' hmem with hletter | hmark
  · exact hletter.notMem_marks (by decide)
  · exact absurd hmark (by decide)

theorem slash_notMem_intercalate {labels : List (List Char)}
    (hlabels : ∀ label ∈ labels, IsLabel label) : '/' ∉ ['.'].intercalate labels := by
  intro hmem
  rcases Text.eq_or_exists_of_mem_intercalate hmem with hdot | ⟨label, hlabel, hmem⟩
  · cases hdot
  · exact (hlabels label hlabel).notMem (by decide) hmem

theorem inDomain_iff_isKey {cs : List Char} : InDomain false IsLabel cs ↔ IsKey cs := by
  constructor
  · rintro ⟨hfront, hlabels, hdot, hname⟩
    have hall := List.forall_mem_cons.mpr ⟨hfront, hlabels⟩
    have hsplit := List.splitOn_intercalate '.' (fun label hlabel =>
      (hall label hlabel).notMem (by decide)) (List.cons_ne_nil _ _)
    refine .intro ⟨?_, ?_⟩ hname ?_
    · rwa [hsplit]
    · rw [hsplit, List.length_cons]
      have hpos := List.length_pos_iff.mpr (hdot.resolve_left nofun)
      omega
    · rw [List.count_append, List.count_cons_self,
        List.count_eq_zero.mpr (slash_notMem_intercalate hall),
        List.count_eq_zero.mpr hname.slash_notMem]
  · rintro @⟨domain, name, ⟨hlabels, htwo⟩, hname, _⟩
    match hsplit : domain.splitOn '.' with
    | [] => simp [hsplit] at htwo
    | [label] => simp [hsplit] at htwo
    | front :: next :: labels =>
        rw [hsplit, List.forall_mem_cons] at hlabels
        have hwhole : ['.'].intercalate (domain.splitOn '.') = domain :=
          List.intercalate_splitOn '.'
        rw [← hwhole, hsplit]
        exact .intro hlabels.1 hlabels.2 (.inr (List.cons_ne_nil _ _)) hname

theorem IsNameLetter.toNat_lt {c : Char} (hc : IsNameLetter c) : c.toNat < 128 ∧ c ≠ '\n' := by
  have hne : c ≠ '\n' := by
    rintro rfl
    rw [← isNameChar_iff] at hc
    exact absurd hc (by decide)
  refine ⟨?_, hne⟩
  have hz : c.toNat ≤ 'Z'.toNat ∨ c.toNat ≤ 'z'.toNat ∨ c.toNat ≤ '9'.toNat :=
    hc.imp And.right fun hc => hc.imp And.right And.right
  have hupper : 'Z'.toNat = 90 := rfl
  have hlower : 'z'.toNat = 122 := rfl
  have hdigit : '9'.toNat = 57 := rfl
  omega

/-- All characters of a key are letters and marks, in front of the slash and behind it. -/
theorem IsKey.isNameLetter_or_mem {key : List Char} (hkey : IsKey key) {c : Char} (hc : c ∈ key) :
    IsNameLetter c ∨ c ∈ ['-', '_', '.', '/'] := by
  rcases hkey with @⟨domain, name, hdomain, hname, _⟩
  rw [List.mem_append, List.mem_cons] at hc
  rcases hc with hc | rfl | hc
  · have hwhole : ['.'].intercalate (domain.splitOn '.') = domain := List.intercalate_splitOn '.'
    rw [← hwhole] at hc
    rcases Text.eq_or_exists_of_mem_intercalate hc with rfl | ⟨label, hlabel, hc⟩
    · exact .inr (by decide)
    · rcases (hdomain.labels label hlabel).chars c hc with hletter | rfl
      · exact .inl (.inr hletter)
      · exact .inr (by decide)
  · exact .inr (by decide)
  · rcases hname.chars c hc with hletter | rfl | rfl | rfl
    · exact .inl hletter
    · exact .inr (by decide)
    · exact .inr (by decide)
    · exact .inr (by decide)

theorem isValid_eq_true_iff {key : String} : isValid key = true ↔ IsKey key.toList := by
  rw [isValid, beq_iff_eq, Place.after_eq_inName_iff]
  exact inDomain_iff_isKey

/-- A key is valid exactly if it is of the grammar. Then all of its characters are plain, wherever
they stand. -/
theorem isValid_iff_isKey (key : String) :
    (isValid key = true ↔ IsKey key.toList) ∧
    (isValid key = true → ∀ c ∈ key.toList, c.toNat < 128 ∧ c ≠ '\n') := by
  refine ⟨isValid_eq_true_iff, fun hvalid c hc => ?_⟩
  rcases (isValid_eq_true_iff.mp hvalid).isNameLetter_or_mem hc with hletter | hmark
  · exact hletter.toNat_lt
  · have hplain : ['-', '_', '.', '/'].all (fun mark => mark.toNat < 128 ∧ mark ≠ '\n') = true := by
      decide
    exact of_decide_eq_true (List.all_eq_true.mp hplain c hmark)

/-- Dashes may follow each other within a label, and a name may have letters of both cases. -/
theorem isValid_iff_isKey_dashed :
    let key := "a--b.0/X_y.Z"
    isValid key = true ∧ IsKey key.toList ∧ ∀ c ∈ key.toList, c.toNat < 128 ∧ c ≠ '\n' := by
  intro key
  have hvalid : isValid key = true := by decide +kernel
  obtain ⟨hiff, hplain⟩ := isValid_iff_isKey key
  exact ⟨hvalid, hiff.mp hvalid, hplain hvalid⟩

end UpgradeGate.AnnotationKey
