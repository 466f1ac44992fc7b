import UpgradeGate.Cluster.Store
import UpgradeGate.Proofs.Text
import UpgradeGate.Proofs.Version.Grammar

/-!
# Versions read from texts

The reader takes exactly the full texts, and completes exactly the short ones: a text with one dot
is never full, and one with a zero put behind it is full only if it was short.
-/

namespace UpgradeGate.Version

variable {cs : List Char} {version : Version}

/-! ### Marks and dots -/

section Marks

variable {major minor patch : List Char} {first second third : UInt64}

/-- A numeral holds none of the marks of labels. -/
theorem IsNumeral.isPlain {digits : List Char} {n : UInt64} (hnumeral : IsNumeral digits n) :
    ∀ c ∈ digits, (c ≠ '-' && c ≠ '+') = true := by
  intro c hc
  have hdash : c ≠ '-' := fun hsame => hnumeral.notMem (c := '-') rfl (hsame ▸ hc)
  have hplus : c ≠ '+' := fun hsame => hnumeral.notMem (c := '+') rfl (hsame ▸ hc)
  simp [hdash, hplus]

theorem isPlain_dotted {cs : List Char} (hmajor : IsNumeral major first)
    (hplain : ∀ c ∈ cs, (c ≠ '-' && c ≠ '+') = true) :
    ∀ c ∈ major ++ '.' :: cs, (c ≠ '-' && c ≠ '+') = true := by
  intro c hc
  rw [List.mem_append, List.mem_cons] at hc
  rcases hc with hc | rfl | hc
  · exact hmajor.isPlain c hc
  · rfl
  · exact hplain c hc

/-- Labels begin with their mark. -/
theorem head?_labels {preRelease build : List Char} {preLabels buildLabels : List String}
    (hpre : IsPart '-' IsPreReleaseText preRelease preLabels)
    (hbuild : IsPart '+' IsBuildText build buildLabels) :
    ∀ c, (preRelease ++ build).head? = some c → (c ≠ '-' && c ≠ '+') = false := by
  intro c hc
  rw [List.head?_append, Option.or_eq_some_iff] at hc
  rcases hc with hc | ⟨_, hc⟩
  · rw [hpre.head?_eq hc]
    rfl
  · rw [hbuild.head?_eq hc]
    rfl

/-- A pre-release does not hold the mark of a build. -/
theorem isPlain_preRelease {preRelease : List Char} {labels : List String}
    (hpre : IsPart '-' IsPreReleaseText preRelease labels) :
    ∀ c ∈ preRelease, (c ≠ '+' : Bool) = true := by
  intro c hc
  have hplus : c ≠ '+' := by
    rintro rfl
    rcases hpre.mem_cases (fun _ => IsPreReleaseText.toIsBuildText) hc with hmark | hdot | hletter
    · cases hmark
    · cases hdot
    · exact absurd (isLabelChar_iff.mpr hletter) (by decide)
  simpa using hplus

theorem split_numbers (hmajor : IsNumeral major first) (hminor : IsNumeral minor second)
    (hpatch : IsNumeral patch third) :
    Text.split '.' (major ++ '.' :: (minor ++ '.' :: patch)) = [major, minor, patch] := by
  have hdots : ∀ piece ∈ [major, minor, patch], '.' ∉ piece := by
    simp only [List.forall_mem_cons]
    exact ⟨hmajor.notMem rfl, hminor.notMem rfl, hpatch.notMem rfl, nofun⟩
  have hsplit := Text.split_intercalate (List.cons_ne_nil major [minor, patch]) hdots
  simpa [List.intercalate_cons_cons] using hsplit

end Marks

/-! ### Full texts -/

theorem IsFull.ofChars?_eq (hfull : IsFull cs version) : ofChars? cs = some version := by
  rcases hfull with
    @⟨major, minor, patch, preRelease, build, _, hmajor, hminor, hpatch, hpre, hbuild⟩
  have hplain := isPlain_dotted hmajor (isPlain_dotted hminor hpatch.isPlain)
  have hmarked := head?_labels hpre hbuild
  have hbefore := isPlain_preRelease hpre
  have hbehind : ∀ c, build.head? = some c → (c ≠ '+' : Bool) = false := by
    intro c hc
    rw [hbuild.head?_eq hc]
    rfl
  have hpreRelease : labels? '-' isPreReleaseLabel preRelease =
      some ⟨version.preRelease, version.preRelease_valid⟩ :=
    preRelease?_eq_some_iff.mpr hpre
  have hbuilt : labels? '+' isBuildLabel build = some ⟨version.build, version.build_valid⟩ :=
    build?_eq_some_iff.mpr hbuild
  unfold ofChars?
  dsimp only
  rw [Text.takeWhile_append_of_head hplain hmarked, Text.dropWhile_append_of_head hplain hmarked,
    Text.takeWhile_append_of_head hbefore hbehind, Text.dropWhile_append_of_head hbefore hbehind,
    split_numbers hmajor hminor hpatch, hpreRelease, hbuilt]
  simp only [number?_eq_some_iff.mpr hmajor, number?_eq_some_iff.mpr hminor,
    number?_eq_some_iff.mpr hpatch]
  rfl

theorem isFull_of_ofChars? (hread : ofChars? cs = some version) : IsFull cs version := by
  unfold ofChars? at hread
  dsimp only at hread
  simp only [Option.bind_eq_bind, Option.bind_eq_some_iff, preRelease?_eq_some_iff,
    build?_eq_some_iff] at hread
  obtain ⟨preRelease, hpre, build, hbuild, hread⟩ := hread
  split at hread
  · next major minor patch hsplit =>
      simp only [Option.bind_eq_some_iff, Option.pure_def, Option.some.injEq,
        number?_eq_some_iff] at hread
      obtain ⟨majorValue, hmajor, minorValue, hminor, patchValue, hpatch, rfl⟩ := hread
      have hfull := @IsFull.intro major minor patch _ _ {
        major := majorValue
        minor := minorValue
        patch := patchValue
        preRelease := preRelease.val
        build := build.val
        preRelease_valid := preRelease.property
        build_valid := build.property } hmajor hminor hpatch hpre hbuild
      have hnumbers := Text.intercalate_split '.' (cs.takeWhile fun c => c ≠ '-' && c ≠ '+')
      rw [hsplit, List.intercalate_cons_cons, List.intercalate_cons_cons,
        List.intercalate_singleton] at hnumbers
      simp only [List.append_assoc, List.singleton_append] at hnumbers
      rwa [hnumbers, List.takeWhile_append_dropWhile, List.takeWhile_append_dropWhile] at hfull
  · cases hread

theorem ofChars?_eq_some_iff : ofChars? cs = some version ↔ IsFull cs version :=
  ⟨isFull_of_ofChars?, IsFull.ofChars?_eq⟩

/-! ### Short texts -/

theorem IsNumeral.count_dot {digits : List Char} {n : UInt64} (hnumeral : IsNumeral digits n) :
    digits.count '.' = 0 :=
  List.count_eq_zero.mpr (hnumeral.notMem rfl)

theorem isNumeral_zero_iff {n : UInt64} : IsNumeral ['0'] n ↔ n = 0 := by
  constructor
  · intro hzero
    exact UInt64.toNat_inj.mp hzero.value.symm
  · rintro rfl
    exact ⟨by decide, List.forall_mem_singleton.mpr (by decide), fun _ => rfl, rfl⟩

theorem isPart_nil_iff {mark : Char} {IsText : List Char → Prop} {labels : List String} :
    IsPart mark IsText [] labels ↔ labels = [] := by
  constructor
  · intro hpart
    cases hpart
    rfl
  · rintro rfl
    exact .absent

theorem completed_eq (cs : List Char) :
    completed cs = if cs.count '.' = 1 ∧ '-' ∉ cs then cs ++ ['.', '0'] else cs := by
  have hone : (Text.split '.' cs).length = 2 ↔ cs.count '.' = 1 := by
    rw [Text.length_split]
    omega
  simp only [completed, hone]

theorem IsFull.two_le_count (hfull : IsFull cs version) : 2 ≤ cs.count '.' := by
  cases hfull
  simp only [List.count_append, List.count_cons_self]
  omega

/-- Behind the last dot of a text that a zero completes, there is no room for labels. -/
theorem IsFull.isShort (hfull : IsFull (cs ++ ['.', '0']) version) (hone : cs.count '.' = 1) :
    IsShort cs version := by
  generalize hwhole : cs ++ ['.', '0'] = whole at hfull
  rcases hfull with
    @⟨major, minor, patch, preRelease, build, _, hmajor, hminor, hpatch, hpre, hbuild⟩
  have hassoc : (major ++ '.' :: (minor ++ '.' :: patch)) ++ (preRelease ++ build) =
      (major ++ '.' :: minor) ++ '.' :: (patch ++ (preRelease ++ build)) := by
    simp
  rw [hassoc] at hwhole
  have hcount := congrArg (List.count '.') hwhole
  simp only [List.count_append, List.count_cons_self, hone, hmajor.count_dot,
    hminor.count_dot] at hcount
  have hrest : '.' ∉ patch ++ (preRelease ++ build) := by
    have hnone : List.count '.' ['0'] = 0 := rfl
    rw [← List.count_eq_zero, List.count_append, List.count_append]
    omega
  have hlast := Text.splitLast?_append (major ++ '.' :: minor) hrest
  rw [← hwhole, Text.splitLast?_append cs (by decide), Option.some.injEq, Prod.mk.injEq] at hlast
  obtain ⟨rfl, hzero⟩ := hlast
  obtain ⟨digit, digits, rfl⟩ := List.exists_cons_of_ne_nil hpatch.ne_nil
  rw [List.cons_append, List.cons.injEq, List.nil_eq_append_iff, List.append_eq_nil_iff] at hzero
  obtain ⟨rfl, rfl, rfl, rfl⟩ := hzero
  exact .intro hmajor hminor (isNumeral_zero_iff.mp hpatch) (isPart_nil_iff.mp hpre)
    (isPart_nil_iff.mp hbuild)

theorem IsShort.isFull (hshort : IsShort cs version) : IsFull (cs ++ ['.', '0']) version := by
  rcases hshort with @⟨major, minor, _, hmajor, hminor, hpatch, hpre, hbuild⟩
  have hfull := IsFull.intro hmajor hminor (isNumeral_zero_iff.mpr hpatch)
    (isPart_nil_iff.mpr hpre) (isPart_nil_iff.mpr hbuild)
  simpa using hfull

theorem IsShort.count_eq (hshort : IsShort cs version) : cs.count '.' = 1 := by
  cases hshort with
  | intro hmajor hminor =>
      rw [List.count_append, List.count_cons_self, hmajor.count_dot, hminor.count_dot]

theorem IsShort.notMem (hshort : IsShort cs version) : '-' ∉ cs := by
  cases hshort with
  | intro hmajor hminor =>
      rw [List.mem_append, List.mem_cons]
      rintro (hmem | hdot | hmem)
      · exact hmajor.notMem rfl hmem
      · cases hdot
      · exact hminor.notMem rfl hmem

theorem ofChars?_completed_iff :
    ofChars? (completed cs) = some version ↔ IsFull cs version ∨ IsShort cs version := by
  rw [ofChars?_eq_some_iff, completed_eq]
  by_cases hone : cs.count '.' = 1 ∧ '-' ∉ cs
  · rw [if_pos hone]
    constructor
    · intro hfull
      exact .inr (hfull.isShort hone.1)
    · rintro (hfull | hshort)
      · have htwo := hfull.two_le_count
        omega
      · exact hshort.isFull
  · rw [if_neg hone]
    constructor
    · exact .inl
    · rintro (hfull | hshort)
      · exact hfull
      · exact absurd ⟨hshort.count_eq, hshort.notMem⟩ hone

/-! ### Bare texts -/

/-- What is left of a text without the blanks around it, and then without a `v` in front if there
is one. -/
inductive Bares : List Char → List Char → Prop
  | marked {cs bare : List Char} (hcore : Text.HasCore cs ('v' :: bare)) : Bares cs bare
  | plain {cs bare : List Char} (hcore : Text.HasCore cs bare) (hfirst : bare.head? ≠ some 'v') :
    Bares cs bare

theorem withoutMark_of_head? (hfirst : cs.head? ≠ some 'v') : withoutMark cs = cs := by
  unfold withoutMark
  split
  · exact absurd rfl hfirst
  · rfl

theorem bares_iff {bare : List Char} :
    Bares cs bare ↔ bare = withoutMark (Text.trim cs) := by
  constructor
  · rintro (hcore | ⟨hcore, hfirst⟩)
    · rw [hcore.trim_eq, withoutMark]
    · rw [hcore.trim_eq, withoutMark_of_head? hfirst]
  · rintro rfl
    have hcore := Text.hasCore_trim cs
    by_cases hfirst : (Text.trim cs).head? = some 'v'
    · obtain ⟨rest, hrest⟩ := List.head?_eq_some_iff.mp hfirst
      rw [hrest] at hcore ⊢
      exact .marked hcore
    · rw [withoutMark_of_head? hfirst]
      exact .plain hcore hfirst

/-- What a text is read as: the version that its bare text spells, in full or in short, or else that
the text as it was given is no version. -/
inductive Reads (s : String) : Except Problem Version → Prop
  | full {bare : List Char} {version : Version} (hbare : Bares s.toList bare)
    (hfull : IsFull bare version) : Reads s (.ok version)
  | short {bare : List Char} {version : Version} (hbare : Bares s.toList bare)
    (hshort : IsShort bare version) : Reads s (.ok version)
  | invalid {bare : List Char} (hbare : Bares s.toList bare)
    (hneither : ∀ version, ¬ IsFull bare version ∧ ¬ IsShort bare version) :
    Reads s (.error (.invalidVersion s))

theorem version_eq_iff {s : String} {answer : Except Problem Version} :
    Platform.version s = answer ↔ Reads s answer := by
  have hbares : Bares s.toList (withoutMark (Text.trim s.toList)) := bares_iff.mpr rfl
  constructor
  · rintro rfl
    unfold Platform.version ofString?
    cases hread : ofChars? (completed (withoutMark (Text.trim s.toList))) with
    | some version =>
        rcases ofChars?_completed_iff.mp hread with hfull | hshort
        · exact .full hbares hfull
        · exact .short hbares hshort
    | none =>
        refine .invalid hbares fun version => not_or.mp fun hspells => ?_
        rw [ofChars?_completed_iff.mpr hspells] at hread
        cases hread
  · have hread : ∀ {bare : List Char} {version : Version}, Bares s.toList bare →
        IsFull bare version ∨ IsShort bare version → Platform.version s = .ok version := by
      intro bare version hbare hspells
      rw [bares_iff.mp hbare, ← ofChars?_completed_iff] at hspells
      rw [Platform.version, ofString?, hspells]
    rintro (⟨hbare, hfull⟩ | ⟨hbare, hshort⟩ | ⟨hbare, hneither⟩)
    · exact hread hbare (.inl hfull)
    · exact hread hbare (.inr hshort)
    · rw [bares_iff.mp hbare] at hneither
      unfold Platform.version ofString?
      cases hsome : ofChars? (completed (withoutMark (Text.trim s.toList))) with
      | some version =>
          exact absurd (ofChars?_completed_iff.mp hsome) (not_or.mpr (hneither version))
      | none => rfl

/-! ### Texts that are no versions -/

/-- A full text holds dots, plus signs and the letters of labels, of which the dash is one. -/
theorem IsFull.mem_cases (hfull : IsFull cs version) {c : Char} (hc : c ∈ cs) :
    c = '.' ∨ c = '+' ∨ IsLabelLetter c := by
  rcases hfull with
    @⟨major, minor, patch, preRelease, build, _, hmajor, hminor, hpatch, hpre, hbuild⟩
  have hdigit : ∀ {digits : List Char} {n : UInt64}, IsNumeral digits n → c ∈ digits →
      IsLabelLetter c := fun hnumeral hmem => .inr (.inr (.inl (hnumeral.chars c hmem)))
  simp only [List.mem_append, List.mem_cons] at hc
  rcases hc with (hc | rfl | hc | rfl | hc) | hc | hc
  · exact .inr (.inr (hdigit hmajor hc))
  · exact .inl rfl
  · exact .inr (.inr (hdigit hminor hc))
  · exact .inl rfl
  · exact .inr (.inr (hdigit hpatch hc))
  · rcases hpre.mem_cases (fun _ => IsPreReleaseText.toIsBuildText) hc with rfl | hdot | hletter
    · exact .inr (.inr (.inr (.inr (.inr rfl))))
    · exact .inl hdot
    · exact .inr (.inr hletter)
  · rcases hbuild.mem_cases (fun _ => id) hc with hplus | hdot | hletter
    · exact .inr (.inl hplus)
    · exact .inl hdot
    · exact .inr (.inr hletter)

theorem IsLabelLetter.isBlank_eq_false {c : Char} (hletter : IsLabelLetter c) :
    Text.isBlank c = false := by
  rcases hletter with hupper | hlower | hdigit | rfl
  · exact Text.isBlank_of_between hupper (by decide) (by decide)
  · exact Text.isBlank_of_between hlower (by decide) (by decide)
  · exact Text.isBlank_of_between hdigit (by decide) (by decide)
  · decide

theorem IsFull.isBlank_eq_false (hfull : IsFull cs version) {c : Char} (hc : c ∈ cs) :
    Text.isBlank c = false := by
  rcases hfull.mem_cases hc with rfl | rfl | hletter
  · decide
  · decide
  · exact hletter.isBlank_eq_false

theorem IsFull.head?_ne_mark (hfull : IsFull cs version) : cs.head? ≠ some 'v' := by
  rcases hfull with @⟨major, _, _, _, _, _, hmajor, _⟩
  obtain ⟨digit, digits, rfl⟩ := List.exists_cons_of_ne_nil hmajor.ne_nil
  intro hmark
  have hdigit : digit = 'v' := Option.some.inj hmark
  exact hmajor.notMem (hdigit ▸ rfl) List.mem_cons_self

/-- A full text has two dots in front of its labels. -/
theorem IsFull.count_takeWhile (hfull : IsFull cs version) :
    (cs.takeWhile fun c => c ≠ '-' && c ≠ '+').count '.' = 2 := by
  rcases hfull with
    @⟨major, minor, patch, preRelease, build, _, hmajor, hminor, hpatch, hpre, hbuild⟩
  rw [Text.takeWhile_append_of_head
    (isPlain_dotted hmajor (isPlain_dotted hminor hpatch.isPlain)) (head?_labels hpre hbuild)]
  simp only [List.count_append, List.count_cons_self, hmajor.count_dot, hminor.count_dot,
    hpatch.count_dot]

/-- What is wrong with a bare text: a second `v`, a blank inside, no dot, or labels behind two
numbers. -/
inductive IsOdd : List Char → Prop
  | marked {cs : List Char} (hmark : cs.head? = some 'v') : IsOdd cs
  | blank {cs : List Char} {c : Char} (hc : c ∈ cs) (hblank : Text.isBlank c = true) : IsOdd cs
  | undotted {cs : List Char} (hdot : '.' ∉ cs) : IsOdd cs
  | labelled {major minor preRelease build : List Char} {first second : UInt64}
    {preLabels buildLabels : List String} (hmajor : IsNumeral major first)
    (hminor : IsNumeral minor second) (hpre : IsPart '-' IsPreReleaseText preRelease preLabels)
    (hbuild : IsPart '+' IsBuildText build buildLabels) (hsome : preRelease ++ build ≠ []) :
    IsOdd ((major ++ '.' :: minor) ++ (preRelease ++ build))

theorem IsOdd.not_isFull (hodd : IsOdd cs) : ¬ IsFull cs version := by
  intro hfull
  cases hodd with
  | marked hmark => exact hfull.head?_ne_mark hmark
  | blank hc hblank =>
      rw [hfull.isBlank_eq_false hc] at hblank
      cases hblank
  | undotted hdot =>
      have htwo := hfull.two_le_count
      rw [List.count_eq_zero.mpr hdot] at htwo
      omega
  | labelled hmajor hminor hpre hbuild =>
      have htwo := hfull.count_takeWhile
      rw [Text.takeWhile_append_of_head (isPlain_dotted hmajor hminor.isPlain)
        (head?_labels hpre hbuild), List.count_append, List.count_cons_self, hmajor.count_dot,
        hminor.count_dot] at htwo
      omega

theorem IsShort.isPlain (hshort : IsShort cs version) :
    ∀ c ∈ cs, (c ≠ '-' && c ≠ '+') = true := by
  cases hshort with
  | intro hmajor hminor => exact isPlain_dotted hmajor hminor.isPlain

theorem IsOdd.not_isShort (hodd : IsOdd cs) : ¬ IsShort cs version := by
  intro hshort
  cases hodd with
  | marked hmark =>
      have hcompleted : IsOdd (cs ++ ['.', '0']) := .marked (by rw [List.head?_append, hmark]; rfl)
      exact hcompleted.not_isFull hshort.isFull
  | blank hc hblank =>
      have hcompleted : IsOdd (cs ++ ['.', '0']) := .blank (List.mem_append_left _ hc) hblank
      exact hcompleted.not_isFull hshort.isFull
  | undotted hdot =>
      have hone := hshort.count_eq
      rw [List.count_eq_zero.mpr hdot] at hone
      omega
  | @labelled major minor preRelease build _ _ _ _ hmajor hminor hpre hbuild hsome =>
      obtain ⟨c, rest, hcons⟩ := List.exists_cons_of_ne_nil hsome
      have hmark := head?_labels hpre hbuild c (by rw [hcons]; rfl)
      have hplain := hshort.isPlain c (by simp [hcons])
      rw [hmark] at hplain
      cases hplain

end UpgradeGate.Version
