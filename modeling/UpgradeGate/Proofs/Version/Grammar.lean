import UpgradeGate.Proofs.Decimal
import UpgradeGate.Proofs.Text
import UpgradeGate.Version

/-!
# The grammar of versions

A full version is three numerals with dots between them, perhaps the labels of a pre-release behind
a dash, and perhaps those of a build behind a plus sign. The reader takes exactly the texts of the
grammar, each for the version that it spells.
-/

namespace UpgradeGate.Version

/-! ### The grammar -/

/-- Digits for a number of 64 bits, without zeros in front of it. -/
structure IsNumeral (digits : List Char) (n : UInt64) : Prop where
  ne_nil : digits ≠ []
  chars : ∀ c ∈ digits, '0' ≤ c ∧ c ≤ '9'
  first : digits.head? = some '0' → digits = ['0']
  value : Nat.ofDigitChars 10 digits 0 = n.toNat

def IsLabelLetter (c : Char) : Prop :=
  ('A' ≤ c ∧ c ≤ 'Z') ∨ ('a' ≤ c ∧ c ≤ 'z') ∨ ('0' ≤ c ∧ c ≤ '9') ∨ c = '-'

structure IsBuildText (label : List Char) : Prop where
  ne_nil : label ≠ []
  letters : ∀ c ∈ label, IsLabelLetter c

/-- What may stand in a build and, if it is a number, has no zeros in front of it. -/
structure IsPreReleaseText (label : List Char) : Prop extends IsBuildText label where
  first : (∀ c ∈ label, '0' ≤ c ∧ c ≤ '9') → label.head? = some '0' → label = ['0']

/-- A mark and the labels of a kind with dots between them, or nothing for no labels. -/
inductive IsPart (mark : Char) (IsText : List Char → Prop) : List Char → List String → Prop
  | absent : IsPart mark IsText [] []
  | present {labels : List String} (hne : labels ≠ [])
    (hlabels : ∀ label ∈ labels, IsText label.toList) :
    IsPart mark IsText (mark :: ['.'].intercalate (labels.map String.toList)) labels

inductive IsFull : List Char → Version → Prop
  | intro {major minor patch preRelease build : List Char} {version : Version}
    (hmajor : IsNumeral major version.major) (hminor : IsNumeral minor version.minor)
    (hpatch : IsNumeral patch version.patch)
    (hpre : IsPart '-' IsPreReleaseText preRelease version.preRelease)
    (hbuild : IsPart '+' IsBuildText build version.build) :
    IsFull ((major ++ '.' :: (minor ++ '.' :: patch)) ++ (preRelease ++ build)) version

/-- Two numerals with a dot between them, for the first release with these numbers. -/
inductive IsShort : List Char → Version → Prop
  | intro {major minor : List Char} {version : Version}
    (hmajor : IsNumeral major version.major) (hminor : IsNumeral minor version.minor)
    (hpatch : version.patch = 0) (hpre : version.preRelease = []) (hbuild : version.build = []) :
    IsShort (major ++ '.' :: minor) version

/-! ### Numerals -/

theorem hasNeedlessZero_eq_false_iff {cs : List Char} :
    hasNeedlessZero cs = false ↔ (cs.head? = some '0' → cs = ['0']) := by
  cases cs with
  | nil => simp [hasNeedlessZero]
  | cons c cs => simp +contextual [hasNeedlessZero]

theorem number?_eq_some_iff {cs : List Char} {n : UInt64} :
    number? cs = some n ↔ IsNumeral cs n := by
  constructor
  · intro hnumber
    unfold number? at hnumber
    split at hnumber
    · cases hnumber
    · next hzero =>
        rw [Bool.not_eq_true, hasNeedlessZero_eq_false_iff] at hzero
        split at hnumber
        · cases hnumber
        · next value hvalue =>
            obtain ⟨hne, hdigits, hsum⟩ := Decimal.natOfDigits?_eq_some_iff.mp hvalue
            split at hnumber
            · cases hnumber
              exact ⟨hne, fun c hc => Text.isDigit_iff.mp (hdigits c hc), hzero, hsum⟩
            · cases hnumber
  · rintro ⟨hne, hdigits, hfirst, hsum⟩
    have hvalue : Decimal.natOfDigits? 10 cs = some n.toNat :=
      Decimal.natOfDigits?_eq_some_iff.mpr
        ⟨hne, fun c hc => Text.isDigit_iff.mpr (hdigits c hc), hsum⟩
    rw [number?, hasNeedlessZero_eq_false_iff.mpr hfirst, hvalue]
    exact dif_pos n.toNat_lt

/-- No numeral holds a mark of a version. -/
theorem IsNumeral.notMem {digits : List Char} {n : UInt64} (hnumeral : IsNumeral digits n)
    {c : Char} (hc : c.isDigit = false) : c ∉ digits := by
  intro hmem
  rw [Text.isDigit_iff.mpr (hnumeral.chars c hmem)] at hc
  cases hc

/-! ### Labels -/

theorem isLabelChar_iff {c : Char} : isLabelChar c = true ↔ IsLabelLetter c := by
  rw [isLabelChar, Bool.or_eq_true, Text.isAlphanum_iff, beq_iff_eq]
  simp only [IsLabelLetter, or_assoc]

theorem isBuildLabel_iff {label : String} :
    isBuildLabel label = true ↔ IsBuildText label.toList := by
  rw [isBuildLabel, Bool.and_eq_true, Bool.not_eq_true', List.isEmpty_eq_false_iff,
    List.all_eq_true]
  simp only [isLabelChar_iff]
  exact ⟨fun ⟨hne, hletters⟩ => ⟨hne, hletters⟩, fun ⟨hne, hletters⟩ => ⟨hne, hletters⟩⟩

theorem isPreReleaseLabel_iff {label : String} :
    isPreReleaseLabel label = true ↔ IsPreReleaseText label.toList := by
  have hzeros : (!(label.toList.all Char.isDigit && hasNeedlessZero label.toList)) = true ↔
      ((∀ c ∈ label.toList, '0' ≤ c ∧ c ≤ '9') →
        label.toList.head? = some '0' → label.toList = ['0']) := by
    rw [← hasNeedlessZero_eq_false_iff, Bool.not_eq_true', Bool.and_eq_false_imp,
      List.all_eq_true]
    simp only [Text.isDigit_iff]
  rw [isPreReleaseLabel, Bool.and_eq_true, isBuildLabel_iff, hzeros]
  exact ⟨fun ⟨htext, hfirst⟩ => ⟨htext, hfirst⟩, fun ⟨htext, hfirst⟩ => ⟨htext, hfirst⟩⟩

theorem IsBuildText.notMem {label : List Char} (hlabel : IsBuildText label) {c : Char}
    (hc : isLabelChar c = false) : c ∉ label := by
  intro hmem
  rw [isLabelChar_iff.mpr (hlabel.letters c hmem)] at hc
  cases hc

section Parts

variable {mark : Char} {IsText : List Char → Prop} {cs : List Char}

theorem IsPart.head?_eq {labels : List String} (hpart : IsPart mark IsText cs labels) {c : Char}
    (hc : cs.head? = some c) : c = mark := by
  cases hpart with
  | absent => cases hc
  | present => exact (Option.some.inj hc).symm

/-- A part holds its mark, dots and the letters of labels. -/
theorem IsPart.mem_cases {labels : List String} (hpart : IsPart mark IsText cs labels)
    (htext : ∀ label, IsText label → IsBuildText label) {c : Char} (hc : c ∈ cs) :
    c = mark ∨ c = '.' ∨ IsLabelLetter c := by
  cases hpart with
  | absent => cases hc
  | present hne hlabels =>
      rcases List.mem_cons.mp hc with hmark | hmem
      · exact .inl hmark
      · rcases Text.eq_or_exists_of_mem_intercalate hmem with hdot | ⟨piece, hpiece, hletter⟩
        · exact .inr (.inl hdot)
        · obtain ⟨label, hlabel, rfl⟩ := List.mem_map.mp hpiece
          exact .inr (.inr ((htext _ (hlabels label hlabel)).letters c hletter))

/-- The labels of a part are the pieces between its dots. -/
theorem isPart_split
    (hpieces : ∀ label ∈ (Text.split '.' cs).map String.ofList, IsText label.toList) :
    IsPart mark IsText (mark :: cs) ((Text.split '.' cs).map String.ofList) := by
  have hcs : ['.'].intercalate (((Text.split '.' cs).map String.ofList).map String.toList) =
      cs := by
    rw [List.map_map, String.toList_comp_ofList, List.map_id, Text.intercalate_split]
  have hpart : IsPart mark IsText
      (mark :: ['.'].intercalate (((Text.split '.' cs).map String.ofList).map String.toList))
      ((Text.split '.' cs).map String.ofList) :=
    .present (mt List.map_eq_nil_iff.mp (Text.split_ne_nil '.' cs)) hpieces
  rwa [hcs] at hpart

theorem split_of_labels {labels : List String} (hne : labels ≠ [])
    (hlabels : ∀ label ∈ labels, IsBuildText label.toList) :
    (Text.split '.' (['.'].intercalate (labels.map String.toList))).map String.ofList =
      labels := by
  have hdots : ∀ piece ∈ labels.map String.toList, '.' ∉ piece := by
    intro piece hpiece
    obtain ⟨label, hmem, rfl⟩ := List.mem_map.mp hpiece
    exact (hlabels label hmem).notMem (by decide)
  rw [Text.split_intercalate (mt List.map_eq_nil_iff.mp hne) hdots, List.map_map,
    String.ofList_comp_toList, List.map_id]

theorem labels?_eq_some_iff {isLabel : String → Bool}
    (hlabel : ∀ label, isLabel label = true ↔ IsText label.toList)
    (htext : ∀ label, IsText label → IsBuildText label)
    {labels : { labels : List String // labels.all isLabel = true }} :
    labels? mark isLabel cs = some labels ↔ IsPart mark IsText cs labels.val := by
  constructor
  · intro hlabels
    cases cs with
    | nil =>
        cases hlabels
        exact .absent
    | cons c rest =>
        rw [labels?] at hlabels
        split at hlabels
        · next hmark =>
            dsimp only at hlabels
            split at hlabels
            · next hall =>
                cases hlabels
                rw [hmark]
                exact isPart_split fun label hmem =>
                  (hlabel label).mp (List.all_eq_true.mp hall label hmem)
            · cases hlabels
        · cases hlabels
  · obtain ⟨labels, hall⟩ := labels
    intro hpart
    cases hpart with
    | absent => rfl
    | present hne hlabels =>
        have hpieces := split_of_labels hne fun label hmem => htext _ (hlabels label hmem)
        rw [labels?, if_pos rfl]
        simp only [hpieces, hall, dite_true]

end Parts

theorem preRelease?_eq_some_iff {cs : List Char}
    {labels : { labels : List String // labels.all isPreReleaseLabel = true }} :
    labels? '-' isPreReleaseLabel cs = some labels ↔
      IsPart '-' IsPreReleaseText cs labels.val :=
  labels?_eq_some_iff (fun _ => isPreReleaseLabel_iff) fun _ => IsPreReleaseText.toIsBuildText

theorem build?_eq_some_iff {cs : List Char}
    {labels : { labels : List String // labels.all isBuildLabel = true }} :
    labels? '+' isBuildLabel cs = some labels ↔ IsPart '+' IsBuildText cs labels.val :=
  labels?_eq_some_iff (fun _ => isBuildLabel_iff) fun _ => id

end UpgradeGate.Version
