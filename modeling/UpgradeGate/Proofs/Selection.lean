import Mathlib.Data.List.Nodup
import UpgradeGate.Builtin
import UpgradeGate.Proofs.Effects
import UpgradeGate.Proofs.Run.Steps

/-!
# Which checks the patterns select

A catalogue reads all patterns before it looks at a check, so that a pattern that cannot be read
fails the selection whatever the catalogue holds. Otherwise the selection is the union of what the
single patterns select. A check may also be asked directly whether a pattern selects it; the two
ways agree but for a check whose own id cannot be read as a pattern.
-/

namespace UpgradeGate

variable {σ : Type}

namespace Selector

/-- The wildcard and the plurals of the groups can be read; any other pattern has to be a glob. -/
def IsReadable (pattern : String) : Prop :=
  pattern = wildcard ∨ (CheckGroup.ofShortcut? pattern).isSome ∨ (Glob.ofString? pattern).isSome

instance (pattern : String) : Decidable (IsReadable pattern) :=
  inferInstanceAs (Decidable (_ ∨ _ ∨ _))

/-- The pattern cannot be read, and all patterns before it can. -/
def IsFirstUnreadable (pattern : String) (patterns : List String) : Prop :=
  ∃ before after, patterns = before ++ pattern :: after ∧
    (∀ other ∈ before, IsReadable other) ∧ ¬ IsReadable pattern

theorem ofPattern_of_not_isReadable {pattern : String} (hunreadable : ¬ IsReadable pattern) :
    ofPattern pattern = .error (.invalidPattern pattern) := by
  simp only [IsReadable, not_or, Option.not_isSome_iff_eq_none] at hunreadable
  obtain ⟨hwildcard, hgroup, hglob⟩ := hunreadable
  simp only [ofPattern, hwildcard, hgroup, globOf, hglob, ↓reduceIte]
  rfl

theorem isReadable_iff_ofPattern {pattern : String} :
    IsReadable pattern ↔ ∃ selector, ofPattern pattern = .ok selector := by
  constructor
  · intro hreadable
    unfold ofPattern
    by_cases hwildcard : pattern = wildcard
    · exact ⟨.all, if_pos hwildcard⟩
    · rw [if_neg hwildcard]
      cases hgroup : CheckGroup.ofShortcut? pattern with
      | some group => exact ⟨.group group, rfl⟩
      | none =>
          cases hglob : Glob.ofString? pattern with
          | some glob => exact ⟨.pattern pattern glob, by rw [globOf, hglob]; rfl⟩
          | none => simp [IsReadable, hwildcard, hgroup, hglob] at hreadable
  · rintro ⟨selector, hselector⟩
    by_contra hunreadable
    rw [ofPattern_of_not_isReadable hunreadable] at hselector
    cases hselector

theorem ofPattern_eq_error_iff {pattern : String} {problem : Problem} :
    ofPattern pattern = .error problem ↔
      ¬ IsReadable pattern ∧ problem = .invalidPattern pattern := by
  constructor
  · intro herror
    have hunreadable : ¬ IsReadable pattern := by
      intro hreadable
      obtain ⟨selector, hselector⟩ := isReadable_iff_ofPattern.mp hreadable
      rw [herror] at hselector
      cases hselector
    rw [ofPattern_of_not_isReadable hunreadable] at herror
    exact ⟨hunreadable, (Except.error.inj herror).symm⟩
  · rintro ⟨hunreadable, rfl⟩
    exact ofPattern_of_not_isReadable hunreadable

end Selector

/-! ### A check that is asked directly -/

namespace Check

open Selector

/-- Whether the selector that a pattern reads as selects the check. -/
def selectorAnswer (check : Check σ) (pattern : String) : Except Problem Bool :=
  (ofPattern pattern).map fun selector => selector.selects check

/-- A readable pattern gets the same answer on both ways. -/
theorem isSelectedBy_of_ofPattern (check : Check σ) {pattern : String} {selector : Selector}
    (hselector : ofPattern pattern = .ok selector) :
    check.isSelectedBy pattern = .ok (selector.selects check) := by
  unfold ofPattern at hselector
  unfold isSelectedBy
  by_cases hwildcard : pattern = wildcard
  · rw [if_pos hwildcard] at hselector ⊢
    rw [← Except.ok.inj hselector]
    rfl
  · rw [if_neg hwildcard] at hselector ⊢
    cases hgroup : CheckGroup.ofShortcut? pattern with
    | some group =>
        rw [hgroup] at hselector
        rw [← Except.ok.inj hselector]
        rfl
    | none =>
        rw [hgroup] at hselector
        cases hglob : globOf pattern with
        | error problem =>
            rw [hglob] at hselector
            cases hselector
        | ok glob =>
            rw [hglob] at hselector
            rw [← Except.ok.inj hselector]
            by_cases hid : pattern = check.id
            · simp [selects, hid]
            · simp only [hid, if_false, selects, Ne.symm hid, decide_false, Bool.false_or]
              rfl

/-- An unreadable pattern selects the check whose id it is, and fails for all others. -/
theorem isSelectedBy_of_not_isReadable (check : Check σ) {pattern : String}
    (hunreadable : ¬ IsReadable pattern) :
    check.isSelectedBy pattern =
      if pattern = check.id then .ok true else .error (.invalidPattern pattern) := by
  simp only [IsReadable, not_or, Option.not_isSome_iff_eq_none] at hunreadable
  obtain ⟨hwildcard, hgroup, hglob⟩ := hunreadable
  simp only [isSelectedBy, hwildcard, hgroup, globOf, hglob, ↓reduceIte]
  rfl

theorem selectorAnswer_of_ofPattern (check : Check σ) {pattern : String} {selector : Selector}
    (hselector : ofPattern pattern = .ok selector) :
    check.selectorAnswer pattern = .ok (selector.selects check) := by
  rw [selectorAnswer, hselector]
  rfl

theorem selectorAnswer_of_not_isReadable (check : Check σ) {pattern : String}
    (hunreadable : ¬ IsReadable pattern) :
    check.selectorAnswer pattern = .error (.invalidPattern pattern) := by
  rw [selectorAnswer, ofPattern_of_not_isReadable hunreadable]
  rfl

/-- Where the pattern is the check's own id and cannot be read, the check asked directly is
selected and the selector refuses the pattern. Everywhere else both ways give one answer. -/
theorem isSelectedBy_eq_selectorAnswer_iff (check : Check σ) (pattern : String) :
    (check.isSelectedBy pattern = check.selectorAnswer pattern ↔
      ¬ (pattern = check.id ∧ ¬ IsReadable pattern)) ∧
    (check.isSelectedBy pattern = .ok true ∧
        check.selectorAnswer pattern = .error (.invalidPattern pattern) ↔
      pattern = check.id ∧ ¬ IsReadable pattern) ∧
    (∀ problem, check.isSelectedBy pattern = .error problem ∨
        check.selectorAnswer pattern = .error problem → problem = .invalidPattern pattern) ∧
    (pattern = check.id ∧ pattern ≠ wildcard ∧ CheckGroup.ofShortcut? pattern = none →
      check.isSelectedBy pattern = .ok true ∧
        (check.selectorAnswer pattern = .ok true ↔ (Glob.ofString? pattern).isSome)) := by
  by_cases hreadable : IsReadable pattern
  · obtain ⟨selector, hselector⟩ := isReadable_iff_ofPattern.mp hreadable
    have hdirect := isSelectedBy_of_ofPattern check hselector
    have hparsed := selectorAnswer_of_ofPattern check hselector
    rw [hdirect, hparsed]
    refine ⟨by simp [hreadable], by simp [hreadable], by simp, ?_⟩
    rintro ⟨hid, hwildcard, hgroup⟩
    have hglob : (Glob.ofString? pattern).isSome :=
      (hreadable.resolve_left hwildcard).resolve_left (by simp [hgroup])
    have hselected : check.isSelectedBy pattern = .ok true := by
      rw [isSelectedBy, if_neg hwildcard, hgroup]
      exact if_pos hid
    rw [hdirect] at hselected
    exact ⟨hselected, by simp [hselected, hglob]⟩
  · rw [isSelectedBy_of_not_isReadable check hreadable,
      selectorAnswer_of_not_isReadable check hreadable]
    have hglob : (Glob.ofString? pattern).isSome = false := by
      simp only [IsReadable, not_or, Bool.not_eq_true] at hreadable
      exact hreadable.2.2
    by_cases hid : pattern = check.id
    · simp only [hid, if_true] at hreadable hglob ⊢
      simp [hreadable, hglob]
    · simp [hid]

/-- A check whose id is no glob is selected by its id when it is asked, and a selector refuses that
id as a pattern. -/
theorem selectorAnswer_own_id_refused :
    ∃ check : Check Unit, check.isSelectedBy check.id = .ok true ∧
      check.selectorAnswer check.id = .error (.invalidPattern check.id) := by
  have hunreadable : ¬ IsReadable "[" := by decide
  let identity : CheckIdentity := { (default : CheckIdentity) with id := "[" }
  refine ⟨{ (default : Check Unit) with identity }, ?_, ?_⟩
  · exact isSelectedBy_of_not_isReadable _ hunreadable
  · exact selectorAnswer_of_not_isReadable _ hunreadable

end Check

/-! ### Checks that are kept -/

namespace Catalogue

open Selector

/-- A selector takes a check of its own out of the given group, if there is one. -/
def takes (group? : Option CheckGroup) (selector : Selector) (check : Check σ) : Bool :=
  group?.all (check.group = ·) && selector.selects check

theorem takes_iff {group? : Option CheckGroup} {selector : Selector} {check : Check σ} :
    takes group? selector check = true ↔
      (∀ group ∈ group?, check.group = group) ∧ selector.selects check = true := by
  rw [takes, Bool.and_eq_true]
  cases group? <;> simp

theorem ite_any_group_ne {α : Sort*} {group? : Option CheckGroup} {selector : Selector}
    {check : Check σ} {taken left : α} :
    (if group?.any (check.group ≠ ·) then left
      else if selector.selects check then taken else left) =
      if takes group? selector check then taken else left := by
  rw [takes]
  cases group? with
  | none => simp
  | some group => by_cases hgroup : check.group = group <;> simp [hgroup]

/-- A selector's turn puts those of the checks behind the kept ones that it takes and whose ids are
new. -/
theorem keepSelected_eq {checks : List (Check σ)} (hdistinct : (checks.map Check.id).Nodup)
    (group? : Option CheckGroup) (kept : List (Check σ)) (selector : Selector) :
    keepSelected checks group? kept selector = kept ++ checks.filter fun check =>
      takes group? selector check && check.id ∉ kept.map Check.id := by
  unfold keepSelected
  simp only [ite_any_group_ne]
  induction checks generalizing kept with
  | nil => rw [List.foldl_nil, List.filter_nil, List.append_nil]
  | cons check checks ih =>
      rw [List.map_cons, List.nodup_cons] at hdistinct
      rw [List.foldl_cons, ih hdistinct.2, List.filter_cons]
      by_cases htaken : takes group? selector check = true
      · by_cases hkept : check.id ∈ kept.map Check.id
        · simp [htaken, keep, hkept]
        · -- No later check has the id of the one that is kept now.
          have hnew : ∀ other ∈ checks, (other.id ∉ (kept ++ [check]).map Check.id ↔
              other.id ∉ kept.map Check.id) := by
            intro other hother
            have hne : other.id ≠ check.id := fun hsame =>
              hdistinct.1 (hsame ▸ List.mem_map_of_mem hother)
            simp [hne]
          rw [if_pos htaken, keep, if_neg hkept, if_pos (by simp [htaken, hkept]),
            List.append_assoc, List.singleton_append]
          refine congrArg (kept ++ check :: ·) (List.filter_congr fun other hother => ?_)
          simp only [hnew other hother]
      · simp [htaken]

/-- Some of the checks of a catalogue, each of them once. -/
structure IsPartOf (kept : List (Check σ)) (catalogue : Catalogue σ) : Prop where
  subset : ∀ check ∈ kept, check ∈ catalogue.checks
  distinct : (kept.map Check.id).Nodup

section IsPartOf

variable {catalogue : Catalogue σ} {kept others : List (Check σ)}

theorem isPartOf_nil : IsPartOf [] catalogue := ⟨nofun, List.nodup_nil⟩

/-- The id of a check leads to it. -/
theorem eq_of_id_eq {check other : Check σ} (hcheck : check ∈ catalogue.checks)
    (hother : other ∈ catalogue.checks) (hid : check.id = other.id) : check = other :=
  List.inj_on_of_nodup_map catalogue.distinct hcheck hother hid

theorem IsPartOf.id_mem_iff (hkept : IsPartOf kept catalogue) {check : Check σ}
    (hcheck : check ∈ catalogue.checks) : check.id ∈ kept.map Check.id ↔ check ∈ kept := by
  rw [List.mem_map]
  constructor
  · rintro ⟨other, hother, hid⟩
    exact eq_of_id_eq (hkept.subset other hother) hcheck hid ▸ hother
  · exact fun hmem => ⟨check, hmem, rfl⟩

/-- Parts with the same checks differ in order only. -/
theorem IsPartOf.perm (hkept : IsPartOf kept catalogue) (hothers : IsPartOf others catalogue)
    (hsame : ∀ check, check ∈ kept ↔ check ∈ others) : kept.Perm others :=
  (List.perm_ext_iff_of_nodup (.of_map _ hkept.distinct) (.of_map _ hothers.distinct)).mpr hsame

variable (hkept : IsPartOf kept catalogue) (group? : Option CheckGroup)

include hkept

theorem mem_keepSelected_iff (selector : Selector) (check : Check σ) :
    check ∈ keepSelected catalogue.checks group? kept selector ↔
      check ∈ kept ∨ check ∈ catalogue.checks ∧ takes group? selector check = true := by
  rw [keepSelected_eq catalogue.distinct, List.mem_append, List.mem_filter, Bool.and_eq_true,
    decide_eq_true_iff]
  constructor
  · exact Or.imp_right fun hnew => ⟨hnew.1, hnew.2.1⟩
  · rintro (hold | ⟨hcheck, htaken⟩)
    · exact .inl hold
    · by_cases hmem : check ∈ kept
      · exact .inl hmem
      · exact .inr ⟨hcheck, htaken, mt (hkept.id_mem_iff hcheck).mp hmem⟩

/-- A selector's turn keeps every check once. -/
theorem isPartOf_keepSelected (selector : Selector) :
    IsPartOf (keepSelected catalogue.checks group? kept selector) catalogue where
  subset := by
    intro check hmem
    rcases (mem_keepSelected_iff hkept group? selector check).mp hmem with hold | ⟨hcheck, _⟩
    · exact hkept.subset check hold
    · exact hcheck
  distinct := by
    rw [keepSelected_eq catalogue.distinct, List.map_append, List.nodup_append]
    refine ⟨hkept.distinct, catalogue.distinct.sublist (List.filter_sublist.map Check.id), ?_⟩
    rintro id hold _ hnew rfl
    obtain ⟨check, hcheck, rfl⟩ := List.mem_map.mp hnew
    rw [List.mem_filter, Bool.and_eq_true, decide_eq_true_iff] at hcheck
    exact hcheck.2.2 hold

/-- All turns together keep every check once, and those that one of the selectors takes. -/
theorem isPartOf_foldl_keepSelected (selectors : List Selector) :
    IsPartOf (selectors.foldl (keepSelected catalogue.checks group?) kept) catalogue ∧
      ∀ check, check ∈ selectors.foldl (keepSelected catalogue.checks group?) kept ↔
        check ∈ kept ∨ check ∈ catalogue.checks ∧
          ∃ selector ∈ selectors, takes group? selector check = true := by
  induction selectors generalizing kept with
  | nil => exact ⟨hkept, by simp⟩
  | cons selector selectors ih =>
      obtain ⟨hpart, hmem⟩ := ih (isPartOf_keepSelected hkept group? selector)
      refine ⟨hpart, fun check => ?_⟩
      rw [List.foldl_cons, hmem, mem_keepSelected_iff hkept, List.exists_mem_cons_iff, or_assoc,
        ← and_or_left]

/-- A group takes the same checks out of what is kept as it leaves to be kept. -/
theorem filter_foldl_keepSelected (group : CheckGroup) (selectors : List Selector) :
    selectors.foldl (keepSelected catalogue.checks (some group))
        (kept.filter fun check => check.group = group) =
      (selectors.foldl (keepSelected catalogue.checks none) kept).filter fun check =>
        check.group = group := by
  induction selectors generalizing kept with
  | nil => rfl
  | cons selector selectors ih =>
      rw [List.foldl_cons, List.foldl_cons, ← ih (isPartOf_keepSelected hkept none selector)]
      refine congrArg (selectors.foldl _) ?_
      rw [keepSelected_eq catalogue.distinct, keepSelected_eq catalogue.distinct,
        List.filter_append, List.filter_filter]
      refine congrArg (_ ++ ·) (List.filter_congr fun check hcheck => ?_)
      have hid : check.group = group →
          (check.id ∈ (kept.filter fun check => check.group = group).map Check.id ↔
            check.id ∈ kept.map Check.id) := by
        intro hgroup
        have hfilter : IsPartOf (kept.filter fun check => check.group = group) catalogue :=
          ⟨fun other hother => hkept.subset other (List.mem_of_mem_filter hother),
            hkept.distinct.sublist (List.filter_sublist.map Check.id)⟩
        rw [hfilter.id_mem_iff hcheck, hkept.id_mem_iff hcheck, List.mem_filter]
        simp [hgroup]
      by_cases hgroup : check.group = group
      · simp [takes, hgroup, hid hgroup]
      · simp [takes, hgroup]

end IsPartOf

/-! ### The selection of a catalogue -/

/-- What a selection by patterns holds, where all patterns can be read. -/
structure Selects (catalogue : Catalogue σ) (patterns : List String) (group? : Option CheckGroup)
    (selected : List (Check σ)) : Prop where
  distinct : (selected.map Check.id).Nodup
  mem_iff : ∀ check, check ∈ selected ↔ check ∈ catalogue.checks ∧
    (∀ group ∈ group?, check.group = group) ∧
    ∃ pattern ∈ patterns, check.isSelectedBy pattern = .ok true
  /-- Neither the order of the patterns counts for what is selected, nor how often one of them
  comes. -/
  order : ∀ others : List String, (∀ pattern, pattern ∈ others ↔ pattern ∈ patterns) →
    ∃ same, catalogue.select others group? = .ok same ∧ same.Perm selected
  /-- The selection is the union of those by the single patterns. -/
  union : ∀ check, check ∈ selected ↔ ∃ pattern ∈ patterns, ∃ single,
    catalogue.select [pattern] group? = .ok single ∧ check ∈ single
  /-- A group takes its checks out of what is selected without it. -/
  restricted : ∀ group, group? = some group → ∃ unrestricted,
    catalogue.select patterns none = .ok unrestricted ∧
      selected = unrestricted.filter fun check => check.group = group

variable {catalogue : Catalogue σ} {patterns : List String} {group? : Option CheckGroup}

theorem select_eq (catalogue : Catalogue σ) (patterns : List String)
    (group? : Option CheckGroup) :
    catalogue.select patterns group? = (patterns.mapM ofPattern).map fun selectors =>
      selectors.foldl (keepSelected catalogue.checks group?) [] := by
  unfold select
  cases patterns.mapM ofPattern <;> rfl

/-- The catalogue does not count for whether a selection fails. -/
theorem select_eq_error_iff {problem : Problem} :
    catalogue.select patterns group? = .error problem ↔
      ∃ pattern, IsFirstUnreadable pattern patterns ∧ problem = .invalidPattern pattern := by
  have hmap : catalogue.select patterns group? = .error problem ↔
      patterns.mapM ofPattern = .error problem := by
    rw [select_eq]
    cases patterns.mapM ofPattern <;> simp [Except.map]
  rw [hmap, Traversal.mapM_eq_error_iff]
  constructor
  · rintro ⟨before, pattern, after, hsplit, hbefore, hpattern⟩
    obtain ⟨hunreadable, rfl⟩ := ofPattern_eq_error_iff.mp hpattern
    exact ⟨pattern, ⟨before, after, hsplit,
      fun other hother => isReadable_iff_ofPattern.mpr (hbefore other hother), hunreadable⟩, rfl⟩
  · rintro ⟨pattern, ⟨before, after, hsplit, hbefore, hunreadable⟩, rfl⟩
    exact ⟨before, pattern, after, hsplit,
      fun other hother => isReadable_iff_ofPattern.mp (hbefore other hother),
      ofPattern_of_not_isReadable hunreadable⟩

theorem exists_firstUnreadable_iff :
    (∃ pattern, IsFirstUnreadable pattern patterns) ↔
      ∃ pattern ∈ patterns, ¬ IsReadable pattern := by
  constructor
  · rintro ⟨pattern, before, after, rfl, _, hunreadable⟩
    exact ⟨pattern, by simp, hunreadable⟩
  · intro hexists
    induction patterns with
    | nil => simp at hexists
    | cons head tail ih =>
        by_cases hhead : IsReadable head
        · have htail : ∃ pattern ∈ tail, ¬ IsReadable pattern := by
            obtain ⟨pattern, hmem, hunreadable⟩ := hexists
            rcases List.mem_cons.mp hmem with rfl | hmem
            · exact absurd hhead hunreadable
            · exact ⟨pattern, hmem, hunreadable⟩
          obtain ⟨pattern, before, after, rfl, hbefore, hunreadable⟩ := ih htail
          refine ⟨pattern, head :: before, after, rfl, ?_, hunreadable⟩
          intro other hother
          rcases List.mem_cons.mp hother with rfl | hother
          · exact hhead
          · exact hbefore other hother
        · exact ⟨head, [], tail, rfl, by simp, hhead⟩

/-- The selectors that patterns read as select what the patterns do. -/
theorem exists_selects_iff {selectors : List Selector}
    (hselectors : List.Forall₂ (fun pattern selector => ofPattern pattern = .ok selector)
      patterns selectors) (check : Check σ) :
    (∃ selector ∈ selectors, selector.selects check = true) ↔
      ∃ pattern ∈ patterns, check.isSelectedBy pattern = .ok true := by
  induction hselectors with
  | nil => simp
  | cons hselector _ ih =>
      rw [List.exists_mem_cons_iff, List.exists_mem_cons_iff, ih,
        check.isSelectedBy_of_ofPattern hselector, Except.ok.injEq]

theorem exists_select_eq_ok (catalogue : Catalogue σ) (group? : Option CheckGroup)
    (hreadable : ∀ pattern ∈ patterns, IsReadable pattern) :
    ∃ selected, catalogue.select patterns group? = .ok selected := by
  cases hselect : catalogue.select patterns group? with
  | ok selected => exact ⟨selected, rfl⟩
  | error problem =>
      obtain ⟨pattern, hfirst, _⟩ := select_eq_error_iff.mp hselect
      obtain ⟨_, hmem, hunreadable⟩ := exists_firstUnreadable_iff.mp ⟨pattern, hfirst⟩
      exact absurd (hreadable _ hmem) hunreadable

section Selected

variable {selected : List (Check σ)} (hselected : catalogue.select patterns group? = .ok selected)

include hselected

theorem exists_selectors_of_select :
    ∃ selectors, patterns.mapM ofPattern = .ok selectors ∧
      selected = selectors.foldl (keepSelected catalogue.checks group?) [] := by
  rw [select_eq] at hselected
  cases hmap : patterns.mapM ofPattern with
  | error problem =>
      rw [hmap] at hselected
      cases hselected
  | ok selectors =>
      rw [hmap] at hselected
      exact ⟨selectors, rfl, (Except.ok.inj hselected).symm⟩

theorem isPartOf_of_select : IsPartOf selected catalogue := by
  obtain ⟨selectors, _, rfl⟩ := exists_selectors_of_select hselected
  exact (isPartOf_foldl_keepSelected isPartOf_nil group? selectors).1

/-- A selection holds the checks of the group that one of the patterns selects. -/
theorem mem_of_select (check : Check σ) :
    check ∈ selected ↔ check ∈ catalogue.checks ∧ (∀ group ∈ group?, check.group = group) ∧
      ∃ pattern ∈ patterns, check.isSelectedBy pattern = .ok true := by
  obtain ⟨selectors, hmap, rfl⟩ := exists_selectors_of_select hselected
  rw [(isPartOf_foldl_keepSelected isPartOf_nil group? selectors).2,
    ← exists_selects_iff (Traversal.mapM_eq_ok_iff.mp hmap)]
  simp only [List.not_mem_nil, false_or, takes_iff]
  tauto

/-- Catalogues that list the same checks in other orders select the same ones. -/
theorem exists_perm_of_select {other : Catalogue σ} (hperm : catalogue.checks.Perm other.checks) :
    ∃ arranged, other.select patterns group? = .ok arranged ∧ selected.Perm arranged := by
  cases hother : other.select patterns group? with
  | error problem =>
      have hfails : catalogue.select patterns group? = .error problem :=
        select_eq_error_iff.mpr (select_eq_error_iff.mp hother)
      cases hselected.symm.trans hfails
  | ok arranged =>
      have harranged : IsPartOf arranged catalogue :=
        ⟨fun check hcheck => hperm.mem_iff.mpr ((isPartOf_of_select hother).subset check hcheck),
          (isPartOf_of_select hother).distinct⟩
      refine ⟨arranged, rfl, (isPartOf_of_select hselected).perm harranged fun check => ?_⟩
      rw [mem_of_select hselected, mem_of_select hother, hperm.mem_iff]

theorem selects_of_select (hreadable : ∀ pattern ∈ patterns, IsReadable pattern) :
    catalogue.Selects patterns group? selected where
  distinct := (isPartOf_of_select hselected).distinct
  mem_iff := mem_of_select hselected
  order := by
    intro others hothers
    obtain ⟨same, hsame⟩ := exists_select_eq_ok catalogue group?
      fun pattern hpattern => hreadable pattern ((hothers pattern).mp hpattern)
    refine ⟨same, hsame, (isPartOf_of_select hsame).perm (isPartOf_of_select hselected) ?_⟩
    intro check
    rw [mem_of_select hsame, mem_of_select hselected]
    simp only [hothers]
  union := by
    intro check
    rw [mem_of_select hselected]
    constructor
    · rintro ⟨hmem, hgroup, pattern, hpattern, hcheck⟩
      have hreadable : ∀ other ∈ [pattern], IsReadable other := by
        simpa using hreadable pattern hpattern
      obtain ⟨single, hsingle⟩ := exists_select_eq_ok catalogue group? hreadable
      refine ⟨pattern, hpattern, single, hsingle, (mem_of_select hsingle check).mpr ?_⟩
      exact ⟨hmem, hgroup, pattern, List.mem_singleton_self pattern, hcheck⟩
    · rintro ⟨pattern, hpattern, single, hsingle, hcheck⟩
      obtain ⟨hmem, hgroup, other, hother, hcheck⟩ := (mem_of_select hsingle check).mp hcheck
      rw [List.mem_singleton.mp hother] at hcheck
      exact ⟨hmem, hgroup, pattern, hpattern, hcheck⟩
  restricted := by
    rintro group rfl
    obtain ⟨selectors, hmap, rfl⟩ := exists_selectors_of_select hselected
    refine ⟨selectors.foldl (keepSelected catalogue.checks none) [], ?_, ?_⟩
    · rw [select_eq, hmap]
      rfl
    · exact filter_foldl_keepSelected isPartOf_nil group selectors

end Selected

/-- A selection fails as its first unreadable pattern says, and then no check is called; otherwise
it is the union of what the patterns select in the group. -/
theorem select_law (catalogue : Catalogue σ) (patterns : List String)
    (group? : Option CheckGroup) :
    ((∃ problem, catalogue.select patterns group? = .error problem) ↔
      ∃ pattern ∈ patterns, ¬ IsReadable pattern) ∧
    (∀ problem, catalogue.select patterns group? = .error problem →
      (∃ pattern, IsFirstUnreadable pattern patterns ∧ problem = .invalidPattern pattern) ∧
      ∀ (upgrade : Upgrade) (state : RunState σ),
        (Run.executeSelected catalogue patterns group? upgrade).run.run state =
          (.error problem, state) ∧
        (Run.executeSelected catalogue.recorded patterns group? upgrade).run.run
          (state.recording []) = (.error problem, state.recording [])) ∧
    ((∀ pattern ∈ patterns, IsReadable pattern) →
      ∃ selected, catalogue.select patterns group? = .ok selected ∧
        catalogue.Selects patterns group? selected) := by
  refine ⟨?_, ?_, ?_⟩
  · rw [← exists_firstUnreadable_iff]
    simp only [select_eq_error_iff]
    constructor
    · rintro ⟨_, pattern, hfirst, _⟩
      exact ⟨pattern, hfirst⟩
    · rintro ⟨pattern, hfirst⟩
      exact ⟨_, pattern, hfirst, rfl⟩
  · intro problem hproblem
    have hfirst := select_eq_error_iff.mp hproblem
    refine ⟨hfirst, fun upgrade state => ⟨?_, ?_⟩⟩
    · rw [Run.executeSelected, hproblem]
      rfl
    · rw [Run.executeSelected, select_eq_error_iff.mpr hfirst]
      rfl
  · intro hreadable
    obtain ⟨selected, hselected⟩ := exists_select_eq_ok catalogue group? hreadable
    exact ⟨selected, hselected, selects_of_select hselected hreadable⟩

theorem select_law_builtin :
    let catalogue := (Builtin.register (∅ : Catalogue Unit)).2
    (∀ pattern ∈ ["components", "*.kserve.*"], IsReadable pattern) ∧
      (∃ selected, catalogue.select ["components", "*.kserve.*"] (some .component) = .ok selected ∧
        catalogue.Selects ["components", "*.kserve.*"] (some .component) selected) ∧
      ∃ problem, catalogue.select ["*", "[", "\\"] none = .error problem ∧
        IsFirstUnreadable "[" ["*", "[", "\\"] ∧ problem = .invalidPattern "[" := by
  intro catalogue
  have hreadable : ∀ pattern ∈ ["components", "*.kserve.*"], IsReadable pattern := by decide
  have hfailing : catalogue.select ["*", "[", "\\"] none = .error (.invalidPattern "[") := by
    rfl
  refine ⟨hreadable, (select_law catalogue _ _).2.2 hreadable, _, hfailing, ?_⟩
  obtain ⟨⟨pattern, hfirst, hpattern⟩, _⟩ := (select_law catalogue _ _).2.1 _ hfailing
  cases hpattern
  exact ⟨hfirst, rfl⟩

/-- The patterns make the order, whatever that of the catalogue is. -/
example :
    let catalogue := (Builtin.register (∅ : Catalogue Unit)).2
    (catalogue.select ["dependencies", "workloads", "dependencies"] none).map (·.map Check.id) =
      .ok ["dependencies.servicemesh.operator-v2",
        "workloads.kserve.serverless-inferenceservices"] := by
  rfl

end Catalogue

end UpgradeGate
