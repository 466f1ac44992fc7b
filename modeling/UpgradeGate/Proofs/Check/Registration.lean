import UpgradeGate.Check.Catalogue

/-!
# What a registration adds

A check is added if its id is not taken, and refused otherwise. Of several checks that are to be
added those in front of the first refused one stay.
-/

namespace UpgradeGate

variable {σ : Type}

namespace Catalogue

/-- A check is held under the id. -/
def IsTaken (catalogue : Catalogue σ) (id : String) : Prop := id ∈ catalogue.checks.map Check.id

section Register

variable {catalogue extended : Catalogue σ} {check : Check σ}

theorem checks_of_register (hregister : catalogue.register check = .ok extended) :
    extended.checks = catalogue.checks ++ [check] := by
  unfold register at hregister
  split at hregister
  · cases hregister
  · rw [← Except.ok.inj hregister]

theorem isTaken_of_register (hregister : catalogue.register check = .ok extended) (id : String) :
    extended.IsTaken id ↔ catalogue.IsTaken id ∨ id = check.id := by
  rw [IsTaken, checks_of_register hregister, List.map_append, List.mem_append,
    List.map_singleton, List.mem_singleton, IsTaken]

theorem register_of_isTaken (htaken : catalogue.IsTaken check.id) :
    catalogue.register check = .error (.duplicateCheck check.id) :=
  dif_pos htaken

theorem exists_register_of_not_isTaken (hnew : ¬ catalogue.IsTaken check.id) :
    ∃ extended, catalogue.register check = .ok extended :=
  ⟨_, dif_neg hnew⟩

end Register

/-! ### Several checks at once -/

section RegisterAll

theorem checks_of_registerAll {checks : List (Check σ)} {catalogue extended : Catalogue σ}
    (hregister : catalogue.registerAll checks = (.ok (), extended)) :
    extended.checks = catalogue.checks ++ checks := by
  induction checks generalizing catalogue with
  | nil =>
      rw [registerAll] at hregister
      rw [← (Prod.mk.inj hregister).2, List.append_nil]
  | cons check checks ih =>
      rw [registerAll] at hregister
      cases hfirst : catalogue.register check with
      | error problem =>
          rw [hfirst] at hregister
          cases (Prod.mk.inj hregister).1
      | ok next =>
          rw [hfirst] at hregister
          rw [ih hregister, checks_of_register hfirst, List.append_assoc, List.singleton_append]

/-- None of the ids is taken and all checks are added, or those in front of the first whose id is.
-/
inductive AddsAll (catalogue : Catalogue σ) (checks : List (Check σ)) :
    Except Problem Unit → Catalogue σ → Prop
  | all {extended : Catalogue σ} (hnew : ∀ check ∈ checks, ¬ catalogue.IsTaken check.id)
    (hchecks : extended.checks = catalogue.checks ++ checks) :
    AddsAll catalogue checks (.ok ()) extended
  | upTo {extended : Catalogue σ} {added rest : List (Check σ)} {check : Check σ}
    (hsplit : checks = added ++ check :: rest)
    (hnew : ∀ other ∈ added, ¬ catalogue.IsTaken other.id) (htaken : catalogue.IsTaken check.id)
    (hchecks : extended.checks = catalogue.checks ++ added) :
    AddsAll catalogue checks (.error (.duplicateCheck check.id)) extended

theorem addsAll_registerAll (catalogue : Catalogue σ) {checks : List (Check σ)}
    (hdistinct : (checks.map Check.id).Nodup) :
    AddsAll catalogue checks (catalogue.registerAll checks).1
      (catalogue.registerAll checks).2 := by
  induction checks generalizing catalogue with
  | nil => exact .all (by simp) (List.append_nil _).symm
  | cons check checks ih =>
      rw [List.map_cons, List.nodup_cons] at hdistinct
      by_cases htaken : catalogue.IsTaken check.id
      · rw [registerAll, register_of_isTaken htaken]
        exact .upTo (List.nil_append _).symm (by simp) htaken (List.append_nil _).symm
      · obtain ⟨next, hregister⟩ := exists_register_of_not_isTaken htaken
        have hchecks := checks_of_register hregister
        have htakenBy (other : Check σ) (hother : other ∈ checks) :
            next.IsTaken other.id ↔ catalogue.IsTaken other.id := by
          have hne : other.id ≠ check.id := fun hsame =>
            hdistinct.1 (hsame ▸ List.mem_map_of_mem hother)
          simp [isTaken_of_register hregister, hne]
        have hrest := ih next hdistinct.2
        rw [registerAll, hregister]
        dsimp only
        generalize next.registerAll checks = outcome at hrest ⊢
        rcases outcome with ⟨answer, extended⟩
        cases hrest with
        | all hnew hextended =>
            refine .all ?_ (by rw [hextended, hchecks, List.append_assoc, List.singleton_append])
            intro other hother
            rcases List.mem_cons.mp hother with rfl | hother
            · exact htaken
            · exact mt (htakenBy other hother).mpr (hnew other hother)
        | @upTo _ added rest stopped hsplit hnew hstopped hextended =>
            have hmem : stopped ∈ checks := by simp [hsplit]
            have hsplitAll : check :: checks = (check :: added) ++ stopped :: rest := by
              rw [hsplit, List.cons_append]
            refine .upTo hsplitAll ?_ ((htakenBy stopped hmem).mp hstopped)
              (by rw [hextended, hchecks, List.append_assoc, List.singleton_append])
            intro other hother
            rcases List.mem_cons.mp hother with rfl | hother
            · exact htaken
            · exact mt (htakenBy other (by simp [hsplit, hother])).mpr (hnew other hother)

end RegisterAll

end Catalogue

end UpgradeGate
