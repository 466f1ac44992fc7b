import Mathlib.Data.List.Forall2

/-!
# Steps that may fail

A step that keeps its state gives an answer or an error, and a state in both cases. Readings of a
store and the steps of a run are such steps. A traversal of a list answers for all items, one after
the other, or fails as its first failing item does.
-/

namespace UpgradeGate

namespace Effects

variable {ρ ε α β : Type}

theorem run_bind (step : ExceptT ε (StateM ρ) α) (next : α → ExceptT ε (StateM ρ) β) (state : ρ) :
    (step >>= next).run.run state =
      match step.run.run state with
      | (.ok value, after) => (next value).run.run after
      | (.error error, after) => (.error error, after) := by
  rw [ExceptT.run_bind, StateT.run_bind]
  rcases step.run.run state with ⟨answer, after⟩
  cases answer <;> rfl

theorem mapError_eq_ok_iff {ε' : Type} {answer : Except ε α} {rename : ε → ε'} {value : α} :
    answer.mapError rename = .ok value ↔ answer = .ok value := by
  cases answer with
  | error error => exact iff_of_false nofun nofun
  | ok found => exact ⟨fun h => Except.ok.inj h ▸ rfl, fun h => Except.ok.inj h ▸ rfl⟩

theorem run_liftM (answer : Except ε α) (state : ρ) :
    (liftM answer : ExceptT ε (StateM ρ) α).run.run state = (answer, state) := by
  cases answer <;> rfl

end Effects

/-! ### Traversals -/

namespace Traversal

variable {α β ε : Type} {f : α → Except ε β}

theorem mapM_cons (x : α) (xs : List α) :
    (x :: xs).mapM f =
      match f x with
      | .error error => .error error
      | .ok y => (xs.mapM f).map (y :: ·) := by
  rw [List.mapM_cons]
  cases f x with
  | error error => rfl
  | ok y => cases xs.mapM f <;> rfl

theorem mapM_eq_ok_iff {xs : List α} {ys : List β} :
    xs.mapM f = .ok ys ↔ List.Forall₂ (fun x y => f x = .ok y) xs ys := by
  induction xs generalizing ys with
  | nil =>
      rw [List.mapM_nil, List.forall₂_nil_left_iff]
      exact ⟨fun h => (Except.ok.inj h).symm, fun h => h ▸ rfl⟩
  | cons x xs ih =>
      rw [mapM_cons, List.forall₂_cons_left_iff]
      cases hx : f x with
      | error error => simp
      | ok y =>
          cases hxs : xs.mapM f with
          | error error =>
              simp only [Except.map, reduceCtorEq, false_iff, not_exists, not_and]
              intro y' ys' _ htail
              rw [ih.mpr htail] at hxs
              cases hxs
          | ok tail =>
              simp only [Except.map, Except.ok.injEq]
              constructor
              · rintro rfl
                exact ⟨y, tail, rfl, ih.mp hxs, rfl⟩
              · rintro ⟨y', ys', rfl, htail, rfl⟩
                rw [ih.mpr htail] at hxs
                rw [Except.ok.inj hxs]

theorem exists_mapM_eq_error_iff {xs : List α} :
    (∃ error, xs.mapM f = .error error) ↔ ∃ x ∈ xs, ∃ error, f x = .error error := by
  induction xs with
  | nil =>
      simp only [List.not_mem_nil, false_and, exists_false, iff_false, not_exists]
      intro error h
      cases h
  | cons x xs ih =>
      simp only [mapM_cons, List.mem_cons, exists_eq_or_imp, ← ih]
      cases f x with
      | error error => simp
      | ok y => cases xs.mapM f <;> simp [Except.map]

theorem exists_mapM_eq_ok_iff {xs : List α} :
    (∃ ys, xs.mapM f = .ok ys) ↔ ∀ x ∈ xs, ∃ y, f x = .ok y := by
  have hdichotomy : ∀ {γ : Type} (answer : Except ε γ),
      (∃ y, answer = .ok y) ↔ ¬ ∃ error, answer = .error error := by
    intro γ answer
    cases answer <;> simp
  simp only [hdichotomy, exists_mapM_eq_error_iff, not_exists, not_and]

theorem mem_of_mapM_eq_ok {xs : List α} {ys : List β} {x : α} {y : β} (hxs : xs.mapM f = .ok ys)
    (hx : x ∈ xs) (hy : f x = .ok y) : y ∈ ys := by
  have hall := mapM_eq_ok_iff.mp hxs
  clear hxs
  induction hall with
  | nil => cases hx
  | cons hhead _ ih =>
      rcases List.mem_cons.mp hx with rfl | hx
      · exact Except.ok.inj (hhead.symm.trans hy) ▸ List.mem_cons_self
      · exact List.mem_cons_of_mem _ (ih hx)

/-- The item is the first of the list for which the traversal fails. -/
theorem mapM_eq_error_iff {xs : List α} {error : ε} :
    xs.mapM f = .error error ↔
      ∃ before x after, xs = before ++ x :: after ∧ (∀ y ∈ before, ∃ z, f y = .ok z) ∧
        f x = .error error := by
  induction xs with
  | nil =>
      rw [List.mapM_nil]
      constructor
      · intro h
        cases h
      · rintro ⟨before, x, after, hsplit, _⟩
        simp at hsplit
  | cons x xs ih =>
      rw [mapM_cons]
      cases hx : f x with
      | error error' =>
          simp only [Except.error.injEq]
          constructor
          · rintro rfl
            exact ⟨[], x, xs, rfl, by simp, hx⟩
          · rintro ⟨before, x', after, hsplit, hbefore, hx'⟩
            cases before with
            | nil =>
                obtain ⟨rfl, rfl⟩ := List.cons.inj hsplit
                exact Except.error.inj (hx.symm.trans hx')
            | cons y before =>
                obtain ⟨rfl, rfl⟩ := List.cons.inj hsplit
                obtain ⟨z, hz⟩ := hbefore x List.mem_cons_self
                rw [hx] at hz
                cases hz
      | ok y =>
          have hmap : (xs.mapM f).map (y :: ·) = .error error ↔ xs.mapM f = .error error := by
            cases xs.mapM f <;> simp [Except.map]
          rw [hmap, ih]
          constructor
          · rintro ⟨before, x', after, rfl, hbefore, hx'⟩
            refine ⟨x :: before, x', after, rfl, ?_, hx'⟩
            intro z hz
            rcases List.mem_cons.mp hz with rfl | hz
            · exact ⟨y, hx⟩
            · exact hbefore z hz
          · rintro ⟨before, x', after, hsplit, hbefore, hx'⟩
            cases before with
            | nil =>
                obtain ⟨rfl, rfl⟩ := List.cons.inj hsplit
                rw [hx] at hx'
                cases hx'
            | cons z before =>
                obtain ⟨rfl, rfl⟩ := List.cons.inj hsplit
                exact ⟨before, x', after, rfl,
                  fun w hw => hbefore w (List.mem_cons_of_mem _ hw), hx'⟩

end Traversal

end UpgradeGate
