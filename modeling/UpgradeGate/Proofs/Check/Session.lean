import Mathlib.Data.List.Dedup
import Mathlib.Data.List.Induction
import Mathlib.Data.List.TakeWhile
import UpgradeGate.Builtin
import UpgradeGate.Proofs.Check.Registration
import UpgradeGate.Proofs.Text

/-!
# Catalogues by their history

A catalogue is known by the requests that it has served. Of the checks that it was ever offered it
holds the first one under each id, and nothing that is asked of it later changes what it has
replied.
-/

namespace UpgradeGate

variable {σ : Type}

namespace Catalogue

/-! ### Requests -/

/-- What may be asked of a catalogue: to add checks, or to list those that it holds. -/
inductive Request (σ : Type) where
  | register (check : Check σ)
  | mustRegister (check : Check σ)
  | registerBuiltin
  | list

inductive Reply (σ : Type) where
  | done
  | refused (problem : Problem)
  | crashed (crash : Crash)
  | listed (checks : List (Check σ))

/-- The reply to a request, and the catalogue from then on. -/
def Request.serve (catalogue : Catalogue σ) : Request σ → Reply σ × Catalogue σ
  | register check =>
    match catalogue.register check with
    | .ok extended => (.done, extended)
    | .error problem => (.refused problem, catalogue)
  | mustRegister check =>
    match catalogue.mustRegister check with
    | .ok extended => (.done, extended)
    | .error crash => (.crashed crash, catalogue)
  | registerBuiltin =>
    match Builtin.register catalogue with
    | (.ok (), extended) => (.done, extended)
    | (.error problem, extended) => (.refused problem, extended)
  | list => (.listed catalogue.checks, catalogue)

/-- How a catalogue has to reply to a request, and what it holds from then on. -/
inductive Serves (catalogue : Catalogue σ) : Request σ → Reply σ → Catalogue σ → Prop
  | registered {check : Check σ} {next : Catalogue σ} (hnew : ¬ catalogue.IsTaken check.id)
    (hchecks : next.checks = catalogue.checks ++ [check]) :
    Serves catalogue (.register check) .done next
  | refused {check : Check σ} (htaken : catalogue.IsTaken check.id) :
    Serves catalogue (.register check) (.refused (.duplicateCheck check.id)) catalogue
  | mustRegistered {check : Check σ} {next : Catalogue σ} (hnew : ¬ catalogue.IsTaken check.id)
    (hchecks : next.checks = catalogue.checks ++ [check]) :
    Serves catalogue (.mustRegister check) .done next
  | crashed {check : Check σ} {crash : Crash} (htaken : catalogue.IsTaken check.id)
    (hmessage : crash.message = (Problem.duplicateCheck check.id).message) :
    Serves catalogue (.mustRegister check) (.crashed crash) catalogue
  | builtinRegistered {next : Catalogue σ}
    (hnew : ∀ check ∈ (Builtin.checks : List (Check σ)), ¬ catalogue.IsTaken check.id)
    (hchecks : next.checks = catalogue.checks ++ Builtin.checks) :
    Serves catalogue .registerBuiltin .done next
  | builtinStopped {next : Catalogue σ} {added rest : List (Check σ)} {check : Check σ}
    (hsplit : Builtin.checks = added ++ check :: rest)
    (hnew : ∀ other ∈ added, ¬ catalogue.IsTaken other.id) (htaken : catalogue.IsTaken check.id)
    (hchecks : next.checks = catalogue.checks ++ added) :
    Serves catalogue .registerBuiltin (.refused (.duplicateCheck check.id)) next
  | listed : Serves catalogue .list (.listed catalogue.checks) catalogue

theorem nodup_map_id_builtin : ((Builtin.checks : List (Check σ)).map Check.id).Nodup := by
  have hnotes : (Builtin.checks : List (Check σ)).map Check.id =
      (Builtin.checks : List (Check Unit)).map Check.id := rfl
  rw [hnotes]
  decide

theorem serves_serve (catalogue : Catalogue σ) (request : Request σ) :
    Serves catalogue request (request.serve catalogue).1 (request.serve catalogue).2 := by
  cases request with
  | register check =>
      rw [Request.serve]
      by_cases htaken : catalogue.IsTaken check.id
      · rw [register_of_isTaken htaken]
        exact .refused htaken
      · obtain ⟨next, hregister⟩ := exists_register_of_not_isTaken htaken
        rw [hregister]
        exact .registered htaken (checks_of_register hregister)
  | mustRegister check =>
      rw [Request.serve, mustRegister]
      by_cases htaken : catalogue.IsTaken check.id
      · rw [register_of_isTaken htaken]
        exact .crashed htaken rfl
      · obtain ⟨next, hregister⟩ := exists_register_of_not_isTaken htaken
        rw [hregister]
        exact .mustRegistered htaken (checks_of_register hregister)
  | registerBuiltin =>
      have hadds := addsAll_registerAll catalogue nodup_map_id_builtin
      rw [Request.serve, Builtin.register]
      generalize catalogue.registerAll Builtin.checks = outcome at hadds ⊢
      rcases outcome with ⟨answer, next⟩
      cases hadds with
      | all hnew hchecks => exact .builtinRegistered hnew hchecks
      | upTo hsplit hnew htaken hchecks => exact .builtinStopped hsplit hnew htaken hchecks
  | list => exact .listed

/-! ### Sessions -/

/-- A catalogue, and its replies so far. -/
structure Session (σ : Type) where
  catalogue : Catalogue σ := ∅
  replies : List (Reply σ) := []

namespace Session

def step (session : Session σ) (request : Request σ) : Session σ where
  catalogue := (request.serve session.catalogue).2
  replies := session.replies ++ [(request.serve session.catalogue).1]

/-- What a new catalogue comes to with the requests. -/
def after (requests : List (Request σ)) : Session σ := requests.foldl step {}

theorem after_concat (requests : List (Request σ)) (request : Request σ) :
    after (requests ++ [request]) = (after requests).step request := by
  rw [after, List.foldl_append]
  rfl

theorem length_replies_after (requests : List (Request σ)) :
    (after requests).replies.length = requests.length := by
  induction requests using List.reverseRecOn with
  | nil => rfl
  | append_singleton requests request ih =>
      rw [after_concat, step, List.length_append, ih, List.length_append]
      rfl

/-- Further requests leave the replies so far as they are. -/
theorem replies_after_prefix (earlier later : List (Request σ)) :
    (after earlier).replies <+: (after (earlier ++ later)).replies := by
  induction later using List.reverseRecOn with
  | nil => simp
  | append_singleton later request ih =>
      rw [← List.append_assoc, after_concat]
      exact ih.trans (List.prefix_append _ _)

theorem getElem?_replies_after (earlier : List (Request σ)) (request : Request σ)
    (later : List (Request σ)) :
    (after (earlier ++ request :: later)).replies[earlier.length]? =
      some (request.serve (after earlier).catalogue).1 := by
  obtain ⟨more, hmore⟩ := replies_after_prefix (earlier ++ [request]) later
  rw [List.append_assoc, List.singleton_append, after_concat, step] at hmore
  rw [← hmore, List.append_assoc, ← length_replies_after earlier,
    List.getElem?_append_right (Nat.le_refl _), Nat.sub_self]
  rfl

end Session

/-! ### What has been offered -/

/-- The checks as far as the first whose id is among the given ones, which is the last of them. -/
def upToTaken (taken : List String) (checks : List (Check σ)) : List (Check σ) :=
  let isNew (check : Check σ) : Bool := check.id ∉ taken
  checks.takeWhile isNew ++ (checks.dropWhile isNew).take 1

/-- The checks that a request offers to a catalogue in which the given ids are taken. -/
def Request.offers (taken : List String) : Request σ → List (Check σ)
  | register check => [check]
  | mustRegister check => [check]
  | registerBuiltin => upToTaken taken Builtin.checks
  | list => []

/-- All checks that the requests offer to a new catalogue, in the order in which they are offered.
-/
def offered (requests : List (Request σ)) : List (Check σ) :=
  requests.foldl (fun checks request => checks ++ request.offers (checks.map Check.id)) []

theorem offered_concat (requests : List (Request σ)) (request : Request σ) :
    offered (requests ++ [request]) =
      offered requests ++ request.offers ((offered requests).map Check.id) := by
  rw [offered, List.foldl_append]
  rfl

theorem upToTaken_of_forall {taken : List String} {checks : List (Check σ)}
    (hnew : ∀ check ∈ checks, check.id ∉ taken) : upToTaken taken checks = checks := by
  have hall : ∀ check ∈ checks, (decide (check.id ∉ taken)) = true := by simpa using hnew
  unfold upToTaken
  dsimp only
  rw [List.takeWhile_eq_self_iff.mpr hall, List.dropWhile_eq_nil_iff.mpr hall, List.take_nil,
    List.append_nil]

theorem upToTaken_of_mem {taken : List String} {added rest : List (Check σ)} {check : Check σ}
    (hnew : ∀ other ∈ added, other.id ∉ taken) (htaken : check.id ∈ taken) :
    upToTaken taken (added ++ check :: rest) = added ++ [check] := by
  have hall : ∀ other ∈ added, (decide (other.id ∉ taken)) = true := by simpa using hnew
  unfold upToTaken
  dsimp only
  rw [List.takeWhile_append_of_pos hall, List.dropWhile_append_of_pos hall]
  simp [htaken]

/-- Under each id the catalogue holds the first of the checks. -/
def HoldsFirst (catalogue : Catalogue σ) (checks : List (Check σ)) : Prop :=
  ∀ id, catalogue.find? id = checks.find? fun check => check.id = id

section HoldsFirst

variable {catalogue next : Catalogue σ} {checks : List (Check σ)}

theorem isTaken_iff_isSome {id : String} :
    catalogue.IsTaken id ↔ (catalogue.find? id).isSome := by
  simp [IsTaken, find?, List.find?_isSome]

theorem HoldsFirst.isTaken_iff (hfirst : catalogue.HoldsFirst checks) {id : String} :
    catalogue.IsTaken id ↔ id ∈ checks.map Check.id := by
  rw [isTaken_iff_isSome, hfirst]
  simp [List.find?_isSome]

theorem HoldsFirst.append (hfirst : catalogue.HoldsFirst checks) {added : List (Check σ)}
    (hchecks : next.checks = catalogue.checks ++ added) : next.HoldsFirst (checks ++ added) := by
  intro id
  rw [find?, hchecks, List.find?_append, List.find?_append, ← hfirst, find?]

/-- A check that is offered under a taken id changes nothing. -/
theorem HoldsFirst.append_taken (hfirst : catalogue.HoldsFirst checks) {check : Check σ}
    (htaken : catalogue.IsTaken check.id) : catalogue.HoldsFirst (checks ++ [check]) := by
  intro id
  rw [List.find?_append, ← hfirst]
  by_cases hid : check.id = id
  · obtain ⟨found, hfound⟩ := Option.isSome_iff_exists.mp (isTaken_iff_isSome.mp htaken)
    rw [← hid, hfound, Option.some_or]
  · simp [hid]

theorem HoldsFirst.of_serves (hfirst : catalogue.HoldsFirst checks) {request : Request σ}
    {reply : Reply σ} (hserves : Serves catalogue request reply next) :
    next.HoldsFirst (checks ++ request.offers (checks.map Check.id)) := by
  cases hserves with
  | registered hnew hchecks => exact hfirst.append hchecks
  | refused htaken => exact hfirst.append_taken htaken
  | mustRegistered hnew hchecks => exact hfirst.append hchecks
  | crashed htaken hmessage => exact hfirst.append_taken htaken
  | builtinRegistered hnew hchecks =>
      rw [Request.offers, upToTaken_of_forall fun check hcheck =>
        mt hfirst.isTaken_iff.mpr (hnew check hcheck)]
      exact hfirst.append hchecks
  | builtinStopped hsplit hnew htaken hchecks =>
      rw [Request.offers, hsplit, upToTaken_of_mem
        (fun other hother => mt hfirst.isTaken_iff.mpr (hnew other hother))
        (hfirst.isTaken_iff.mp htaken), ← List.append_assoc]
      refine (hfirst.append hchecks).append_taken ?_
      rw [IsTaken, hchecks, List.map_append]
      exact List.mem_append_left _ htaken
  | listed => simpa [Request.offers] using hfirst

end HoldsFirst

theorem holdsFirst_after (requests : List (Request σ)) :
    (Session.after requests).catalogue.HoldsFirst (offered requests) := by
  induction requests using List.reverseRecOn with
  | nil => exact fun id => rfl
  | append_singleton requests request ih =>
      rw [Session.after_concat, offered_concat]
      exact ih.of_serves (serves_serve _ request)

/-! ### What is held -/

/-- What a catalogue shows that holds the first of the checks under each id. -/
structure Shows (catalogue : Catalogue σ) (checks : List (Check σ)) : Prop where
  find?_eq : ∀ id, catalogue.find? id = checks.find? fun check => check.id = id
  mem_iff : ∀ check, check ∈ catalogue.checks ↔
    ∃ earlier later, checks = earlier ++ check :: later ∧ check.id ∉ earlier.map Check.id
  nodup : catalogue.checks.Nodup
  size_eq : catalogue.size = (checks.map Check.id).dedup.length
  /-- The groups part the checks among them. -/
  perm_groups : (CheckGroup.all.flatMap catalogue.inGroup).Perm catalogue.checks
  mem_inGroup_iff : ∀ group check,
    check ∈ catalogue.inGroup group ↔ check ∈ catalogue.checks ∧ check.group = group
  /-- The ids stand in the order of their bytes. -/
  text_eq : ∃ ids : List String, ids.Perm (catalogue.checks.map Check.id) ∧
    ids.Pairwise (fun a b => Text.bytes a < Text.bytes b) ∧
    catalogue.text = "CheckRegistry \x7b checks: [" ++ ", ".intercalate (ids.map Text.quoted) ++
      "] \x7d"

section Shows

variable (catalogue : Catalogue σ)

theorem nodup_checks : catalogue.checks.Nodup := List.Nodup.of_map _ catalogue.distinct

theorem find?_eq_some_iff {check : Check σ} :
    catalogue.find? check.id = some check ↔ check ∈ catalogue.checks := by
  constructor
  · exact List.mem_of_find?_eq_some
  · intro hcheck
    have htaken : catalogue.IsTaken check.id := List.mem_map_of_mem hcheck
    obtain ⟨found, hfound⟩ := Option.isSome_iff_exists.mp (isTaken_iff_isSome.mp htaken)
    have hid : found.id = check.id := by simpa using List.find?_some hfound
    rw [hfound, List.inj_on_of_nodup_map catalogue.distinct (List.mem_of_find?_eq_some hfound)
      hcheck hid]

theorem perm_flatMap_inGroup :
    (CheckGroup.all.flatMap catalogue.inGroup).Perm catalogue.checks := by
  have hdisjoint : CheckGroup.all.Pairwise (Function.onFun List.Disjoint catalogue.inGroup) := by
    refine List.Pairwise.imp ?_ (show CheckGroup.all.Pairwise (· ≠ ·) by decide)
    intro group other hne check hcheck hother
    have hgroup : check.group = group := by simpa using (List.mem_filter.mp hcheck).2
    have hagain : check.group = other := by simpa using (List.mem_filter.mp hother).2
    exact hne (hgroup.symm.trans hagain)
  have hnodup : (CheckGroup.all.flatMap catalogue.inGroup).Nodup :=
    List.nodup_flatMap.mpr ⟨fun group _ => catalogue.nodup_checks.filter _, hdisjoint⟩
  rw [List.perm_ext_iff_of_nodup hnodup catalogue.nodup_checks]
  intro check
  cases hgroup : check.group <;> simp [CheckGroup.all, inGroup, hgroup]

theorem pairwise_ids : catalogue.ids.Pairwise (· < ·) := by
  have hsorted : catalogue.ids.Pairwise fun a b => decide (a ≤ b) = true :=
    List.pairwise_mergeSort (by simpa using fun _ _ _ => String.le_trans)
      (by simpa using String.le_total) _
  have hnodup : catalogue.ids.Nodup :=
    (List.mergeSort_perm _ _).nodup_iff.mpr catalogue.distinct
  refine (hsorted.and hnodup).imp ?_
  rintro a b ⟨hle, hne⟩
  by_contra hlt
  exact hne (String.le_antisymm (of_decide_eq_true hle) hlt)

end Shows

theorem HoldsFirst.shows {catalogue : Catalogue σ} {checks : List (Check σ)}
    (hfirst : catalogue.HoldsFirst checks) : catalogue.Shows checks where
  find?_eq := hfirst
  mem_iff check := by
    rw [← find?_eq_some_iff, hfirst, List.find?_eq_some_iff_append]
    simp
  nodup := catalogue.nodup_checks
  size_eq := by
    have hsame : (catalogue.checks.map Check.id).Perm (checks.map Check.id).dedup := by
      rw [List.perm_ext_iff_of_nodup catalogue.distinct (List.nodup_dedup _)]
      intro id
      rw [List.mem_dedup]
      exact hfirst.isTaken_iff
    rw [size, ← List.length_map Check.id, hsame.length_eq]
  perm_groups := catalogue.perm_flatMap_inGroup
  mem_inGroup_iff group check := by simp [inGroup]
  text_eq := by
    refine ⟨catalogue.ids, List.mergeSort_perm _ _, ?_, rfl⟩
    exact catalogue.pairwise_ids.imp Text.bytes_lt_bytes

theorem register_builtin_eq_ok_iff (catalogue : Catalogue σ) :
    (Builtin.register catalogue).1 = .ok () ↔
      ∀ check ∈ (Builtin.checks : List (Check σ)), ¬ catalogue.IsTaken check.id := by
  have hadds := addsAll_registerAll catalogue nodup_map_id_builtin
  rw [Builtin.register]
  generalize catalogue.registerAll Builtin.checks = outcome at hadds ⊢
  rcases outcome with ⟨answer, next⟩
  cases hadds with
  | all hnew hchecks => exact iff_of_true rfl hnew
  | @upTo _ added rest check hsplit hnew htaken hchecks =>
      refine iff_of_false nofun fun hnone => hnone check ?_ htaken
      rw [hsplit]
      exact List.mem_append_right _ List.mem_cons_self

/-- After any requests the catalogue holds the first check under each id that was offered, and it
has replied to each request as it has to in the state in which it was then. The built-in checks are
registered exactly if none of their ids is taken. -/
theorem session_law (requests : List (Request σ)) :
    (Session.after requests).catalogue.Shows (offered requests) ∧
    (∀ (earlier : List (Request σ)) (request : Request σ) (later : List (Request σ)),
      ∃ reply,
        (Session.after (earlier ++ request :: later)).replies[earlier.length]? = some reply ∧
        Serves (Session.after earlier).catalogue request reply
          (Session.after (earlier ++ [request])).catalogue) ∧
    ((Builtin.register (Session.after requests).catalogue).1 = .ok () ↔
      ∀ check ∈ (Builtin.checks : List (Check σ)),
        ¬ (Session.after requests).catalogue.IsTaken check.id) := by
  refine ⟨(holdsFirst_after requests).shows, fun earlier request later => ?_,
    register_builtin_eq_ok_iff _⟩
  refine ⟨_, Session.getElem?_replies_after earlier request later, ?_⟩
  rw [Session.after_concat]
  exact serves_serve _ request

/-- With the id of the second built-in check taken, only the first one gets in. -/
example :
    let removal : Check Unit := Builtin.ModelMesh.removal
    let requests := [.register removal, .registerBuiltin, .mustRegister removal]
    (Session.after requests).catalogue.checks.map Check.id =
      [removal.id, (Builtin.Kserve.serverlessRemoval : Check Unit).id] := by
  decide

end Catalogue

end UpgradeGate
