import UpgradeGate.Proofs.Pipeline.Headers
import UpgradeGate.Proofs.Pipeline.Precondition
import UpgradeGate.Proofs.Pipeline.Recording
import UpgradeGate.Proofs.Pipeline.Workload

/-!
# The course of a pipeline of workloads

A pipeline of workloads resolves the components that it requires, lists its type once, has its
filter go through the items in order and asks its check once about those that are kept. Each stage
may end the run, and then the later ones have no part in it. The course says what comes of a run and
what has been asked on the way.
-/

namespace UpgradeGate

variable {σ α : Type}

/-! ### Filtering in order -/

/-- The filter goes through the items in order, each time from the state in which it left the run
the last time, and keeps some of them. -/
inductive Passes (keep : α → Step σ Bool) : List α → RunState σ → List α → RunState σ → Prop
  | nil {state : RunState σ} : Passes keep [] state [] state
  | keeps {item : α} {items kept : List α} {state next after : RunState σ}
    (hitem : (keep item).run.run state = (.ok true, next))
    (hrest : Passes keep items next kept after) :
    Passes keep (item :: items) state (item :: kept) after
  | drops {item : α} {items kept : List α} {state next after : RunState σ}
    (hitem : (keep item).run.run state = (.ok false, next))
    (hrest : Passes keep items next kept after) : Passes keep (item :: items) state kept after

namespace Passes

variable {keep : α → Step σ Bool} {items kept : List α} {state after : RunState σ}

/-- The filter goes on behind the items that it has gone through. -/
theorem filterAuxM_run (hpasses : Passes keep items state kept after) (later before : List α) :
    ((items ++ later).filterAuxM keep before).run.run state =
      (later.filterAuxM keep (kept.reverse ++ before)).run.run after := by
  induction hpasses generalizing before with
  | nil => rfl
  | @keeps item _ _ _ _ _ hitem _ ih =>
      rw [List.cons_append, List.filterAuxM, Effects.run_bind, hitem, List.reverse_cons,
        List.append_assoc]
      exact ih (item :: before)
  | drops hitem _ ih =>
      rw [List.cons_append, List.filterAuxM, Effects.run_bind, hitem]
      exact ih before

theorem filterM_run (hpasses : Passes keep items state kept after) :
    (items.filterM keep).run.run state = (.ok kept, after) := by
  have haux := hpasses.filterAuxM_run [] []
  rw [List.append_nil, List.append_nil] at haux
  rw [List.filterM, Effects.run_bind, haux]
  exact congrArg (fun kept => (Except.ok kept, after)) (List.reverse_reverse kept)

/-- No item behind the first one for which the filter fails is looked at. -/
theorem filterM_run_of_fails (hpasses : Passes keep items state kept after) {item : α}
    {problem : Problem} {last : RunState σ}
    (hitem : (keep item).run.run after = (.error problem, last)) (later : List α) :
    ((items ++ item :: later).filterM keep).run.run state = (.error problem, last) := by
  rw [List.filterM, Effects.run_bind, hpasses.filterAuxM_run (item :: later) [], List.filterAuxM,
    Effects.run_bind, hitem]

/-- The filter goes through all items, or fails for a first one. -/
theorem passes_or_fails (keep : α → Step σ Bool) (items : List α) (state : RunState σ) :
    (∃ kept after, Passes keep items state kept after) ∨
      ∃ front item later kept before problem after, items = front ++ item :: later ∧
        Passes keep front state kept before ∧
        (keep item).run.run before = (.error problem, after) := by
  induction items generalizing state with
  | nil => exact .inl ⟨[], state, .nil⟩
  | cons item items ih =>
      rcases hitem : (keep item).run.run state with ⟨_ | isKept, next⟩
      · exact .inr ⟨[], item, items, [], state, _, next, rfl, .nil, hitem⟩
      · have hstep : ∀ {kept after front}, Passes keep front next kept after →
            ∃ kept', Passes keep (item :: front) state kept' after := by
          intro kept after front hpasses
          cases isKept with
          | true => exact ⟨_, .keeps hitem hpasses⟩
          | false => exact ⟨_, .drops hitem hpasses⟩
        rcases ih next with ⟨kept, after, hpasses⟩ | ⟨front, other, later, kept, before, problem,
          after, rfl, hpasses, hother⟩
        · obtain ⟨kept', hpasses'⟩ := hstep hpasses
          exact .inl ⟨kept', after, hpasses'⟩
        · obtain ⟨kept', hpasses'⟩ := hstep hpasses
          exact .inr ⟨item :: front, other, later, kept', before, problem, after, rfl, hpasses',
            hother⟩

/-- With the filter on record, it goes through the same items in the same way. -/
theorem recorded {pipeline : WorkloadPipeline σ α}
    (hpasses : Passes pipeline.keep items state kept after) (record : List (WorkloadCall α)) :
    Passes pipeline.recorded.keep items (state.withRecord record) kept
      (after.withRecord (record ++ items.map .examines)) := by
  induction hpasses generalizing record with
  | nil =>
      rw [List.map_nil, List.append_nil]
      exact .nil
  | keeps hitem _ ih =>
      rw [List.map_cons, List.append_cons]
      exact .keeps (WorkloadPipeline.keep_recorded_run hitem record) (ih _)
  | drops hitem _ ih =>
      rw [List.map_cons, List.append_cons]
      exact .drops (WorkloadPipeline.keep_recorded_run hitem record) (ih _)

end Passes

namespace WorkloadPipeline

/-! ### The required components -/

section Required

variable (pipeline : WorkloadPipeline σ α)

/-- The pipeline ends with the answer before it lists anything. -/
def Settles (answer : Answer) : Prop :=
  Pipeline.Precludes pipeline.identity pipeline.upgrade pipeline.requiredComponents answer

/-- The pipeline goes on to list its type, with the cluster if it requires components. -/
def Meets (cluster? : Option Object) : Prop :=
  Pipeline.Admits pipeline.upgrade pipeline.requiredComponents cluster?

variable {pipeline}

theorem Settles.required_eq {answer : Answer} (hsettles : pipeline.Settles answer) :
    pipeline.required = answer.map .error := by
  rw [required, if_neg (by simpa using hsettles.ne_nil), hsettles.governingComponents_eq]
  cases answer <;> rfl

theorem Settles.requiredCalls_eq {answer : Answer} (hsettles : pipeline.Settles answer) :
    pipeline.requiredCalls = 1 :=
  if_neg (by simpa using hsettles.ne_nil)

theorem Meets.required_eq {cluster? : Option Object} (hmeets : pipeline.Meets cluster?) :
    pipeline.required = .ok (.ok cluster?) := by
  rw [required]
  cases hmeets with
  | free hnone => rw [if_pos (by simpa using hnone)]
  | governed hcluster hformed hcomponent hstate hother =>
      rw [if_neg (by simpa using List.ne_nil_of_mem hcomponent),
        Pipeline.governingComponents_of_isInState hcluster hformed hcomponent hstate hother]
      rfl

theorem required_eq_settled_iff {diagnosis : Diagnosis} :
    pipeline.required = .ok (.error diagnosis) ↔ pipeline.Settles (.ok diagnosis) := by
  constructor
  · intro hrequired
    rcases Pipeline.precludes_or_admits pipeline.identity pipeline.upgrade
      pipeline.requiredComponents with ⟨answer, hsettles⟩ | ⟨cluster?, hmeets⟩
    · have hanswer := (Settles.required_eq hsettles).symm.trans hrequired
      cases answer with
      | error error => cases hanswer
      | ok settled =>
          cases hanswer
          exact hsettles
    · cases (Meets.required_eq hmeets).symm.trans hrequired
  · exact Settles.required_eq

theorem required_eq_met_iff {cluster? : Option Object} :
    pipeline.required = .ok (.ok cluster?) ↔ pipeline.Meets cluster? := by
  constructor
  · intro hrequired
    rcases Pipeline.precludes_or_admits pipeline.identity pipeline.upgrade
      pipeline.requiredComponents with ⟨answer, hsettles⟩ | ⟨other?, hmeets⟩
    · have hanswer := (Settles.required_eq hsettles).symm.trans hrequired
      cases answer <;> cases hanswer
    · cases (Meets.required_eq hmeets).symm.trans hrequired
      exact hmeets
  · exact Meets.required_eq

end Required

/-! ### The whole course -/

section Course

variable (pipeline : WorkloadPipeline σ α)

/-- The pipeline finds this of its type, in one call. -/
structure Finds (found : Except ReadError (List α)) : Prop where
  list_run : ∀ calls : Nat,
    (pipeline.list pipeline.upgrade.store pipeline.type).run.run calls = (found, calls + 1)

variable {pipeline} in
theorem Finds.items_run {found : Except ReadError (List α)} (hfinds : pipeline.Finds found)
    (state : RunState σ) :
    pipeline.items.run.run state =
      match Reading.forgiving found with
      | .error error => (.error (.resource error), state.counting 1)
      | .ok all => (all.filterM pipeline.keep).run.run (state.counting 1) :=
  items_run_of_list state fun calls => Reading.orEmpty_run (hfinds.list_run calls)

/-- The draft that goes along with the kept items: the versions and the number of the items, and no
condition yet. -/
def draftOf (kept : List α) : Diagnosis :=
  Pipeline.diagnosisWith pipeline.identity pipeline.upgrade
    [("workload.opendatahub.io/impacted-count", toString kept.length)] []

theorem draft_requestOf (cluster? : Option Object) (kept : List α) :
    pipeline.draft (pipeline.requestOf cluster? kept) = pipeline.draftOf kept := by
  rw [draft, draftOf, Pipeline.seeded_eq, Pipeline.annotate_diagnosisWith]
  rfl

variable [HasHeader α]

/-- How an item is listed as impacted. -/
def impactedOf (item : α) : ImpactedObject where
  apiVersion := pipeline.type.apiVersion
  kind := pipeline.type.kind
  ns? := (HasHeader.header item).ns?
  name := (HasHeader.header item).name
  annotations := ∅

/-- The diagnosis with the kept items as the impacted objects, unless it lists some itself, be it
none. -/
def filled (kept : List α) (written : Diagnosis) : Diagnosis :=
  { written with
    impacted? := some (written.impacted?.getD (kept.map pipeline.impactedOf)) }

theorem complete_eq (cluster? : Option Object) (kept : List α) (written : Diagnosis) :
    (pipeline.requestOf cluster? kept).complete written = pipeline.filled kept written := by
  unfold WorkloadRequest.complete filled
  cases himpacted : written.impacted? with
  | none => rfl
  | some objects =>
      cases written
      subst himpacted
      rfl

/-- With a check that writes the diagnosis in one go, the pipeline answers with a diagnosis if it
settles for that one, or if that is what the check writes on the items. -/
theorem answer_eq_ok_iff {listed : Except ReadError (List α)}
    {write : WorkloadRequest α → Except ReadError (Diagnosis → Diagnosis)} {diagnosis : Diagnosis} :
    pipeline.answer listed write = .ok diagnosis ↔
      pipeline.Settles (.ok diagnosis) ∨
      ∃ cluster? items change, pipeline.Meets cluster? ∧ listed = .ok items ∧
        write (pipeline.requestOf cluster? items) = .ok change ∧
        pipeline.filled items (change (pipeline.draftOf items)) = diagnosis := by
  have hfinish : ∀ cluster? items, pipeline.finish write (pipeline.requestOf cluster? items) =
      (write (pipeline.requestOf cluster? items)).map fun change =>
        pipeline.filled items (change (pipeline.draftOf items)) := by
    intro cluster? items
    simp only [finish, complete_eq, draft_requestOf]
  simp only [← required_eq_settled_iff, ← required_eq_met_iff]
  unfold answer Pipeline.answerOf opening
  rcases pipeline.required with error | settled | cluster?
  · simp
  · simp
  · cases listed with
    | error error => simp [Except.map]
    | ok items =>
        simp only [Except.map, hfinish]
        cases hwrite : write (pipeline.requestOf cluster? items) <;> simp [hwrite]

variable (found : Except ReadError (List α))
  (validate : WorkloadRequest α → Step (σ × Diagnosis) Unit) (state : RunState σ)

/-- How the pipeline ends from a state if this is what is found of its type: its answer, the state
after it, and what it asks of its filter and of its check. -/
inductive Ends : Except Problem Diagnosis → RunState σ → List (WorkloadCall α) → Prop
  | settled {answer : Answer} (hsettles : pipeline.Settles answer) :
    Ends (answer.mapError .resource) (state.counting 1) []
  | unlisted {cluster? : Option Object} {error : ReadError} (hmeets : pipeline.Meets cluster?)
    (hfound : Reading.forgiving found = .error error) :
    Ends (.error (.resource error)) (state.counting (pipeline.requiredCalls + 1)) []
  | unfiltered {cluster? : Option Object} {front later kept : List α} {item : α}
    {problem : Problem} {before after : RunState σ} (hmeets : pipeline.Meets cluster?)
    (hfound : Reading.forgiving found = .ok (front ++ item :: later))
    (hfront : Passes pipeline.keep front (state.counting (pipeline.requiredCalls + 1)) kept before)
    (hitem : (pipeline.keep item).run.run before = (.error problem, after)) :
    Ends (.error problem) after ((front ++ [item]).map .examines)
  | asked {cluster? : Option Object} {items kept : List α} {before : RunState σ}
    {answer : Except Problem Unit} {inner : RunState (σ × Diagnosis)}
    (hmeets : pipeline.Meets cluster?) (hfound : Reading.forgiving found = .ok items)
    (hitems : Passes pipeline.keep items (state.counting (pipeline.requiredCalls + 1)) kept before)
    (hrun : (validate (pipeline.requestOf cluster? kept)).run.run
      { before with notes := (before.notes, pipeline.draftOf kept) } = (answer, inner)) :
    Ends (answer.map fun _ => pipeline.filled kept inner.notes.2)
      { inner with notes := inner.notes.1 }
      (items.map .examines ++ [.asks (pipeline.requestOf cluster? kept) (pipeline.draftOf kept)])

theorem exists_ends :
    ∃ answer after record, pipeline.Ends found validate state answer after record := by
  rcases Pipeline.precludes_or_admits pipeline.identity pipeline.upgrade
    pipeline.requiredComponents with ⟨answer, hsettles⟩ | ⟨cluster?, hmeets⟩
  · exact ⟨_, _, _, .settled hsettles⟩
  · rcases hfound : Reading.forgiving found with error | items
    · exact ⟨_, _, _, .unlisted hmeets hfound⟩
    · rcases Passes.passes_or_fails pipeline.keep items
        (state.counting (pipeline.requiredCalls + 1)) with ⟨kept, before, hitems⟩ |
          ⟨front, item, later, kept, before, problem, after, rfl, hfront, hitem⟩
      · exact ⟨_, _, _, .asked hmeets hfound hitems rfl⟩
      · exact ⟨_, _, _, .unfiltered hmeets hfound hfront hitem⟩

variable {pipeline} {found} {validate} {state} {answer : Except Problem Diagnosis}
  {after : RunState σ} {record : List (WorkloadCall α)}

theorem Settles.run_eq {answer : Answer} (hsettles : pipeline.Settles answer)
    (validate : WorkloadRequest α → Step (σ × Diagnosis) Unit) (state : RunState σ) :
    (pipeline.run validate).run.run state = (answer.mapError .resource, state.counting 1) := by
  rw [pipeline.run_of_settled answer hsettles.required_eq, hsettles.requiredCalls_eq]

theorem Ends.run_eq (hends : pipeline.Ends found validate state answer after record)
    (hfinds : pipeline.Finds found) : (pipeline.run validate).run.run state = (answer, after) := by
  have hitems := hfinds.items_run (state.counting pipeline.requiredCalls)
  cases hends with
  | settled hsettles => exact hsettles.run_eq validate state
  | unlisted hmeets hfound =>
      rw [hfound] at hitems
      exact pipeline.run_of_required hmeets.required_eq validate hitems
  | unfiltered hmeets hfound hfront hitem =>
      rw [hfound] at hitems
      exact pipeline.run_of_required hmeets.required_eq validate
        (hitems.trans (hfront.filterM_run_of_fails hitem _))
  | @asked cluster? items kept before answer inner hmeets hfound hpasses hrun =>
      rw [hfound] at hitems
      refine (pipeline.run_of_required hmeets.required_eq validate
        (hitems.trans hpasses.filterM_run)).trans ?_
      simp only [draft_requestOf, complete_eq, hrun]
      cases answer <;> rfl

/-- With its filter and its check on record, the pipeline ends as it does, with what it asks of them
on record. -/
theorem Ends.recorded (hends : pipeline.Ends found validate state answer after record) :
    pipeline.recorded.Ends found (Pipeline.recorded .asks validate) (state.withRecord []) answer
      (after.withRecord record) record := by
  cases hends with
  | settled hsettles => exact .settled hsettles
  | unlisted hmeets hfound => exact .unlisted hmeets hfound
  | @unfiltered _ front _ _ item _ _ _ hmeets hfound hfront hitem =>
      have hrecord : (front ++ [item]).map WorkloadCall.examines =
          [] ++ front.map .examines ++ [.examines item] := by
        simp
      -- The answer and the state do not tell the inner state, so that the end is built on its own.
      have hunfiltered : pipeline.recorded.Ends found (Pipeline.recorded .asks validate)
          (state.withRecord []) _ _ _ :=
        .unfiltered hmeets hfound (hfront.recorded []) (keep_recorded_run hitem _)
      rw [← hrecord] at hunfiltered
      exact hunfiltered
  | asked hmeets hfound hitems hrun =>
      have hasked : pipeline.recorded.Ends found (Pipeline.recorded .asks validate)
          (state.withRecord []) _ _ _ :=
        .asked hmeets hfound (hitems.recorded [])
          (Pipeline.recorded_run WorkloadCall.asks hrun)
      exact hasked

variable (pipeline) (found) in
/-- From every state, with any check, the pipeline ends in the one way that its course names. One
that settles does so in one call, however its type would be listed and its items filtered. -/
structure FollowsCourse : Prop where
  recorded_run_iff : ∀ (validate : WorkloadRequest α → Step (σ × Diagnosis) Unit)
    (state : RunState σ) answer after record,
    (pipeline.recorded.run (Pipeline.recorded .asks validate)).run.run (state.withRecord []) =
        (answer, after.withRecord record) ↔
      pipeline.Ends found validate state answer after record
  run_iff : ∀ (validate : WorkloadRequest α → Step (σ × Diagnosis) Unit) (state : RunState σ)
    answer after,
    (pipeline.run validate).run.run state = (answer, after) ↔
      ∃ record, pipeline.Ends found validate state answer after record
  run_of_settles : ∀ answer, pipeline.Settles answer → ∀ list keep validate (state : RunState σ),
    (({ pipeline with list, keep } : WorkloadPipeline σ α).run validate).run.run state =
      (answer.mapError .resource, state.counting 1)

theorem Finds.iff_ends (hfinds : pipeline.Finds found)
    (validate : WorkloadRequest α → Step (σ × Diagnosis) Unit) (state : RunState σ) :
    (∀ answer after record,
      (pipeline.recorded.run (Pipeline.recorded .asks validate)).run.run (state.withRecord []) =
          (answer, after.withRecord record) ↔
        pipeline.Ends found validate state answer after record) ∧
    ∀ answer after, (pipeline.run validate).run.run state = (answer, after) ↔
      ∃ record, pipeline.Ends found validate state answer after record := by
  have hrecords : pipeline.recorded.Finds found := ⟨hfinds.list_run⟩
  exact RunState.iff_ends (fun hends => hends.run_eq hfinds)
    (fun hends => hends.recorded.run_eq hrecords) (pipeline.exists_ends found validate state)

theorem Finds.followsCourse (hfinds : pipeline.Finds found) : pipeline.FollowsCourse found where
  recorded_run_iff validate state := (hfinds.iff_ends validate state).1
  run_iff validate state := (hfinds.iff_ends validate state).2
  run_of_settles answer hsettles list keep validate state := by
    have hsame : ({ pipeline with list, keep } : WorkloadPipeline σ α).Settles answer := hsettles
    exact hsame.run_eq validate state

end Course

/-- A pipeline of workloads follows its course, whether it lists whole objects or their headers. -/
theorem run_workload_ends (identity : CheckIdentity) (upgrade : Upgrade) (type : ResourceType)
    (components : List String) :
    (∀ keep : Object → Step σ Bool,
      (objectsWith identity upgrade type components keep).FollowsCourse
        (upgrade.store.answer type)) ∧
    ∀ keep : Header → Step σ Bool,
      (headersWith identity upgrade type components keep).FollowsCourse
        ((upgrade.store.answer type).map (List.map Object.header)) :=
  ⟨fun _ => Finds.followsCourse ⟨upgrade.store.list_run type⟩,
    fun _ => Finds.followsCourse ⟨upgrade.store.listHeaders_run type⟩⟩

/-- A filter that cannot do without names looks at two of three notebooks, since the second one has
none. The check is not asked to cancel the run, as it would. -/
theorem run_workload_ends_nameless :
    let notebook : String → Object := fun name => ⟨.obj [("apiVersion", .str "kubeflow.org/v1"),
      ("kind", .str "Notebook"), ("metadata", .obj [("name", .str name)])]⟩
    let store : Store := { objects := [notebook "one", notebook "", notebook "three"] }
    let keep : Object → Step Unit Bool := fun object =>
      if object.name = "" then throw (.check "no name") else return true
    let pipeline := objectsWith (.of .workload "notebook" "impacted" "" "")
      { store, time := default } .notebook [] keep
    (pipeline.recorded.run (Pipeline.recorded .asks fun _ => Step.cancel)).run.run
        (RunState.withRecord [] { notes := () }) =
      (.error (.check "no name"), RunState.withRecord
        [.examines (notebook "one"), .examines (notebook "")] { calls := 1, notes := () }) := by
  intro notebook store keep pipeline
  have hkey : ∀ name ∈ ["one", "", "three"],
      (notebook name).typeKey = ResourceType.notebook.key := by
    decide +kernel
  have hfound : Reading.forgiving (store.answer .notebook) =
      .ok ([notebook "one"] ++ notebook "" :: [notebook "three"]) := by
    simp [store, Store.answer, Store.serves, hkey, Reading.forgiving]
  have hone : (keep (notebook "one")).run.run { calls := 1, notes := () } =
      (.ok true, { calls := 1, notes := () }) := by
    cbv
  have hnameless : (keep (notebook "")).run.run { calls := 1, notes := () } =
      (.error (.check "no name"), { calls := 1, notes := () }) := by
    cbv
  have hcourse : pipeline.FollowsCourse (store.answer .notebook) :=
    (run_workload_ends _ _ _ _).1 keep
  exact (hcourse.recorded_run_iff _ { notes := () } _ _ _).mpr
    (.unfiltered (.free rfl) hfound (.keeps hone .nil) hnameless)

end WorkloadPipeline

end UpgradeGate
