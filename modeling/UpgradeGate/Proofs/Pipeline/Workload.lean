import UpgradeGate.Pipeline
import UpgradeGate.Proofs.Effects
import UpgradeGate.Proofs.Pipeline.Governing

/-!
# The run of a pipeline of workloads

The pipeline resolves its components if it requires any, lists the items of its type and keeps
those that its check is about. A check that changes the diagnosis in one go is known by what it
writes on its requests.
-/

namespace UpgradeGate

namespace WorkloadRequest

variable {α : Type} [HasHeader α] (request : WorkloadRequest α) (diagnosis : Diagnosis)

/-- The diagnosis that the check has written. If it lists no impacted objects, the items are. -/
def complete : Diagnosis :=
  if diagnosis.impacted?.isNone then diagnosis.setImpacted request.impactedObjects else diagnosis

@[simp]
theorem conditions_complete : (request.complete diagnosis).conditions = diagnosis.conditions := by
  unfold complete
  cases diagnosis.impacted?.isNone <;> rfl

@[simp]
theorem flaw?_complete : (request.complete diagnosis).flaw? = diagnosis.flaw? := by
  unfold complete
  cases diagnosis.impacted?.isNone <;> rfl

end WorkloadRequest

namespace WorkloadPipeline

variable {σ α : Type} (pipeline : WorkloadPipeline σ α)

/-- The cluster that the pipeline requires, or a diagnosis at once. -/
def required : Except ReadError (Except Diagnosis (Option Object)) :=
  if pipeline.requiredComponents.isEmpty then .ok (.ok none)
  else
    (Pipeline.governingComponents pipeline.identity pipeline.upgrade
      pipeline.requiredComponents).map fun
        | .found cluster => .ok (some cluster)
        | .settled diagnosis => .error diagnosis

/-- The calls of the store that the required components cost. -/
def requiredCalls : Nat := if pipeline.requiredComponents.isEmpty then 0 else 1

theorem governing_run (state : RunState σ) :
    pipeline.governing.run.run state =
      (pipeline.required.mapError .resource, state.counting pipeline.requiredCalls) := by
  unfold governing required requiredCalls
  cases pipeline.requiredComponents.isEmpty with
  | true => rfl
  | false =>
      simp only [Bool.false_eq_true, if_false, Effects.run_bind, Pipeline.resolveComponents_run]
      rcases Pipeline.governingComponents pipeline.identity pipeline.upgrade
        pipeline.requiredComponents with error | cluster | diagnosis <;> rfl

/-- What the check gets to see of the items that it is about. -/
def requestOf (cluster? : Option Object) (items : List α) : WorkloadRequest α :=
  { items, type := pipeline.type, upgrade := pipeline.upgrade, cluster? }

/-- The diagnosis that the check gets along with a request. -/
def draft (request : WorkloadRequest α) : Diagnosis :=
  (Pipeline.seeded pipeline.identity pipeline.upgrade).annotate
    AnnotationKey.impactedCount (toString request.items.length)

theorem conditions_draft (request : WorkloadRequest α) :
    (pipeline.draft request).conditions = [] :=
  Pipeline.conditions_seeded pipeline.identity pipeline.upgrade

theorem isDraft_draft (hkind : pipeline.identity.kind ≠ "") (htype : pipeline.identity.type ≠ "")
    (request : WorkloadRequest α) : (pipeline.draft request).IsDraft :=
  (Pipeline.isDraft_seeded hkind htype).annotate (by decide) _

/-- The pipeline gets its items in one call, and which they are hangs on the store alone. -/
structure Lists (listed : Except ReadError (List α)) : Prop where
  items_run : ∀ state : RunState σ,
    pipeline.items.run.run state = (listed.mapError .resource, state.counting 1)

theorem run_of_settled [HasHeader α] (answer : Answer)
    (hrequired : pipeline.required = answer.map .error)
    (validate : WorkloadRequest α → Step (σ × Diagnosis) Unit) (state : RunState σ) :
    (pipeline.run validate).run.run state =
      (answer.mapError .resource, state.counting pipeline.requiredCalls) := by
  unfold run
  rw [Effects.run_bind, governing_run, hrequired]
  cases answer <;> rfl

theorem run_of_required [HasHeader α] {cluster? : Option Object}
    (hrequired : pipeline.required = .ok (.ok cluster?))
    (validate : WorkloadRequest α → Step (σ × Diagnosis) Unit) {state before : RunState σ}
    {sifted : Except Problem (List α)} :
    pipeline.items.run.run (state.counting pipeline.requiredCalls) = (sifted, before) →
    (pipeline.run validate).run.run state =
      match sifted with
      | .error problem => (.error problem, before)
      | .ok items =>
        let request := pipeline.requestOf cluster? items
        match (validate request).run.run
          { before with notes := (before.notes, pipeline.draft request) } with
        | (.ok _, inner) =>
          (.ok (request.complete inner.notes.2), { inner with notes := inner.notes.1 })
        | (.error problem, inner) => (.error problem, { inner with notes := inner.notes.1 }) := by
  -- The premise is an arrow and no argument, lest the match above take it along.
  intro hitems
  unfold run
  rw [Effects.run_bind, governing_run, hrequired]
  dsimp only [Except.mapError]
  rw [Effects.run_bind, hitems]
  cases sifted with
  | error problem => rfl
  | ok items =>
      let request := pipeline.requestOf cluster? items
      dsimp only
      rcases hrun : (validate request).run.run
        { before with notes := (before.notes, pipeline.draft request) } with ⟨answer, inner⟩
      refine (Step.run_within_bind _ hrun).trans ?_
      cases answer with
      | error problem => rfl
      | ok value =>
          cases hnone : inner.notes.2.impacted?.isNone <;>
            simp only [WorkloadRequest.complete, hnone, if_true, Bool.false_eq_true, if_false] <;>
            rfl

theorem run_run [HasHeader α] {listed : Except ReadError (List α)} (hlists : pipeline.Lists listed)
    (validate : WorkloadRequest α → Step (σ × Diagnosis) Unit) (state : RunState σ) :
    (pipeline.run validate).run.run state =
      match pipeline.required with
      | .error error => (.error (.resource error), state.counting pipeline.requiredCalls)
      | .ok (.error diagnosis) => (.ok diagnosis, state.counting pipeline.requiredCalls)
      | .ok (.ok cluster?) =>
        let asked := state.counting (pipeline.requiredCalls + 1)
        match listed with
        | .error error => (.error (.resource error), asked)
        | .ok items =>
          let request := pipeline.requestOf cluster? items
          match (validate request).run.run
            { asked with notes := (state.notes, pipeline.draft request) } with
          | (.ok _, inner) =>
            (.ok (request.complete inner.notes.2), { inner with notes := inner.notes.1 })
          | (.error problem, inner) => (.error problem, { inner with notes := inner.notes.1 }) := by
  rcases hrequired : pipeline.required with error | diagnosis | cluster?
  · exact pipeline.run_of_settled (.error error) hrequired validate state
  · exact pipeline.run_of_settled (.ok diagnosis) hrequired validate state
  · refine (pipeline.run_of_required hrequired validate (hlists.items_run _)).trans ?_
    cases listed <;> rfl

/-! ### Listing without side effects -/

theorem filterAuxM_run {keep : α → Bool} (items kept : List α) (state : RunState σ) :
    (items.filterAuxM (fun item => (pure (keep item) : Step σ Bool)) kept).run.run state =
      (.ok ((items.filter keep).reverse ++ kept), state) := by
  induction items generalizing kept with
  | nil => rfl
  | cons item items ih =>
      rw [List.filterAuxM, pure_bind, ih, List.filter_cons]
      cases keep item <;> simp

/-- A filter that neither fails nor leaves a trace keeps what it keeps of any list. -/
theorem filterM_run {keep : α → Bool} (items : List α) (state : RunState σ) :
    (items.filterM fun item => (pure (keep item) : Step σ Bool)).run.run state =
      (.ok (items.filter keep), state) := by
  rw [List.filterM, Effects.run_bind, filterAuxM_run, List.append_nil]
  exact congrArg (fun kept => (Except.ok kept, state)) (List.reverse_reverse _)

variable {pipeline}

theorem items_run_of_list {answer : Except ReadError (List α)} (state : RunState σ) :
    (∀ calls : Nat, (pipeline.list pipeline.upgrade.store pipeline.type).orEmpty.run.run calls =
      (answer, calls + 1)) →
    pipeline.items.run.run state =
      match answer with
      | .error error => (.error (.resource error), state.counting 1)
      | .ok all => (all.filterM pipeline.keep).run.run (state.counting 1) := by
  intro hlist
  unfold items
  rw [Effects.run_bind, Step.run_read, hlist]
  cases answer <;> rfl

theorem lists_of_run {answer : Except ReadError (List α)}
    (hlist : ∀ calls : Nat,
      (pipeline.list pipeline.upgrade.store pipeline.type).orEmpty.run.run calls =
        (answer, calls + 1))
    {keep : α → Bool} (hkeep : pipeline.keep = fun item => pure (keep item)) :
    pipeline.Lists (answer.map (List.filter keep)) where
  items_run state := by
    rw [items_run_of_list state hlist, hkeep]
    cases answer with
    | error error => rfl
    | ok all => exact filterM_run all _

/-! ### What the pipeline opens with -/

theorem exists_required_eq_error_iff :
    (∃ error, pipeline.required = .error error) ↔
      pipeline.requiredComponents ≠ [] ∧
      ((∃ error, pipeline.upgrade.store.first? .dataScienceCluster = .error error) ∨
        ∃ cluster, pipeline.upgrade.store.first? .dataScienceCluster = .ok (some cluster) ∧
          ∃ component ∈ pipeline.requiredComponents,
            ∃ error, Platform.componentState cluster component = .error error) := by
  rw [← Pipeline.exists_governingComponents_eq_error_iff pipeline.identity]
  unfold required
  by_cases hnone : pipeline.requiredComponents = []
  · simp [hnone]
  · cases Pipeline.governingComponents pipeline.identity pipeline.upgrade
      pipeline.requiredComponents <;> simp [hnone, Except.map]

theorem required_eq_ok_iff (hcomponents : pipeline.requiredComponents ≠ [])
    {cluster? : Option Object} :
    pipeline.required = .ok (.ok cluster?) ↔
      ∃ cluster, cluster? = some cluster ∧
        Pipeline.governingComponents pipeline.identity pipeline.upgrade
          pipeline.requiredComponents = .ok (.found cluster) := by
  unfold required
  rw [if_neg (by simpa using hcomponents)]
  rcases Pipeline.governingComponents pipeline.identity pipeline.upgrade
    pipeline.requiredComponents with error | found | diagnosis
  · simp [Except.map]
  · simp [Except.map, eq_comm]
  · simp [Except.map]

variable (pipeline) in
/-- What the pipeline does before it asks its check, with the items that it lists. -/
def opening (listed : Except ReadError (List α)) :
    Except ReadError (Except Diagnosis (WorkloadRequest α)) :=
  match pipeline.required with
  | .error error => .error error
  | .ok (.error diagnosis) => .ok (.error diagnosis)
  | .ok (.ok cluster?) => listed.map fun items => .ok (pipeline.requestOf cluster? items)

variable {listed : Except ReadError (List α)}

theorem exists_opening_eq_error_iff :
    (∃ error, pipeline.opening listed = .error error) ↔
      (∃ error, pipeline.required = .error error) ∨
      ∃ cluster?, pipeline.required = .ok (.ok cluster?) ∧ ∃ error, listed = .error error := by
  unfold opening
  rcases pipeline.required with error | diagnosis | cluster?
  · simp
  · simp
  · cases listed <;> simp [Except.map]

theorem exists_request_iff {holds : WorkloadRequest α → Prop} :
    (∃ request, pipeline.opening listed = .ok (.ok request) ∧ holds request) ↔
      ∃ cluster? items, pipeline.required = .ok (.ok cluster?) ∧ listed = .ok items ∧
        holds (pipeline.requestOf cluster? items) := by
  unfold opening
  rcases pipeline.required with error | diagnosis | cluster?
  · simp
  · simp
  · cases listed <;> simp [Except.map]

theorem isSettled_of_opening {diagnosis : Diagnosis}
    (hopening : pipeline.opening listed = .ok (.error diagnosis)) :
    Pipeline.IsSettled pipeline.identity pipeline.upgrade diagnosis := by
  have hrequired : pipeline.required = .ok (.error diagnosis) := by
    unfold opening at hopening
    rcases hrequired : pipeline.required with error | settled | cluster?
    · simp [hrequired] at hopening
    · simpa [hrequired] using hopening
    · cases listed <;> simp [hrequired, Except.map] at hopening
  unfold required at hrequired
  cases hnone : pipeline.requiredComponents.isEmpty with
  | true => simp [hnone] at hrequired
  | false =>
      rcases hgoverning : Pipeline.governingComponents pipeline.identity pipeline.upgrade
        pipeline.requiredComponents with error | cluster | settled
      · simp [hnone, hgoverning, Except.map] at hrequired
      · simp [hnone, hgoverning, Except.map] at hrequired
      · simp only [hnone, hgoverning, Except.map, Bool.false_eq_true, if_false, Except.ok.injEq,
          Except.error.injEq] at hrequired
        exact hrequired ▸ Pipeline.isSettled_of_governingComponents hgoverning

/-! ### Checks that write the diagnosis in one go -/

/-- The check changes the diagnosis as it would write on the request, or fails as that does. -/
structure Writes (validate : WorkloadRequest α → Step (σ × Diagnosis) Unit)
    (write : WorkloadRequest α → Except ReadError (Diagnosis → Diagnosis)) : Prop where
  validate_run : ∀ (request : WorkloadRequest α) (state : RunState (σ × Diagnosis)),
    ∃ last : Diagnosis, (validate request).run.run state =
      (((write request).map fun _ => ()).mapError .resource,
        { state with notes := (state.notes.1, last) }) ∧
    ∀ change, write request = .ok change → last = change state.notes.2

variable [HasHeader α] (write : WorkloadRequest α → Except ReadError (Diagnosis → Diagnosis))

variable (pipeline) in
/-- The diagnosis with what the check writes on the request. -/
def finish (request : WorkloadRequest α) : Answer :=
  (write request).map fun change => request.complete (change (pipeline.draft request))

variable (pipeline) (listed) in
/-- What the pipeline answers with a check that writes the diagnosis in one go. -/
def answer : Answer := Pipeline.answerOf (pipeline.opening listed) (pipeline.finish write)

variable {write}

theorem run_of_writes (hlists : pipeline.Lists listed)
    {validate : WorkloadRequest α → Step (σ × Diagnosis) Unit} (hwrites : Writes validate write)
    (state : RunState σ) :
    ∃ calls : Nat, (pipeline.run validate).run.run state =
      ((pipeline.answer listed write).mapError .resource, state.counting calls) := by
  rw [run_run pipeline hlists]
  unfold answer Pipeline.answerOf opening
  rcases pipeline.required with error | diagnosis | cluster?
  · exact ⟨pipeline.requiredCalls, rfl⟩
  · exact ⟨pipeline.requiredCalls, rfl⟩
  · refine ⟨pipeline.requiredCalls + 1, ?_⟩
    cases listed with
    | error error => rfl
    | ok items =>
        simp only [Except.map]
        generalize pipeline.requestOf cluster? items = request
        obtain ⟨last, hrun, hlast⟩ := hwrites.validate_run request
          { state.counting (pipeline.requiredCalls + 1) with
            notes := (state.notes, pipeline.draft request) }
        simp only [hrun, finish]
        cases hwrite : write request with
        | error error => rfl
        | ok change =>
            rw [hlast change hwrite]
            rfl

theorem answer_fails_iff :
    (pipeline.answer listed write).Fails ↔
      (∃ error, pipeline.opening listed = .error error) ∨
      ∃ request, pipeline.opening listed = .ok (.ok request) ∧
        ∃ error, write request = .error error := by
  simp only [answer, finish, Pipeline.answerOf_fails_iff, Answer.fails_map_iff]

theorem answer_has_iff {holds : Condition → Prop}
    (hidle : ∀ condition : Condition, condition.IsIdle → ¬ holds condition) :
    (pipeline.answer listed write).Has holds ↔
      ∃ request, pipeline.opening listed = .ok (.ok request) ∧
        ∃ change, write request = .ok change ∧
          ∃ condition ∈ (change (pipeline.draft request)).conditions, holds condition := by
  rw [answer, Pipeline.answerOf_has_iff hidle fun _ => isSettled_of_opening]
  simp only [finish, Answer.has_map_iff, WorkloadRequest.conditions_complete]

theorem isSound_answer (hkind : pipeline.identity.kind ≠ "") (htype : pipeline.identity.type ≠ "")
    (hwrite : ∀ request change, write request = .ok change →
      (pipeline.draft request).IsDraft → (change (pipeline.draft request)).flaw? = none) :
    (pipeline.answer listed write).IsSound := by
  refine Pipeline.isSound_answerOf hkind htype (fun _ => isSettled_of_opening) ?_
  refine fun request _ => Answer.isSound_map_iff.mpr fun change hchange => ?_
  rw [WorkloadRequest.flaw?_complete]
  exact hwrite request change hchange (pipeline.isDraft_draft hkind htype request)

end WorkloadPipeline

end UpgradeGate
