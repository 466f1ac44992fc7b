import UpgradeGate.Pipeline
import UpgradeGate.Proofs.Run.Steps

/-!
# What a pipeline asks its check

A check that is recorded notes what a pipeline asks of it beside the notes of the run, and does
otherwise what it did before. Which items a pipeline has its filter look at, how often it asks its
check and with which draft can be read off the record.
-/

namespace UpgradeGate

variable {σ τ κ ρ α : Type}

/-- The state with a record beside its notes. -/
def RunState.withRecord (record : List κ) (state : RunState σ) : RunState (σ × List κ) :=
  { state with notes := (state.notes, record) }

theorem RunState.withRecord_inj {state other : RunState σ} {record later : List κ} :
    state.withRecord record = other.withRecord later ↔ state = other ∧ record = later := by
  cases state
  cases other
  simp only [withRecord, mk.injEq, Prod.mk.injEq, and_assoc]

/-- A run, recorded or not, has the ends that a relation names and no others, if it has all that the
relation names and there is one. -/
theorem RunState.iff_ends {ends : α → RunState σ → List κ → Prop} {ran : α × RunState σ}
    {recorded : α × RunState (σ × List κ)}
    (hruns : ∀ {answer after record}, ends answer after record → ran = (answer, after))
    (hrecords : ∀ {answer after record}, ends answer after record →
      recorded = (answer, after.withRecord record))
    (htotal : ∃ answer after record, ends answer after record) :
    (∀ answer after record, recorded = (answer, after.withRecord record) ↔
      ends answer after record) ∧
    ∀ answer after, ran = (answer, after) ↔ ∃ record, ends answer after record := by
  obtain ⟨_, _, found, hends⟩ := htotal
  refine ⟨fun answer after record => ⟨fun hrun => ?_, hrecords⟩,
    fun answer after => ⟨fun hrun => ?_, fun ⟨_, hends⟩ => hruns hends⟩⟩
  · rw [hrecords hends, Prod.mk.injEq, withRecord_inj] at hrun
    obtain ⟨rfl, rfl, rfl⟩ := hrun
    exact hends
  · rw [hruns hends, Prod.mk.injEq] at hrun
    obtain ⟨rfl, rfl⟩ := hrun
    exact ⟨found, hends⟩

namespace Pipeline

/-- The check with what it is asked, and the draft that it gets along, put on record. It sees
nothing of the record. -/
def recorded (call : ρ → τ → κ) (validate : ρ → Step (σ × τ) Unit) (request : ρ) :
    Step ((σ × List κ) × τ) Unit := fun state =>
  let ((notes, record), draft) := state.notes
  let (answer, after) := (validate request).run { state with notes := (notes, draft) }
  (answer,
    { after with notes := ((after.notes.1, record ++ [call request draft]), after.notes.2) })

theorem recorded_run (call : ρ → τ → κ) {validate : ρ → Step (σ × τ) Unit} {request : ρ}
    {state : RunState σ} {record : List κ} {draft : τ} {answer : Except Problem Unit}
    {inner : RunState (σ × τ)}
    (hrun : (validate request).run.run { state with notes := (state.notes, draft) } =
      (answer, inner)) :
    (recorded call validate request).run.run
        { state.withRecord record with notes := ((state.withRecord record).notes, draft) } =
      (answer, { inner with
        notes := ((inner.notes.1, record ++ [call request draft]), inner.notes.2) }) := by
  change (fun ended : Except Problem Unit × RunState (σ × τ) => (ended.1, { ended.2 with
    notes := ((ended.2.notes.1, record ++ [call request draft]), ended.2.notes.2) }))
      ((validate request).run.run { state with notes := (state.notes, draft) }) = _
  rw [hrun]

end Pipeline

/-- What a pipeline of workloads asks of its filter and of its check. -/
inductive WorkloadCall (α : Type) where
  | examines (item : α)
  | asks (request : WorkloadRequest α) (draft : Diagnosis)

namespace WorkloadPipeline

/-- The pipeline with the items that its filter looks at put on record. -/
def recorded (pipeline : WorkloadPipeline σ α) :
    WorkloadPipeline (σ × List (WorkloadCall α)) α where
  identity := pipeline.identity
  upgrade := pipeline.upgrade
  type := pipeline.type
  list := pipeline.list
  keep item := do
    Step.amend fun record => record ++ [.examines item]
    (pipeline.keep item).outside
  requiredComponents := pipeline.requiredComponents

theorem keep_recorded_run {pipeline : WorkloadPipeline σ α} {item : α} {state after : RunState σ}
    {answer : Except Problem Bool} (hrun : (pipeline.keep item).run.run state = (answer, after))
    (record : List (WorkloadCall α)) :
    (pipeline.recorded.keep item).run.run (state.withRecord record) =
      (answer, after.withRecord (record ++ [.examines item])) := by
  change (fun ended : Except Problem Bool × RunState σ =>
    (ended.1, ended.2.withRecord (record ++ [.examines item])))
      ((pipeline.keep item).run.run state) = _
  rw [hrun]

end WorkloadPipeline

end UpgradeGate
