import UpgradeGate.Proofs.Pipeline.ComponentCourse
import UpgradeGate.Proofs.Pipeline.Namespace

/-!
# What a check asks of its request

A check may ask its request for the applications' namespace and for fields of its component, as
often and in whatever order it likes, and go on whatever the answers are. The store is called for
the first question for the namespace and for no other one, so that a component's pipeline calls it
twice at most.
-/

namespace UpgradeGate

variable {σ : Type}

/-! ### Inquiries -/

/-- What a check may change without its request. -/
structure CheckState (σ : Type) where
  control : RunControl
  notes : σ
  diagnosis : Diagnosis

/-- A check by its questions. What it does after one may hang on the answer, be it an error, and
between them it may do anything to its own state. -/
inductive Inquiry (σ : Type) where
  | ends (answer : Except Problem Unit)
  | works (work : CheckState σ → CheckState σ) (next : CheckState σ → Inquiry σ)
  | asksNamespace (next : Except Problem String → Inquiry σ)
  | asksField (path : List String) (next : Except Problem (Option String) → Inquiry σ)

/-- A question with its answer, and the calls of the store before and after it. -/
inductive Exchange where
  | ns (answer : Except Problem String) (before after : Nat)
  | field (path : List String) (answer : Except Problem (Option String)) (before after : Nat)

def Exchange.isNamespace : Exchange → Bool
  | .ns _ _ _ => true
  | .field _ _ _ _ => false

namespace RunState

def checkState (state : RunState (σ × ComponentDraft)) : CheckState σ :=
  ⟨state.control, state.notes.1, state.notes.2.diagnosis⟩

def withCheckState (own : CheckState σ) (state : RunState (σ × ComponentDraft)) :
    RunState (σ × ComponentDraft) :=
  { state with
    control := own.control
    notes := (own.notes, { state.notes.2 with diagnosis := own.diagnosis }) }

end RunState

/-- Gives the error of a step as an answer. -/
def Step.caught {α : Type} (step : Step σ α) : Step σ (Except Problem α) := fun state =>
  let (answer, after) := step.run.run state
  (.ok answer, after)

namespace Inquiry

/-- The check that makes the inquiry of its request. -/
def carryOut (request : ComponentRequest) : Inquiry σ → Step (σ × ComponentDraft) Unit
  | .ends answer => liftM answer
  | .works work next => do
    let own := work (← get).checkState
    modify (·.withCheckState own)
    (next own).carryOut request
  | .asksNamespace next => do
    (next (← request.applicationsNamespace.caught)).carryOut request
  | .asksField path next => do
    (next (← (Step.answer (request.field? path)).caught)).carryOut request

/-- The exchanges of the inquiry with its request, and the state in which it leaves the run. -/
def course (request : ComponentRequest) :
    Inquiry σ → RunState (σ × ComponentDraft) → List Exchange × RunState (σ × ComponentDraft)
  | .ends _, state => ([], state)
  | .works work next, state =>
    let own := work state.checkState
    (next own).course request (state.withCheckState own)
  | .asksNamespace next, state =>
    let (answer, after) := request.applicationsNamespace.run.run state
    let (exchanges, last) := (next answer).course request after
    (.ns answer state.calls after.calls :: exchanges, last)
  | .asksField path next, state =>
    let (answer, after) := (Step.answer (request.field? path)).run.run state
    let (exchanges, last) := (next answer).course request after
    (.field path answer state.calls after.calls :: exchanges, last)

theorem carryOut_run (request : ComponentRequest) (inquiry : Inquiry σ)
    (state : RunState (σ × ComponentDraft)) :
    ((inquiry.carryOut request).run.run state).2 = (inquiry.course request state).2 := by
  induction inquiry generalizing state with
  | ends answer => rw [carryOut, Effects.run_liftM, course]
  | works work next ih => exact ih _ _
  | asksNamespace next ih =>
      rw [carryOut, Effects.run_bind]
      exact ih _ _
  | asksField path next ih =>
      rw [carryOut, Effects.run_bind]
      exact ih _ _

end Inquiry

/-! ### What an inquiry comes to -/

/-- The second time, the request gives the answer that it has kept, and calls no store. -/
theorem ComponentRequest.applicationsNamespace_run_of_known (request : ComponentRequest)
    {state : RunState (σ × ComponentDraft)} {known : Except ReadError String}
    (hknown : state.notes.2.ns? = some known) :
    request.applicationsNamespace.run.run state = (known.mapError .resource, state) := by
  unfold applicationsNamespace
  simp only [Effects.run_bind, Step.run_part, hknown, Step.run_answer]

/-- The exchanges of a request, which may know the namespace already, while the calls of the store
go from one number to another: a request that does not know the namespace makes one call to learn
it. -/
inductive Log (request : ComponentRequest) (told : Except ReadError String) :
    Bool → Nat → List Exchange → Nat → Prop
  | done {known : Bool} {calls : Nat} : Log request told known calls [] calls
  | first {calls last : Nat} {later : List Exchange}
    (hlater : Log request told true (calls + 1) later last) :
    Log request told false calls (.ns (told.mapError .resource) calls (calls + 1) :: later) last
  | again {calls last : Nat} {later : List Exchange}
    (hlater : Log request told true calls later last) :
    Log request told true calls (.ns (told.mapError .resource) calls calls :: later) last
  | field {known : Bool} {calls last : Nat} {later : List Exchange} {path : List String}
    {value : Except ReadError (Option String)}
    (hvalue : request.cluster.Tells (["spec", "components", request.component] ++ path) value)
    (hlater : Log request told known calls later last) :
    Log request told known calls (.field path (value.mapError .resource) calls calls :: later) last

/-- What the exchanges of a request come to, between two numbers of calls of the store. If the
request does not know the namespace before, the first question for it costs the one call that there
is; the answers are the same with and without that call. -/
structure AsksOnce (request : ComponentRequest) (told : Except ReadError String) (known : Bool)
    (calls : Nat) (exchanges : List Exchange) (last : Nat) : Prop where
  total : last = calls + if !known && exchanges.any Exchange.isNamespace then 1 else 0
  ns : ∀ front answer before after later, exchanges = front ++ .ns answer before after :: later →
    answer = told.mapError .resource ∧
    after = before + if !known && !front.any Exchange.isNamespace then 1 else 0
  field : ∀ path answer before after, .field path answer before after ∈ exchanges →
    after = before ∧
    ∃ value, request.cluster.Tells (["spec", "components", request.component] ++ path) value ∧
      answer = value.mapError .resource

theorem Inquiry.log_course {request : ComponentRequest} {told : Except ReadError String}
    (htold : Platform.NamespaceIs request.upgrade.store told) (inquiry : Inquiry σ) {known : Bool}
    {state : RunState (σ × ComponentDraft)}
    (hknown : state.notes.2.ns? = if known then some told else none) :
    Log request told known state.calls (inquiry.course request state).1
      (inquiry.course request state).2.calls := by
  induction inquiry generalizing known state with
  | ends answer => exact .done
  | works work next ih =>
      let own := work state.checkState
      exact @ih own known (state.withCheckState own) hknown
  | asksNamespace next ih =>
      cases known with
      | false =>
          have hrun := request.applicationsNamespace_run hknown
          rw [htold.applications_eq] at hrun
          simp only [course, hrun]
          let after : RunState (σ × ComponentDraft) := { state.counting 1 with
            notes := (state.notes.1, { state.notes.2 with ns? := some told }) }
          exact .first (@ih (told.mapError .resource) true after rfl)
      | true =>
          have hrun := request.applicationsNamespace_run_of_known hknown
          simp only [course, hrun]
          exact .again (@ih _ true state hknown)
  | asksField path next ih =>
      have hrun := Step.run_answer (request.field? path) state
      simp only [course, hrun]
      exact .field (Object.tells_iff.mpr rfl) (ih _ hknown)

namespace AsksOnce

variable {request : ComponentRequest} {told : Except ReadError String} {known : Bool}
  {calls last : Nat} {later : List Exchange}

theorem done : AsksOnce request told known calls [] calls where
  total := by simp
  ns front answer before after rest hsplit := by simp at hsplit
  field := nofun

/-- A question for the namespace is answered as all are, with a call if it was not known before. -/
theorem cons_ns {next : Nat} (hnext : next = calls + if known then 0 else 1)
    (hlater : AsksOnce request told true next later last) :
    AsksOnce request told known calls (.ns (told.mapError .resource) calls next :: later) last where
  total := by
    rw [hlater.total, hnext]
    cases known <;> simp [Exchange.isNamespace]
  ns front answer before after rest hsplit := by
    rcases List.cons_eq_append_iff.mp hsplit with ⟨rfl, hhead⟩ | ⟨front, rfl, hrest⟩
    · cases hhead
      refine ⟨rfl, ?_⟩
      rw [hnext]
      cases known <;> rfl
    · obtain ⟨hanswer, hafter⟩ := hlater.ns front answer before after rest hrest
      refine ⟨hanswer, ?_⟩
      rw [hafter]
      simp [Exchange.isNamespace]
  field path answer before after hmem := by
    refine hlater.field path answer before after ?_
    simpa using hmem

theorem cons_field {path : List String} {value : Except ReadError (Option String)}
    (hvalue : request.cluster.Tells (["spec", "components", request.component] ++ path) value)
    (hlater : AsksOnce request told known calls later last) :
    AsksOnce request told known calls
      (.field path (value.mapError .resource) calls calls :: later) last where
  total := by
    rw [hlater.total]
    simp [Exchange.isNamespace]
  ns front answer before after rest hsplit := by
    rcases List.cons_eq_append_iff.mp hsplit with ⟨_, hhead⟩ | ⟨front, rfl, hrest⟩
    · cases hhead
    · exact hlater.ns front answer before after rest hrest
  field other answer before after hmem := by
    rcases List.mem_cons.mp hmem with hhead | hmem
    · cases hhead
      exact ⟨rfl, value, hvalue, rfl⟩
    · exact hlater.field other answer before after hmem

end AsksOnce

theorem Log.asksOnce {request : ComponentRequest} {told : Except ReadError String} {known : Bool}
    {calls last : Nat} {exchanges : List Exchange}
    (hlog : Log request told known calls exchanges last) :
    AsksOnce request told known calls exchanges last := by
  induction hlog with
  | done => exact .done
  | first _ ih => exact .cons_ns rfl ih
  | again _ ih => exact .cons_ns rfl ih
  | field hvalue _ ih => exact .cons_field hvalue ih

/-- A request that does not know the namespace yet calls the store once if it is asked for it. -/
theorem Inquiry.exists_asksOnce (request : ComponentRequest) (inquiry : Inquiry σ)
    {state : RunState (σ × ComponentDraft)} (hfresh : state.notes.2.ns? = none) :
    ∃ told, Platform.NamespaceIs request.upgrade.store told ∧
      AsksOnce request told false state.calls (inquiry.course request state).1
        (inquiry.course request state).2.calls := by
  have htold : Platform.NamespaceIs request.upgrade.store
      (Platform.applications request.upgrade.store) := Platform.namespaceIs_iff.mpr rfl
  exact ⟨_, htold, (inquiry.log_course htold hfresh).asksOnce⟩

/-! ### The calls of a pipeline -/

namespace ComponentPipeline

variable {pipeline : ComponentPipeline}

theorem Asks.unique {request other : ComponentRequest} (hasks : pipeline.Asks request)
    (hother : pipeline.Asks other) : request = other := by
  have hsame := hasks.opening_eq.symm.trans hother.opening_eq
  exact Except.ok.inj (Except.ok.inj hsame)

theorem Settles.not_asks {answer : Answer} (hsettles : pipeline.Settles answer)
    (request : ComponentRequest) : ¬ pipeline.Asks request := by
  intro hasks
  have hsame := hsettles.opening_eq.symm.trans hasks.opening_eq
  cases answer <;> cases hsame

variable (pipeline) (inquiry : ComponentRequest → Inquiry σ) (state : RunState σ)

/-- The run of the pipeline with a check that makes an inquiry of its request. -/
def inquire : Except Problem Diagnosis × RunState σ :=
  (pipeline.run fun request => (inquiry request).carryOut request).run.run state

/-- The state in which the check is asked, if the pipeline makes the request. -/
def asked (request : ComponentRequest) : RunState (σ × ComponentDraft) :=
  { state.counting 1 with notes := (state.notes, pipeline.draftIn request.state) }

/-- The exchanges of the check with its request, if the pipeline makes that one. -/
def exchanges (request : ComponentRequest) : List Exchange :=
  ((inquiry request).course request (pipeline.asked state request)).1

theorem calls_course (request : ComponentRequest) :
    ((inquiry request).course request (pipeline.asked state request)).2.calls =
      state.calls + 1 +
        if (pipeline.exchanges inquiry state request).any Exchange.isNamespace then 1 else 0 := by
  have hfresh : (pipeline.asked state request).notes.2.ns? = none := rfl
  obtain ⟨told, _, honce⟩ := (inquiry request).exists_asksOnce request hfresh
  exact honce.total

/-- The pipeline calls the store for the cluster, and once more exactly if its check asks for the
namespace. -/
theorem calls_inquire :
    (pipeline.inquire inquiry state).2.calls = state.calls + 1 ∧
        (∀ request, pipeline.Asks request →
          (pipeline.exchanges inquiry state request).any Exchange.isNamespace = false) ∨
      (pipeline.inquire inquiry state).2.calls = state.calls + 2 ∧
        ∃ request, pipeline.Asks request ∧
          (pipeline.exchanges inquiry state request).any Exchange.isNamespace = true := by
  obtain ⟨answer, after, record, hends⟩ := pipeline.exists_ends
    (fun request => (inquiry request).carryOut request) state
  rw [inquire, hends.run_eq]
  cases hends with
  | settled hsettles =>
      exact .inl ⟨rfl, fun request hasks => absurd hasks (hsettles.not_asks request)⟩
  | @asked request answer inner hasks hrun =>
      have hinner := (inquiry request).carryOut_run request (pipeline.asked state request)
      have hcalls := pipeline.calls_course inquiry state request
      rw [← hinner, asked, hrun] at hcalls
      cases hany : (pipeline.exchanges inquiry state request).any Exchange.isNamespace with
      | false =>
          rw [hany] at hcalls
          refine .inl ⟨hcalls, fun other hother => ?_⟩
          rwa [hother.unique hasks]
      | true =>
          rw [hany] at hcalls
          exact .inr ⟨hcalls, request, hasks, hany⟩

end ComponentPipeline

/-- A request answers every question for the namespace alike, with what the store says of it, and
calls the store for the first of them alone; its fields come from the cluster, without calls. A
component's pipeline makes two calls at most: for the cluster, and for the namespace if its check
asks for that. -/
theorem namespace_asked_once :
    (∀ (request : ComponentRequest) (inquiry : Inquiry σ) (state : RunState (σ × ComponentDraft)),
      state.notes.2.ns? = none →
      ((inquiry.carryOut request).run.run state).2 = (inquiry.course request state).2 ∧
      ∃ told, Platform.NamespaceIs request.upgrade.store told ∧
        AsksOnce request told false state.calls (inquiry.course request state).1
          (inquiry.course request state).2.calls) ∧
    ∀ (pipeline : ComponentPipeline) (inquiry : ComponentRequest → Inquiry σ) (state : RunState σ),
      ((pipeline.inquire inquiry state).2.calls = state.calls + 1 ∨
        (pipeline.inquire inquiry state).2.calls = state.calls + 2) ∧
      ((pipeline.inquire inquiry state).2.calls = state.calls + 2 ↔
        ∃ request, pipeline.Asks request ∧
          (pipeline.exchanges inquiry state request).any Exchange.isNamespace = true) := by
  constructor
  · intro request inquiry state hfresh
    exact ⟨inquiry.carryOut_run request state, inquiry.exists_asksOnce request hfresh⟩
  · intro pipeline inquiry state
    rcases pipeline.calls_inquire inquiry state with ⟨hcalls, hnone⟩ | ⟨hcalls, hsome⟩
    · refine ⟨.inl hcalls, fun htwo => by omega, ?_⟩
      rintro ⟨request, hasks, hany⟩
      rw [hnone request hasks] at hany
      cases hany
    · exact ⟨.inr hcalls, fun _ => hsome, fun _ => hcalls⟩

/-- A check that asks for the namespace, reads a field and asks again although the store fails costs
one call more than the cluster. Both of its questions get the failure. -/
theorem namespace_asked_once_failing :
    let cluster : Object := ⟨.obj [("apiVersion", .str "datasciencecluster.opendatahub.io/v1"),
      ("kind", .str "DataScienceCluster"), ("spec", .obj [("components", .obj [("kserve",
        .obj [("managementState", .str "Managed")])])])]⟩
    let slow : ReadError := ⟨.timeout, "slow"⟩
    let store : Store := { failures := [(ResourceType.dscInitialization.key, slow)] }
    let pipeline : ComponentPipeline := {
      identity := .of .component "kserve" "serverless-removal" "" ""
      component := "kserve"
      upgrade := { store := Store.insert cluster store, time := default } }
    let inquiry : ComponentRequest → Inquiry Unit := fun _ =>
      .asksNamespace fun _ => .asksField ["managementState"] fun _ =>
        .asksNamespace fun answer => .ends (answer.map fun _ => ())
    let request := pipeline.requestIn cluster "Managed"
    (pipeline.inquire inquiry { notes := () }).2.calls = 2 ∧
    ∀ answer before after,
      .ns answer before after ∈ pipeline.exchanges inquiry { notes := () } request →
      answer = .error (.resource slow) := by
  intro cluster slow store pipeline inquiry request
  obtain ⟨hasked, hcalls⟩ := namespace_asked_once (σ := Unit)
  have hkey : cluster.typeKey = ResourceType.dataScienceCluster.key := by decide +kernel
  have hlookup : [(ResourceType.dscInitialization.key, slow)].lookup
      ResourceType.dataScienceCluster.key = none := by
    decide
  have hcluster : pipeline.upgrade.store.Leads .dataScienceCluster cluster :=
    ⟨[], by simp [pipeline, store, Store.answer, Store.insert, Store.serves, hkey, hlookup]⟩
  have hasks : pipeline.Asks request := .intro hcluster (.told rfl) (.inl rfl)
  have hslow : Platform.NamespaceIs request.upgrade.store (.error slow) :=
    .refused ⟨rfl, by decide⟩
  refine ⟨(hcalls pipeline inquiry { notes := () }).2.mpr ⟨request, hasks, rfl⟩, ?_⟩
  intro answer before after hmem
  obtain ⟨_, told, htold, honce⟩ :=
    hasked request (inquiry request) (pipeline.asked { notes := () } request) rfl
  obtain ⟨front, later, hsplit⟩ := List.append_of_mem hmem
  rw [(honce.ns front answer before after later hsplit).1, ← htold.applications_eq,
    hslow.applications_eq]
  rfl

end UpgradeGate
