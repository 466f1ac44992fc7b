import UpgradeGate.Proofs.Diagnosis.Rereading
import UpgradeGate.Proofs.Run.Exit
import UpgradeGate.Report

/-!
# Reports read back

A report in JSON tells all that there is to tell of a run: whoever reads its text finds the counts,
and for each execution, in their order, the check, the problem if there is one, and the diagnosis as
it is, up to stray leap seconds. That an entry has members of its own beside those of the diagnosis
gets in the way of neither.
-/

namespace UpgradeGate

open Json (Document)
open Json.Document (ofJson named_ofParts)

variable {σ : Type}

/-! ### Summaries -/

namespace Summary

def parts (summary : Summary) : List (String × Option Json) :=
  [("total", some (.int summary.total)),
    ("passed", some (.int summary.passed)),
    ("advisory", some (.int summary.advisory)),
    ("blocking", some (.int summary.blocking)),
    ("errors", some (.int summary.errors))]

theorem toJson_eq_ofParts (summary : Summary) : summary.toJson = .ofParts summary.parts := rfl

/-- Each of the counts stands in a document, once and in digits. -/
structure IsToldBy (summary : Summary) (document : Document) : Prop where
  total : (document.named "total").map Document.natural? = [some summary.total]
  passed : (document.named "passed").map Document.natural? = [some summary.passed]
  advisory : (document.named "advisory").map Document.natural? = [some summary.advisory]
  blocking : (document.named "blocking").map Document.natural? = [some summary.blocking]
  errors : (document.named "errors").map Document.natural? = [some summary.errors]

theorem isToldBy_toJson (summary : Summary) : summary.IsToldBy (ofJson summary.toJson) := by
  have hnodup : (summary.parts.map Prod.fst).Nodup := by
    change ["total", "passed", "advisory", "blocking", "errors"].Nodup
    decide
  have hcount {name : String} {n : Nat} (hpart : (name, some (Json.int n)) ∈ summary.parts) :
      ((ofJson summary.toJson).named name).map Document.natural? = [some n] := by
    rw [toJson_eq_ofParts, named_ofParts hnodup hpart, Option.map_some, Option.toList_some,
      List.map_singleton, Document.natural?_ofJson]
  constructor <;> exact hcount (by simp [parts])

theorem isFloatless_toJson (summary : Summary) : summary.toJson.IsFloatless := by
  apply Json.IsFloatless.obj
  simp [Json.IsFloatless.int]

/-- No count exceeds that of all executions. -/
theorem fits_toJson {executions : List (Execution σ)}
    (hlength : executions.length ≤ Json.Numeral.greatestWhole) :
    (ofExecutions executions).toJson.Fits 1 := by
  have hfits {n : Nat} (hn : n ≤ executions.length) : (Json.int n).Fits 0 := by
    have hwhole : n ≤ Json.Numeral.greatestWhole := Nat.le_trans hn hlength
    exact .int 0 (by omega) (by exact_mod_cast hwhole)
  rw [toJson_eq_ofParts, ofExecutions_eq]
  apply Json.fits_ofParts
  simp [parts, hfits, List.countP_le_length]

end Summary

/-! ### Entries -/

namespace Diagnosis

theorem map_fst_parts (diagnosis : Diagnosis) : diagnosis.parts.map Prod.fst = fieldNames := rfl

end Diagnosis

namespace Execution

/-- The parts of an entry, which are those of the diagnosis between two of its own. -/
def parts (execution : Execution σ) : List (String × Option Json) :=
  ("check", some (.str execution.check.id)) :: execution.diagnosis.parts ++
    [("error", execution.problem?.map fun problem => .str problem.message)]

theorem toJson_eq_ofParts (execution : Execution σ) :
    execution.toJson = .ofParts execution.parts := by
  have hmembers : execution.diagnosis.members =
      execution.diagnosis.parts.flatMap fun part => Json.member? part.1 part.2 :=
    Json.obj.inj execution.diagnosis.toJson_eq_ofParts
  rw [toJson, hmembers, Json.ofParts, parts, List.flatMap_append, List.flatMap_cons,
    List.flatMap_singleton]
  rfl

theorem nodup_map_fst_parts (execution : Execution σ) :
    (execution.parts.map Prod.fst).Nodup := by
  change ("check" :: Diagnosis.fieldNames ++ ["error"]).Nodup
  decide

theorem mem_parts_of_mem_diagnosis {execution : Execution σ} {part : String × Option Json}
    (hpart : part ∈ execution.diagnosis.parts) : part ∈ execution.parts :=
  List.mem_append_left _ (List.mem_cons_of_mem _ hpart)

/-- What is to be found in an entry of a report: who the check is, what went wrong if anything did,
each of it once, and the diagnosis, of which only stray times are settled. -/
structure IsToldBy (execution : Execution σ) (entry : Document) : Prop where
  check : entry.named "check" = [.str (some execution.check.id)]
  error : entry.named "error" =
    (execution.problem?.map fun problem => .str (some problem.message)).toList
  settled : Diagnosis.ofDocument? entry = some execution.diagnosis.settled
  diagnosis : ¬ execution.diagnosis.HasStrayTime →
    Diagnosis.ofDocument? entry = some execution.diagnosis

/-- The members that are not the diagnosis's own are none of its fields. -/
theorem ofDocument?_toJson (execution : Execution σ) :
    Diagnosis.ofDocument? (ofJson execution.toJson) = some execution.diagnosis.settled := by
  obtain ⟨present, hfields, hshows⟩ :=
    Document.exists_fieldsOf Diagnosis.fieldNames execution.nodup_map_fst_parts
  have hrecord : (ofJson execution.toJson).record? Diagnosis.fieldNames = some ⟨present⟩ := by
    rw [toJson_eq_ofParts, Json.ofParts, ofJson, Document.record?, hfields]
    rfl
  refine Diagnosis.ofDocument?_of_lookup hrecord fun part hpart => ?_
  refine hshows.lookup part (mem_parts_of_mem_diagnosis hpart) ?_
  rw [← execution.diagnosis.map_fst_parts]
  exact List.mem_map_of_mem hpart

theorem isToldBy_toJson (execution : Execution σ) :
    execution.IsToldBy (ofJson execution.toJson) where
  check := by
    rw [toJson_eq_ofParts, named_ofParts execution.nodup_map_fst_parts List.mem_cons_self]
    rfl
  error := by
    rw [toJson_eq_ofParts, named_ofParts execution.nodup_map_fst_parts
      (List.mem_append_right _ (List.mem_singleton_self _)), Option.map_map]
    rfl
  settled := execution.ofDocument?_toJson
  diagnosis := fun hstray =>
    execution.ofDocument?_toJson.trans (congrArg some (Diagnosis.settled_eq_self_iff.mpr hstray))

theorem fits_toJson (execution : Execution σ) : execution.toJson.Fits 4 := by
  rw [toJson_eq_ofParts]
  apply Json.fits_ofParts
  intro part hpart json hjson
  rw [parts, List.cons_append, List.mem_cons, List.mem_append, List.mem_singleton] at hpart
  rcases hpart with rfl | hpart | rfl
  · cases hjson
    exact .str 3 execution.check.id
  · exact execution.diagnosis.fits_of_mem_parts part hpart json hjson
  · obtain ⟨problem, -, rfl⟩ := Option.map_eq_some_iff.mp hjson
    exact .str 3 problem.message

end Execution

/-! ### Reports -/

namespace Report

def parts (executions : List (Execution σ)) : List (String × Option Json) :=
  [("summary", some (Summary.ofExecutions executions).toJson),
    ("results", some (.arr (executions.map Execution.toJson)))]

theorem document_eq_ofParts (executions : List (Execution σ)) :
    document executions = .ofParts (parts executions) := rfl

theorem fits_results (executions : List (Execution σ)) :
    (Json.arr (executions.map Execution.toJson)).Fits 5 :=
  .arr (List.forall_mem_map.mpr fun execution _ => execution.fits_toJson)

theorem isFloatless_document (executions : List (Execution σ)) :
    (document executions).IsFloatless := by
  apply Json.IsFloatless.obj
  simpa using ⟨(Summary.ofExecutions executions).isFloatless_toJson,
    (fits_results executions).isFloatless⟩

theorem fits_document {executions : List (Execution σ)}
    (hlength : executions.length ≤ Json.Numeral.greatestWhole) :
    (document executions).Fits 6 := by
  rw [document_eq_ofParts]
  apply Json.fits_ofParts
  simpa [parts] using ⟨(Summary.fits_toJson hlength).mono (by decide), fits_results executions⟩

/-- An execution that carries a problem, with an id and a message that have to be escaped. -/
def escaped : Execution Unit where
  check :=
    { (default : Check Unit) with identity := { (default : CheckIdentity) with id := "\"\\" } }
  diagnosis := Diagnosis.ahead
  problem? := some (.check "\x00\n")

end Report

end UpgradeGate
