import UpgradeGate.Diagnosis.Basic
import UpgradeGate.Json.Basic
import UpgradeGate.Json.Document

/-!
Diagnoses as JSON, written and read.
-/

namespace UpgradeGate

open Json (Document)

/-- A member that is left out if there is nothing to write. -/
def Json.member? (name : String) (value : Option Json) : List (String × Json) :=
  match value with
  | none => []
  | some value => [(name, value)]

def Dict.toJson (dict : Dict String) : Json :=
  .obj (dict.entries.map fun entry => (entry.1, .str entry.2))

def Dict.toJson? (dict : Dict String) : Option Json :=
  if dict.isEmpty then none else some dict.toJson

namespace Condition

def toJson (condition : Condition) : Json :=
  .obj ([("type", .str condition.type),
    ("status", .str condition.status.text),
    ("reason", .str condition.reason),
    ("message", .str condition.message),
    ("lastTransitionTime", .str condition.time.text),
    ("impact", .str condition.impact.text)] ++
    Json.member? "remediation" (condition.remediation.map .str))

def fieldNames : List String :=
  ["type", "status", "reason", "message", "lastTransitionTime", "impact", "remediation"]

def ofDocument? (document : Document) : Option Condition := do
  let fields ← document.record? fieldNames
  return {
    type := ← fields.required "type" Document.str?
    status := ← fields.required "status" (Document.word? (Status.all.map fun s => (s.text, s)))
    reason := ← fields.required "reason" Document.str?
    message := ← fields.withDefault "message" Document.str? ""
    time := ← fields.required "lastTransitionTime" fun d => d.str?.bind Instant.ofString?
    impact := ← fields.withDefault "impact"
      (Document.word? (Impact.all.map fun i => (i.text, i))) .none
    remediation := ← fields.withDefault "remediation" (Document.optional? Document.str?) none }

end Condition

namespace ImpactedObject

def toJson (object : ImpactedObject) : Json :=
  .obj (Json.member? "apiVersion"
      (if object.apiVersion.isEmpty then none else some (.str object.apiVersion)) ++
    [("kind", .str object.kind)] ++
    Json.member? "namespace" (object.ns?.map .str) ++
    [("name", .str object.name)] ++
    Json.member? "annotations" object.annotations.toJson?)

def fieldNames : List String := ["apiVersion", "kind", "namespace", "name", "annotations"]

def ofDocument? (document : Document) : Option ImpactedObject := do
  let fields ← document.record? fieldNames
  return {
    apiVersion := ← fields.withDefault "apiVersion" Document.str? ""
    kind := ← fields.required "kind" Document.str?
    ns? := ← fields.withDefault "namespace" (Document.optional? Document.str?) none
    name := ← fields.required "name" Document.str?
    annotations := ← fields.withDefault "annotations" Document.strings? ∅ }

end ImpactedObject

namespace Diagnosis

def members (diagnosis : Diagnosis) : List (String × Json) :=
  [("group", .str diagnosis.group),
    ("kind", .str diagnosis.kind),
    ("name", .str diagnosis.name),
    ("spec", .obj [("description", .str diagnosis.description)])] ++
  Json.member? "annotations" diagnosis.annotations.toJson? ++
  [("status", .obj [("conditions", .arr (diagnosis.conditions.map Condition.toJson))])] ++
  Json.member? "impactedObjects"
    (diagnosis.impacted?.map fun objects => .arr (objects.map ImpactedObject.toJson))

def toJson (diagnosis : Diagnosis) : Json := .obj diagnosis.members

def fieldNames : List String :=
  ["group", "kind", "name", "spec", "annotations", "status", "impactedObjects"]

def specOfDocument? (document : Document) : Option String := do
  (← document.record? ["description"]).withDefault "description" Document.str? ""

def statusOfDocument? (document : Document) : Option (List Condition) := do
  (← document.record? ["conditions"]).withDefault "conditions"
    (Document.list? Condition.ofDocument?) []

def ofDocument? (document : Document) : Option Diagnosis := do
  let fields ← document.record? fieldNames
  return {
    group := ← fields.required "group" Document.str?
    kind := ← fields.required "kind" Document.str?
    name := ← fields.required "name" Document.str?
    description := ← fields.withDefault "spec" specOfDocument? ""
    annotations := ← fields.withDefault "annotations" Document.strings? ∅
    conditions := ← fields.withDefault "status" statusOfDocument? []
    impacted? := ← fields.withDefault "impactedObjects"
      (Document.optional? (Document.list? ImpactedObject.ofDocument?)) none }

def ofText? (text : String) : Option Diagnosis := (Document.parse? text).bind ofDocument?

end Diagnosis

end UpgradeGate
