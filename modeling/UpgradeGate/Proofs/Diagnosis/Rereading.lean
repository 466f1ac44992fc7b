import UpgradeGate.Diagnosis.Json
import UpgradeGate.Proofs.Instant
import UpgradeGate.Proofs.Json.Record

/-!
# Diagnoses read back

The text of a diagnosis is read as that diagnosis. What is left out of a text is what its absence
is read as: an empty map, an empty version, a namespace or a remediation that is not there, and the
impacted objects only where nothing lists them. A stray leap second is the one thing that a text
cannot tell, and no text that is read has one.
-/

namespace UpgradeGate

open Json (Document)
open Json.Document (Fields ofJson exists_record?)

theorem Dict.fits_of_mem_toJson? {dict : Dict String} {json : Json}
    (hjson : json ∈ dict.toJson?) : json.Fits 1 := by
  rw [toJson?] at hjson
  split at hjson
  · cases hjson
  · cases hjson
    apply Json.Fits.obj
    intro member hmember
    obtain ⟨entry, -, rfl⟩ := List.mem_map.mp hmember
    exact .str 0 entry.2

/-! ### Conditions -/

namespace Status

theorem word?_text (status : Status) :
    Document.word? (all.map fun s => (s.text, s)) (ofJson (.str status.text)) = some status := by
  cases status <;> decide

end Status

namespace Impact

theorem word?_text (impact : Impact) :
    Document.word? (all.map fun i => (i.text, i)) (ofJson (.str impact.text)) = some impact := by
  cases impact <;> decide

end Impact

namespace Condition

def parts (condition : Condition) : List (String × Option Json) :=
  [("type", some (.str condition.type)),
    ("status", some (.str condition.status.text)),
    ("reason", some (.str condition.reason)),
    ("message", some (.str condition.message)),
    ("lastTransitionTime", some (.str condition.time.text)),
    ("impact", some (.str condition.impact.text)),
    ("remediation", condition.remediation.map .str)]

theorem toJson_eq_ofParts (condition : Condition) :
    condition.toJson = .ofParts condition.parts := by
  simp [toJson, Json.ofParts, parts, Json.member?]

theorem fits_toJson (condition : Condition) : condition.toJson.Fits 1 := by
  rw [toJson_eq_ofParts]
  apply Json.fits_ofParts
  simp [parts, Json.Fits.str]

/-- What is read for a condition, which has the instant that is read for its time. -/
def settled (condition : Condition) : Condition :=
  { condition with time := condition.time.settled }

theorem toJson_settled (condition : Condition) : condition.settled.toJson = condition.toJson := by
  simp only [toJson, settled, Instant.text_settled]

theorem ofDocument?_toJson (condition : Condition) :
    ofDocument? (ofJson condition.toJson) = some condition.settled := by
  obtain ⟨fields, hrecord, hlookup⟩ := exists_record? fieldNames condition.parts rfl (by decide)
  simp only [parts, List.forall_mem_cons] at hlookup
  obtain ⟨htype, hstatus, hreason, hmessage, htime, himpact, hremediation, -⟩ := hlookup
  have htext : (Document.str? (ofJson (.str condition.time.text))).bind Instant.ofString? =
      some condition.time.settled := by
    rw [Document.str?_ofJson, Option.bind_some, Instant.ofString?_text]
  have htime : fields.required "lastTransitionTime" (fun d => d.str?.bind Instant.ofString?) =
      some condition.time.settled := Fields.required_of_lookup htime htext
  have hmessage : fields.withDefault "message" Document.str? "" = some condition.message :=
    Fields.withDefault_of_lookup_some hmessage (Document.str?_ofJson condition.message)
  have himpact : fields.withDefault "impact"
      (Document.word? (Impact.all.map fun i => (i.text, i))) .none = some condition.impact :=
    Fields.withDefault_of_lookup_some himpact condition.impact.word?_text
  have hremediation : fields.withDefault "remediation" (Document.optional? Document.str?) none =
      some condition.remediation := Fields.withDefault_optional? hremediation fun _ _ => rfl
  rw [toJson_eq_ofParts, ofDocument?, hrecord]
  simp only [Option.bind_eq_bind, Option.bind_some, Fields.required_str? htype,
    Fields.required_of_lookup hstatus condition.status.word?_text, Fields.required_str? hreason,
    hmessage, htime, himpact, hremediation]
  rfl

theorem not_isStray_of_ofDocument? {document : Document} {condition : Condition}
    (hread : ofDocument? document = some condition) : ¬ condition.time.IsStray := by
  simp only [ofDocument?, Option.bind_eq_bind, Option.bind_eq_some_iff] at hread
  obtain ⟨fields, _, _, _, _, _, _, _, _, _, time, htime, _, _, _, _, hcondition⟩ := hread
  cases hcondition
  obtain ⟨value, hvalue⟩ := Fields.exists_of_required htime
  obtain ⟨text, _, htext⟩ := Option.bind_eq_some_iff.mp hvalue
  exact Instant.not_isStray_of_ofString? htext

end Condition

namespace ImpactedObject

def parts (object : ImpactedObject) : List (String × Option Json) :=
  [("apiVersion", if object.apiVersion.isEmpty then none else some (.str object.apiVersion)),
    ("kind", some (.str object.kind)),
    ("namespace", object.ns?.map .str),
    ("name", some (.str object.name)),
    ("annotations", object.annotations.toJson?)]

theorem toJson_eq_ofParts (object : ImpactedObject) : object.toJson = .ofParts object.parts := by
  simp [toJson, Json.ofParts, parts, Json.member?]

theorem fits_toJson (object : ImpactedObject) : object.toJson.Fits 2 := by
  rw [toJson_eq_ofParts]
  apply Json.fits_ofParts
  have hannotations (json : Json) (hjson : object.annotations.toJson? = some json) :
      json.Fits 1 := Dict.fits_of_mem_toJson? hjson
  simpa [parts, Json.Fits.str] using hannotations

theorem ofDocument?_toJson (object : ImpactedObject) :
    ofDocument? (ofJson object.toJson) = some object := by
  obtain ⟨fields, hrecord, hlookup⟩ := exists_record? fieldNames object.parts rfl (by decide)
  simp only [parts, List.forall_mem_cons] at hlookup
  obtain ⟨hversion, hkind, hns, hname, hannotations, -⟩ := hlookup
  have hversion : fields.withDefault "apiVersion" Document.str? "" = some object.apiVersion := by
    apply Fields.withDefault_of_lookup hversion
    · split
      · rintro json ⟨⟩
      · rintro json ⟨⟩
        exact Document.str?_ofJson object.apiVersion
    · split
      · next hempty => exact fun _ => (String.isEmpty_iff.mp hempty).symm
      · rintro ⟨⟩
  have hns : fields.withDefault "namespace" (Document.optional? Document.str?) none =
      some object.ns? := Fields.withDefault_optional? hns fun _ _ => rfl
  rw [toJson_eq_ofParts, ofDocument?, hrecord]
  simp only [Option.bind_eq_bind, Option.bind_some, hversion, Fields.required_str? hkind,
    hns, Fields.required_str? hname, Fields.withDefault_strings? hannotations]
  rfl

end ImpactedObject

namespace Diagnosis

def parts (diagnosis : Diagnosis) : List (String × Option Json) :=
  [("group", some (.str diagnosis.group)),
    ("kind", some (.str diagnosis.kind)),
    ("name", some (.str diagnosis.name)),
    ("spec", some (.obj [("description", .str diagnosis.description)])),
    ("annotations", diagnosis.annotations.toJson?),
    ("status", some (.obj [("conditions", .arr (diagnosis.conditions.map Condition.toJson))])),
    ("impactedObjects",
      diagnosis.impacted?.map fun objects => .arr (objects.map ImpactedObject.toJson))]

theorem toJson_eq_ofParts (diagnosis : Diagnosis) :
    diagnosis.toJson = .ofParts diagnosis.parts := by
  simp [toJson, members, Json.ofParts, parts, Json.member?]

/-! ### Stray times -/

/-- A condition is stamped with a leap second within a minute, which neither a clock shows nor a
text names. -/
def HasStrayTime (diagnosis : Diagnosis) : Prop :=
  ∃ condition ∈ diagnosis.conditions, condition.time.IsStray

instance (diagnosis : Diagnosis) : Decidable diagnosis.HasStrayTime :=
  inferInstanceAs (Decidable (∃ condition ∈ diagnosis.conditions, condition.time.IsStray))

/-- What is read for a diagnosis. -/
def settled (diagnosis : Diagnosis) : Diagnosis :=
  { diagnosis with conditions := diagnosis.conditions.map Condition.settled }

theorem settled_eq_self_iff {diagnosis : Diagnosis} :
    diagnosis.settled = diagnosis ↔ ¬ diagnosis.HasStrayTime := by
  have hconditions : diagnosis.settled = diagnosis ↔
      diagnosis.conditions.map Condition.settled = diagnosis.conditions.map id := by
    rw [List.map_id]
    exact ⟨congrArg Diagnosis.conditions, fun hsame => congrArg (fun conditions =>
      { diagnosis with conditions }) hsame⟩
  have htime (condition : Condition) :
      condition.settled = condition ↔ ¬ condition.time.IsStray := by
    rw [← Instant.settled_eq_self_iff]
    exact ⟨congrArg Condition.time, fun hsame => congrArg (fun time =>
      { condition with time }) hsame⟩
  rw [hconditions, List.map_inj_left]
  simp only [id, htime, HasStrayTime, not_exists, not_and]

theorem toJson_settled (diagnosis : Diagnosis) : diagnosis.settled.toJson = diagnosis.toJson := by
  have hconditions : (diagnosis.conditions.map Condition.settled).map Condition.toJson =
      diagnosis.conditions.map Condition.toJson := by
    rw [List.map_map]
    exact List.map_congr_left fun condition _ => condition.toJson_settled
  simp only [toJson, members, settled, hconditions]

theorem conditionFlaw?_map_settled (index : Nat) (conditions : List Condition) :
    conditionFlaw? index (conditions.map Condition.settled) = conditionFlaw? index conditions := by
  induction conditions generalizing index with
  | nil => rfl
  | cons condition conditions ih =>
      rw [List.map_cons, conditionFlaw?, conditionFlaw?, ih]
      rfl

theorem flaw?_settled (diagnosis : Diagnosis) : diagnosis.settled.flaw? = diagnosis.flaw? := by
  simp only [flaw?, settled, List.isEmpty_map, conditionFlaw?_map_settled]

/-! ### Texts -/

theorem specOfDocument?_description (description : String) :
    specOfDocument? (ofJson (.obj [("description", .str description)])) = some description := rfl

theorem statusOfDocument?_conditions (conditions : List Condition) :
    statusOfDocument? (ofJson (.obj [("conditions", .arr (conditions.map Condition.toJson))])) =
      some (conditions.map Condition.settled) :=
  Document.list?_map fun condition _ => condition.ofDocument?_toJson

theorem fits_of_mem_parts (diagnosis : Diagnosis) :
    ∀ part ∈ diagnosis.parts, ∀ json ∈ part.2, json.Fits 3 := by
  have hspec : (Json.obj [("description", .str diagnosis.description)]).Fits 3 :=
    .obj (List.forall_mem_singleton.mpr (.str 2 diagnosis.description))
  have hannotations (json : Json) (hjson : diagnosis.annotations.toJson? = some json) :
      json.Fits 3 := (Dict.fits_of_mem_toJson? hjson).mono (by decide)
  have hconditions : (Json.arr (diagnosis.conditions.map Condition.toJson)).Fits 2 :=
    .arr (List.forall_mem_map.mpr fun condition _ => condition.fits_toJson)
  have hstatus : (Json.obj
      [("conditions", .arr (diagnosis.conditions.map Condition.toJson))]).Fits 3 :=
    .obj (List.forall_mem_singleton.mpr hconditions)
  have himpacted (objects : List ImpactedObject) (_ : diagnosis.impacted? = some objects) :
      (Json.arr (objects.map ImpactedObject.toJson)).Fits 3 :=
    .arr (List.forall_mem_map.mpr fun object _ => object.fits_toJson)
  simpa [parts, Json.Fits.str] using ⟨hspec, hannotations, hstatus, himpacted⟩

theorem fits_toJson (diagnosis : Diagnosis) : diagnosis.toJson.Fits 4 := by
  rw [toJson_eq_ofParts]
  exact Json.fits_ofParts diagnosis.fits_of_mem_parts

/-- What fields hold under the names of a diagnosis is read as the diagnosis. -/
theorem ofDocument?_of_lookup {document : Document} {fields : Fields} {diagnosis : Diagnosis}
    (hrecord : document.record? fieldNames = some fields)
    (hlookup : ∀ part ∈ diagnosis.parts, fields.present.lookup part.1 = part.2.map ofJson) :
    ofDocument? document = some diagnosis.settled := by
  simp only [parts, List.forall_mem_cons] at hlookup
  obtain ⟨hgroup, hkind, hname, hspec, hannotations, hstatus, himpacted, -⟩ := hlookup
  have hspec : fields.withDefault "spec" specOfDocument? "" = some diagnosis.description :=
    Fields.withDefault_of_lookup_some hspec (specOfDocument?_description diagnosis.description)
  have hstatus : fields.withDefault "status" statusOfDocument? [] =
      some (diagnosis.conditions.map Condition.settled) :=
    Fields.withDefault_of_lookup_some hstatus (statusOfDocument?_conditions diagnosis.conditions)
  have himpacted : fields.withDefault "impactedObjects"
      (Document.optional? (Document.list? ImpactedObject.ofDocument?)) none =
        some diagnosis.impacted? :=
    Fields.withDefault_optional? himpacted fun objects _ => by
      have hobjects := Document.list?_map fun (object : ImpactedObject) (_ : object ∈ objects) =>
        object.ofDocument?_toJson
      rw [List.map_id'] at hobjects
      exact congrArg (Option.map some) hobjects
  rw [ofDocument?, hrecord]
  simp only [Option.bind_eq_bind, Option.bind_some, Fields.required_str? hgroup,
    Fields.required_str? hkind, Fields.required_str? hname, hspec,
    Fields.withDefault_strings? hannotations, hstatus, himpacted]
  rfl

theorem ofDocument?_toJson (diagnosis : Diagnosis) :
    ofDocument? (ofJson diagnosis.toJson) = some diagnosis.settled := by
  obtain ⟨fields, hrecord, hlookup⟩ := exists_record? fieldNames diagnosis.parts rfl (by decide)
  rw [toJson_eq_ofParts]
  exact ofDocument?_of_lookup hrecord hlookup

theorem ofText?_compact (diagnosis : Diagnosis) :
    ofText? diagnosis.toJson.compact = some diagnosis.settled := by
  rw [ofText?, Document.parse?_compact diagnosis.fits_toJson.isFloatless, Option.bind_some,
    ofDocument?_toJson]

theorem not_isStray_of_statusOfDocument? {document : Document} {conditions : List Condition}
    (hread : statusOfDocument? document = some conditions) :
    ∀ condition ∈ conditions, ¬ condition.time.IsStray := by
  intro condition hcondition
  obtain ⟨fields, _, hfields⟩ := Option.bind_eq_some_iff.mp hread
  rcases Fields.eq_or_exists_of_withDefault hfields with rfl | ⟨list, hlist⟩
  · cases hcondition
  · obtain ⟨item, hitem⟩ := Document.exists_of_mem_of_list? hlist hcondition
    exact Condition.not_isStray_of_ofDocument? hitem

theorem not_hasStrayTime_of_ofDocument? {document : Document} {diagnosis : Diagnosis}
    (hread : ofDocument? document = some diagnosis) : ¬ diagnosis.HasStrayTime := by
  simp only [ofDocument?, Option.bind_eq_bind, Option.bind_eq_some_iff] at hread
  obtain ⟨fields, _, _, _, _, _, _, _, _, _, _, _, conditions, hstatus, _, _, hdiagnosis⟩ := hread
  cases hdiagnosis
  rintro ⟨condition, hcondition, hstray⟩
  rcases Fields.eq_or_exists_of_withDefault hstatus with rfl | ⟨status, hread⟩
  · cases hcondition
  · exact not_isStray_of_statusOfDocument? hread condition hcondition hstray

theorem not_hasStrayTime_of_ofText? {text : String} {diagnosis : Diagnosis}
    (hread : ofText? text = some diagnosis) : ¬ diagnosis.HasStrayTime := by
  obtain ⟨document, _, hread⟩ := Option.bind_eq_some_iff.mp hread
  exact not_hasStrayTime_of_ofDocument? hread

/-- A condition as the list of its fields, at a time that is two hours ahead. -/
def aheadText : String :=
  "\x7b\"group\":\"a\",\"kind\":\"b\",\"name\":\"\\u00e9\"," ++
    "\"status\":[[[\"c\",\"True\",\"d\",\"\",\"2024-05-01T01:30:15.5+02:00\"]]]," ++
    "\"impactedObjects\":[]\x7d"

def ahead : Diagnosis where
  group := "a"
  kind := "b"
  name := "é"
  conditions := [{
    type := "c"
    status := .holds
    reason := "d"
    message := ""
    time := ⟨⟨2024, 4, 30⟩, 23, 30, 15, 500000000, by decide, by decide, by decide, by decide,
      by decide⟩
    impact := .none }]
  impacted? := some []

end Diagnosis

end UpgradeGate
