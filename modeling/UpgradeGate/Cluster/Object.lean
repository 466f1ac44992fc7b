import UpgradeGate.Diagnosis.Json
import UpgradeGate.Json.Basic

/-!
The types of resources that a cluster serves, its objects and their headers, and why reading them
may fail. An object is any JSON value; what it lacks reads as absent or empty.
-/

namespace UpgradeGate

/-! ### Types -/

structure ResourceType where
  group : String
  version : String
  kind : String
  plural : String
deriving DecidableEq, Repr, Inhabited

namespace ResourceType

/-- `group/version`, or the version alone for the core group. -/
def apiVersion (type : ResourceType) : String :=
  if type.group.isEmpty then type.version else type.group ++ "/" ++ type.version

/-- `plural.group`, or the plural alone for the core group. -/
def text (type : ResourceType) : String :=
  if type.group.isEmpty then type.plural else type.plural ++ "." ++ type.group

def dataScienceCluster : ResourceType :=
  ⟨"datasciencecluster.opendatahub.io", "v1", "DataScienceCluster", "datascienceclusters"⟩

def dscInitialization : ResourceType :=
  ⟨"dscinitialization.opendatahub.io", "v1", "DSCInitialization", "dscinitializations"⟩

def inferenceService : ResourceType :=
  ⟨"serving.kserve.io", "v1beta1", "InferenceService", "inferenceservices"⟩

def servingRuntime : ResourceType :=
  ⟨"serving.kserve.io", "v1alpha1", "ServingRuntime", "servingruntimes"⟩

def notebook : ResourceType := ⟨"kubeflow.org", "v1", "Notebook", "notebooks"⟩

def serviceMeshControlPlane : ResourceType :=
  ⟨"maistra.io", "v2", "ServiceMeshControlPlane", "servicemeshcontrolplanes"⟩

def configMap : ResourceType := ⟨"", "v1", "ConfigMap", "configmaps"⟩

/-- The types that a snapshot serves also when it holds no objects of them. -/
def wellKnown : List ResourceType :=
  [dataScienceCluster, dscInitialization, inferenceService, servingRuntime, notebook,
    serviceMeshControlPlane, configMap]

end ResourceType

/-! ### Errors -/

namespace ReadError

inductive Kind where
  | notFound
  /-- The cluster does not serve resources of the type. -/
  | unknownType
  | forbidden
  | unauthorized
  | timeout
  | unavailable
  /-- A field of an object has another shape than expected. -/
  | invalid
  | other
deriving DecidableEq, Repr

def Kind.text : Kind → String
  | notFound => "not found"
  | unknownType => "unknown resource type"
  | forbidden => "forbidden"
  | unauthorized => "unauthorized"
  | timeout => "timeout"
  | unavailable => "service unavailable"
  | invalid => "invalid"
  | other => "error"

end ReadError

structure ReadError where
  kind : ReadError.Kind
  detail : String
deriving DecidableEq, Repr

namespace ReadError

def message (error : ReadError) : String := error.kind.text ++ ": " ++ error.detail

def ofNotFound (type : ResourceType) (name : String) (ns? : Option String) : ReadError :=
  let place := match ns? with
    | some ns => ns ++ "/" ++ name
    | none => name
  ⟨.notFound, type.kind ++ " \"" ++ place ++ "\" not found"⟩

def ofUnknownType (type : ResourceType) : ReadError :=
  ⟨.unknownType,
    "no matches for kind \"" ++ type.kind ++ "\" in version \"" ++ type.apiVersion ++ "\""⟩

def ofField (path expected : String) : ReadError :=
  ⟨.invalid, "field " ++ path ++ " is not a " ++ expected⟩

def isNotFound (error : ReadError) : Bool := error.kind == .notFound

def isUnknownType (error : ReadError) : Bool := error.kind == .unknownType

end ReadError

/-! ### Objects -/

/-- What says which object is meant and how it is annotated. -/
structure Header where
  apiVersion : String := ""
  kind : String := ""
  name : String
  ns? : Option String := none
  annotations : Dict String := ∅
deriving DecidableEq, Inhabited

def Header.annotationValue? (key : String) (header : Header) : Option String :=
  header.annotations.find? key

structure Object where
  value : Json
deriving Inhabited

namespace Object

def textAt? (path : List String) (object : Object) : Option String :=
  (object.value.at? path).bind Json.str?

def apiVersion (object : Object) : String := (object.textAt? ["apiVersion"]).getD ""

def kind (object : Object) : String := (object.textAt? ["kind"]).getD ""

def name (object : Object) : String := (object.textAt? ["metadata", "name"]).getD ""

/-- An empty namespace is none. -/
def ns? (object : Object) : Option String :=
  (object.textAt? ["metadata", "namespace"]).filter fun ns => !ns.isEmpty

/-- The annotations that are texts. -/
def annotations (object : Object) : Dict String :=
  match object.value.at? ["metadata", "annotations"] with
  | none => ∅
  | some json => json.members.filterMap fun _ value => value.str?

def annotationValue? (key : String) (object : Object) : Option String :=
  object.textAt? ["metadata", "annotations", key]

/-- The text at the end of a path. A null reads as absent, and any other value is an error. -/
def text? (path : List String) (object : Object) : Except ReadError (Option String) :=
  match object.value.at? path with
  | none | some .null => .ok none
  | some (.str text) => .ok (some text)
  | some _ => .error (.ofField (".".intercalate path) "string")

def header (object : Object) : Header where
  apiVersion := object.apiVersion
  kind := object.kind
  name := object.name
  ns? := object.ns?
  annotations := object.annotations

end Object

/-! ### Headers as JSON, written and read -/

namespace Header

open Json (Document)

def toJson (header : Header) : Json :=
  .obj ([("apiVersion", .str header.apiVersion),
    ("kind", .str header.kind),
    ("name", .str header.name)] ++
    Json.member? "namespace" (header.ns?.map .str) ++
    Json.member? "annotations" header.annotations.toJson?)

def fieldNames : List String := ["apiVersion", "kind", "name", "namespace", "annotations"]

def ofDocument? (document : Document) : Option Header := do
  let fields ← document.record? fieldNames
  return {
    apiVersion := ← fields.withDefault "apiVersion" Document.str? ""
    kind := ← fields.withDefault "kind" Document.str? ""
    name := ← fields.required "name" Document.str?
    ns? := ← fields.withDefault "namespace" (Document.optional? Document.str?) none
    annotations := ← fields.withDefault "annotations" Document.strings? ∅ }

def ofText? (text : String) : Option Header := (Document.parse? text).bind ofDocument?

end Header

end UpgradeGate
