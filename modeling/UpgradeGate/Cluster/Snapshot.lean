import UpgradeGate.Cluster.Store
import UpgradeGate.Json.Document
import UpgradeGate.Problem
import UpgradeGate.Text.Basic
import UpgradeGate.Yaml.Loading

/-!
Snapshots of a cluster: a JSON or YAML document with a list of objects.
-/

namespace UpgradeGate.Snapshot

inductive Format where
  | json
  | yaml
deriving DecidableEq, Repr

/-- The items of a document. An object without `items` is itself the only item. -/
def items : Json → Except Problem (List Json)
  | .arr items => .ok items
  | .obj members =>
    match (Json.obj members).get? "items" with
    | some (.arr items) => .ok items
    | some _ => .error (.configuration .itemsNotList)
    | none => .ok [.obj members]
  | _ => .error (.configuration .notObjects)

/-- Whether an item says what it is. -/
def isIdentified (item : Json) : Bool :=
  ((item.get? "apiVersion").map Json.isStr == some true) &&
    ((item.get? "kind").map Json.isStr == some true)

/-- The store that the items of a document come into: it serves the well-known types. -/
def bareStore : Store :=
  ResourceType.wellKnown.foldl (fun store type => store.register type) {}

/-- Inserts an item, which stands at an index of the document, unless it does not say what it is. -/
def insertItem (store : Store) (item : Json × Nat) : Except Problem Store :=
  if isIdentified item.1 then .ok (store.insert ⟨item.1⟩)
  else .error (.configuration (.unidentifiedItem item.2))

def ofDocument (document : Json) : Except Problem Store := do
  let items ← items document
  items.zipIdx.foldlM insertItem bareStore

def ofText (messages : ParserMessages) (format : Format) (text : String) : Except Problem Store :=
  match format with
  | .json =>
    match Json.parse? text with
    | some document => ofDocument document
    | none => .error (.jsonText (messages.json text))
  | .yaml =>
    match Yaml.load? text with
    | some document => ofDocument document
    | none => .error (.yamlText (messages.yaml text))

/-- What follows the last dot of a file's name, unless the name starts with that dot. -/
def extension? (path : String) : Option String := do
  let components := (Text.split '/' path.toList).filter fun c => !c.isEmpty && c ≠ ['.']
  let name ← components.getLast?
  if name = ['.', '.'] then none
  let (stem, extension) ← Text.splitLast? '.' name
  if stem.isEmpty then none else some (String.ofList extension)

def formatOf (path : String) : Format :=
  match extension? path with
  | some extension =>
    if Text.isWordIgnoringAsciiCase "yaml" extension ||
      Text.isWordIgnoringAsciiCase "yml" extension then .yaml else .json
  | none => .json

def load (messages : ParserMessages) (read : String → Option String) (path : String) :
    Except Problem Store :=
  match read path with
  | some text => ofText messages (formatOf path) text
  | none => .error (.unreadableFile path)

end UpgradeGate.Snapshot
