import UpgradeGate.Json.Basic
import UpgradeGate.Yaml.Node
import UpgradeGate.Yaml.Scalar

/-!
YAML texts read as JSON values.
-/

namespace UpgradeGate.Yaml

namespace Document

/-- How many collections may stand inside each other, aliases followed. -/
def greatestDepth : Nat := 128

def nullTag : String := "tag:yaml.org,2002:null"
def boolTag : String := "tag:yaml.org,2002:bool"
def intTag : String := "tag:yaml.org,2002:int"
def floatTag : String := "tag:yaml.org,2002:float"

/-- A whole number has a value if it fits 64 bits, with sign or without. -/
def wholeValue? (n : Int) : Option Json :=
  if -0x8000000000000000 ≤ n ∧ n ≤ 0xFFFFFFFFFFFFFFFF then some (.int n) else none

/-- A float that is infinite or not a number stands for null. -/
def floatValue (x : Option Decimal.Binary64) : Json := (x.map Json.float).getD .null

def plainValue? (text : String) : Option Json :=
  match Plain.ofString text with
  | .null => some .null
  | .bool b => some (.bool b)
  | .whole n => wholeValue? n
  | .float x => some (floatValue x)
  | .text => some (.str text)

/-- Tags of an application's own have no value. -/
def isOwnTag (tag : Option String) : Bool :=
  match tag with
  | some tag => tag.startsWith "!"
  | none => false

def scalarValue? (tag : Option String) (text : String) (plain : Bool) : Option Json :=
  match tag with
  | none => if plain then plainValue? text else some (.str text)
  | some tag =>
    if tag.startsWith "!" then none
    else if tag = boolTag then (Plain.bool? text).map Json.bool
    else if tag = intTag then (Plain.whole? text.toList).bind wholeValue?
    else if tag = floatTag then (Plain.float? text).map floatValue
    else if tag = nullTag then
      (if ["null", "Null", "NULL", "~"].contains text then some .null else none)
    else some (.str text)

/-- Counts the aliases that are followed, of which there may be 100 for each event. -/
abbrev Load := StateT Nat Option

def follow (document : Document) : Node → Load Node
  | .alias anchor => do
    modify (· + 1)
    if document.events * 100 < (← get) then failure
    match document.anchor? anchor with
    | some node => return node
    | none => failure
  | node => return node

/-- The name that a key of a mapping stands for: any scalar as it is written. -/
def keyName (document : Document) (key : Node) : Load String := do
  match ← document.follow key with
  | .scalar _ text _ => return text
  | _ => failure

def nodeValue (document : Document) : Nat → Node → Load Json
  | depth, node => do
    match ← document.follow node with
    | .scalar tag text plain => StateT.lift (scalarValue? tag text plain)
    | .sequence tag items =>
      match depth with
      | 0 => failure
      | depth + 1 =>
        if isOwnTag tag then failure
        return .arr (← items.mapM (nodeValue document depth))
    | .mapping tag entries =>
      match depth with
      | 0 => failure
      | depth + 1 =>
        if isOwnTag tag then failure
        let members ← entries.mapM fun (key, content) => do
          let name ← document.keyName key
          return (name, ← nodeValue document depth content)
        return .obj members
    | .alias _ => failure

end Document

/-- The value of the only document of a text; an empty text stands for null. -/
def load? (text : String) : Option Json := do
  let document ← Document.ofText? text
  match document.root with
  | none => return .null
  | some root => (document.nodeValue Document.greatestDepth root).run' 0

end UpgradeGate.Yaml
