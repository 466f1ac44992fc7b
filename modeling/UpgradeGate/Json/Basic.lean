import UpgradeGate.Decimal
import UpgradeGate.Dict

/-!
JSON values, the ways to look into them, and their texts, in one line and indented. Members are
written in the order in which the value holds them.
-/

namespace UpgradeGate

/-- A JSON value. An object keeps its members as written; of two with one name the last counts. -/
inductive Json where
  | null
  | bool (value : Bool)
  | int (value : Int)
  | float (value : Decimal.Binary64)
  | str (value : String)
  | arr (items : List Json)
  | obj (members : List (String × Json))
deriving Inhabited

namespace Json

def str? : Json → Option String
  | .str s => some s
  | _ => none

def arr? : Json → Option (List Json)
  | .arr items => some items
  | _ => none

def isStr (json : Json) : Bool := json.str?.isSome

def members : Json → Dict Json
  | .obj pairs => Dict.ofList pairs
  | _ => ∅

def get? (name : String) : Json → Option Json
  | .obj pairs => pairs.reverse.lookup name
  | _ => none

def at? (path : List String) (json : Json) : Option Json :=
  path.foldlM (fun value name => value.get? name) json

@[simp]
theorem at?_nil (json : Json) : json.at? [] = some json := rfl

@[simp]
theorem at?_cons (name : String) (path : List String) (json : Json) :
    json.at? (name :: path) = (json.get? name).bind (·.at? path) := by
  simp only [at?, List.foldlM_cons]
  rfl

end Json

/-! ### Texts of values -/

namespace Json

def hexDigit (n : Nat) : Char := Nat.digitChar (n % 16)

def escapeChar (c : Char) : List Char :=
  if c = '"' then ['\\', '"']
  else if c = '\\' then ['\\', '\\']
  else if c = '\n' then ['\\', 'n']
  else if c = '\r' then ['\\', 'r']
  else if c = '\t' then ['\\', 't']
  else if c = '\x08' then ['\\', 'b']
  else if c = '\x0c' then ['\\', 'f']
  else if c.toNat < 0x20 then ['\\', 'u', '0', '0', hexDigit (c.toNat / 16), hexDigit c.toNat]
  else [c]

def quote (s : String) : String := String.ofList ('"' :: s.toList.flatMap escapeChar ++ ['"'])

def scalarText : Json → String
  | .null => "null"
  | .bool b => if b then "true" else "false"
  | .int n => toString n
  | .float x => x.text
  | .str s => quote s
  | .arr _ => "[]"
  | .obj _ => "\x7b\x7d"

mutual

def compact : Json → String
  | .arr items => "[" ++ ",".intercalate (compactItems items) ++ "]"
  | .obj members => "\x7b" ++ ",".intercalate (compactMembers members) ++ "\x7d"
  | json => json.scalarText

def compactItems : List Json → List String
  | [] => []
  | item :: items => compact item :: compactItems items

def compactMembers : List (String × Json) → List String
  | [] => []
  | (name, value) :: members => (quote name ++ ":" ++ compact value) :: compactMembers members

end

def lineAt (indent : Nat) : String := "\n" ++ String.ofList (List.replicate (2 * indent) ' ')

/-- Lines between brackets, each a level deeper than the closing one. -/
def bracketed (opening closing : String) (indent : Nat) (lines : List String) : String :=
  if lines.isEmpty then opening ++ closing
  else opening ++ ",".intercalate (lines.map (lineAt (indent + 1) ++ ·)) ++ lineAt indent ++ closing

mutual

/-- The text with an item or member to a line, two spaces deeper than what it is part of. -/
def indented (indent : Nat) : Json → String
  | .arr items => bracketed "[" "]" indent (indentedItems (indent + 1) items)
  | .obj members => bracketed "\x7b" "\x7d" indent (indentedMembers (indent + 1) members)
  | json => json.scalarText

def indentedItems (indent : Nat) : List Json → List String
  | [] => []
  | item :: items => indented indent item :: indentedItems indent items

def indentedMembers (indent : Nat) : List (String × Json) → List String
  | [] => []
  | (name, value) :: members =>
    (quote name ++ ": " ++ indented indent value) :: indentedMembers indent members

end

def pretty (json : Json) : String := json.indented 0

end Json

end UpgradeGate
