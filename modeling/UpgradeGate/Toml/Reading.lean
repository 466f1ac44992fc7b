import UpgradeGate.Text.Basic
import UpgradeGate.Toml.Basic

/-!
TOML texts.
-/

namespace UpgradeGate.Toml

open Text (Reader)
open Text.Reader

namespace Reading

def isSpacing (c : Char) : Bool := c == ' ' || c == '\t'

/-- The characters that may stand in comments and literal strings. -/
def isAllowed (c : Char) : Bool := c == '\t' || (0x20 ≤ c.toNat && c.toNat != 0x7F)

def spacing : Reader Unit := skipWhile isSpacing

/-- A line feed, perhaps behind a carriage return. Says whether there is one. -/
def lineBreak : Reader Bool := do
  if ← optional ['\n'] then return true
  optional ['\r', '\n']

def comment : Reader Unit := do
  if ← optional ['#'] then skipWhile isAllowed

def gap : Nat → Reader Unit
  | 0 => failure
  | fuel + 1 => do
    spacing
    comment
    if ← lineBreak then gap fuel

/-! ### Strings -/

def scalarValue (n : Nat) : Reader Char :=
  if n < 0xD800 ∨ (0xE000 ≤ n ∧ n < 0x110000) then return Char.ofNat n else failure

def hexChar (width : Nat) : Reader Char := do
  let ds := (← rest).take width
  skip width
  match fixedHex ds with
  | some n => scalarValue n
  | none => failure
where
  fixedHex (ds : List Char) : Option Nat :=
    if ds.length = width then Decimal.natOfDigits? 16 ds else none

def escape : Reader Char := do
  match ← oneOf ['b', 't', 'n', 'f', 'r', 'e', '"', '\\', 'x', 'u', 'U'] with
  | 'b' => return '\x08'
  | 't' => return '\t'
  | 'n' => return '\n'
  | 'f' => return '\x0c'
  | 'r' => return '\r'
  | 'e' => return '\x1b'
  | 'x' => hexChar 2
  | 'u' => hexChar 4
  | 'U' => hexChar 8
  | c => return c

/-- The rest of a string in one line, after its opening quote. -/
def basic : Nat → Reader (List Char)
  | 0 => failure
  | fuel + 1 => do
    let plain ← takeWhile fun c => isAllowed c && c != '"' && c != '\\'
    if ← optional ['"'] then return plain
    if ← optional ['\\'] then
      let c ← escape
      return plain ++ c :: (← basic fuel)
    failure

def literal : Reader (List Char) := do
  let text ← takeWhile fun c => isAllowed c && c != '\''
  if ← optional ['\''] then return text
  failure

/-- Up to two quotes may stand right before the three that close a string. -/
def closing (quote : Char) : Reader (Option (List Char)) := do
  let count := ((← rest).takeWhile (· == quote)).length
  if count < 3 then return none
  let extra := min (count - 3) 2
  skip (3 + extra)
  return some (List.replicate extra quote)

/-- Whether a backslash stands at the end of its line. -/
def isLineEnd : Reader Bool := do
  match (← rest).dropWhile isSpacing with
  | '\n' :: _ | '\r' :: '\n' :: _ => return true
  | _ => return false

/-- Passes the spacing and the line breaks behind a backslash at the end of its line. -/
def joinLines : Nat → Reader Unit
  | 0 => failure
  | fuel + 1 => do
    spacing
    if ← lineBreak then joinLines fuel

/-- The rest of a string over several lines, after its three opening quotes. -/
def lines (quote : Char) (escapes : Bool) : Nat → Reader (List Char)
  | 0 => failure
  | fuel + 1 => do
    let plain ← takeWhile fun c => isAllowed c && c != quote && !(escapes && c == '\\')
    if ← lineBreak then return plain ++ '\n' :: (← lines quote escapes fuel)
    if let some extra ← closing quote then return plain ++ extra
    if ← optional [quote] then return plain ++ quote :: (← lines quote escapes fuel)
    if escapes then
      if ← optional ['\\'] then
        if ← isLineEnd then
          joinLines fuel
          return plain ++ (← lines quote escapes fuel)
        let c ← escape
        return plain ++ c :: (← lines quote escapes fuel)
    failure

/-- A string in one line, if there is one; a string over several lines is not meant. -/
def keyString? (fuel : Nat) : Reader (Option String) := do
  if ← optional ['"'] then return some (String.ofList (← basic fuel))
  if ← optional ['\''] then return some (String.ofList (← literal))
  return none

def string? (fuel : Nat) : Reader (Option String) := do
  if ← optional ['"', '"', '"'] then
    let _ ← lineBreak
    return some (String.ofList (← lines '"' true fuel))
  if ← optional ['\'', '\'', '\''] then
    let _ ← lineBreak
    return some (String.ofList (← lines '\'' false fuel))
  keyString? fuel

/-! ### Keys -/

def isBareChar (c : Char) : Bool := c.isAlphanum || c == '_' || c == '-'

def simpleKey (fuel : Nat) : Reader String := do
  match ← keyString? fuel with
  | some key => return key
  | none =>
    let key ← takeWhile isBareChar
    if key.isEmpty then failure else return String.ofList key

def key : Nat → Reader (List String)
  | 0 => failure
  | fuel + 1 => do
    spacing
    let part ← simpleKey fuel
    spacing
    if ← optional ['.'] then return part :: (← key fuel)
    return [part]

/-! ### Values -/

def isWordChar (c : Char) : Bool := c.isAlphanum || ['+', '-', '_', '.', ':'].contains c

/-- A word; behind a day and a space it goes on with a time of day. -/
def word : Reader Toml := do
  let day ← takeWhile isWordChar
  let text ←
    match isDay day, ← rest with
    | true, ' ' :: c :: _ =>
      if c.isDigit then
        skip 1
        pure (day ++ ' ' :: (← takeWhile isWordChar))
      else pure day
    | _, _ => pure day
  match ofWord? text with
  | some value => return value
  | none => failure

/-- Lists and tables that are written as values may be nested this deep. -/
def greatestDepth : Nat := 80

/-- One level less than a number of levels, if there is one. -/
def deeper : Nat → Reader Nat
  | 0 => failure
  | depth + 1 => return depth

/-- The last part of a key and the parts before it. -/
def splitKey (key : List String) : List String × String := (key.dropLast, key.getLastD "")

mutual

/-- A value with at most `depth` levels. -/
def value (depth : Nat) : Nat → Reader Toml
  | 0 => failure
  | fuel + 1 => do
    if let some text ← string? fuel then return .str text
    if ← optional ['['] then return .arr (← items (← deeper depth) fuel)
    if ← optional ['\x7b'] then
      return .table (Node.entriesToToml (← entries (← deeper depth) [] fuel))
    word

def items (depth : Nat) : Nat → Reader (List Toml)
  | 0 => failure
  | fuel + 1 => do
    gap fuel
    if ← optional [']'] then return []
    let item ← value depth fuel
    gap fuel
    if ← optional [','] then return item :: (← items depth fuel)
    if ← optional [']'] then return [item]
    failure

def entries (depth : Nat) (before : Node.Entries) : Nat → Reader Node.Entries
  | 0 => failure
  | fuel + 1 => do
    gap fuel
    if ← optional ['\x7d'] then return before
    let (dots, name) := splitKey (← key fuel)
    if !(← optional ['=']) then failure
    spacing
    let content ← value depth fuel
    match Node.setValue [] dots name content before with
    | none => failure
    | some after =>
      gap fuel
      if ← optional [','] then return ← entries depth after fuel
      if ← optional ['\x7d'] then return after
      failure

end

/-! ### Documents -/

/-- A document as far as it is read, and the table that its entries go to. -/
structure Progress where
  entries : Node.Entries := []
  current : List String := []

/-- A header, or an entry; or nothing. -/
def expression (fuel : Nat) (progress : Progress) : Reader Progress := do
  match ← peek? with
  | none | some '#' | some '\n' | some '\r' => return progress
  | some '[' =>
    skip 1
    if ← optional ['['] then
      let path ← key fuel
      if !(← optional [']', ']']) then failure
      let (outer, name) := splitKey path
      match Node.openItem outer name progress.entries with
      | some entries => return { entries, current := path }
      | none => failure
    let path ← key fuel
    if !(← optional [']']) then failure
    let (outer, name) := splitKey path
    match Node.openTable outer name progress.entries with
    | some entries => return { entries, current := path }
    | none => failure
  | some _ =>
    let (dots, name) := splitKey (← key fuel)
    if !(← optional ['=']) then failure
    spacing
    let content ← value greatestDepth fuel
    match Node.setValue progress.current dots name content progress.entries with
    | some entries => return { progress with entries }
    | none => failure

def document (progress : Progress) : Nat → Reader Progress
  | 0 => failure
  | fuel + 1 => do
    spacing
    let progress ← expression fuel progress
    spacing
    comment
    if ← lineBreak then return ← document progress fuel
    return progress

end Reading

/-- A byte order mark may stand in front of the text. -/
def withoutMark (text : String) : String :=
  match text.toList with
  | '\ufeff' :: cs => String.ofList cs
  | _ => text

def ofText? (text : String) : Option Toml := do
  let progress ← (Reading.document {} (2 * text.length + 2)).readAll (withoutMark text)
  return .table (Node.entriesToToml progress.entries)

end UpgradeGate.Toml
