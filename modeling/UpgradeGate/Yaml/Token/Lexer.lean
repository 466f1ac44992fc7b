import UpgradeGate.Yaml.Token

/-!
The tokens of a text. Indentation becomes tokens of its own. A key needs no mark in front of it: it
is recognised by the colon behind it, and then a key token is put in where it began.
-/

namespace UpgradeGate.Yaml

/-- A place where a key may have begun. -/
structure PossibleKey where
  required : Bool
  position : Nat
  index : Nat
  line : Nat
  column : Nat

/-- How far a text has been read. Tokens stand last first; `keys` has one place per flow level. -/
structure Lexer where
  cursor : Cursor
  tokens : List Token := []
  count : Nat := 0
  indent : Int := -1
  outer : List Int := []
  flowLevel : Nat := 0
  keyAllowed : Bool := true
  keys : List (Option PossibleKey) := [none]

namespace Lexer

def inFlow (lexer : Lexer) : Bool := lexer.flowLevel != 0

def add (token : Token) (lexer : Lexer) : Lexer :=
  { lexer with tokens := token :: lexer.tokens, count := lexer.count + 1 }

/-- Puts a token before the tokens from `position` on. -/
def addAt (position : Nat) (token : Token) (lexer : Lexer) : Lexer :=
  let later := lexer.count - position
  { lexer with
    tokens := lexer.tokens.take later ++ token :: lexer.tokens.drop later
    count := lexer.count + 1 }

def openBlock (column : Nat) (position : Nat) (token : Token) (lexer : Lexer) : Lexer :=
  if lexer.inFlow || (column : Int) ≤ lexer.indent then lexer
  else
    { lexer.addAt position token with indent := column, outer := lexer.indent :: lexer.outer }

def closeBlocks (column : Int) (lexer : Lexer) : Lexer :=
  if lexer.inFlow then lexer else go lexer.outer lexer
where
  go : List Int → Lexer → Lexer
    | [], lexer => lexer
    | indent :: outer, lexer =>
      if column < lexer.indent then go outer { lexer.add .blockEnd with indent, outer } else lexer

/-- Forgets the key that may have begun on this level; one that had to come is an error. -/
def dropKey? (lexer : Lexer) : Option Lexer :=
  match lexer.keys with
  | some key :: keys => if key.required then none else some { lexer with keys := none :: keys }
  | _ => some lexer

def saveKey? (lexer : Lexer) : Option Lexer :=
  if !lexer.keyAllowed then some lexer
  else do
    let lexer ← lexer.dropKey?
    let cursor := lexer.cursor
    let key : PossibleKey :=
      { required := !lexer.inFlow && lexer.indent == (cursor.column : Int)
        position := lexer.count
        index := cursor.index
        line := cursor.line
        column := cursor.column }
    return { lexer with keys := some key :: lexer.keys.tail }

/-- A key ends on the line on which it begins, within 1024 characters. -/
def isStale (cursor : Cursor) (key : PossibleKey) : Bool :=
  key.line < cursor.line || key.index + 1024 < cursor.index

def dropStaleKeys? (lexer : Lexer) : Option Lexer := do
  let keys ← lexer.keys.mapM fun
    | some key =>
      if isStale lexer.cursor key then (if key.required then none else some none)
      else some (some key)
    | none => some none
  return { lexer with keys }

/--
Passes spaces, comments and line breaks up to the next token. In a block a new line may start with a
key, and then no tabulator may stand before it.
-/
def skipToToken : Nat → Lexer → Lexer
  | 0, lexer => lexer
  | fuel + 1, lexer =>
    let cursor := lexer.cursor
    let cursor :=
      if cursor.column = 0 ∧ cursor.isAt '\ufeff' then cursor.skip 1 else cursor
    let tabs := lexer.inFlow || !lexer.keyAllowed
    let cursor := (cursor.skipWhile fun c => c == ' ' || tabs && c == '\t').skipComment
    if cursor.isBreakAt 0 then
      skipToToken fuel
        { lexer with
          cursor := cursor.readBreak.2
          keyAllowed := lexer.keyAllowed || !lexer.inFlow }
    else { lexer with cursor }

def advance (n : Nat) (lexer : Lexer) : Lexer := { lexer with cursor := lexer.cursor.skip n }

/-! Directives. -/

def versionNumber? (cursor : Cursor) : Option (Nat × Cursor) := do
  let digits := cursor.rest.takeWhile Char.isDigit
  guard (!digits.isEmpty && digits.length ≤ 9)
  return (digits.foldl (fun sum c => sum * 10 + (c.toNat - '0'.toNat)) 0,
    cursor.skip digits.length)

/-- A tag handle: `!`, or a name between two such marks. -/
def tagHandle? (directive : Bool) (cursor : Cursor) : Option (List Char × Cursor) := do
  guard (cursor.isAt '!')
  let name := (cursor.rest.drop 1).takeWhile isNameChar
  let next := cursor.skip (name.length + 1)
  if next.isAt '!' then return ('!' :: name ++ ['!'], next.skip 1)
  guard (!directive || name.isEmpty)
  return ('!' :: name, next)

def isTagChar (verbatim : Bool) (c : Char) : Bool :=
  isNameChar c || [';', '/', '?', ':', '@', '&', '=', '+', '$', '.', '!', '~', '*', '\'', '(', ')',
    '%'].contains c || verbatim && [',', '[', ']'].contains c

/-- The bytes that `%` and two digits each stand for. -/
def escapedBytes? : Nat → List Char → Option (List UInt8)
  | 0, _ => some []
  | n + 1, '%' :: a :: b :: rest => do
    return UInt8.ofNat (← hexNumber? [a, b]) :: (← escapedBytes? n rest)
  | _ + 1, _ => none

/-- How many bytes a character has whose first byte is given. -/
def byteCount? (first : Nat) : Option Nat :=
  if first < 0x80 then some 1
  else if first < 0xC0 then none
  else if first < 0xE0 then some 2
  else if first < 0xF0 then some 3
  else if first < 0xF8 then some 4
  else none

def escapedChar? (cursor : Cursor) : Option (List Char × Cursor) := do
  let first ← (← escapedBytes? 1 cursor.rest).head?
  let count ← byteCount? first.toNat
  let bytes ← escapedBytes? count cursor.rest
  let text ← String.fromUTF8? (ByteArray.mk bytes.toArray)
  return (text.toList, cursor.skip (3 * count))

def tagText? (verbatim : Bool) : Nat → Cursor → Option (List Char × Cursor)
  | 0, _ => none
  | fuel + 1, cursor =>
    match cursor.rest with
    | [] => some ([], cursor)
    | c :: _ =>
      if c = '%' then do
        let (text, cursor) ← escapedChar? cursor
        let (more, cursor) ← tagText? verbatim fuel cursor
        return (text ++ more, cursor)
      else if isTagChar verbatim c then do
        let (more, cursor) ← tagText? verbatim fuel (cursor.skip 1)
        return (c :: more, cursor)
      else some ([], cursor)

def tagTextHere? (verbatim : Bool) (cursor : Cursor) : Option (List Char × Cursor) :=
  tagText? verbatim (cursor.rest.length + 1) cursor

/-- Passes the rest of a line on which only a comment may stand. -/
def endOfLine? (cursor : Cursor) : Option Cursor := do
  let cursor := (cursor.skipWhile isSpacing).skipComment
  guard (cursor.rest.isEmpty || cursor.isBreakAt 0)
  return cursor.readBreak.2

def directive? (cursor : Cursor) : Option (Token × Cursor) := do
  let name := String.ofList (cursor.rest.takeWhile isNameChar)
  let cursor := cursor.skip name.length
  guard (cursor.isGapAt 0)
  let cursor := cursor.skipWhile isSpacing
  if name = "YAML" then
    let (major, cursor) ← versionNumber? cursor
    guard (cursor.isAt '.')
    let (minor, cursor) ← versionNumber? (cursor.skip 1)
    return (.versionDirective major minor, ← endOfLine? cursor)
  else if name = "TAG" then
    let (handle, cursor) ← tagHandle? true cursor
    guard cursor.isSpacingHere
    let (leader, cursor) ← tagTextHere? true (cursor.skipWhile isSpacing)
    guard (!leader.isEmpty && cursor.isGapAt 0)
    return (.tagDirective (String.ofList handle) (String.ofList leader), ← endOfLine? cursor)
  else none

/-- A tag: `!<text>`, or a text behind a handle. -/
def tag? (inFlow : Bool) (cursor : Cursor) : Option (Token × Cursor) := do
  let (token, cursor) ←
    if cursor.peek? 1 = some '<' then do
      let (text, cursor) ← tagTextHere? true (cursor.skip 2)
      guard (!text.isEmpty && cursor.isAt '>')
      pure (Token.tag "" (String.ofList text), cursor.skip 1)
    else do
      let (handle, cursor) ← tagHandle? false cursor
      let (text, cursor) ← tagTextHere? false cursor
      if 2 ≤ handle.length ∧ handle.getLast? = some '!' then
        guard !text.isEmpty
        pure (Token.tag (String.ofList handle) (String.ofList text), cursor)
      else
        let suffix := handle.drop 1 ++ text
        pure (if suffix.isEmpty then Token.tag "" "!" else Token.tag "!" (String.ofList suffix),
          cursor)
  guard (cursor.isGapAt 0 || inFlow && cursor.isAt ',')
  return (token, cursor)

def name? (cursor : Cursor) : Option (String × Cursor) := do
  let name := cursor.rest.takeWhile isNameChar
  let next := cursor.skip name.length
  let ends := match next.rest.head? with
    | some c => ['?', ':', ',', ']', '\x7d', '%', '@', '`'].contains c
    | none => true
  guard (!name.isEmpty && (next.isGapAt 0 || ends))
  return (String.ofList name, next)

/-! Tokens. -/

/-- A token after which, and not before which, a key may stand. -/
def mark? (token : Token) (width : Nat) (keyAllowed : Bool) (lexer : Lexer) : Option Lexer := do
  let lexer ← lexer.dropKey?
  return { (lexer.advance width).add token with keyAllowed }

def documentMark? (token : Token) (lexer : Lexer) : Option Lexer :=
  (lexer.closeBlocks (-1)).mark? token 3 false

def flowStart? (token : Token) (lexer : Lexer) : Option Lexer := do
  let lexer ← lexer.saveKey?
  return { (lexer.advance 1).add token with
    flowLevel := lexer.flowLevel + 1, keys := none :: lexer.keys, keyAllowed := true }

def flowEnd? (token : Token) (lexer : Lexer) : Option Lexer := do
  let lexer ← lexer.dropKey?
  let lexer :=
    if lexer.inFlow then { lexer with flowLevel := lexer.flowLevel - 1, keys := lexer.keys.tail }
    else lexer
  return { (lexer.advance 1).add token with keyAllowed := false }

/-- A mark that opens a block when it stands further right, which it may where a key may stand. -/
def blockMark? (opening token : Token) (keyAllowed : Bool) (lexer : Lexer) : Option Lexer := do
  guard (lexer.inFlow || lexer.keyAllowed)
  (lexer.openBlock lexer.cursor.column lexer.count opening).mark? token 1 keyAllowed

def valueMark? (lexer : Lexer) : Option Lexer :=
  match lexer.keys with
  | some key :: keys =>
    let lexer :=
      (lexer.addAt key.position .key).openBlock key.column key.position .blockMappingStart
    some { (lexer.advance 1).add .value with keys := none :: keys, keyAllowed := false }
  | _ => do
    guard (lexer.inFlow || lexer.keyAllowed)
    let opened := lexer.openBlock lexer.cursor.column lexer.count .blockMappingStart
    return { (opened.advance 1).add .value with keyAllowed := !lexer.inFlow }

/-- A token that may begin a key, read by `read?`. -/
def nodeStart? (read? : Cursor → Option (Token × Cursor)) (lexer : Lexer) : Option Lexer := do
  let lexer ← lexer.saveKey?
  let (token, cursor) ← read? lexer.cursor
  return { lexer.add token with cursor, keyAllowed := false }

def quotedScalar? (single : Bool) (cursor : Cursor) : Option (Token × Cursor) := do
  let (text, cursor) ← quoted? single (cursor.rest.length + 1) (cursor.skip 1)
  return (.scalar (String.ofList text) false, cursor)

def plainScalar? (lexer : Lexer) : Option Lexer := do
  let lexer ← lexer.saveKey?
  let cursor := lexer.cursor
  let (text, lines, cursor) ←
    plain? lexer.inFlow (lexer.indent + 1).toNat (cursor.rest.length + 1) (.spacing []) cursor
  return { lexer.add (.scalar (String.ofList text) true) with cursor, keyAllowed := lines }

def blockScalarToken? (literal : Bool) (lexer : Lexer) : Option Lexer := do
  let lexer ← lexer.dropKey?
  let (text, cursor) ← blockScalar? literal lexer.indent (lexer.cursor.skip 1)
  return { lexer.add (.scalar (String.ofList text) false) with cursor, keyAllowed := true }

def isPlainStart (inFlow : Bool) (cursor : Cursor) (c : Char) : Bool :=
  let indicators := ['-', '?', ':', ',', '[', ']', '\x7b', '\x7d', '#', '&', '*', '!', '|', '>',
    '\'', '"', '%', '@', '`']
  let spacingNext := match cursor.peek? 1 with
    | some d => isSpacing d
    | none => false
  !(indicators.contains c || isSpacing c) || c == '-' && !spacingNext ||
    !inFlow && (c == '?' || c == ':') && !cursor.isGapAt 1

def tokenAt? (c : Char) (lexer : Lexer) : Option Lexer :=
  let cursor := lexer.cursor
  let marks := lexer.inFlow || cursor.isGapAt 1
  if cursor.column = 0 ∧ c = '%' then do
    let lexer ← (lexer.closeBlocks (-1)).dropKey?
    let (token, cursor) ← directive? (cursor.skip 1)
    return { lexer.add token with cursor, keyAllowed := false }
  else if cursor.isAtDocumentMark '-' then lexer.documentMark? .documentStart
  else if cursor.isAtDocumentMark '.' then lexer.documentMark? .documentEnd
  else if c = '[' then lexer.flowStart? .flowSequenceStart
  else if c = '\x7b' then lexer.flowStart? .flowMappingStart
  else if c = ']' then lexer.flowEnd? .flowSequenceEnd
  else if c = '\x7d' then lexer.flowEnd? .flowMappingEnd
  else if c = ',' then lexer.mark? .flowEntry 1 true
  else if c = '-' ∧ cursor.isGapAt 1 then
    lexer.blockMark? .blockSequenceStart .blockEntry true
  else if c = '?' ∧ marks then lexer.blockMark? .blockMappingStart .key !lexer.inFlow
  else if c = ':' ∧ marks then lexer.valueMark?
  else if c = '*' then
    lexer.nodeStart? fun cursor =>
      (name? (cursor.skip 1)).map fun (name, next) => (.alias name, next)
  else if c = '&' then
    lexer.nodeStart? fun cursor =>
      (name? (cursor.skip 1)).map fun (name, next) => (.anchor name, next)
  else if c = '!' then lexer.nodeStart? (tag? lexer.inFlow)
  else if c = '|' ∧ !lexer.inFlow then lexer.blockScalarToken? true
  else if c = '>' ∧ !lexer.inFlow then lexer.blockScalarToken? false
  else if c = '\'' then lexer.nodeStart? (quotedScalar? true)
  else if c = '"' then lexer.nodeStart? (quotedScalar? false)
  else if isPlainStart lexer.inFlow cursor c then lexer.plainScalar?
  else none

/-- Reads the tokens that are left, of no more characters than there is fuel. -/
def run : Nat → Lexer → Option Lexer
  | 0, _ => none
  | fuel + 1, lexer => do
    let lexer ← (lexer.skipToToken (fuel + 1)).dropStaleKeys?
    let lexer := lexer.closeBlocks lexer.cursor.column
    match lexer.cursor.rest with
    | [] => (lexer.closeBlocks (-1)).dropKey?
    | c :: _ => run fuel (← lexer.tokenAt? c)

end Lexer

def Token.ofText? (text : String) : Option (List Token) := do
  let cs := text.toList
  guard (cs.all isAllowed)
  let lexer ← Lexer.run (cs.length + 1) { cursor := { rest := cs } }
  return lexer.tokens.reverse

end UpgradeGate.Yaml
