/-!
The tokens of a YAML text, a place in such a text, and the texts of scalars: how breaks between
lines are folded, quoted scalars with their escapes, plain scalars and block scalars.
-/

namespace UpgradeGate.Yaml

inductive Token where
  | versionDirective (major minor : Nat)
  | tagDirective (handle leader : String)
  | documentStart
  | documentEnd
  | blockSequenceStart
  | blockMappingStart
  | blockEnd
  | flowSequenceStart
  | flowSequenceEnd
  | flowMappingStart
  | flowMappingEnd
  | blockEntry
  | flowEntry
  | key
  | value
  | alias (name : String)
  | anchor (name : String)
  | tag (handle suffix : String)
  | scalar (text : String) (plain : Bool)
deriving DecidableEq, Repr, Inhabited

/-- Line breaks: line feed, carriage return, next line, line and paragraph separator. -/
def isBreak (c : Char) : Bool :=
  c == '\n' || c == '\r' || c == '\x85' || c == '\u2028' || c == '\u2029'

def isSpacing (c : Char) : Bool := c == ' ' || c == '\t'

def isNameChar (c : Char) : Bool := c.isAlphanum || c == '_' || c == '-'

def isAllowed (c : Char) : Bool :=
  let n := c.toNat
  n == 0x9 || n == 0xA || n == 0xD || (0x20 ≤ n && n ≤ 0x7E) || n == 0x85 ||
    (0xA0 ≤ n && n ≤ 0xD7FF) || (0xE000 ≤ n && n ≤ 0xFFFD) || 0x10000 ≤ n

/-- The rest of a text and where in the text it starts. -/
structure Cursor where
  rest : List Char
  index : Nat := 0
  line : Nat := 0
  column : Nat := 0

namespace Cursor

def peek? (cursor : Cursor) (offset : Nat) : Option Char := cursor.rest[offset]?

def isAt (cursor : Cursor) (c : Char) : Bool := cursor.rest.head? == some c

/-- Whether spacing, a line break or the end stands `offset` characters further. -/
def isGapAt (cursor : Cursor) (offset : Nat) : Bool :=
  match cursor.peek? offset with
  | none => true
  | some c => isSpacing c || isBreak c

def isBreakAt (cursor : Cursor) (offset : Nat) : Bool :=
  match cursor.peek? offset with
  | none => false
  | some c => isBreak c

def isSpacingHere (cursor : Cursor) : Bool :=
  match cursor.peek? 0 with
  | none => false
  | some c => isSpacing c

/-- Passes `n` characters, none of which is a line break. -/
def skip (cursor : Cursor) (n : Nat) : Cursor :=
  { cursor with rest := cursor.rest.drop n, index := cursor.index + n, column := cursor.column + n }

def skipWhile (p : Char → Bool) (cursor : Cursor) : Cursor :=
  cursor.skip (cursor.rest.takeWhile p).length

/--
Passes a line break, if there is one, and gives what it stands for: a line feed, save that the two
separators stand for themselves.
-/
def readBreak (cursor : Cursor) : List Char × Cursor :=
  let after (n : Nat) : Cursor :=
    { rest := cursor.rest.drop n, index := cursor.index + n, line := cursor.line + 1, column := 0 }
  match cursor.rest with
  | '\r' :: '\n' :: _ => (['\n'], after 2)
  | c :: _ =>
    if c = '\u2028' ∨ c = '\u2029' then ([c], after 1)
    else if isBreak c then (['\n'], after 1)
    else ([], cursor)
  | [] => ([], cursor)

def skipComment (cursor : Cursor) : Cursor :=
  if cursor.isAt '#' then cursor.skipWhile (!isBreak ·) else cursor

/-- Whether `---` or `...` stands alone at the start of a line. -/
def isAtDocumentMark (cursor : Cursor) (mark : Char) : Bool :=
  cursor.column == 0 && cursor.rest.take 3 == [mark, mark, mark] && cursor.isGapAt 3

def isAtAnyDocumentMark (cursor : Cursor) : Bool :=
  cursor.isAtDocumentMark '-' || cursor.isAtDocumentMark '.'

end Cursor

/-! ### Scalars -/

open Cursor

/-- What stands between two pieces of a scalar: spacing, or line breaks. -/
inductive Gap where
  | spacing (text : List Char)
  | lines (first more : List Char)

namespace Gap

/-- A single line feed folds to a space; of several the first is dropped. -/
def folded : Gap → List Char
  | .spacing text => text
  | .lines first more =>
    if first = ['\n'] then (if more.isEmpty then [' '] else more) else first ++ more

def isLines : Gap → Bool
  | .spacing _ => false
  | .lines _ _ => true

/--
Passes spacing and line breaks. Spacing before a break and at the start of a line is dropped; a
tabulator there is an error if it stands before the column `indent`.
-/
def read? (indent : Nat) : Nat → Gap → Cursor → Option (Gap × Cursor)
  | 0, gap, cursor => some (gap, cursor)
  | fuel + 1, gap, cursor =>
    match cursor.rest with
    | [] => some (gap, cursor)
    | c :: _ =>
      if isSpacing c then
        match gap with
        | .spacing text => read? indent fuel (.spacing (text ++ [c])) (cursor.skip 1)
        | .lines first more =>
          if c = '\t' ∧ cursor.column < indent then none
          else read? indent fuel (.lines first more) (cursor.skip 1)
      else if isBreak c then
        let (text, next) := cursor.readBreak
        match gap with
        | .spacing _ => read? indent fuel (.lines text []) next
        | .lines first more => read? indent fuel (.lines first (more ++ text)) next
      else some (gap, cursor)

end Gap

/-! Quoted scalars. -/

def hexNumber? (cs : List Char) : Option Nat :=
  cs.foldlM (fun sum c =>
    if '0' ≤ c ∧ c ≤ '9' then some (sum * 16 + (c.toNat - '0'.toNat))
    else if 'a' ≤ c ∧ c ≤ 'f' then some (sum * 16 + (c.toNat - 'a'.toNat + 10))
    else if 'A' ≤ c ∧ c ≤ 'F' then some (sum * 16 + (c.toNat - 'A'.toNat + 10))
    else none) 0

def charOfNumber? (n : Nat) : Option Char :=
  if n ≤ 0x10FFFF ∧ ¬(0xD800 ≤ n ∧ n ≤ 0xDFFF) then some (Char.ofNat n) else none

def namedEscape? : Char → Option Char
  | '0' => some '\x00'
  | 'a' => some '\x07'
  | 'b' => some '\x08'
  | 't' => some '\t'
  | '\t' => some '\t'
  | 'n' => some '\n'
  | 'v' => some '\x0b'
  | 'f' => some '\x0c'
  | 'r' => some '\r'
  | 'e' => some '\x1b'
  | ' ' => some ' '
  | '"' => some '"'
  | '/' => some '/'
  | '\\' => some '\\'
  | 'N' => some '\x85'
  | '_' => some '\xa0'
  | 'L' => some '\u2028'
  | 'P' => some '\u2029'
  | _ => none

def numericEscapeLength? : Char → Option Nat
  | 'x' => some 2
  | 'u' => some 4
  | 'U' => some 8
  | _ => none

def escape? (cursor : Cursor) : Option (Char × Cursor) :=
  match cursor.rest with
  | [] => none
  | c :: rest =>
    match numericEscapeLength? c with
    | some length => do
      let digits := rest.take length
      guard (digits.length = length)
      return (← charOfNumber? (← hexNumber? digits), cursor.skip (length + 1))
    | none => (namedEscape? c).map (·, cursor.skip 1)

/-- The end of a piece of a quoted scalar: its gap follows, or an escaped line break, after which
the spacing and breaks that follow start a new line. -/
inductive PieceEnd where
  | gap
  | escapedBreak

def quotedPiece? (single : Bool) : Nat → Cursor → Option (List Char × PieceEnd × Cursor)
  | 0, _ => none
  | fuel + 1, cursor =>
    let quote := if single then '\'' else '"'
    let andThen (c : Char) (next : Cursor) : Option (List Char × PieceEnd × Cursor) :=
      (quotedPiece? single fuel next).map fun (text, stop, last) => (c :: text, stop, last)
    match cursor.rest with
    | [] => some ([], .gap, cursor)
    | c :: rest =>
      if isSpacing c || isBreak c then some ([], .gap, cursor)
      else if single && c == quote && rest.head? == some quote then andThen quote (cursor.skip 2)
      else if c = quote then some ([], .gap, cursor)
      else if !single && c == '\\' then
        if cursor.isBreakAt 1 then some ([], .escapedBreak, (cursor.skip 1).readBreak.2)
        else match escape? (cursor.skip 1) with
          | some (escaped, next) => andThen escaped next
          | none => none
      else andThen c (cursor.skip 1)

def quoted? (single : Bool) : Nat → Cursor → Option (List Char × Cursor)
  | 0, _ => none
  | fuel + 1, cursor => do
    guard !cursor.isAtAnyDocumentMark
    guard !cursor.rest.isEmpty
    let (text, stop, cursor) ← quotedPiece? single (cursor.rest.length + 1) cursor
    if cursor.isAt (if single then '\'' else '"') then return (text, cursor.skip 1)
    let start := match stop with
      | .gap => Gap.spacing []
      | .escapedBreak => Gap.lines [] []
    let (gap, cursor) ← Gap.read? 0 (cursor.rest.length + 1) start cursor
    let (more, cursor) ← quoted? single fuel cursor
    return (text ++ gap.folded ++ more, cursor)

/-! Plain scalars. -/

/-- Whether a plain scalar ends at the cursor; `none` where a colon may not stand. -/
def plainEnds? (inFlow : Bool) (cursor : Cursor) : Option Bool :=
  match cursor.rest with
  | [] => some true
  | c :: rest =>
    if isSpacing c || isBreak c then some true
    else
      let beforeFlowMark := match rest.head? with
        | some d => [',', '?', '[', ']', '\x7b', '\x7d'].contains d
        | none => false
      if inFlow && c == ':' && beforeFlowMark then none
      else
        some (c == ':' && cursor.isGapAt 1 ||
          inFlow && [',', '[', ']', '\x7b', '\x7d'].contains c)

def plainPiece? (inFlow : Bool) : Nat → Cursor → Option (List Char × Cursor)
  | 0, _ => none
  | fuel + 1, cursor => do
    if ← plainEnds? inFlow cursor then return ([], cursor)
    let (text, next) ← plainPiece? inFlow fuel (cursor.skip 1)
    return (cursor.rest.take 1 ++ text, next)

/--
Reads a plain scalar, whose lines after the first stand at least at the column `indent` when it is
not in a flow collection. Gives also whether line breaks follow it.
-/
def plain? (inFlow : Bool) (indent : Nat) : Nat → Gap → Cursor → Option (List Char × Bool × Cursor)
  | 0, _, _ => none
  | fuel + 1, before, cursor => do
    if cursor.isAtAnyDocumentMark || cursor.isAt '#' then
      return ([], before.isLines, cursor)
    let (piece, cursor) ← plainPiece? inFlow (cursor.rest.length + 1) cursor
    let (text, before) :=
      if piece.isEmpty then ([], before) else (before.folded ++ piece, .spacing [])
    if !(cursor.isSpacingHere || cursor.isBreakAt 0) then return (text, before.isLines, cursor)
    let (gap, cursor) ← Gap.read? indent (cursor.rest.length + 1) before cursor
    if !inFlow && cursor.column < indent then return (text, gap.isLines, cursor)
    let (more, lines, cursor) ← plain? inFlow indent fuel gap cursor
    return (text ++ more, lines, cursor)

/-! Block scalars. -/

/-- What becomes of the line breaks at the end of a block scalar. -/
inductive Chomping where
  | strip
  | clip
  | keep

def chomping? : Char → Option Chomping
  | '+' => some .keep
  | '-' => some .strip
  | _ => none

/-- An indentation indicator other than zero; zero is an error. -/
def indentation? (cursor : Cursor) : Option (Option Nat × Cursor) :=
  match cursor.rest with
  | c :: _ =>
    if c = '0' then none
    else if c.isDigit then some (some (c.toNat - '0'.toNat), cursor.skip 1)
    else some (none, cursor)
  | [] => some (none, cursor)

def chompingHere (cursor : Cursor) : Option Chomping × Cursor :=
  match cursor.rest.head?.bind chomping? with
  | some chomping => (some chomping, cursor.skip 1)
  | none => (none, cursor)

def blockHeader? (cursor : Cursor) : Option (Chomping × Option Nat × Cursor) := do
  let (chomping, cursor) := chompingHere cursor
  let (indentation, cursor) ← indentation? cursor
  match chomping, indentation with
  | some chomping, _ => return (chomping, indentation, cursor)
  | none, none => return (.clip, none, cursor)
  | none, some _ =>
    let (chomping, cursor) := chompingHere cursor
    return (chomping.getD .clip, indentation, cursor)

/-- Passes the spaces of the indentation and empty lines; gives the breaks and the widest column. -/
def blockBreaks? (indent : Option Nat) : Nat → Nat → Cursor → Option (List Char × Nat × Cursor)
  | 0, widest, cursor => some ([], widest, cursor)
  | fuel + 1, widest, cursor => do
    let spaces := (cursor.rest.takeWhile (· == ' ')).length
    let width := match indent with
      | none => spaces
      | some indent => min spaces (indent - cursor.column)
    let cursor := cursor.skip width
    let widest := max widest cursor.column
    let inside := match indent with
      | none => true
      | some indent => cursor.column < indent
    guard !(inside && cursor.isAt '\t')
    if !cursor.isBreakAt 0 then return ([], widest, cursor)
    let (text, cursor) := cursor.readBreak
    let (more, widest, cursor) ← blockBreaks? indent fuel widest cursor
    return (text ++ more, widest, cursor)

/--
The lines of a block scalar that stand at the column `indent`, after the break of the line before
with the empty lines behind it; the flag says whether that line started with spacing. Gives the
text, and the last break with the empty lines behind it.
-/
def blockLines? (literal : Bool) (indent : Nat) : Nat → List Char → List Char → Bool → Cursor →
    Option (List Char × List Char × List Char × Cursor)
  | 0, _, _, _, _ => none
  | fuel + 1, lineBreak, emptyLines, afterSpacing, cursor => do
    if cursor.column ≠ indent ∨ cursor.rest.isEmpty then return ([], lineBreak, emptyLines, cursor)
    let spacing := cursor.isSpacingHere
    let joint :=
      if !literal && lineBreak == ['\n'] && !afterSpacing && !spacing then
        (if emptyLines.isEmpty then [' '] else [])
      else lineBreak
    let line := cursor.rest.takeWhile (!isBreak ·)
    let (lineBreak', cursor) := (cursor.skip line.length).readBreak
    let (emptyLines', _, cursor) ← blockBreaks? (some indent) (cursor.rest.length + 1) 0 cursor
    let (more, tail) ← blockLines? literal indent fuel lineBreak' emptyLines' spacing cursor
    return (joint ++ emptyLines ++ line ++ more, tail)

/-- Reads a block scalar after `|` or `>`, in a block whose column is `outer`. -/
def blockScalar? (literal : Bool) (outer : Int) (cursor : Cursor) :
    Option (List Char × Cursor) := do
  let (chomping, indentation, cursor) ← blockHeader? cursor
  let cursor := (cursor.skipWhile isSpacing).skipComment
  guard (cursor.rest.isEmpty || cursor.isBreakAt 0)
  let cursor := cursor.readBreak.2
  let given : Option Nat := indentation.map fun n => if 0 ≤ outer then outer.toNat + n else n
  let (emptyLines, widest, cursor) ← blockBreaks? given (cursor.rest.length + 1) 0 cursor
  let indent := given.getD (max widest (max (outer + 1).toNat 1))
  let (text, lineBreak, emptyLines, cursor) ←
    blockLines? literal indent (cursor.rest.length + 2) [] emptyLines false cursor
  let tail := match chomping with
    | .strip => []
    | .clip => lineBreak
    | .keep => lineBreak ++ emptyLines
  return (text ++ tail, cursor)

end UpgradeGate.Yaml
