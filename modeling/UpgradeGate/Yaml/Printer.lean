import UpgradeGate.Decimal
import UpgradeGate.Json.Basic
import UpgradeGate.Yaml.Scalar
import UpgradeGate.Yaml.Token

/-!
YAML texts of JSON values, in block style. A list in a mapping is not indented further than the
mapping.
-/

namespace UpgradeGate.Yaml

/-! ### How a text is written -/

inductive Style where
  | plain
  | singleQuoted
  | doubleQuoted
  | literal
deriving DecidableEq, Repr

/-- The characters that may stand in a text unless it is double-quoted. -/
def isPrintable (c : Char) : Bool :=
  let n := c.toNat
  n == 0xA || (0x20 ≤ n && n ≤ 0x7E) || (0xA0 ≤ n && n ≤ 0xD7FF) ||
    (0xE000 ≤ n && n ≤ 0xFFFD && n != 0xFEFF) || 0x10000 ≤ n

/-- Whether there is spacing, a line break, or nothing. -/
def isGap (c? : Option Char) : Bool := c?.all fun c => isSpacing c || isBreak c

/-- Characters that mean something in front of a plain scalar. -/
def leadingMarks : List Char :=
  ['#', ',', '[', ']', '\x7b', '\x7d', '&', '*', '!', '|', '>', '\'', '"', '%', '@', '\x60']

/-- Whether a colon in front of a gap, or a number sign behind one, stands after `previous`. -/
def hasInnerMark (previous : Char) : List Char → Bool
  | [] => false
  | c :: cs =>
    (c == ':' && isGap cs.head?) || (c == '#' && isGap (some previous)) || hasInnerMark c cs

/-- Whether a text would mean something else if it stood plain. -/
def hasMark : List Char → Bool
  | [] => false
  | c :: cs =>
    [['-', '-', '-'], ['.', '.', '.']].contains ((c :: cs).take 3) || leadingMarks.contains c ||
      (['?', ':', '-'].contains c && isGap cs.head?) || hasInnerMark c cs

/-- Whether somewhere a character of one class is followed by one of another. -/
def hasPair (first second : Char → Bool) (cs : List Char) : Bool :=
  (cs.zip cs.tail).any fun pair => first pair.1 && second pair.2

def isSpace (c : Char) : Bool := c == ' '

def isSpaceOrBreak (c : Char) : Bool := isSpace c || isBreak c

def allowsPlain (cs : List Char) : Bool :=
  !(cs.head?.any isSpaceOrBreak || cs.getLast?.any isSpaceOrBreak || cs.any isBreak ||
    !cs.all isPrintable || hasMark cs)

def allowsSingleQuotes (cs : List Char) : Bool :=
  cs.all isPrintable && !hasPair isBreak isSpace cs && !hasPair isSpace isBreak cs

def allowsLiteral (cs : List Char) : Bool :=
  cs.all isPrintable && !hasPair isSpace isBreak cs && !cs.getLast?.any isSpace

def quotedStyle (cs : List Char) : Style :=
  if allowsSingleQuotes cs then .singleQuoted else .doubleQuoted

/-- Lines are kept as they are if they can; a text that reads as another value is quoted. -/
def styleOf (text : String) : Style :=
  let cs := text.toList
  if cs.contains '\n' then (if allowsLiteral cs then .literal else .doubleQuoted)
  else if Plain.ofString text = .text ∧ !Plain.hasNeedlessZero cs ∧ allowsPlain cs then .plain
  else quotedStyle cs

/-! ### Writing a text -/

def pad (indent : Nat) : List Char := List.replicate indent ' '

def hexUpper (width n : Nat) : List Char :=
  let ds := (Nat.toDigits 16 n).map Char.toUpper
  List.replicate (width - ds.length) '0' ++ ds

def escaped (c : Char) : List Char :=
  let named : List (Nat × Char) :=
    [(0x00, '0'), (0x07, 'a'), (0x08, 'b'), (0x09, 't'), (0x0A, 'n'), (0x0B, 'v'), (0x0C, 'f'),
      (0x0D, 'r'), (0x1B, 'e'), (0x22, '"'), (0x5C, '\\'), (0x85, 'N'), (0xA0, '_'),
      (0x2028, 'L'), (0x2029, 'P')]
  match named.lookup c.toNat with
  | some name => ['\\', name]
  | none =>
    if c.toNat ≤ 0xFF then '\\' :: 'x' :: hexUpper 2 c.toNat
    else if c.toNat ≤ 0xFFFF then '\\' :: 'u' :: hexUpper 4 c.toNat
    else '\\' :: 'U' :: hexUpper 8 c.toNat

def doubleQuotedChar (c : Char) : List Char :=
  if !isPrintable c || isBreak c || c == '"' || c == '\\' then escaped c else [c]

/-- A line of single-quoted text goes on at the indentation. -/
def singleQuotedRest (indent : Nat) (atStart : Bool) : List Char → List Char
  | [] => (if atStart then pad indent else []) ++ ['\'']
  | c :: cs =>
    if isBreak c then c :: singleQuotedRest indent true cs
    else
      (if atStart && !isSpace c then pad indent else []) ++
        (if c = '\'' then ['\'', '\''] else [c]) ++
        singleQuotedRest indent (atStart && isSpace c) cs

/-- The lines of a literal text, each with the indentation in front; it ends with a line break. -/
def literalLines (indent : Nat) (atStart : Bool) : List Char → List Char
  | [] => if atStart then [] else ['\n']
  | c :: cs =>
    if isBreak c then c :: literalLines indent true cs
    else (if atStart then pad indent else []) ++ c :: literalLines indent false cs

/-- What follows the bar of a literal text: how far it is indented, and its last line breaks. -/
def literalHints (cs : List Char) : List Char :=
  let indentation := if cs.head?.any isSpaceOrBreak then ['2'] else []
  let breaks := (cs.reverse.takeWhile isBreak).length
  let ending := if breaks = 0 then ['-'] else if breaks = 1 ∧ cs.length ≠ 1 then [] else ['+']
  indentation ++ ending

def inLine (indent : Nat) (style : Style) (cs : List Char) : List Char :=
  match style with
  | .plain | .literal => cs
  | .singleQuoted => '\'' :: singleQuotedRest indent false cs
  | .doubleQuoted => '"' :: cs.flatMap doubleQuotedChar ++ ['"']

def textLine (indent : Nat) (text : String) : String :=
  let cs := text.toList
  String.ofList <| match styleOf text with
    | .literal => '|' :: literalHints cs ++ '\n' :: literalLines indent true cs
    | style => inLine indent style cs ++ ['\n']

/-- The longest key, in bytes, that stands in one line with its value. -/
def longestSimpleKey : Nat := 128

def isSimpleKey (key : String) : Bool :=
  !key.toList.any isBreak && key.utf8ByteSize ≤ longestSimpleKey

/-! ### Writing a value -/

/-- A value without parts, and the end of its line. -/
def scalarLine (indent : Nat) : Json → String
  | .null => "null\n"
  | .bool b => if b then "true\n" else "false\n"
  | .int n => toString n ++ "\n"
  | .float x => x.text ++ "\n"
  | .str s => textLine indent s
  | .arr _ => "[]\n"
  | .obj _ => "\x7b\x7d\n"

/-- Parts below each other, each up to the end of its line; the first is already in place. -/
def stacked (indent : Nat) (parts : List String) : String :=
  (String.ofList (pad indent)).intercalate parts

/-- Parts below each other, from the next line on. -/
def below (indent : Nat) (parts : List String) : String :=
  String.ofList ('\n' :: pad indent) ++ stacked indent parts

mutual

/-- A value at the place reached, whose parts are indented as given. -/
def inlineText (indent : Nat) : Json → String
  | .arr (item :: items) => stacked indent (itemTexts indent (item :: items))
  | .obj (member :: members) => stacked indent (memberTexts indent (member :: members))
  | json => scalarLine indent json

/-- A value behind a key, with what stands between them. -/
def afterKey (indent : Nat) : Json → String
  | .arr (item :: items) => below indent (itemTexts indent (item :: items))
  | .obj (member :: members) => below (indent + 2) (memberTexts (indent + 2) (member :: members))
  | json => " " ++ scalarLine (indent + 2) json

def itemTexts (indent : Nat) : List Json → List String
  | [] => []
  | item :: items => ("- " ++ inlineText (indent + 2) item) :: itemTexts indent items

def memberTexts (indent : Nat) : List (String × Json) → List String
  | [] => []
  | (key, value) :: members =>
    let entry :=
      if isSimpleKey key then
        String.ofList (inLine (indent + 2) (styleOf key) key.toList) ++ ":" ++
          afterKey indent value
      else
        "? " ++ textLine (indent + 2) key ++ String.ofList (pad indent) ++ ": " ++
          inlineText (indent + 2) value
    entry :: memberTexts indent members

end

def print (json : Json) : String :=
  match json with
  | .arr _ | .obj _ => inlineText 0 json
  | json => scalarLine 2 json

end UpgradeGate.Yaml
