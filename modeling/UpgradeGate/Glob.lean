import UpgradeGate.Text.Basic

/-!
Globs over the bytes of a text, and how they are read from their own text. The meaning of a part is
what it may leave of a text whose front it matches; a glob matches a text of which it can leave
nothing.
-/

namespace UpgradeGate

namespace Glob

inductive Part where
  | char (c : Char)
  /-- `?`: one byte. -/
  | anyByte
  /-- `*`: any number of bytes. -/
  | anyBytes
  /-- `**/` at the front: nothing, or directories. -/
  | leading
  /-- `/**` at the end: what is inside a directory. -/
  | trailing
  /-- `/**/`: a slash, perhaps with directories behind it. -/
  | middle
  /-- A bracket class; its members are ranges of characters. -/
  | oneOf (negated : Bool) (ranges : List (Char × Char))
  /-- Braces with the branches between them. -/
  | either (branches : List (List Part))
deriving Inhabited

abbrev charBytes (c : Char) : List UInt8 := String.utf8EncodeChar c

/--
Whether a byte is in a range of characters. A character of several bytes adds each of them, save
that the last byte of the lower one and the first byte of the upper one span a range.
-/
def inRange (byte : UInt8) (range : Char × Char) : Bool :=
  let low := charBytes range.1
  let high := charBytes range.2
  if range.1 = range.2 then low.contains byte
  else low.dropLast.contains byte || high.tail.contains byte ||
    (low.getLastD 0 ≤ byte && byte ≤ high.headD 0)

/-- The rests of a text, from the whole of it to nothing. -/
def suffixes : List UInt8 → List (List UInt8)
  | [] => [[]]
  | byte :: text => (byte :: text) :: suffixes text

def slash : UInt8 := 47

def afterSlashes : List UInt8 → List (List UInt8)
  | [] => []
  | byte :: text => if byte = slash then text :: afterSlashes text else afterSlashes text

/-- The text without the given bytes at its front. -/
def without? : List UInt8 → List UInt8 → Option (List UInt8)
  | [], text => some text
  | front :: fronts, byte :: text => if front = byte then without? fronts text else none
  | _ :: _, [] => none

mutual

/-- Whether a part, or all parts of a branch, are only braces with nothing to match. -/
def Part.isVoid : Part → Bool
  | .either branches => areVoid branches
  | _ => false

def isVoidBranch : List Part → Bool
  | [] => true
  | part :: parts => part.isVoid && isVoidBranch parts

def areVoid : List (List Part) → Bool
  | [] => true
  | branch :: branches => isVoidBranch branch && areVoid branches

end

mutual

/-- What may be left of a text once a part has matched the front of it. -/
def Part.rests : Part → List UInt8 → List (List UInt8)
  | .char c, text => (without? (charBytes c) text).toList
  | .anyByte, text => text.tail?.toList
  | .anyBytes, text => suffixes text
  | .leading, text => text :: afterSlashes text
  | .trailing, byte :: text => if byte = slash then suffixes text else []
  | .middle, byte :: text => if byte = slash then text :: afterSlashes text else []
  | .oneOf negated ranges, byte :: text =>
    if ranges.any (inRange byte) != negated then [text] else []
  | .either branches, text => if areVoid branches then [text] else restsOfAny branches text
  | .trailing, [] | .middle, [] | .oneOf _ _, [] => []

/-- What may be left of one of the texts once all parts have matched, one after the other. -/
def restsOf : List Part → List (List UInt8) → List (List UInt8)
  | [], texts => texts
  | part :: parts, texts => restsOf parts (texts.flatMap part.rests).eraseDups

/-- What a branch may leave. A branch with nothing to match counts only if all are such. -/
def restsOfAny : List (List Part) → List UInt8 → List (List UInt8)
  | [], _ => []
  | branch :: branches, text =>
    (if isVoidBranch branch then [] else restsOf branch [text]) ++ restsOfAny branches text

end

end Glob

structure Glob where
  parts : List Glob.Part
deriving Inhabited

namespace Glob

/-- Whether the glob matches the whole text. `**` alone matches any text. -/
def isMatch (glob : Glob) (text : String) : Bool :=
  match glob.parts with
  | [.leading] => true
  | parts => (restsOf parts [Text.bytes text]).any List.isEmpty

end Glob

/-! ### Globs read from their text, one character after the other -/

namespace Glob

/-- An open brace: the branches before the current one, and the parts before the brace. -/
structure Group where
  branches : List (List Part)
  outside : List Part

/-- What the characters so far have left unfinished. -/
inductive Mode where
  | plain
  | escape
  /-- After a star, which `before` stood in front of. -/
  | star (before : Option Char)
  | stars (before : Option Char)
  | bracket
  /-- In a bracket class; `open` says that a range waits for its end. -/
  | members (negated : Bool) (ranges : List (Char × Char)) (first waiting : Bool)

/-- How far a text is read. Parts and branches stand in reverse order. -/
structure Progress where
  previous : Option Char := none
  mode : Mode := .plain
  current : List Part := []
  groups : List Group := []

namespace Progress

def push (progress : Progress) (part : Part) : Progress :=
  { progress with mode := .plain, current := part :: progress.current }

/-- A character that is not inside a bracket class, nor behind a backslash or a star. -/
def plainChar (progress : Progress) (c : Char) : Option Progress :=
  match c with
  | '?' => some (progress.push .anyByte)
  | '*' => some { progress with mode := .star progress.previous }
  | '[' => some { progress with mode := .bracket }
  | '\\' => some { progress with mode := .escape }
  | '\x7b' =>
    some { progress with
      mode := .plain, current := [], groups := ⟨[], progress.current⟩ :: progress.groups }
  | '\x7d' =>
    match progress.groups with
    | [] => none
    | group :: groups =>
      let branches := (progress.current.reverse :: group.branches).reverse
      some { progress with mode := .plain, current := .either branches :: group.outside, groups }
  | ',' =>
    match progress.groups with
    | [] => some (progress.push (.char ','))
    | group :: groups =>
      let group := { group with branches := progress.current.reverse :: group.branches }
      some { progress with mode := .plain, current := [], groups := group :: groups }
  | c => some (progress.push (.char c))

/-- Two stars between slashes stand for directories; they take the place of the slash before. -/
def pushDirectories (progress : Progress) (part : Part) : Progress :=
  match progress.current with
  | .leading :: _ | .trailing :: _ => { progress with mode := .plain }
  | _ :: parts => { progress with mode := .plain, current := part :: parts }
  | [] => progress.push part

/-- Whether two stars after the given character, among other parts, may stand for directories. -/
def startsDirectories (progress : Progress) (before : Option Char) : Bool :=
  before == some '/' ||
    (!progress.groups.isEmpty && (before == some ',' || before == some '\x7b'))

/-- Two stars that the given character, or the end of the text, follows. -/
def afterStars (progress : Progress) (before next : Option Char) : Option Progress :=
  let separate := (progress.push .anyBytes).push .anyBytes
  let endsBranch := !progress.groups.isEmpty && (next == some ',' || next == some '\x7d')
  let proceed (progress : Progress) : Option Progress :=
    match next with
    | none => some progress
    | some c => Progress.plainChar { progress with previous := some '*' } c
  if progress.current.isEmpty then
    match next with
    | none | some '/' => some (progress.push .leading)
    | some _ => proceed separate
  else if !progress.startsDirectories before then proceed separate
  else if next == some '/' then some (progress.pushDirectories .middle)
  else if next == none || endsBranch then proceed (progress.pushDirectories .trailing)
  else proceed separate

/-- A member of a bracket class, or its end. -/
def member (progress : Progress) (negated : Bool) (ranges : List (Char × Char))
    (first waiting : Bool) (c : Char) : Option Progress :=
  let extend (ranges : List (Char × Char)) (waiting : Bool) : Option Progress :=
    some { progress with mode := .members negated ranges false waiting }
  if c = ']' && !first then
    some (progress.push (.oneOf negated (if waiting then ('-', '-') :: ranges else ranges)))
  else if c = '-' && !first && !waiting then extend ranges true
  else if waiting && c ≠ ']' then
    match ranges with
    | [] => none
    | range :: ranges => if c < range.1 then none else extend ((range.1, c) :: ranges) false
  else extend ((c, c) :: ranges) false

def next (progress : Progress) (c : Char) : Option Progress := do
  let progress ← match progress.mode with
    | .plain => progress.plainChar c
    | .escape => some (progress.push (.char c))
    | .star before =>
      if c = '*' then some { progress with mode := .stars before }
      else Progress.plainChar { progress.push .anyBytes with previous := some '*' } c
    | .stars before => progress.afterStars before (some c)
    | .bracket =>
      if c = '!' || c = '^' then some { progress with mode := .members true [] true false }
      else progress.member false [] true false c
    | .members negated ranges first waiting => progress.member negated ranges first waiting c
  return { progress with previous := some c }

/-- The glob at the end of the text, if nothing is left open. -/
def finish (progress : Progress) : Option Glob := do
  let progress ← match progress.mode with
    | .plain => some progress
    | .star _ => some (progress.push .anyBytes)
    | .stars before => progress.afterStars before none
    | _ => none
  if progress.groups.isEmpty then some ⟨progress.current.reverse⟩ else none

end Progress

/--
Reads a glob. Brackets and braces have to be closed, a backslash has to be followed by a character,
and a range in brackets must not go down.
-/
def ofString? (text : String) : Option Glob := do
  (← text.toList.foldlM Progress.next {}).finish

end Glob

end UpgradeGate
