import UpgradeGate.Json.Basic
import UpgradeGate.Text.Basic

/-!
JSON texts. A text is first read as a document, which keeps numbers and strings as they are written;
a document stands for a value if all its numbers and strings do and it is not nested too deeply. A
record in a document is an object, whose other members do not matter, or the list of its fields in
order, of which the last ones may be missing.
-/

namespace UpgradeGate.Json

/-- A number as written: its sign, its digits before and after the point, and its exponent. -/
structure Numeral where
  negative : Bool
  whole : List Nat
  fraction : List Nat
  exponent : Option Int
deriving DecidableEq, Repr

namespace Numeral

/-- The largest number that is kept exactly. -/
def greatestWhole : Nat := 0xFFFFFFFFFFFFFFFF

/-- The largest absolute value of a negative number that is kept exactly. -/
def greatestNegative : Nat := 0x8000000000000000

/-- Takes digits in as long as the number that they spell fits; gives it and the digits left. -/
def accumulate : Nat → List Nat → Nat × List Nat
  | sum, [] => (sum, [])
  | sum, d :: ds =>
    if sum * 10 + d ≤ greatestWhole then accumulate (sum * 10 + d) ds else (sum, d :: ds)

/-- `1e308`, the power of ten beyond which a scaling is done in steps. -/
def greatestPower : Nat := 308

def powerOfTen (n : Nat) : Decimal.Binary64 :=
  (Decimal.Binary64.ofDecimal false 1 n).getD (.zero false)

/-- Divides by `10 ^ n` in steps of at most `greatestPower`, rounding each time. -/
def divideByPower (x : Decimal.Binary64) (n : Nat) : Option Decimal.Binary64 :=
  if n ≤ greatestPower then x.div (powerOfTen n)
  else if x.isZero then some x
  else do divideByPower (← x.div (powerOfTen greatestPower)) (n - greatestPower)
termination_by n
decreasing_by simp only [greatestPower] at *; omega

/--
The number `±significand · 10 ^ exponent` in two roundings, the significand's and the scaling's;
`none` beyond the greatest finite number.
-/
def scaled (negative : Bool) (significand : Nat) (exponent : Int) : Option Decimal.Binary64 := do
  let x ← Decimal.Binary64.ofQuotient false significand 1
  let y ←
    if exponent < 0 then divideByPower x (-exponent).toNat
    else if exponent.toNat ≤ greatestPower then x.mul (powerOfTen exponent.toNat)
    else if x.isZero then some x
    else none
  return { y with negative }

/--
The value of a number: an integer if it is written without point and exponent and fits 64 bits
(minus zero does not), else a float of its first digits that fit 64 bits.
-/
def value? (n : Numeral) : Option Json := do
  let (sum, restWhole) := accumulate 0 n.whole
  let float (significand : Nat) (exponent : Int) : Option Json :=
    (scaled n.negative significand exponent).map Json.float
  match restWhole, n.fraction, n.exponent with
  | [], [], none =>
    if !n.negative then return .int sum
    else if sum = 0 ∨ greatestNegative < sum then float sum 0
    else return .int (-sum)
  | _, _, _ =>
    let (significand, restFraction) := accumulate sum n.fraction
    let places : Int := n.fraction.length - restFraction.length
    float significand (restWhole.length - places + n.exponent.getD 0)

end Numeral

/-- A JSON text as read. A string is `none` if it names half of a surrogate pair. -/
inductive Document where
  | null
  | bool (value : Bool)
  | number (numeral : Numeral)
  | str (value : Option String)
  | arr (items : List Document)
  | obj (members : List (Option String × Document))
deriving Inhabited

namespace Document

/-- How many lists and objects may stand inside each other. -/
def greatestDepth : Nat := 127

mutual

/-- The value that a document stands for, if it is nested at most `depth` levels. -/
def value? (depth : Nat) : Document → Option Json
  | .null => some .null
  | .bool b => some (.bool b)
  | .number n => n.value?
  | .str s => s.map Json.str
  | .arr items =>
    match depth with
    | 0 => none
    | depth + 1 => (values? depth items).map Json.arr
  | .obj members =>
    match depth with
    | 0 => none
    | depth + 1 => (memberValues? depth members).map Json.obj

def values? (depth : Nat) : List Document → Option (List Json)
  | [] => some []
  | item :: items => do return (← value? depth item) :: (← values? depth items)

def memberValues? (depth : Nat) : List (Option String × Document) → Option (List (String × Json))
  | [] => some []
  | (name, item) :: members => do
    return (← name, ← value? depth item) :: (← memberValues? depth members)

end

/-! The grammar. -/

open Text (Reader)

def isSpace (c : Char) : Bool := c == ' ' || c == '\n' || c == '\t' || c == '\r'

def skipSpace (cs : List Char) : List Char := cs.dropWhile isSpace

def expect? : List Char → List Char → Option (List Char)
  | [], cs => some cs
  | w :: ws, c :: cs => if w = c then expect? ws cs else none
  | _ :: _, [] => none

def digitValue (c : Char) : Nat := c.toNat - '0'.toNat

def digits : Reader (List Nat) := fun cs =>
  match cs.takeWhile Char.isDigit with
  | [] => none
  | ds => some (ds.map digitValue, cs.dropWhile Char.isDigit)

def exponent : Reader (Option Int) := fun
  | c :: cs =>
    if c = 'e' ∨ c = 'E' then do
      let (negative, cs) := match cs with
        | '+' :: cs => (false, cs)
        | '-' :: cs => (true, cs)
        | _ => (false, cs)
      let (ds, cs) ← digits cs
      let n : Nat := ds.foldl (fun sum d => sum * 10 + d) 0
      return (some (if negative then -(n : Int) else n), cs)
    else some (none, c :: cs)
  | [] => some (none, [])

def fraction : Reader (List Nat) := fun
  | '.' :: cs => digits cs
  | cs => some ([], cs)

def numeral : Reader Numeral := fun cs => do
  let (negative, cs) := match cs with
    | '-' :: cs => (true, cs)
    | _ => (false, cs)
  let (whole, cs) ← digits cs
  guard (whole.head? ≠ some 0 ∨ whole.length = 1)
  let (fraction, cs) ← fraction cs
  let (exponent, cs) ← exponent cs
  return (⟨negative, whole, fraction, exponent⟩, cs)

def hexValue? (c : Char) : Option Nat :=
  if '0' ≤ c ∧ c ≤ '9' then some (c.toNat - '0'.toNat)
  else if 'a' ≤ c ∧ c ≤ 'f' then some (c.toNat - 'a'.toNat + 10)
  else if 'A' ≤ c ∧ c ≤ 'F' then some (c.toNat - 'A'.toNat + 10)
  else none

def hex4 : Reader Nat := fun
  | a :: b :: c :: d :: cs => do
    return ((← hexValue? a) * 4096 + (← hexValue? b) * 256 + (← hexValue? c) * 16 + (← hexValue? d),
      cs)
  | _ => none

def simpleEscape? : Char → Option Char
  | '"' => some '"'
  | '\\' => some '\\'
  | '/' => some '/'
  | 'b' => some '\x08'
  | 'f' => some '\x0c'
  | 'n' => some '\n'
  | 'r' => some '\r'
  | 't' => some '\t'
  | _ => none

/-- A code unit of a string: a character, or a half of a surrogate pair. -/
inductive CodeUnit where
  | char (c : Char)
  | highHalf (n : Nat)
  | lowHalf (n : Nat)

def CodeUnit.ofNat (n : Nat) : CodeUnit :=
  if 0xD800 ≤ n ∧ n < 0xDC00 then .highHalf (n - 0xD800)
  else if 0xDC00 ≤ n ∧ n < 0xE000 then .lowHalf (n - 0xDC00)
  else .char (Char.ofNat n)

/-- Joins halves into characters; a half alone makes the string ill-formed. -/
def joinHalves : List CodeUnit → Option (List Char)
  | [] => some []
  | .char c :: units => (joinHalves units).map (c :: ·)
  | .highHalf high :: .lowHalf low :: units =>
    (joinHalves units).map (Char.ofNat (0x10000 + high * 1024 + low) :: ·)
  | _ => none

def codeUnits : Nat → Reader (List CodeUnit)
  | 0, _ => none
  | _, [] => none
  | fuel + 1, c :: cs =>
    if c = '"' then some ([], cs)
    else if c = '\\' then
      match cs with
      | 'u' :: cs => do
        let (n, cs) ← hex4 cs
        let (units, cs) ← codeUnits fuel cs
        return (.ofNat n :: units, cs)
      | e :: cs => do
        let escaped ← simpleEscape? e
        let (units, cs) ← codeUnits fuel cs
        return (.char escaped :: units, cs)
      | [] => none
    else if c.toNat < 0x20 then none
    else do
      let (units, cs) ← codeUnits fuel cs
      return (.char c :: units, cs)

def stringBody : Reader (Option String) := fun cs => do
  let (units, cs) ← codeUnits (cs.length + 1) cs
  return ((joinHalves units).map String.ofList, cs)

mutual

def value : Nat → Reader Document
  | 0, _ => none
  | fuel + 1, cs =>
    match skipSpace cs with
    | 'n' :: cs => (expect? ['u', 'l', 'l'] cs).map (.null, ·)
    | 't' :: cs => (expect? ['r', 'u', 'e'] cs).map (.bool true, ·)
    | 'f' :: cs => (expect? ['a', 'l', 's', 'e'] cs).map (.bool false, ·)
    | '"' :: cs => (stringBody cs).map fun (s, cs) => (.str s, cs)
    | '[' :: cs =>
      match skipSpace cs with
      | ']' :: cs => some (.arr [], cs)
      | cs => (items fuel cs).map fun (xs, cs) => (.arr xs, cs)
    | '\x7b' :: cs =>
      match skipSpace cs with
      | '\x7d' :: cs => some (.obj [], cs)
      | cs => (memberList fuel cs).map fun (xs, cs) => (.obj xs, cs)
    | cs => (numeral cs).map fun (n, cs) => (.number n, cs)

/-- The items of a list up to its end, at least one. -/
def items : Nat → Reader (List Document)
  | 0, _ => none
  | fuel + 1, cs => do
    let (x, cs) ← value fuel cs
    match skipSpace cs with
    | ',' :: cs => do
      let (xs, cs) ← items fuel cs
      return (x :: xs, cs)
    | ']' :: cs => return ([x], cs)
    | _ => none

/-- The members of an object up to its end, at least one. -/
def memberList : Nat → Reader (List (Option String × Document))
  | 0, _ => none
  | fuel + 1, cs => do
    let cs ← expect? ['"'] (skipSpace cs)
    let (name, cs) ← stringBody cs
    let cs ← expect? [':'] (skipSpace cs)
    let (x, cs) ← value fuel cs
    match skipSpace cs with
    | ',' :: cs => do
      let (xs, cs) ← memberList fuel cs
      return ((name, x) :: xs, cs)
    | '\x7d' :: cs => return ([(name, x)], cs)
    | _ => none

end

/-- Reads a whole text, with blank characters around the value only. -/
def parse? (text : String) : Option Document := do
  let cs := text.toList
  let (document, rest) ← value (2 * cs.length + 2) cs
  guard (skipSpace rest).isEmpty
  return document

end Document

def parse? (text : String) : Option Json := do
  (← Document.parse? text).value? Document.greatestDepth

/-! ### Records -/

namespace Document

def str? : Document → Option String
  | .str s => s
  | _ => none

def list? (read : Document → Option α) : Document → Option (List α)
  | .arr items => items.mapM read
  | _ => none

def optional? (read : Document → Option α) : Document → Option (Option α)
  | .null => some none
  | document => (read document).map some

/-- A map of strings; of two entries with one name the last counts. -/
def strings? : Document → Option (Dict String)
  | .obj members => do
    let pairs ← members.mapM fun (name, value) => do return (← name, ← value.str?)
    return Dict.ofList pairs
  | _ => none

/-- A word out of a list, alone or as the name of a null. -/
def word? (words : List (String × α)) : Document → Option α
  | .str (some word) => words.lookup word
  | .obj [(some word, .null)] => words.lookup word
  | _ => none

structure Fields where
  present : List (String × Document)

/-- Keeps the members that are fields; none of them may come twice. -/
def fieldsOf (names : List String) :
    List (Option String × Document) → Option (List (String × Document))
  | [] => some []
  | (none, _) :: _ => none
  | (some name, value) :: members => do
    let fields ← fieldsOf names members
    if !names.contains name then return fields
    else if (fields.lookup name).isSome then none
    else return (name, value) :: fields

/-- Takes a record with the given field names apart. -/
def record? (names : List String) : Document → Option Fields
  | .obj members => (fieldsOf names members).map Fields.mk
  | .arr items => if items.length ≤ names.length then some ⟨names.zip items⟩ else none
  | _ => none

namespace Fields

def required (fields : Fields) (name : String) (read : Document → Option α) : Option α :=
  (fields.present.lookup name).bind read

def withDefault (fields : Fields) (name : String) (read : Document → Option α) (value : α) :
    Option α :=
  match fields.present.lookup name with
  | none => some value
  | some document => read document

end Fields

end Document

end UpgradeGate.Json
