import UpgradeGate.Decimal

/-!
What a plain YAML scalar stands for: null, a truth value, a number or else a text.
-/

namespace UpgradeGate.Yaml

/-- The meaning of a plain scalar. A float is none if it is infinite or not a number. -/
inductive Plain where
  | null
  | bool (value : Bool)
  | whole (value : Int)
  | float (value : Option Decimal.Binary64)
  | text
deriving DecidableEq, Repr

namespace Plain

open Decimal

def null? (s : String) : Bool := ["", "null", "Null", "NULL", "~"].contains s

def bool? (s : String) : Option Bool :=
  if ["true", "True", "TRUE"].contains s then some true
  else if ["false", "False", "FALSE"].contains s then some false
  else none

def isSign (c : Char) : Bool := c == '+' || c == '-'

/-- Digits after a needless zero, perhaps behind a sign. Such a scalar is a text. -/
def hasNeedlessZero (cs : List Char) : Bool :=
  let cs := match cs with
    | c :: rest => if isSign c then rest else cs
    | [] => []
  match cs with
  | '0' :: rest => !rest.isEmpty && rest.all Char.isDigit
  | _ => false

/-- Digits of base 16, 8 or 2 behind `0x`, `0o` or `0b`. -/
def based? : List Char → Option Nat
  | '0' :: 'x' :: cs => natOfDigits? 16 cs
  | '0' :: 'o' :: cs => natOfDigits? 8 cs
  | '0' :: 'b' :: cs => natOfDigits? 2 cs
  | _ => none

def atMost (bound : Nat) (n : Nat) : Option Nat := if n ≤ bound then some n else none

def greatestWhole : Nat := 0xFFFFFFFFFFFFFFFFFFFFFFFFFFFFFFFF

def greatestNegative : Nat := 0x80000000000000000000000000000000

/-- Whole numbers have up to 128 bits, with sign or without. -/
def whole? (cs : List Char) : Option Int :=
  let decimal? (digits : List Char) : Option Nat :=
    if hasNeedlessZero cs then none else natOfDigits? 10 digits
  let magnitude? (digits : List Char) (bound : Nat) : Option Nat :=
    ((based? digits).bind (atMost bound)).or ((decimal? digits).bind (atMost bound))
  match cs with
  | '-' :: digits => (magnitude? digits greatestNegative).map fun n => -(n : Int)
  | '+' :: digits => (magnitude? digits greatestWhole).map Int.ofNat
  | digits => (magnitude? digits greatestWhole).map Int.ofNat

def float? (s : String) : Option (Option Binary64) :=
  if [".nan", ".NaN", ".NAN", ".inf", ".Inf", ".INF", "+.inf", "+.Inf", "+.INF", "-.inf", "-.Inf",
      "-.INF"].contains s then some none
  else match s.toList with
    | '+' :: '-' :: _ => none
    | '+' :: cs => (Binary64.ofText? cs).map some
    | cs => (Binary64.ofText? cs).map some

end Plain

def Plain.ofString (s : String) : Plain :=
  if null? s then .null
  else match bool? s with
    | some b => .bool b
    | none =>
      match whole? s.toList with
      | some n => .whole n
      | none =>
        if hasNeedlessZero s.toList then .text
        else match float? s with
          | some x => .float x
          | none => .text

end UpgradeGate.Yaml
