/-!
Decimals: finite binary64 numbers, how they are read from digits, and the shortest decimal that
reads back as a given one.
-/

namespace UpgradeGate.Decimal

/-! ### Binary64 numbers -/

/--
A finite binary64 number `±significand · 2 ^ exponent`. The significand has 53 bits, or fewer when
the exponent is `leastExponent`.
-/
structure Binary64 where
  negative : Bool
  significand : Nat
  exponent : Int
deriving DecidableEq, Repr

namespace Binary64

def leastExponent : Int := -1074

def greatestExponent : Int := 971

def leastFull : Nat := 0x10000000000000

def zero (negative : Bool) : Binary64 := ⟨negative, 0, leastExponent⟩

/-- The whole number nearest to `num / den`; a half goes to the even neighbour. -/
def roundQuotient (num den : Nat) : Nat :=
  let below := num / den
  let twice := 2 * (num % den)
  if twice < den then below
  else if twice > den then below + 1
  else if below % 2 = 0 then below
  else below + 1

def scale (num den : Nat) (exponent : Int) : Nat × Nat :=
  if 0 ≤ exponent then (num, den * Nat.pow 2 exponent.toNat)
  else (num * Nat.pow 2 (-exponent).toNat, den)

/-- The exponent with which the quotient's significand has 53 bits, but at least the least one. -/
def exponentOf (num den : Nat) : Int :=
  let guess : Int := num.log2 - den.log2 - 53
  let (n, d) := scale num den guess
  max (if n / d < 2 * leastFull then guess else guess + 1) leastExponent

/-- The number nearest to `±num / den`, or `none` beyond the greatest finite one. -/
def ofQuotient (negative : Bool) (num den : Nat) : Option Binary64 :=
  if num = 0 then some (zero negative)
  else
    let exponent := exponentOf num den
    let (n, d) := scale num den exponent
    let rounded := roundQuotient n d
    let (significand, exponent) :=
      if rounded = 2 * leastFull then (leastFull, exponent + 1) else (rounded, exponent)
    if exponent ≤ greatestExponent then some ⟨negative, significand, exponent⟩ else none

def toQuotient (x : Binary64) : Nat × Nat :=
  if 0 ≤ x.exponent then (x.significand * Nat.pow 2 x.exponent.toNat, 1)
  else (x.significand, Nat.pow 2 (-x.exponent).toNat)

def mul (x y : Binary64) : Option Binary64 :=
  let (a, b) := x.toQuotient
  let (c, d) := y.toQuotient
  ofQuotient false (a * c) (b * d)

/-- The rounded quotient of the absolute values, the second of which is not zero. -/
def div (x y : Binary64) : Option Binary64 :=
  let (a, b) := x.toQuotient
  let (c, d) := y.toQuotient
  ofQuotient false (a * d) (b * c)

def isZero (x : Binary64) : Bool := x.significand == 0

/-- The number nearest to `±digits · 10 ^ exponent`. -/
def ofDecimal (negative : Bool) (digits : Nat) (exponent : Int) : Option Binary64 :=
  let places : Int := (toString digits).length + exponent
  if digits = 0 || places < -330 then some (zero negative)
  else if places > 320 then none
  else if 0 ≤ exponent then ofQuotient negative (digits * Nat.pow 10 exponent.toNat) 1
  else ofQuotient negative digits (Nat.pow 10 (-exponent).toNat)

end Binary64

/-! ### Numbers read from digits -/

def digitValue? (base : Nat) (c : Char) : Option Nat :=
  let value :=
    if '0' ≤ c ∧ c ≤ '9' then c.toNat - '0'.toNat
    else if 'a' ≤ c ∧ c ≤ 'f' then c.toNat - 'a'.toNat + 10
    else if 'A' ≤ c ∧ c ≤ 'F' then c.toNat - 'A'.toNat + 10
    else base
  if value < base then some value else none

def natOfDigits? (base : Nat) : List Char → Option Nat
  | [] => none
  | cs => cs.foldlM (fun sum c => (digitValue? base c).map (sum * base + ·)) 0

/-- The natural number that digits already known to be decimal spell, zero if there are none. -/
def natOfDecimals (cs : List Char) : Nat := (natOfDigits? 10 cs).getD 0

/-- The exponent of a decimal: nothing, or `e`, perhaps a sign, and digits. -/
def exponentOf? : List Char → Option Int
  | [] => some 0
  | c :: cs =>
    if c = 'e' ∨ c = 'E' then
      match cs with
      | '-' :: ds => (natOfDigits? 10 ds).map fun n => -(n : Int)
      | '+' :: ds => (natOfDigits? 10 ds).map Int.ofNat
      | ds => (natOfDigits? 10 ds).map Int.ofNat
    else none

/-- The parts of a decimal without sign: digits, and the power of ten of the last one. -/
def unsignedParts? (cs : List Char) : Option (Nat × Int) := do
  let whole := cs.takeWhile Char.isDigit
  let rest := cs.dropWhile Char.isDigit
  let (fraction, rest) := match rest with
    | '.' :: rest => (rest.takeWhile Char.isDigit, rest.dropWhile Char.isDigit)
    | _ => ([], rest)
  let digits ← natOfDigits? 10 (whole ++ fraction)
  return (digits, (← exponentOf? rest) - fraction.length)

/--
Reads a decimal: digits with a point anywhere among them, and perhaps a minus sign and an exponent.
Too great a number is none.
-/
def Binary64.ofText? : List Char → Option Binary64
  | '-' :: cs => do
    let (digits, exponent) ← unsignedParts? cs
    ofDecimal true digits exponent
  | cs => do
    let (digits, exponent) ← unsignedParts? cs
    ofDecimal false digits exponent

/-! ### The shortest decimal -/

namespace Binary64

/-- The power of ten `p` with `10 ^ p ≤ num / den < 10 ^ (p + 1)`, for a positive quotient. -/
def decimalMagnitude (num den : Nat) : Int :=
  if den ≤ num then (toString (num / den)).length - 1
  else
    let places := (toString (den / num)).length
    if den ≤ num * Nat.pow 10 (places - 1) then -((places - 1 : Nat) : Int) else -(places : Int)

/--
Whether `num / den`, both in units of a quarter of the last binary place of `x`, rounds to `x`: it
lies within half a place, where the ends count when the significand is even, and below a power of
two the next number is only half as far away.
-/
def readsBack (x : Binary64) (num den : Nat) : Bool :=
  let low := 4 * x.significand -
    (if x.significand = leastFull ∧ leastExponent < x.exponent then 1 else 2)
  let high := 4 * x.significand + 2
  if x.significand % 2 = 0 then low * den ≤ num && num ≤ high * den
  else low * den < num && num < high * den

/-- `digits · 10 ^ power` in quarters of the last binary place of `x`. -/
def inQuarterPlaces (x : Binary64) (digits : Nat) (power : Int) : Nat × Nat :=
  let (num, den) :=
    if 0 ≤ power then (digits * Nat.pow 10 power.toNat, 1)
    else (digits, Nat.pow 10 (-power).toNat)
  scale num den (x.exponent - 2)

/-- The decimal with the last place `10 ^ power` that reads back as `x`, the nearest of two. -/
def onGrid? (x : Binary64) (power : Int) : Option Nat :=
  let (num, den) := x.toQuotient
  let (n, d) :=
    if 0 ≤ power then (num, den * Nat.pow 10 power.toNat)
    else (num * Nat.pow 10 (-power).toNat, den)
  let reads (digits : Nat) : Bool :=
    let (a, b) := x.inQuarterPlaces digits power
    x.readsBack a b
  let below := n / d
  match reads below, reads (below + 1) with
  | true, true => some (roundQuotient n d)
  | true, false => some below
  | false, true => some (below + 1)
  | false, false => none

/-- Digits and power of ten of the shortest decimal that reads back as a number other than zero. -/
def shortest (x : Binary64) : Nat × Int :=
  let (num, den) := x.toQuotient
  let magnitude := decimalMagnitude num den
  let found := (List.range 17).findSome? fun n : Nat =>
    (x.onGrid? (magnitude - n)).map fun digits => (digits, magnitude - n)
  found.getD (0, 0)

/-- Drops zeros at the end of the digits, of which there are at most `fuel`. -/
def dropZeros : Nat → Nat → Int → Nat × Int
  | 0, digits, power => (digits, power)
  | fuel + 1, digits, power =>
    if digits % 10 = 0 then dropZeros fuel (digits / 10) (power + 1) else (digits, power)

/--
The text of a number: positional notation when the point stands at most 16 digits to the right and
5 zeros to the left of the first digit, else one digit before the point and an exponent. A whole
number in positional notation ends in `.0`.
-/
def text (x : Binary64) : String :=
  let sign := if x.negative then "-" else ""
  if x.isZero then sign ++ "0.0"
  else
    let (digits, power) := dropZeros 20 x.shortest.1 x.shortest.2
    let ds := toString digits
    let point : Int := ds.length + power
    let zeros (n : Int) : String := String.ofList (List.replicate n.toNat '0')
    sign ++
      if 0 ≤ power ∧ point ≤ 16 then ds ++ zeros power ++ ".0"
      else if 0 < point ∧ point ≤ 16 then
        String.ofList (ds.toList.take point.toNat) ++ "." ++
          String.ofList (ds.toList.drop point.toNat)
      else if -5 < point ∧ point ≤ 0 then "0." ++ zeros (-point) ++ ds
      else
        let mantissa := match ds.toList with
          | [] | [_] => ds
          | first :: rest => String.ofList (first :: '.' :: rest)
        mantissa ++ "e" ++ toString (point - 1)

end Binary64

end UpgradeGate.Decimal
