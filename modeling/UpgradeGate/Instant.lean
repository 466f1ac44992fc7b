import UpgradeGate.Decimal
import UpgradeGate.Text.Basic

/-!
Instants of universal time, and their texts: `2024-05-01T10:00:00Z`.
-/

namespace UpgradeGate

/-- A day of the Gregorian calendar, which is extended to all years. -/
structure Day where
  year : Int
  month : Nat
  day : Nat
deriving DecidableEq, Repr

namespace Day

def isLeapYear (year : Int) : Bool := year % 4 == 0 && (year % 100 != 0 || year % 400 == 0)

def daysIn (year : Int) (month : Nat) : Nat :=
  if month = 2 then (if isLeapYear year then 29 else 28)
  else if [4, 6, 9, 11].contains month then 30
  else 31

def leastYear : Int := -262143

def greatestYear : Int := 262142

/-- Whether the calendar has the day, and its year is one of those that are kept. -/
def isValid (day : Day) : Bool :=
  leastYear ≤ day.year && day.year ≤ greatestYear && 1 ≤ day.month && day.month ≤ 12 &&
    1 ≤ day.day && day.day ≤ daysIn day.year day.month

def next (day : Day) : Day :=
  if day.day < daysIn day.year day.month then { day with day := day.day + 1 }
  else if day.month < 12 then { day with month := day.month + 1, day := 1 }
  else ⟨day.year + 1, 1, 1⟩

def previous (day : Day) : Day :=
  if 1 < day.day then { day with day := day.day - 1 }
  else if 1 < day.month then
    ⟨day.year, day.month - 1, daysIn day.year (day.month - 1)⟩
  else ⟨day.year - 1, 12, 31⟩

end Day

/-- An instant of universal time. Within a leap second the fraction of the second before goes on to
count, up to two seconds. -/
structure Instant where
  day : Day
  hour : Nat
  minute : Nat
  second : Nat
  nanosecond : Nat
  day_valid : day.isValid = true
  hour_lt : hour < 24
  minute_lt : minute < 60
  second_lt : second < 60
  nanosecond_lt : nanosecond < 2000000000
deriving DecidableEq

namespace Instant

def millennium : Instant where
  day := ⟨2000, 1, 1⟩
  hour := 0
  minute := 0
  second := 0
  nanosecond := 0
  day_valid := by decide
  hour_lt := by decide
  minute_lt := by decide
  second_lt := by decide
  nanosecond_lt := by decide

instance : Inhabited Instant := ⟨millennium⟩

/-- The instant a number of nanoseconds after the start of 1970, up to the last day. -/
def ofNanoseconds? (n : Nat) : Option Instant :=
  let second := n / 1000000000
  let minute := second / 60
  let hour := minute / 60
  let day := Nat.repeat Day.next (hour / 24) ⟨1970, 1, 1⟩
  if h : day.isValid then
    some {
      day
      hour := hour % 24
      minute := minute % 60
      second := second % 60
      nanosecond := n % 1000000000
      day_valid := h
      hour_lt := Nat.mod_lt _ (by decide)
      minute_lt := Nat.mod_lt _ (by decide)
      second_lt := Nat.mod_lt _ (by decide)
      nanosecond_lt := Nat.lt_trans (Nat.mod_lt n (by decide)) (by decide) }
  else none

/-! ### Writing -/

/-- The digits of a number, with zeros in front up to a width. -/
def padded (width n : Nat) : String :=
  let digits := toString n
  String.ofList (List.replicate (width - digits.length) '0') ++ digits

/-- A year of four digits has no sign, any other has one. -/
def yearText (year : Int) : String :=
  if 0 ≤ year ∧ year ≤ 9999 then padded 4 year.toNat
  else (if year < 0 then "-" else "+") ++ padded 4 year.natAbs

/-- A fraction of a second has three, six or nine digits, as many as it needs. -/
def fractionText (nanosecond : Nat) : String :=
  if nanosecond = 0 then ""
  else if nanosecond % 1000000 = 0 then "." ++ padded 3 (nanosecond / 1000000)
  else if nanosecond % 1000 = 0 then "." ++ padded 6 (nanosecond / 1000)
  else "." ++ padded 9 nanosecond

/-- A leap second has the number after that of the second before, which is 60 at the end of a
minute. -/
def text (instant : Instant) : String :=
  yearText instant.day.year ++ "-" ++ padded 2 instant.day.month ++ "-" ++
    padded 2 instant.day.day ++ "T" ++ padded 2 instant.hour ++ ":" ++
    padded 2 instant.minute ++ ":" ++ padded 2 (instant.second + instant.nanosecond / 1000000000) ++
    fractionText (instant.nanosecond % 1000000000) ++ "Z"

/-! ### Reading -/

namespace Reader

open Text Text.Reader

def skipBlanks : Reader Unit := skipWhile isBlank

/-- A number of one digit up to `most` digits, or any number of them. -/
def digits (most : Option Nat) : Reader (List Char) := do
  let all := (← rest).takeWhile Char.isDigit
  let taken := match most with
    | some most => all.take most
    | none => all
  skip taken.length
  if taken.isEmpty then failure else return taken

def number (least greatest : Nat) : Reader Nat := do
  skipBlanks
  let n := Decimal.natOfDecimals (← digits (some 2))
  if least ≤ n ∧ n ≤ greatest then return n else failure

/-- A year has up to four digits, or a sign and any number of digits. -/
def year : Reader Int := do
  skipBlanks
  if ← optional ['-'] then return -(Decimal.natOfDecimals (← digits none) : Int)
  if ← optional ['+'] then return Decimal.natOfDecimals (← digits none)
  return Decimal.natOfDecimals (← digits (some 4))

def mark (c : Char) : Reader Unit := do
  skipBlanks
  let _ ← oneOf [c]

/-- The nanoseconds of a fraction; digits after the ninth do not count. -/
def fraction : Reader Nat := do
  if ← optional ['.'] then
    let ds := (← digits none).take 9
    return Decimal.natOfDecimals ds * Nat.pow 10 (9 - ds.length)
  return 0

/-- A second and its fraction. The second with the number 60 goes on from the one before it. -/
def seconds : Reader (Nat × Nat) := do
  let second ← number 0 60
  let nanosecond ← fraction
  return if second = 60 then (59, nanosecond + 1000000000) else (second, nanosecond)

/-- The minutes by which a time is ahead of universal time. -/
def offset : Reader Int := do
  if isWordIgnoringAsciiCase "utc" (String.ofList ((← rest).take 3)) then
    skip 3
    return 0
  let sign ← oneOf ['Z', 'z', '+', '-', '\u2212']
  if sign = 'Z' ∨ sign = 'z' then return 0
  let hours ← digits (some 2)
  skipWhile fun c => c == ':' || isBlank c
  let minutes ← digits (some 2)
  let ahead := Decimal.natOfDecimals hours * 60 + Decimal.natOfDecimals minutes
  if hours.length = 2 ∧ minutes.length = 2 ∧ Decimal.natOfDecimals minutes < 60 ∧ ahead < 1440 then
    return if sign = '+' then ahead else -ahead
  else failure

/-- The instant at which clocks ahead by the offset show the given day and time. -/
def shifted (day : Day) (hour minute second nanosecond : Nat) (offset : Int) : Option Instant :=
  let minutes : Int := hour * 60 + minute - offset
  let shifted := if minutes < 0 then day.previous else if 1440 ≤ minutes then day.next else day
  let minutes := (minutes % 1440).toNat
  if h : day.isValid = true ∧ shifted.isValid = true ∧ second < 60 ∧ nanosecond < 2000000000 then
    some {
      day := shifted, hour := minutes / 60, minute := minutes % 60, second, nanosecond
      day_valid := h.2.1
      hour_lt := by omega
      minute_lt := by omega
      second_lt := h.2.2.1
      nanosecond_lt := h.2.2.2 }
  else none

def instant : Reader Instant := do
  let year ← year
  mark '-'
  let month ← number 1 12
  mark '-'
  let day ← number 1 31
  let _ ← oneOf ['t', 'T', ' ']
  let hour ← number 0 23
  mark ':'
  let minute ← number 0 59
  mark ':'
  let (second, nanosecond) ← seconds
  skipBlanks
  let offset ← offset
  skipBlanks
  StateT.lift (shifted ⟨year, month, day⟩ hour minute second nanosecond offset)

end Reader

def ofString? (s : String) : Option Instant := Reader.instant.readAll s

end Instant

end UpgradeGate
