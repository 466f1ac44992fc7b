import UpgradeGate.Decimal
import UpgradeGate.Instant
import UpgradeGate.Text.Basic

/-!
TOML values, of which floats and times are kept as they are written; the words that spell them; and
tables as a text builds them up. No entry of a table may be set twice, and a table may be filled
from several places only if none of them names it as a whole.
-/

namespace UpgradeGate

inductive Toml where
  | str (text : String)
  | int (value : Int)
  | bool (value : Bool)
  | float (text : String)
  | time (text : String)
  | arr (items : List Toml)
  | table (entries : List (String × Toml))
deriving Inhabited

namespace Toml

def str? : Toml → Option String
  | .str text => some text
  | _ => none

def list? (read : Toml → Option α) : Toml → Option (List α)
  | .arr items => items.mapM read
  | _ => none

def natural? : Toml → Option Nat
  | .int n => if 0 ≤ n ∧ n < UInt64.size then some n.toNat else none
  | _ => none

/-- A word out of a list, alone or as the name of something empty. -/
def word? (words : List (String × α)) : Toml → Option α
  | .str word => words.lookup word
  | .table [(word, .arr [])] | .table [(word, .table [])] => words.lookup word
  | _ => none

/--
The fields of a record: the entries of a table, or the items of a list in the order of the field
names. What else there is does not matter.
-/
def fields? (names : List String) : Toml → Option (List (String × Toml))
  | .table entries => some entries
  | .arr items => some (names.zip items)
  | _ => none

/-- A field that has a value of its own if it is missing. -/
def field (fields : List (String × Toml)) (name : String) (read : Toml → Option α) (value : α) :
    Option α :=
  match fields.lookup name with
  | none => some value
  | some toml => read toml

end Toml

/-! ### Words: numbers, truth values and times -/

namespace Toml

open Decimal (natOfDigits? natOfDecimals)

/-- Digits with single underscores between them, and their number. -/
def digits? (base : Nat) (cs : List Char) : Option Nat :=
  let groups := Text.split '_' cs
  if groups.any List.isEmpty then none else natOfDigits? base groups.flatten

/-- A decimal whole number without sign and without needless zeros. -/
def decimal? : List Char → Option Nat
  | '0' :: _ :: _ => none
  | cs => digits? 10 cs

def unsigned (cs : List Char) : List Char :=
  match cs with
  | '+' :: cs | '-' :: cs => cs
  | cs => cs

def int? : List Char → Option Int
  | '0' :: 'x' :: cs => (digits? 16 cs).map Int.ofNat
  | '0' :: 'o' :: cs => (digits? 8 cs).map Int.ofNat
  | '0' :: 'b' :: cs => (digits? 2 cs).map Int.ofNat
  | '-' :: cs => (decimal? cs).map fun n => -(n : Int)
  | cs => (decimal? (unsigned cs)).map Int.ofNat

/-- Whether a word is a float: with a fraction or an exponent, infinite, or not a number. -/
def isFloat (cs : List Char) : Bool :=
  let cs := unsigned cs
  if cs = ['i', 'n', 'f'] ∨ cs = ['n', 'a', 'n'] then true
  else
    let isExponentMark (c : Char) : Bool := c == 'e' || c == 'E'
    let mantissa := cs.takeWhile fun c => !isExponentMark c
    let exponent := (cs.dropWhile fun c => !isExponentMark c).drop 1
    let hasExponent := cs.any isExponentMark
    let exponentOk := !hasExponent || (digits? 10 (unsigned exponent)).isSome
    match Text.split '.' mantissa with
    | [whole] => hasExponent && exponentOk && (decimal? whole).isSome
    | [whole, fraction] => exponentOk && (decimal? whole).isSome && (digits? 10 fraction).isSome
    | _ => false

def fixed? (width : Nat) (cs : List Char) : Option Nat :=
  if cs.length = width then natOfDigits? 10 cs else none

/-- Whether a word is a day, as `1979-05-27`. -/
def isDay (cs : List Char) : Bool :=
  match Text.split '-' cs with
  | [year, month, day] =>
    match fixed? 4 year, fixed? 2 month, fixed? 2 day with
    | some year, some month, some day => Day.isValid ⟨year, month, day⟩
    | _, _, _ => false
  | _ => false

def isBelow (bound : Nat) (n? : Option Nat) : Bool := n?.any (· < bound)

/-- Whether a word is a time of day, as `07:32`, `07:32:00` or `07:32:00.5`. -/
def isTimeOfDay (cs : List Char) : Bool :=
  match Text.split '.' cs with
  | [clock] => isClock clock
  | [clock, fraction] =>
    (Text.split ':' clock).length == 3 && isClock clock && !fraction.isEmpty &&
      fraction.all Char.isDigit
  | _ => false
where
  isClock (cs : List Char) : Bool :=
    match Text.split ':' cs with
    | [hour, minute] => isBelow 24 (fixed? 2 hour) && isBelow 60 (fixed? 2 minute)
    | [hour, minute, second] =>
      isBelow 24 (fixed? 2 hour) && isBelow 60 (fixed? 2 minute) && isBelow 61 (fixed? 2 second)
    | _ => false

/-- Whether a word is a time of day, perhaps with an offset: `Z`, `+01:00` or `-01:00`. -/
def isTimeWithOffset (cs : List Char) : Bool :=
  let isSign (c : Char) : Bool := c == '+' || c == '-'
  match cs.getLast? with
  | none => false
  | some last =>
    if last = 'Z' ∨ last = 'z' then isTimeOfDay cs.dropLast
    else if cs.any isSign then
      match Text.split ':' ((cs.dropWhile fun c => !isSign c).drop 1) with
      | [hour, minute] =>
        isTimeOfDay (cs.takeWhile fun c => !isSign c) && isBelow 24 (fixed? 2 hour) &&
          isBelow 60 (fixed? 2 minute)
      | _ => false
    else isTimeOfDay cs

/-- Whether a word is a day, a time of day, or both with a `T` or a space between them. -/
def isTime (cs : List Char) : Bool :=
  isDay cs || isTimeOfDay cs ||
    (isDay (cs.take 10) && ['T', 't', ' '].contains ((cs.drop 10).headD '?') &&
      isTimeWithOffset (cs.drop 11))

def ofWord? (cs : List Char) : Option Toml :=
  if cs = ['t', 'r', 'u', 'e'] then some (.bool true)
  else if cs = ['f', 'a', 'l', 's', 'e'] then some (.bool false)
  else match int? cs with
    | some n => some (.int n)
    | none =>
      if isFloat cs then some (.float (String.ofList cs))
      else if isTime cs then some (.time (String.ofList cs))
      else none

/-! ### Tables -/

/-- What brought a table about. -/
inductive Origin where
  /-- A header that names it. -/
  | header
  /-- A header that names a table inside it. -/
  | outer
  /-- A key with dots. -/
  | dotted
deriving DecidableEq, Repr

/-- An entry of a table that is being built. -/
inductive Node where
  /-- A value, to which nothing can be added. -/
  | value (value : Toml)
  | table (origin : Origin) (entries : List (String × Node))
  /-- Tables with one header in double brackets, of which the last one is being filled. -/
  | tables (items : List (List (String × Node)))
deriving Inhabited

namespace Node

abbrev Entries := List (String × Node)

def replace (key : String) (node : Node) : Entries → Entries
  | [] => []
  | entry :: entries =>
    if entry.1 = key then (key, node) :: entries else entry :: replace key node entries

/--
Changes the table at the end of a path. Tables on the way that are missing are made with the origin
`made`; those there have to be of an origin through which a path may lead.
-/
def changeAt (made : Origin) (mayEnter : Origin → Bool) (path : List String)
    (change : Origin → Entries → Option (Origin × Entries)) (origin : Origin) (entries : Entries) :
    Option (Origin × Entries) :=
  match path with
  | [] => change origin entries
  | key :: path =>
    match entries.lookup key with
    | none => do
      let (inner, content) ← changeAt made mayEnter path change made []
      return (origin, entries ++ [(key, .table inner content)])
    | some (.table inner content) => do
      if !mayEnter inner then failure
      let (inner, content) ← changeAt made mayEnter path change inner content
      return (origin, replace key (.table inner content) entries)
    | some (.tables items) => do
      if !mayEnter .header then failure
      let (_, content) ← changeAt made mayEnter path change .header (items.getLastD [])
      return (origin, replace key (.tables (items.dropLast ++ [content])) entries)
    | some (.value _) => none

def anyOrigin (_ : Origin) : Bool := true

/-- Whether a key with dots may lead through a table. -/
def isOpen (origin : Origin) : Bool := origin != .header

def openTable (path : List String) (key : String) (entries : Entries) : Option Entries := do
  let change (origin : Origin) (entries : Entries) : Option (Origin × Entries) :=
    match entries.lookup key with
    | none => some (origin, entries ++ [(key, .table .header [])])
    | some (.table .outer content) => some (origin, replace key (.table .header content) entries)
    | _ => none
  return (← changeAt .outer anyOrigin path change .header entries).2

def openItem (path : List String) (key : String) (entries : Entries) : Option Entries := do
  let change (origin : Origin) (entries : Entries) : Option (Origin × Entries) :=
    match entries.lookup key with
    | none => some (origin, entries ++ [(key, .tables [[]])])
    | some (.tables items) => some (origin, replace key (.tables (items ++ [[]])) entries)
    | _ => none
  return (← changeAt .outer anyOrigin path change .header entries).2

def setValue (path dots : List String) (key : String) (value : Toml) (entries : Entries) :
    Option Entries := do
  let change (origin : Origin) (entries : Entries) : Option (Origin × Entries) :=
    if (origin == .dotted) == dots.isEmpty || (entries.lookup key).isSome then none
    else some (origin, entries ++ [(key, .value value)])
  let changeDotted (origin : Origin) (entries : Entries) : Option (Origin × Entries) :=
    changeAt .dotted isOpen dots change origin entries
  return (← changeAt .outer anyOrigin path changeDotted .header entries).2

mutual

def toToml : Node → Toml
  | .value content => content
  | .table _ entries => .table (entriesToToml entries)
  | .tables items => .arr (itemsToToml items)

def entriesToToml : List (String × Node) → List (String × Toml)
  | [] => []
  | (key, node) :: entries => (key, toToml node) :: entriesToToml entries

def itemsToToml : List (List (String × Node)) → List Toml
  | [] => []
  | entries :: items => .table (entriesToToml entries) :: itemsToToml items

end

end Node

end Toml

end UpgradeGate
