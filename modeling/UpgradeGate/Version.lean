import UpgradeGate.Decimal
import UpgradeGate.Text.Basic

/-!
Versions: three numbers, perhaps a pre-release, perhaps build metadata, as `3.0.0-rc.1+build.5`.
-/

namespace UpgradeGate

namespace Version

def isLabelChar (c : Char) : Bool := c.isAlphanum || c == '-'

/-- A part of the build metadata: letters, digits and dashes, at least one of them. -/
def isBuildLabel (label : String) : Bool := !label.toList.isEmpty && label.toList.all isLabelChar

/-- Whether a number is written with zeros that it does not need. -/
def hasNeedlessZero (cs : List Char) : Bool := cs.head? == some '0' && cs.length != 1

/-- A part of a pre-release. If it is a number it has no needless zeros. -/
def isPreReleaseLabel (label : String) : Bool :=
  isBuildLabel label && !(label.toList.all Char.isDigit && hasNeedlessZero label.toList)

end Version

structure Version where
  major : UInt64
  minor : UInt64
  patch : UInt64
  preRelease : List String := []
  build : List String := []
  preRelease_valid : preRelease.all Version.isPreReleaseLabel = true := by decide
  build_valid : build.all Version.isBuildLabel = true := by decide
deriving DecidableEq

namespace Version

def labelsText (labels : List String) : String := ".".intercalate labels

def preReleaseText (version : Version) : String := labelsText version.preRelease

def buildText (version : Version) : String := labelsText version.build

def text (version : Version) : String :=
  let part (mark : String) (labels : List String) : String :=
    if labels.isEmpty then "" else mark ++ labelsText labels
  toString version.major.toNat ++ "." ++ toString version.minor.toNat ++ "." ++
    toString version.patch.toNat ++ part "-" version.preRelease ++ part "+" version.build

def number? (cs : List Char) : Option UInt64 :=
  if hasNeedlessZero cs then none
  else match Decimal.natOfDigits? 10 cs with
    | none => none
    | some n => if h : n < UInt64.size then some (UInt64.ofNatLT n h) else none

/-- The labels behind a mark, all of which are in the class; without the mark there are none. -/
def labels? (mark : Char) (isLabel : String → Bool) :
    List Char → Option { labels : List String // labels.all isLabel = true }
  | [] => some ⟨[], rfl⟩
  | c :: cs =>
    if c = mark then
      let labels := (Text.split '.' cs).map String.ofList
      if h : labels.all isLabel = true then some ⟨labels, h⟩ else none
    else none

def ofChars? (cs : List Char) : Option Version := do
  let numbers := cs.takeWhile fun c => c ≠ '-' && c ≠ '+'
  let labels := cs.dropWhile fun c => c ≠ '-' && c ≠ '+'
  let preRelease ← labels? '-' isPreReleaseLabel (labels.takeWhile (· ≠ '+'))
  let build ← labels? '+' isBuildLabel (labels.dropWhile (· ≠ '+'))
  match Text.split '.' numbers with
  | [major, minor, patch] =>
    return {
      major := ← number? major
      minor := ← number? minor
      patch := ← number? patch
      preRelease := preRelease.val
      build := build.val
      preRelease_valid := preRelease.property
      build_valid := build.property }
  | _ => none

/-- One `v` in front is not part of the version. -/
def withoutMark : List Char → List Char
  | 'v' :: cs => cs
  | cs => cs

/-- A short form has one dot and no dash; its patch number is zero. -/
def completed (cs : List Char) : List Char :=
  if (Text.split '.' cs).length = 2 ∧ '-' ∉ cs then cs ++ ['.', '0'] else cs

/-- Reads a version that may have blanks around it, a `v` in front and no patch number. -/
def ofString? (s : String) : Option Version :=
  ofChars? (completed (withoutMark (Text.trim s.toList)))

end Version

end UpgradeGate
