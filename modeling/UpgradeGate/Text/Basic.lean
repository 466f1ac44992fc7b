/-!
Texts: blanks, cases, bytes, pieces between separators, and readers, which take what they read off
the front of a text.
-/

namespace UpgradeGate.Text

/-! ### Blanks -/

/-- The code points with the property `White_Space`, as closed ranges. -/
def blankRanges : List (Nat × Nat) :=
  [(0x9, 0xD), (0x20, 0x20), (0x85, 0x85), (0xA0, 0xA0), (0x1680, 0x1680), (0x2000, 0x200A),
    (0x2028, 0x2029), (0x202F, 0x202F), (0x205F, 0x205F), (0x3000, 0x3000)]

def isBlank (c : Char) : Bool :=
  blankRanges.any fun range => range.1 ≤ c.toNat && c.toNat ≤ range.2

/-- The text from its first character that is not blank to its last. -/
def trim (cs : List Char) : List Char :=
  ((cs.dropWhile isBlank).reverse.dropWhile isBlank).reverse

/-! ### Words compared without regard to case -/

/--
The small letter of a letter whose small letter is in `a` to `z`: besides `A` to `Z` this is only
the Kelvin sign. Any other character stays as it is, so it can never be part of an ASCII word.
-/
def smallLetter (c : Char) : Char :=
  if 'A' ≤ c ∧ c ≤ 'Z' then Char.ofNat (c.toNat + 32)
  else if c = '\u212a' then 'k'
  else c

/-- Whether a text is the given ASCII word in small letters, in any case. -/
def isWordIgnoringCase (word text : String) : Bool :=
  text.toList.map smallLetter == word.toList

/-- As `isWordIgnoringCase`, where only ASCII letters have two cases. -/
def isWordIgnoringAsciiCase (word text : String) : Bool :=
  text.toList.map Char.toLower == word.toList

/-! ### Bytes -/

def bytes (text : String) : List UInt8 := text.toList.flatMap String.utf8EncodeChar

/-! ### Texts cut at a separator -/

/-- The pieces of a text between the separators; a text without separators is one piece. -/
def split (separator : Char) : List Char → List (List Char)
  | [] => [[]]
  | c :: cs =>
    if c = separator then [] :: split separator cs
    else (split separator cs).modifyHead (c :: ·)

@[simp]
theorem split_nil (separator : Char) : split separator [] = [[]] := rfl

theorem split_ne_nil (separator : Char) (cs : List Char) : split separator cs ≠ [] := by
  induction cs with
  | nil => simp
  | cons c cs ih =>
    rw [split]
    split
    · simp
    · cases h : split separator cs with
      | nil => exact absurd h ih
      | cons piece pieces => simp

/-- What stands before and after the last separator, if there is one. -/
def splitLast? (separator : Char) : List Char → Option (List Char × List Char)
  | [] => none
  | c :: cs =>
    match splitLast? separator cs with
    | some (before, after) => some (c :: before, after)
    | none => if c = separator then some ([], cs) else none

theorem splitLast?_eq_none_iff {separator : Char} {cs : List Char} :
    splitLast? separator cs = none ↔ separator ∉ cs := by
  induction cs with
  | nil => simp [splitLast?]
  | cons c cs ih =>
    rw [splitLast?, List.mem_cons, not_or, ← ih]
    cases splitLast? separator cs with
    | none => simp [eq_comm]
    | some pieces => simp

theorem splitLast?_eq_some {separator : Char} {cs before after : List Char}
    (h : splitLast? separator cs = some (before, after)) :
    cs = before ++ separator :: after ∧ separator ∉ after := by
  induction cs generalizing before with
  | nil => simp [splitLast?] at h
  | cons c cs ih =>
    rw [splitLast?] at h
    split at h
    · next front back hsplit =>
      simp only [Option.some.injEq, Prod.mk.injEq] at h
      obtain ⟨rfl, rfl⟩ := h
      obtain ⟨rfl, hback⟩ := ih hsplit
      exact ⟨rfl, hback⟩
    · next hnone =>
      split at h
      · next hc =>
        simp only [Option.some.injEq, Prod.mk.injEq] at h
        obtain ⟨rfl, rfl⟩ := h
        exact ⟨by rw [hc, List.nil_append], splitLast?_eq_none_iff.1 hnone⟩
      · exact absurd h nofun

/-- A text is cut at a separator after which there is no other one. -/
theorem splitLast?_append {separator : Char} (before : List Char) {after : List Char}
    (h : separator ∉ after) :
    splitLast? separator (before ++ separator :: after) = some (before, after) := by
  induction before with
  | nil => simp [splitLast?, splitLast?_eq_none_iff.2 h]
  | cons c before ih => rw [List.cons_append, splitLast?, ih]

/-! ### Readers -/

abbrev Reader := StateT (List Char) Option

namespace Reader

def rest : Reader (List Char) := get

def peek? : Reader (Option Char) := return (← get).head?

def skip (n : Nat) : Reader Unit := modify (·.drop n)

def skipWhile (p : Char → Bool) : Reader Unit := modify (·.dropWhile p)

def takeWhile (p : Char → Bool) : Reader (List Char) := do
  let taken := (← get).takeWhile p
  skip taken.length
  return taken

def oneOf (expected : List Char) : Reader Char := do
  match ← get with
  | c :: cs => if expected.contains c then set cs; return c else failure
  | [] => failure

/-- The given characters, if they are next; says whether they were. -/
def optional (expected : List Char) : Reader Bool := do
  if (← get).take expected.length = expected then
    skip expected.length
    return true
  return false

def readAll (reader : Reader α) (text : String) : Option α := do
  let (value, rest) ← reader.run text.toList
  if rest.isEmpty then some value else none

end Reader

end UpgradeGate.Text
