import Mathlib.Data.List.TakeWhile
import Mathlib.Tactic.SplitIfs
import UpgradeGate.Text.Basic

/-!
# Texts

The classes of characters that readers ask for, as ranges; the pieces between separators, which make
the text again; the one part of a text that is left without the blanks around it; and readers that
go on where another one stops. Texts stand in
the order of their code points. Encoded as bytes they stand in the same order: the encodings of two
characters differ, and the first byte in which they do is less for the lesser one.
-/

namespace UpgradeGate.Text

/-! ### Letters and digits -/

section Letters

variable {c : Char}

theorem isUpper_iff : c.isUpper = true ↔ 'A' ≤ c ∧ c ≤ 'Z' := by
  have hdef : c.isUpper = decide ('A' ≤ c ∧ c ≤ 'Z') := rfl
  rw [hdef, decide_eq_true_iff]

theorem isLower_iff : c.isLower = true ↔ 'a' ≤ c ∧ c ≤ 'z' := by
  have hdef : c.isLower = (decide ('a' ≤ c) && decide (c ≤ 'z')) := rfl
  rw [hdef, Bool.and_eq_true, decide_eq_true_iff, decide_eq_true_iff]

theorem isDigit_iff : c.isDigit = true ↔ '0' ≤ c ∧ c ≤ '9' := by
  have hdef : c.isDigit = (decide ('0' ≤ c) && decide (c ≤ '9')) := rfl
  rw [hdef, Bool.and_eq_true, decide_eq_true_iff, decide_eq_true_iff]

theorem isAlphanum_iff : c.isAlphanum = true ↔
    ('A' ≤ c ∧ c ≤ 'Z') ∨ ('a' ≤ c ∧ c ≤ 'z') ∨ ('0' ≤ c ∧ c ≤ '9') := by
  have hdef : c.isAlphanum = (c.isUpper || c.isLower || c.isDigit) := rfl
  rw [hdef, Bool.or_eq_true, Bool.or_eq_true, isUpper_iff, isLower_iff, isDigit_iff, or_assoc]

end Letters

/-! ### Pieces of a text -/

variable {separator : Char}

theorem split_cons_self (separator : Char) (cs : List Char) :
    split separator (separator :: cs) = [] :: split separator cs := by
  rw [split, if_pos rfl]

theorem split_cons_of_ne {c : Char} (hc : c ≠ separator) (cs : List Char) :
    split separator (c :: cs) = (split separator cs).modifyHead (c :: ·) := by
  rw [split, if_neg hc]

theorem split_eq_splitOn (separator : Char) (cs : List Char) :
    split separator cs = cs.splitOn separator := by
  induction cs with
  | nil => rfl
  | cons c cs ih =>
      rw [List.splitOn, List.splitOnP_cons_eq_if_modifyHead, split, ih, List.splitOn]
      by_cases hc : c = separator <;> simp [hc]

theorem intercalate_split (separator : Char) (cs : List Char) :
    [separator].intercalate (split separator cs) = cs := by
  rw [split_eq_splitOn, List.intercalate_splitOn]

theorem split_intercalate {pieces : List (List Char)} (hne : pieces ≠ [])
    (hpieces : ∀ piece ∈ pieces, separator ∉ piece) :
    split separator ([separator].intercalate pieces) = pieces := by
  rw [split_eq_splitOn, List.splitOn_intercalate separator hpieces hne]

theorem length_split (separator : Char) (cs : List Char) :
    (split separator cs).length = cs.count separator + 1 := by
  induction cs with
  | nil => rfl
  | cons c cs ih =>
      by_cases hc : c = separator
      · subst hc
        rw [split_cons_self, List.length_cons, ih, List.count_cons_self]
      · rw [split_cons_of_ne hc, List.length_modifyHead, ih, List.count_cons_of_ne hc]

theorem eq_or_exists_of_mem_intercalate {c : Char} {pieces : List (List Char)}
    (hc : c ∈ [separator].intercalate pieces) : c = separator ∨ ∃ piece ∈ pieces, c ∈ piece := by
  induction pieces with
  | nil => cases hc
  | cons piece pieces ih =>
      cases pieces with
      | nil =>
          rw [List.intercalate_singleton] at hc
          exact .inr ⟨piece, List.mem_cons_self, hc⟩
      | cons next pieces =>
          rw [List.intercalate_cons_cons, List.mem_append, List.mem_append] at hc
          rcases hc with (hc | hc) | hc
          · exact .inr ⟨piece, List.mem_cons_self, hc⟩
          · exact .inl (List.mem_singleton.mp hc)
          · refine (ih hc).imp_right ?_
            rintro ⟨other, hother, hmem⟩
            exact ⟨other, List.mem_cons_of_mem _ hother, hmem⟩

/-! ### Texts cut where a class of characters ends -/

section Cut

variable {p : Char → Bool} {front rest : List Char}

theorem takeWhile_append_of_head (hfront : ∀ c ∈ front, p c = true)
    (hrest : ∀ c, rest.head? = some c → p c = false) : (front ++ rest).takeWhile p = front := by
  rw [List.takeWhile_append_of_pos hfront]
  cases rest with
  | nil => exact List.append_nil front
  | cons c rest => rw [List.takeWhile_cons_of_neg (by simp [hrest c rfl]), List.append_nil]

theorem dropWhile_append_of_head (hfront : ∀ c ∈ front, p c = true)
    (hrest : ∀ c, rest.head? = some c → p c = false) : (front ++ rest).dropWhile p = rest := by
  rw [List.dropWhile_append_of_pos hfront]
  cases rest with
  | nil => rfl
  | cons c rest => exact List.dropWhile_cons_of_neg (by simp [hrest c rfl])

theorem eq_false_of_head?_dropWhile {cs : List Char} {c : Char}
    (hc : (cs.dropWhile p).head? = some c) : p c = false := by
  have hnot := List.head?_dropWhile_not p cs
  rwa [hc] at hnot

end Cut

/-! ### Blanks around a text -/

/-- No character that is seen in a plain text is blank. -/
theorem isBlank_eq_false {c : Char} (hlow : 33 ≤ c.toNat) (hhigh : c.toNat ≤ 126) :
    isBlank c = false := by
  simp [isBlank, blankRanges]
  omega

theorem isBlank_of_between {c low high : Char} (hc : low ≤ c ∧ c ≤ high)
    (hlow : 33 ≤ low.toNat) (hhigh : high.toNat ≤ 126) : isBlank c = false :=
  isBlank_eq_false (Nat.le_trans hlow hc.1) (Nat.le_trans hc.2 hhigh)

theorem isBlank_of_isDigit {c : Char} (hdigit : c.isDigit = true) : isBlank c = false :=
  isBlank_of_between (isDigit_iff.mp hdigit) (by decide) (by decide)

/-- The text is the core with blanks around it, and the core has none at its ends. -/
inductive HasCore : List Char → List Char → Prop
  | intro {before core after : List Char} (hbefore : ∀ c ∈ before, isBlank c = true)
    (hafter : ∀ c ∈ after, isBlank c = true)
    (hfirst : ∀ c, core.head? = some c → isBlank c = false)
    (hlast : ∀ c, core.getLast? = some c → isBlank c = false) :
    HasCore (before ++ core ++ after) core

theorem HasCore.trim_eq {cs core : List Char} (hcore : HasCore cs core) : trim cs = core := by
  rcases hcore with @⟨before, core, after, hbefore, hafter, hfirst, hlast⟩
  by_cases hempty : core = []
  · subst hempty
    have hall : ∀ c ∈ before ++ [] ++ after, isBlank c = true := by
      intro c hc
      rw [List.append_nil, List.mem_append] at hc
      exact hc.elim (hbefore c) (hafter c)
    rw [trim, List.dropWhile_eq_nil_iff.mpr hall]
    rfl
  · have hhead : (core ++ after).head? = core.head? := by
      obtain ⟨c, rest, rfl⟩ := List.exists_cons_of_ne_nil hempty
      rfl
    have hfront : (before ++ core ++ after).dropWhile isBlank = core ++ after := by
      rw [List.append_assoc]
      refine dropWhile_append_of_head hbefore fun c hc => hfirst c ?_
      rwa [← hhead]
    have hback : (core ++ after).reverse.dropWhile isBlank = core.reverse := by
      rw [List.reverse_append]
      refine dropWhile_append_of_head (by simpa using hafter) fun c hc => hlast c ?_
      rwa [List.head?_reverse] at hc
    rw [trim, hfront, hback, List.reverse_reverse]

theorem hasCore_trim (cs : List Char) : HasCore cs (trim cs) := by
  obtain ⟨front, hfront⟩ : ∃ front, front = cs.dropWhile isBlank := ⟨_, rfl⟩
  have hback : trim cs ++ (front.reverse.takeWhile isBlank).reverse = front := by
    rw [trim, ← hfront, ← List.reverse_append, List.takeWhile_append_dropWhile,
      List.reverse_reverse]
  have hcs : cs.takeWhile isBlank ++ trim cs ++ (front.reverse.takeWhile isBlank).reverse = cs := by
    rw [List.append_assoc, hback, hfront, List.takeWhile_append_dropWhile]
  have hcore : HasCore (cs.takeWhile isBlank ++ trim cs ++
      (front.reverse.takeWhile isBlank).reverse) (trim cs) := by
    refine .intro (fun c hc => List.mem_takeWhile_imp hc) (fun c hc => ?_) (fun c hc => ?_)
      fun c hc => ?_
    · exact List.mem_takeWhile_imp (List.mem_reverse.mp hc)
    · have hhead : front.head? = some c := by
        rw [← hback, List.head?_append, hc]
        rfl
      rw [hfront] at hhead
      exact eq_false_of_head?_dropWhile hhead
    · rw [trim, List.getLast?_reverse] at hc
      exact eq_false_of_head?_dropWhile hc
  rwa [hcs] at hcore

/-- A text with no blank in it is the core, whatever blanks stand around it. -/
theorem hasCore_of_forall {before core after : List Char}
    (hbefore : ∀ c ∈ before, isBlank c = true) (hafter : ∀ c ∈ after, isBlank c = true)
    (hcore : ∀ c ∈ core, isBlank c = false) : HasCore (before ++ core ++ after) core :=
  .intro hbefore hafter (fun c hc => hcore c (List.mem_of_head? hc))
    fun c hc => hcore c (List.mem_of_getLast? hc)

theorem hasCore_iff {cs core : List Char} : HasCore cs core ↔ core = trim cs :=
  ⟨fun hcore => hcore.trim_eq.symm, fun hcore => hcore ▸ hasCore_trim cs⟩

/-! ### Readers -/

namespace Reader

/-- What is bound to a reader goes on where the reader stops. -/
theorem run_bind {reader : Reader α} {next : α → Reader β} {cs rest : List Char} {a : α}
    (hreads : reader.run cs = some (a, rest)) :
    (reader >>= next).run cs = (next a).run rest := by
  rw [StateT.run_bind, hreads]
  rfl

/-- All that a reader reads is such. -/
def Gives (reader : Reader α) (holds : α → Prop) : Prop :=
  ∀ cs a rest, reader.run cs = some (a, rest) → holds a

theorem Gives.bind {reader : Reader α} {next : α → Reader β} {first : α → Prop}
    {holds : β → Prop} (hreader : reader.Gives first)
    (hnext : ∀ a, first a → (next a).Gives holds) : (reader >>= next).Gives holds := by
  intro cs b rest hreads
  rw [StateT.run_bind, Option.bind_eq_bind, Option.bind_eq_some_iff] at hreads
  obtain ⟨⟨a, middle⟩, hfirst, hrest⟩ := hreads
  exact hnext a (hreader cs a middle hfirst) middle b rest hrest

/-- What is read first does not matter. -/
theorem gives_bind {reader : Reader α} {next : α → Reader β} {holds : β → Prop}
    (hnext : ∀ a, (next a).Gives holds) : (reader >>= next).Gives holds := by
  have hany : reader.Gives fun _ => True := fun _ _ _ _ => trivial
  exact hany.bind fun a _ => hnext a

theorem gives_pure {a : α} {holds : α → Prop} (ha : holds a) : (pure a : Reader α).Gives holds := by
  rintro cs _ _ ⟨⟩
  exact ha

theorem run_optional_self (c : Char) (rest : List Char) :
    (optional [c]).run (c :: rest) = some (true, rest) := by
  change (if [c] = [c] then _ else _ : Reader Bool).run _ = _
  rw [if_pos rfl]
  rfl

theorem run_optional_ne {c d : Char} (hne : d ≠ c) (rest : List Char) :
    (optional [c]).run (d :: rest) = some (false, d :: rest) := by
  change (if [d] = [c] then _ else _ : Reader Bool).run _ = _
  rw [if_neg (by simpa using hne)]
  rfl

theorem run_oneOf {expected : List Char} {c : Char} (hc : expected.contains c = true)
    (rest : List Char) : (oneOf expected).run (c :: rest) = some (c, rest) := by
  change (if expected.contains c = true then _ else _ : Reader Char).run _ = _
  rw [if_pos hc]
  rfl

end Reader

/-! ### The order of texts and of their bytes -/

theorem toNat_val_lt (c : Char) : c.val.toNat < 0x110000 := by
  have hvalid : c.val.toNat.isValidChar := c.valid
  unfold Nat.isValidChar at hvalid
  omega

/-- Below the first byte, an encoding holds the digits of the code point to the base 64. -/
theorem utf8EncodeChar_append_lt {c d : Char} (hlt : c < d) (xs ys : List UInt8) :
    String.utf8EncodeChar c ++ xs < String.utf8EncodeChar d ++ ys := by
  have hcode : c.val.toNat < d.val.toNat := hlt
  have hc := toNat_val_lt c
  have hd := toNat_val_lt d
  unfold String.utf8EncodeChar
  dsimp only
  generalize c.val.toNat = m at *
  generalize d.val.toNat = n at *
  have hbyte : ∀ {k : Nat}, k < 256 → (UInt8.ofNat k).toNat = k := UInt8.toNat_ofNat_of_lt'
  have hsecond : ∀ k : Nat, k / 4096 = k / 64 / 64 := by omega
  have hthird : ∀ k : Nat, k / 262144 = k / 64 / 64 / 64 := by omega
  have hdigits : ∀ {i j : Nat}, i < j → i / 64 < j / 64 ∨ i / 64 = j / 64 ∧ i % 64 < j % 64 := by
    omega
  have hlast := hdigits hcode
  have hmiddle : m / 64 < n / 64 → _ := hdigits
  have hfirst : m / 64 / 64 < n / 64 / 64 → _ := hdigits
  split_ifs <;>
    simp (disch := omega) only [List.cons_append, List.nil_append, List.cons_lt_cons_iff,
      UInt8.lt_iff_toNat_lt, ← UInt8.toNat_inj, hbyte, hsecond, hthird] <;>
    omega

theorem flatMap_utf8EncodeChar_lt {cs ds : List Char} (hlt : cs < ds) :
    cs.flatMap String.utf8EncodeChar < ds.flatMap String.utf8EncodeChar := by
  induction cs generalizing ds with
  | nil =>
      cases ds with
      | nil => exact absurd hlt (List.lt_irrefl _)
      | cons d ds =>
          rw [List.flatMap_cons]
          unfold String.utf8EncodeChar
          dsimp only
          split_ifs <;> exact List.nil_lt_cons _ _
  | cons c cs ih =>
      cases ds with
      | nil => exact absurd hlt (List.not_lt_nil _)
      | cons d ds =>
          rw [List.flatMap_cons, List.flatMap_cons]
          rcases List.cons_lt_cons_iff.mp hlt with hfirst | ⟨rfl, hrest⟩
          · exact utf8EncodeChar_append_lt hfirst _ _
          · exact List.append_left_lt (ih hrest)

/-- The encoding of a character tells where it ends. -/
theorem utf8EncodeChar_append_inj {c d : Char} {xs ys : List UInt8}
    (hsame : String.utf8EncodeChar c ++ xs = String.utf8EncodeChar d ++ ys) : c = d ∧ xs = ys := by
  have hc : ¬ c < d := fun hlt =>
    List.lt_irrefl _ (hsame ▸ utf8EncodeChar_append_lt hlt xs ys)
  have hd : ¬ d < c := fun hlt =>
    List.lt_irrefl _ (hsame ▸ utf8EncodeChar_append_lt hlt ys xs)
  obtain rfl : c = d := Char.le_antisymm (Char.not_lt.mp hd) (Char.not_lt.mp hc)
  exact ⟨rfl, List.append_cancel_left hsame⟩

/-- The encoding of a text begins with that of another exactly if the text begins with it. -/
theorem flatMap_utf8EncodeChar_append_iff {cs ds : List Char} {xs : List UInt8} :
    ds.flatMap String.utf8EncodeChar = cs.flatMap String.utf8EncodeChar ++ xs ↔
      ∃ rest, ds = cs ++ rest ∧ xs = rest.flatMap String.utf8EncodeChar := by
  constructor
  · intro hsame
    induction cs generalizing ds with
    | nil => exact ⟨ds, rfl, hsame.symm⟩
    | cons c cs ih =>
        rw [List.flatMap_cons, List.append_assoc] at hsame
        cases ds with
        | nil => simp [String.utf8EncodeChar_ne_nil] at hsame
        | cons d ds =>
            rw [List.flatMap_cons] at hsame
            obtain ⟨rfl, hrest⟩ := utf8EncodeChar_append_inj hsame
            obtain ⟨rest, rfl, hxs⟩ := ih hrest
            exact ⟨rest, rfl, hxs⟩
  · rintro ⟨rest, rfl, rfl⟩
    exact List.flatMap_append

theorem bytes_lt_bytes {s t : String} (hlt : s < t) : bytes s < bytes t :=
  flatMap_utf8EncodeChar_lt hlt

end UpgradeGate.Text
