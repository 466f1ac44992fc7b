import Mathlib.Data.List.Forall2
import UpgradeGate.Json.Basic
import UpgradeGate.Json.Document
import UpgradeGate.Proofs.Decimal

/-!
# Texts that spell documents

A text spells a document if the reader takes it for that document whatever comes after it. Quoted
strings and whole numbers spell themselves, and lists and objects are spelled by what spells their
parts, with blanks between them.
-/

namespace UpgradeGate.Json

namespace Document

/-! ### Strings -/

theorem hexValue?_hexDigit (n : Nat) : hexValue? (hexDigit n) = some (n % 16) := by
  have hvalues : ∀ m : Fin 16, hexValue? (Nat.digitChar m) = some m.val := by decide
  exact hvalues ⟨n % 16, Nat.mod_lt n (by decide)⟩

theorem ofNat_toNat_of_lt {c : Char} (hcontrol : c.toNat < 0x20) :
    CodeUnit.ofNat c.toNat = .char c := by
  rw [CodeUnit.ofNat, if_neg (by omega), if_neg (by omega), Char.ofNat_toNat]

theorem codeUnits_simpleEscape {e escaped : Char} (hsimple : simpleEscape? e = some escaped)
    (hu : e ≠ 'u') (fuel : Nat) (cs : List Char) :
    codeUnits (fuel + 1) ('\\' :: e :: cs) =
      (codeUnits fuel cs).map fun (units, cs) => (.char escaped :: units, cs) := by
  rw [codeUnits.eq_4 _ _ _ _ hu, if_neg (by decide), if_pos rfl, hsimple]
  cases codeUnits fuel cs with
  | none => rfl
  | some read => rfl

theorem codeUnits_hexEscape {c : Char} (hcontrol : c.toNat < 0x20) (fuel : Nat)
    (cs : List Char) :
    codeUnits (fuel + 1)
        ('\\' :: 'u' :: '0' :: '0' :: hexDigit (c.toNat / 16) :: hexDigit c.toNat :: cs) =
      (codeUnits fuel cs).map fun (units, cs) => (.char c :: units, cs) := by
  have hhex : hex4 ('0' :: '0' :: hexDigit (c.toNat / 16) :: hexDigit c.toNat :: cs) =
      some (c.toNat, cs) := by
    rw [hex4, hexValue?_hexDigit, hexValue?_hexDigit]
    have hvalue : 0 * 4096 + 0 * 256 + c.toNat / 16 % 16 * 16 + c.toNat % 16 = c.toNat := by omega
    change some (0 * 4096 + 0 * 256 + c.toNat / 16 % 16 * 16 + c.toNat % 16, cs) = _
    rw [hvalue]
  rw [codeUnits.eq_3, if_neg (by decide), if_pos rfl, hhex]
  change (codeUnits fuel cs >>= fun read => pure (CodeUnit.ofNat c.toNat :: read.1, read.2)) = _
  rw [ofNat_toNat_of_lt hcontrol]
  cases codeUnits fuel cs with
  | none => rfl
  | some read => rfl

theorem codeUnits_plain {c : Char} (hquote : c ≠ '"') (hescape : c ≠ '\\')
    (hcontrol : ¬ c.toNat < 0x20) (fuel : Nat) (cs : List Char) :
    codeUnits (fuel + 1) (c :: cs) =
      (codeUnits fuel cs).map fun (units, cs) => (.char c :: units, cs) := by
  rw [codeUnits.eq_def]
  dsimp only
  rw [if_neg hquote, if_neg hescape, if_neg hcontrol]
  cases codeUnits fuel cs with
  | none => rfl
  | some read => rfl

/-- How a character is written: by an escape of its own, by its number, or as it is. -/
theorem escapeChar_cases (c : Char) :
    (∃ e, escapeChar c = ['\\', e] ∧ simpleEscape? e = some c ∧ e ≠ 'u') ∨
      (escapeChar c =
        ['\\', 'u', '0', '0', hexDigit (c.toNat / 16), hexDigit c.toNat] ∧ c.toNat < 0x20) ∨
      (escapeChar c = [c] ∧ c ≠ '"' ∧ c ≠ '\\' ∧ ¬ c.toNat < 0x20) := by
  by_cases hsimple : c ∈ ['"', '\\', '\n', '\r', '\t', '\x08', '\x0c']
  · left
    simp only [List.mem_cons, List.not_mem_nil, or_false] at hsimple
    rcases hsimple with rfl | rfl | rfl | rfl | rfl | rfl | rfl <;>
      exact ⟨_, rfl, rfl, by decide⟩
  · right
    simp only [List.mem_cons, List.not_mem_nil, or_false, not_or] at hsimple
    obtain ⟨hquote, hescape, hnewline, hreturn, htab, hback, hfeed⟩ := hsimple
    unfold escapeChar
    rw [if_neg hquote, if_neg hescape, if_neg hnewline, if_neg hreturn, if_neg htab,
      if_neg hback, if_neg hfeed]
    by_cases hcontrol : c.toNat < 0x20
    · exact .inl ⟨if_pos hcontrol, hcontrol⟩
    · exact .inr ⟨if_neg hcontrol, hquote, hescape, hcontrol⟩

/-- A character is one code unit, however it is written. -/
theorem codeUnits_escapeChar (fuel : Nat) (c : Char) (cs : List Char) :
    codeUnits (fuel + 1) (escapeChar c ++ cs) =
      (codeUnits fuel cs).map fun (units, cs) => (.char c :: units, cs) := by
  rcases escapeChar_cases c with ⟨e, hwritten, hsimple, hu⟩ | ⟨hwritten, hcontrol⟩ |
    ⟨hwritten, hquote, hescape, hcontrol⟩
  · rw [hwritten]
    exact codeUnits_simpleEscape hsimple hu fuel cs
  · rw [hwritten]
    exact codeUnits_hexEscape hcontrol fuel cs
  · rw [hwritten]
    exact codeUnits_plain hquote hescape hcontrol fuel cs

theorem escapeChar_ne_nil (c : Char) : escapeChar c ≠ [] := by
  rcases escapeChar_cases c with ⟨e, hwritten, _⟩ | ⟨hwritten, _⟩ | ⟨hwritten, _⟩ <;>
    simp [hwritten]

theorem codeUnits_quote (fuel : Nat) (cs : List Char) :
    codeUnits (fuel + 1) ('"' :: cs) = some ([], cs) := by
  rw [codeUnits.eq_def]
  exact if_pos rfl

theorem codeUnits_flatMap_escapeChar (s rest : List Char) {fuel : Nat}
    (hfuel : s.length < fuel) :
    codeUnits fuel (s.flatMap escapeChar ++ '"' :: rest) = some (s.map .char, rest) := by
  induction s generalizing fuel with
  | nil =>
      cases fuel with
      | zero => exact absurd hfuel (Nat.not_lt_zero _)
      | succ fuel => exact codeUnits_quote fuel rest
  | cons c s ih =>
      cases fuel with
      | zero => exact absurd hfuel (Nat.not_lt_zero _)
      | succ fuel =>
          rw [List.flatMap_cons, List.append_assoc, codeUnits_escapeChar,
            ih (Nat.lt_of_succ_lt_succ hfuel), Option.map_some, List.map_cons]

theorem length_le_flatMap_escapeChar (s : List Char) :
    s.length ≤ (s.flatMap escapeChar).length := by
  induction s with
  | nil => exact Nat.le_refl _
  | cons c s ih =>
      have hpos := List.length_pos_iff.mpr (escapeChar_ne_nil c)
      rw [List.flatMap_cons, List.length_append, List.length_cons]
      omega

theorem joinHalves_map_char (cs : List Char) : joinHalves (cs.map .char) = some cs := by
  induction cs with
  | nil => rfl
  | cons c cs ih => rw [List.map_cons, joinHalves, ih, Option.map_some]

/-- A string is read back with all its characters. -/
theorem stringBody_quoted (s : String) (rest : List Char) :
    stringBody (s.toList.flatMap escapeChar ++ '"' :: rest) = some (some s, rest) := by
  have hlength := length_le_flatMap_escapeChar s.toList
  rw [stringBody, codeUnits_flatMap_escapeChar s.toList rest]
  · change some ((joinHalves (s.toList.map .char)).map String.ofList, rest) = _
    rw [joinHalves_map_char, Option.map_some, String.ofList_toList]
  · rw [List.length_append]
    omega

/-! ### Whole numbers -/

/-- What may come after a number: nothing that could be a part of it. -/
def Ends (rest : List Char) : Prop :=
  ∀ c ∈ rest.head?, c.isDigit = false ∧ c ≠ '.' ∧ c ≠ 'e' ∧ c ≠ 'E'

theorem Ends.takeWhile_isDigit {rest : List Char} (hends : Ends rest) :
    rest.takeWhile Char.isDigit = [] := by
  cases rest with
  | nil => rfl
  | cons c rest => exact List.takeWhile_cons_of_neg (by simp [(hends c rfl).1])

theorem Ends.dropWhile_isDigit {rest : List Char} (hends : Ends rest) :
    rest.dropWhile Char.isDigit = rest := by
  cases rest with
  | nil => rfl
  | cons c rest => exact List.dropWhile_cons_of_neg (by simp [(hends c rfl).1])

theorem Ends.fraction {rest : List Char} (hends : Ends rest) :
    fraction rest = some ([], rest) := by
  cases rest with
  | nil => rfl
  | cons c rest =>
      unfold Document.fraction
      split
      · next hpoint => exact absurd (List.cons.inj hpoint).1 (hends c rfl).2.1
      · rfl

theorem Ends.exponent {rest : List Char} (hends : Ends rest) :
    exponent rest = some (none, rest) := by
  cases rest with
  | nil => rfl
  | cons c rest =>
      unfold Document.exponent
      exact if_neg (not_or.mpr (hends c rfl).2.2)

theorem digits_toString (n : Nat) {rest : List Char} (hends : Ends rest) :
    digits ((toString n).toList ++ rest) = some ((toString n).toList.map digitValue, rest) := by
  have hdigits : ∀ c ∈ (toString n).toList, c.isDigit = true := fun c =>
    Decimal.isDigit_of_mem_toString
  rw [digits, List.takeWhile_append_of_pos hdigits, hends.takeWhile_isDigit, List.append_nil,
    List.dropWhile_append_of_pos hdigits, hends.dropWhile_isDigit]
  split
  · next hnil => exact absurd hnil (Decimal.toList_toString_ne_nil n)
  · rfl

/-- No number but zero is written with a zero in front. -/
theorem head?_digits_ne_zero (n : Nat) :
    ((toString n).toList.map digitValue).head? ≠ some 0 ∨
      ((toString n).toList.map digitValue).length = 1 := by
  rw [Nat.toString_eq_repr, Nat.toList_repr]
  cases Nat.eq_zero_or_pos n with
  | inl hzero =>
      rw [hzero]
      exact .inr rfl
  | inr hpos =>
      obtain ⟨d, ds, hdigits, hne, hten⟩ := Decimal.exists_toDigits_eq_cons hpos
      left
      rw [hdigits, List.map_cons, List.head?_cons, digitValue, Nat.toNat_digitChar_of_lt_ten hten]
      intro hzero
      have hvalue : 48 + d - 48 = 0 := Option.some.inj hzero
      omega

end Document

/-- A whole number as it is written. -/
def Numeral.ofInt (n : Int) : Numeral :=
  ⟨n < 0, (toString n.natAbs).toList.map Document.digitValue, [], none⟩

namespace Document

/-- What is read of a number after its sign. -/
def unsigned (negative : Bool) : Text.Reader Numeral := fun cs => do
  let (whole, cs) ← digits cs
  guard (whole.head? ≠ some 0 ∨ whole.length = 1)
  let (fraction, cs) ← fraction cs
  let (exponent, cs) ← exponent cs
  return (⟨negative, whole, fraction, exponent⟩, cs)

theorem unsigned_toString (negative : Bool) (n : Nat) {rest : List Char} (hends : Ends rest) :
    unsigned negative ((toString n).toList ++ rest) =
      some (⟨negative, (toString n).toList.map digitValue, [], none⟩, rest) := by
  refine Option.bind_eq_some_iff.mpr ⟨_, digits_toString n hends, ?_⟩
  refine Option.bind_eq_some_iff.mpr ⟨(), if_pos (head?_digits_ne_zero n), ?_⟩
  refine Option.bind_eq_some_iff.mpr ⟨_, hends.fraction, ?_⟩
  exact Option.bind_eq_some_iff.mpr ⟨_, hends.exponent, rfl⟩

theorem numeral_eq_unsigned (cs : List Char) :
    numeral cs =
      match (match cs with
        | '-' :: cs => (true, cs)
        | _ => (false, cs)) with
      | (negative, cs) => unsigned negative cs := rfl

theorem numeral_of_head_ne {c : Char} (hminus : c ≠ '-') (cs : List Char) :
    numeral (c :: cs) = unsigned false (c :: cs) := by
  rw [numeral_eq_unsigned]
  split
  next negative unsigned hsign =>
  split at hsign
  · next hsigned => exact absurd (List.cons.inj hsigned).1 hminus
  · cases hsign
    rfl

theorem numeral_natural (n : Nat) {rest : List Char} (hends : Ends rest) :
    numeral ((toString n).toList ++ rest) =
      some (⟨false, (toString n).toList.map digitValue, [], none⟩, rest) := by
  obtain ⟨c, cs, hcons, hdigit⟩ := Decimal.exists_cons_of_isDigit
    (Decimal.toList_toString_ne_nil n) fun _ => Decimal.isDigit_of_mem_toString
  have hminus : c ≠ '-' := by
    rintro rfl
    cases hdigit
  rw [← unsigned_toString false n hends, hcons]
  exact numeral_of_head_ne hminus _

theorem numeral_minus (n : Nat) {rest : List Char} (hends : Ends rest) :
    numeral ('-' :: ((toString n).toList ++ rest)) =
      some (⟨true, (toString n).toList.map digitValue, [], none⟩, rest) :=
  unsigned_toString true n hends

theorem numeral_toString (n : Int) {rest : List Char} (hends : Ends rest) :
    numeral ((toString n).toList ++ rest) = some (.ofInt n, rest) := by
  cases n with
  | ofNat n => exact numeral_natural n hends
  | negSucc n =>
      have htext : (toString (Int.negSucc n)).toList = '-' :: (toString (n + 1)).toList := by
        rw [Int.toString_eq_repr, Int.repr, String.toList_append]
        rfl
      rw [htext, Numeral.ofInt, decide_eq_true (Int.negSucc_lt_zero n)]
      exact numeral_minus (n + 1) hends

/-! ### Blanks -/

theorem skipSpace_append {blanks : List Char} (hblanks : ∀ c ∈ blanks, isSpace c = true)
    (cs : List Char) : skipSpace (blanks ++ cs) = skipSpace cs :=
  List.dropWhile_append_of_pos hblanks

theorem skipSpace_cons {c : Char} (hspace : isSpace c = false) (cs : List Char) :
    skipSpace (c :: cs) = c :: cs :=
  List.dropWhile_cons_of_neg (by simp [hspace])

/-- Blanks are skipped up to the first character that is none. -/
theorem skipSpace_append_cons {blanks : List Char} (hblanks : ∀ c ∈ blanks, isSpace c = true)
    {c : Char} (hspace : isSpace c = false) (cs : List Char) :
    skipSpace (blanks ++ c :: cs) = c :: cs := by
  rw [skipSpace_append hblanks, skipSpace_cons hspace]

theorem skipSpace_skipSpace (cs : List Char) : skipSpace (skipSpace cs) = skipSpace cs := by
  induction cs with
  | nil => rfl
  | cons c cs ih =>
      cases hspace : isSpace c with
      | false => rw [skipSpace_cons hspace, skipSpace_cons hspace]
      | true =>
          have hskip : skipSpace (c :: cs) = skipSpace cs := List.dropWhile_cons_of_pos hspace
          rw [hskip, ih]

theorem value_skipSpace (fuel : Nat) (cs : List Char) :
    value fuel (skipSpace cs) = value fuel cs := by
  cases fuel with
  | zero => rfl
  | succ fuel => rw [value, value, skipSpace_skipSpace]

theorem items_skipSpace (fuel : Nat) (cs : List Char) :
    items fuel (skipSpace cs) = items fuel cs := by
  cases fuel with
  | zero => rfl
  | succ fuel => rw [items, items, value_skipSpace]

theorem memberList_skipSpace (fuel : Nat) (cs : List Char) :
    memberList fuel (skipSpace cs) = memberList fuel cs := by
  cases fuel with
  | zero => rfl
  | succ fuel => rw [memberList, memberList, skipSpace_skipSpace]

theorem ends_mark {mark : Char} (hmark : mark ∈ [',', ']', '\x7d']) (rest : List Char) :
    Ends (mark :: rest) := by
  rintro c ⟨⟩
  revert hmark
  simp only [List.mem_cons, List.not_mem_nil, or_false]
  rintro (rfl | rfl | rfl) <;> decide

theorem ends_append {blanks : List Char} (hblanks : ∀ c ∈ blanks, isSpace c = true) {mark : Char}
    (hmark : mark ∈ [',', ']', '\x7d']) (rest : List Char) : Ends (blanks ++ mark :: rest) := by
  cases blanks with
  | nil => exact ends_mark hmark rest
  | cons blank blanks =>
      rintro c ⟨⟩
      have hspace : isSpace blank = true := hblanks blank List.mem_cons_self
      simp only [isSpace, Bool.or_eq_true, beq_iff_eq] at hspace
      rcases hspace with ((rfl | rfl) | rfl) | rfl <;> decide

/-! ### Values -/

/-- The text is read as the document, whatever ends it, with fuel for each of its characters. -/
def Spells (cs : List Char) (document : Document) : Prop :=
  ∀ (fuel : Nat) (rest : List Char), cs.length ≤ fuel → Ends rest →
    value (fuel + 1) (cs ++ rest) = some (document, rest)

theorem Spells.append {blanks cs : List Char} {document : Document} (hspells : Spells cs document)
    (hblanks : ∀ c ∈ blanks, isSpace c = true) : Spells (blanks ++ cs) document := by
  intro fuel rest hfuel hends
  rw [List.length_append] at hfuel
  rw [List.append_assoc, ← value_skipSpace, skipSpace_append hblanks, value_skipSpace]
  exact hspells fuel rest (by omega) hends

theorem spells_null : Spells "null".toList .null := fun _ _ _ _ => rfl

theorem spells_bool (b : Bool) : Spells (if b then "true" else "false").toList (.bool b) := by
  intro fuel rest _ _
  cases b with
  | true => rfl
  | false => rfl

theorem value_numeral {c : Char} (hc : c = '-' ∨ c.isDigit = true) {cs rest : List Char}
    {n : Numeral} (hnumeral : numeral (c :: cs) = some (n, rest)) (fuel : Nat) :
    value (fuel + 1) (c :: cs) = some (.number n, rest) := by
  have hne (d : Char) (hd : d ≠ '-' ∧ d.isDigit = false) : c ≠ d := by
    rintro rfl
    exact hc.elim hd.1 (by simp [hd.2])
  have hspace : isSpace c = false := by
    simp [isSpace, hne ' ' (by decide), hne '\n' (by decide), hne '\t' (by decide),
      hne '\r' (by decide)]
  rw [value, skipSpace_cons hspace]
  split
  · next hmark => exact absurd (List.cons.inj hmark).1 (hne 'n' (by decide))
  · next hmark => exact absurd (List.cons.inj hmark).1 (hne 't' (by decide))
  · next hmark => exact absurd (List.cons.inj hmark).1 (hne 'f' (by decide))
  · next hmark => exact absurd (List.cons.inj hmark).1 (hne '"' (by decide))
  · next hmark => exact absurd (List.cons.inj hmark).1 (hne '[' (by decide))
  · next hmark => exact absurd (List.cons.inj hmark).1 (hne '\x7b' (by decide))
  · rw [hnumeral]
    rfl

theorem exists_toString_eq_cons (n : Int) :
    ∃ c cs, (toString n).toList = c :: cs ∧ (c = '-' ∨ c.isDigit = true) := by
  cases n with
  | ofNat n =>
      obtain ⟨c, cs, hcons, hdigit⟩ := Decimal.exists_cons_of_isDigit
        (Decimal.toList_toString_ne_nil n) fun _ => Decimal.isDigit_of_mem_toString
      exact ⟨c, cs, hcons, .inr hdigit⟩
  | negSucc n =>
      refine ⟨'-', (toString (n + 1)).toList, ?_, .inl rfl⟩
      rw [Int.toString_eq_repr, Int.repr, String.toList_append]
      rfl

theorem spells_int (n : Int) : Spells (toString n).toList (.number (.ofInt n)) := by
  intro fuel rest _ hends
  obtain ⟨c, cs, hcons, hc⟩ := exists_toString_eq_cons n
  have hnumeral := numeral_toString n hends
  rw [hcons] at hnumeral ⊢
  exact value_numeral hc hnumeral fuel

theorem toList_quote_append (s : String) (rest : List Char) :
    (quote s).toList ++ rest = '"' :: (s.toList.flatMap escapeChar ++ '"' :: rest) := by
  rw [quote, String.toList_ofList, List.append_assoc]
  rfl

theorem spells_quote (s : String) : Spells (quote s).toList (.str (some s)) := by
  intro fuel rest _ _
  rw [toList_quote_append]
  change (stringBody _).map _ = _
  rw [stringBody_quoted]
  rfl

/-! ### Lists -/

theorem value_bracket (fuel : Nat) (rest : List Char) : value fuel (']' :: rest) = none := by
  cases fuel with
  | zero => rfl
  | succ fuel => rfl

theorem value_opened (fuel : Nat) (cs : List Char) :
    value (fuel + 1) ('[' :: cs) =
      match skipSpace cs with
      | ']' :: cs => some (.arr [], cs)
      | cs => (items fuel cs).map fun (documents, cs) => (.arr documents, cs) := rfl

theorem value_emptyList {after : List Char} (hafter : ∀ c ∈ after, isSpace c = true)
    (fuel : Nat) (rest : List Char) :
    value (fuel + 1) ('[' :: (after ++ ']' :: rest)) = some (.arr [], rest) := by
  rw [value_opened, skipSpace_append_cons hafter rfl]
  rfl

theorem value_list {fuel : Nat} {cs rest : List Char} {documents : List Document}
    (hitems : items (fuel + 1) cs = some (documents, rest)) :
    value (fuel + 2) ('[' :: cs) = some (.arr documents, rest) := by
  rw [value_opened]
  split
  · next hclosed =>
    rw [items, ← value_skipSpace, hclosed, value_bracket] at hitems
    cases hitems
  · rw [items_skipSpace, hitems]
    rfl

theorem items_last {fuel : Nat} {cs after rest : List Char} {document : Document}
    (hafter : ∀ c ∈ after, isSpace c = true)
    (hvalue : value fuel cs = some (document, after ++ ']' :: rest)) :
    items (fuel + 1) cs = some ([document], rest) := by
  rw [items, hvalue]
  simp only [Option.bind_eq_bind, Option.bind_some, skipSpace_append_cons (c := ']') hafter rfl]
  rfl

theorem items_more {fuel : Nat} {cs others rest : List Char} {document : Document}
    {documents : List Document} (hvalue : value fuel cs = some (document, ',' :: others))
    (hitems : items fuel others = some (documents, rest)) :
    items (fuel + 1) cs = some (document :: documents, rest) := by
  rw [items, hvalue]
  simp only [Option.bind_eq_bind, Option.bind_some, skipSpace_cons (c := ',') rfl, hitems]
  rfl

theorem items_intercalate {after : List Char} (hafter : ∀ c ∈ after, isSpace c = true)
    {texts : List (List Char)} {documents : List Document}
    (hspells : List.Forall₂ Spells texts documents) (hne : texts ≠ []) {fuel : Nat}
    (hfuel : ([','].intercalate texts).length < fuel) (rest : List Char) :
    items (fuel + 1) ([','].intercalate texts ++ (after ++ ']' :: rest)) =
      some (documents, rest) := by
  induction hspells generalizing fuel with
  | nil => exact absurd rfl hne
  | @cons text document texts documents htext hspells ih =>
      obtain ⟨fuel, rfl⟩ := Nat.exists_eq_succ_of_ne_zero (Nat.ne_zero_of_lt hfuel)
      cases texts with
      | nil =>
          cases hspells
          rw [List.intercalate_singleton] at hfuel ⊢
          exact items_last hafter
            (htext fuel _ (by omega) (ends_append hafter (by decide) rest))
      | cons next texts =>
          rw [List.intercalate_cons_cons] at hfuel ⊢
          rw [List.length_append, List.length_append, List.length_singleton] at hfuel
          rw [List.append_assoc, List.append_assoc, List.singleton_append]
          exact items_more (htext fuel _ (by omega) (ends_mark (by decide) _))
            (ih (List.cons_ne_nil _ _) (by omega))

theorem spells_list {after : List Char} (hafter : ∀ c ∈ after, isSpace c = true)
    {texts : List (List Char)} {documents : List Document}
    (hspells : List.Forall₂ Spells texts documents) :
    Spells ('[' :: ([','].intercalate texts ++ (after ++ [']']))) (.arr documents) := by
  intro fuel rest hfuel _
  rw [List.cons_append, List.append_assoc, List.append_assoc, List.singleton_append]
  rw [List.length_cons, List.length_append, List.length_append, List.length_singleton] at hfuel
  cases hspells with
  | nil => exact value_emptyList hafter fuel rest
  | cons htext hspells =>
      obtain ⟨fuel, rfl⟩ := Nat.exists_eq_succ_of_ne_zero (Nat.ne_zero_of_lt hfuel)
      exact value_list (items_intercalate hafter (.cons htext hspells) (List.cons_ne_nil _ _)
        (by omega) rest)

/-! ### Objects -/

theorem expect?_self (c : Char) (cs : List Char) : expect? [c] (c :: cs) = some cs := if_pos rfl

theorem memberList_brace (fuel : Nat) (rest : List Char) :
    memberList fuel ('\x7d' :: rest) = none := by
  cases fuel with
  | zero => rfl
  | succ fuel => rfl

theorem value_openedObject (fuel : Nat) (cs : List Char) :
    value (fuel + 1) ('\x7b' :: cs) =
      match skipSpace cs with
      | '\x7d' :: cs => some (.obj [], cs)
      | cs => (memberList fuel cs).map fun (members, cs) => (.obj members, cs) := rfl

theorem value_emptyObject {after : List Char} (hafter : ∀ c ∈ after, isSpace c = true)
    (fuel : Nat) (rest : List Char) :
    value (fuel + 1) ('\x7b' :: (after ++ '\x7d' :: rest)) = some (.obj [], rest) := by
  rw [value_openedObject, skipSpace_append_cons hafter rfl]
  rfl

theorem value_object {fuel : Nat} {cs rest : List Char}
    {members : List (Option String × Document)}
    (hmembers : memberList (fuel + 1) cs = some (members, rest)) :
    value (fuel + 2) ('\x7b' :: cs) = some (.obj members, rest) := by
  rw [value_openedObject]
  split
  · next hclosed =>
    rw [← memberList_skipSpace, hclosed, memberList_brace] at hmembers
    cases hmembers
  · rw [memberList_skipSpace, hmembers]
    rfl

theorem memberList_last {fuel : Nat} {name : String} {cs after rest : List Char}
    {document : Document} (hafter : ∀ c ∈ after, isSpace c = true)
    (hvalue : value fuel cs = some (document, after ++ '\x7d' :: rest)) :
    memberList (fuel + 1) ((quote name).toList ++ ':' :: cs) =
      some ([(some name, document)], rest) := by
  rw [toList_quote_append, memberList, skipSpace_cons rfl]
  simp only [expect?_self, Option.bind_eq_bind, Option.bind_some, stringBody_quoted,
    skipSpace_cons (c := ':') rfl, hvalue, skipSpace_append_cons (c := '\x7d') hafter rfl]
  rfl

theorem memberList_more {fuel : Nat} {name : String} {cs others rest : List Char}
    {document : Document} {members : List (Option String × Document)}
    (hvalue : value fuel cs = some (document, ',' :: others))
    (hmembers : memberList fuel others = some (members, rest)) :
    memberList (fuel + 1) ((quote name).toList ++ ':' :: cs) =
      some ((some name, document) :: members, rest) := by
  rw [toList_quote_append, memberList, skipSpace_cons rfl]
  simp only [expect?_self, Option.bind_eq_bind, Option.bind_some, stringBody_quoted,
    skipSpace_cons (c := ':') rfl, hvalue, skipSpace_cons (c := ',') rfl, hmembers]
  rfl

theorem memberList_append {blanks : List Char} (hblanks : ∀ c ∈ blanks, isSpace c = true)
    (fuel : Nat) (cs : List Char) : memberList fuel (blanks ++ cs) = memberList fuel cs := by
  rw [← memberList_skipSpace, skipSpace_append hblanks, memberList_skipSpace]

/-- A member is spelled by its quoted name and, after a colon, its value. -/
def SpellsMember (cs : List Char) (member : Option String × Document) : Prop :=
  ∃ blanks name text, cs = blanks ++ ((quote name).toList ++ ':' :: text) ∧
    (∀ c ∈ blanks, isSpace c = true) ∧ member.1 = some name ∧ Spells text member.2

theorem memberList_intercalate {after : List Char} (hafter : ∀ c ∈ after, isSpace c = true)
    {texts : List (List Char)} {members : List (Option String × Document)}
    (hspells : List.Forall₂ SpellsMember texts members) (hne : texts ≠ []) {fuel : Nat}
    (hfuel : ([','].intercalate texts).length < fuel) (rest : List Char) :
    memberList (fuel + 1) ([','].intercalate texts ++ (after ++ '\x7d' :: rest)) =
      some (members, rest) := by
  induction hspells generalizing fuel with
  | nil => exact absurd rfl hne
  | @cons text member texts members hmember hspells ih =>
      obtain ⟨fuel, rfl⟩ := Nat.exists_eq_succ_of_ne_zero (Nat.ne_zero_of_lt hfuel)
      obtain ⟨blanks, name, written, rfl, hblanks, hname, hvalue⟩ := hmember
      obtain ⟨_, document⟩ := member
      cases hname
      cases texts with
      | nil =>
          cases hspells
          rw [List.intercalate_singleton] at hfuel ⊢
          simp only [List.length_append, List.length_cons] at hfuel
          rw [List.append_assoc, memberList_append hblanks, List.append_assoc, List.cons_append]
          exact memberList_last hafter
            (hvalue fuel _ (by omega) (ends_append hafter (by decide) rest))
      | cons next texts =>
          rw [List.intercalate_cons_cons] at hfuel ⊢
          simp only [List.length_append, List.length_cons] at hfuel
          rw [List.append_assoc, List.append_assoc, List.append_assoc,
            memberList_append hblanks, List.append_assoc, List.cons_append, List.singleton_append]
          exact memberList_more (hvalue fuel _ (by omega) (ends_mark (by decide) _))
            (ih (List.cons_ne_nil _ _) (by omega))

theorem spells_object {after : List Char} (hafter : ∀ c ∈ after, isSpace c = true)
    {texts : List (List Char)} {members : List (Option String × Document)}
    (hspells : List.Forall₂ SpellsMember texts members) :
    Spells ('\x7b' :: ([','].intercalate texts ++ (after ++ ['\x7d']))) (.obj members) := by
  intro fuel rest hfuel _
  rw [List.cons_append, List.append_assoc, List.append_assoc, List.singleton_append]
  rw [List.length_cons, List.length_append, List.length_append, List.length_singleton] at hfuel
  cases hspells with
  | nil => exact value_emptyObject hafter fuel rest
  | cons hmember hspells =>
      obtain ⟨fuel, rfl⟩ := Nat.exists_eq_succ_of_ne_zero (Nat.ne_zero_of_lt hfuel)
      exact value_object (memberList_intercalate hafter (.cons hmember hspells)
        (List.cons_ne_nil _ _) (by omega) rest)

/-- A whole text that spells a document is read as it. -/
theorem parse?_of_spells {text : String} {document : Document}
    (hspells : Spells text.toList document) : parse? text = some document := by
  have hvalue := hspells (2 * text.toList.length + 1) [] (by omega) (by rintro c ⟨⟩)
  rw [List.append_nil] at hvalue
  rw [parse?, hvalue]
  rfl

end Document

end UpgradeGate.Json
