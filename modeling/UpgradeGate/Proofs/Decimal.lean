import Mathlib.Algebra.Group.Nat.Defs
import UpgradeGate.Decimal
import UpgradeGate.Proofs.Text

/-!
# Digits that spell numbers

Digits are read as the number that they spell, also with zeros in front of them.
-/

namespace UpgradeGate.Decimal

theorem digitValue?_of_isDigit {c : Char} (hdigit : c.isDigit = true) :
    digitValue? 10 c = some (c.toNat - '0'.toNat) := by
  have hrange : '0' ≤ c ∧ c ≤ '9' := Text.isDigit_iff.mp hdigit
  have hvalue : c.toNat - '0'.toNat < 10 := by
    have hle : c.val.toNat ≤ '9'.val.toNat := hrange.2
    change c.val.toNat - 48 < 10
    have hnine : '9'.val.toNat = 57 := rfl
    omega
  unfold digitValue?
  dsimp only
  rw [if_pos hrange, if_pos hvalue]

theorem foldlM_digitValue? {cs : List Char} (hdigits : ∀ c ∈ cs, c.isDigit = true) (sum : Nat) :
    cs.foldlM (fun sum c => (digitValue? 10 c).map (sum * 10 + ·)) sum =
      some (Nat.ofDigitChars 10 cs sum) := by
  induction cs generalizing sum with
  | nil => rfl
  | cons c cs ih =>
      rw [List.forall_mem_cons] at hdigits
      rw [List.foldlM_cons, digitValue?_of_isDigit hdigits.1, Nat.ofDigitChars_cons,
        Nat.mul_comm 10 sum]
      exact ih hdigits.2 _

theorem isDigit_of_digitValue? {c : Char} {value : Nat} (hvalue : digitValue? 10 c = some value) :
    c.isDigit = true := by
  refine Decidable.byContradiction fun hdigit => ?_
  have hrange : ¬ ('0' ≤ c ∧ c ≤ '9') := fun hrange => hdigit (Text.isDigit_iff.mpr hrange)
  -- A letter counts for ten at least.
  have hlarge : digitValue? 10 c = none := by
    unfold digitValue?
    dsimp only
    rw [if_neg hrange]
    refine if_neg ?_
    split
    · omega
    · split <;> omega
  rw [hlarge] at hvalue
  cases hvalue

theorem isDigit_of_foldlM_digitValue? {cs : List Char} {sum value : Nat}
    (hvalue : cs.foldlM (fun sum c => (digitValue? 10 c).map (sum * 10 + ·)) sum = some value) :
    ∀ c ∈ cs, c.isDigit = true := by
  induction cs generalizing sum with
  | nil => nofun
  | cons c cs ih =>
      rw [List.foldlM_cons, Option.bind_eq_bind, Option.bind_eq_some_iff] at hvalue
      obtain ⟨next, hnext, hrest⟩ := hvalue
      obtain ⟨digit, hdigit, _⟩ := Option.map_eq_some_iff.mp hnext
      exact List.forall_mem_cons.mpr ⟨isDigit_of_digitValue? hdigit, ih hrest⟩

theorem natOfDigits?_eq_some_iff {cs : List Char} {value : Nat} :
    natOfDigits? 10 cs = some value ↔
      cs ≠ [] ∧ (∀ c ∈ cs, c.isDigit = true) ∧ Nat.ofDigitChars 10 cs 0 = value := by
  cases cs with
  | nil => simp [natOfDigits?]
  | cons c cs =>
      have hfold : natOfDigits? 10 (c :: cs) =
          (c :: cs).foldlM (fun sum c => (digitValue? 10 c).map (sum * 10 + ·)) 0 := rfl
      rw [hfold]
      constructor
      · intro hvalue
        have hdigits := isDigit_of_foldlM_digitValue? hvalue
        rw [foldlM_digitValue? hdigits 0] at hvalue
        exact ⟨List.cons_ne_nil c cs, hdigits, Option.some.inj hvalue⟩
      · rintro ⟨_, hdigits, hvalue⟩
        rw [foldlM_digitValue? hdigits 0, hvalue]

theorem natOfDecimals_of_isDigit {cs : List Char} (hdigits : ∀ c ∈ cs, c.isDigit = true) :
    natOfDecimals cs = Nat.ofDigitChars 10 cs 0 := by
  cases cs with
  | nil => rfl
  | cons c cs => exact congrArg (Option.getD · 0) (foldlM_digitValue? hdigits 0)

theorem lt_of_digitValue? {base : Nat} {c : Char} {value : Nat}
    (hvalue : digitValue? base c = some value) : value < base := by
  unfold digitValue? at hvalue
  obtain ⟨hlt, hsome⟩ := Option.ite_none_right_eq_some.mp hvalue
  exact Option.some.inj hsome ▸ hlt

theorem lt_of_foldlM_digitValue? {cs : List Char} {sum value : Nat}
    (hvalue : cs.foldlM (fun sum c => (digitValue? 10 c).map (sum * 10 + ·)) sum = some value) :
    value < (sum + 1) * 10 ^ cs.length := by
  induction cs generalizing sum with
  | nil =>
      cases hvalue
      simp
  | cons c cs ih =>
      rw [List.foldlM_cons, Option.bind_eq_bind, Option.bind_eq_some_iff] at hvalue
      obtain ⟨next, hnext, hrest⟩ := hvalue
      obtain ⟨digit, hdigit, rfl⟩ := Option.map_eq_some_iff.mp hnext
      have hten := lt_of_digitValue? hdigit
      calc value < (sum * 10 + digit + 1) * 10 ^ cs.length := ih hrest
        _ ≤ ((sum + 1) * 10) * 10 ^ cs.length := Nat.mul_le_mul_right _ (by omega)
        _ = (sum + 1) * 10 ^ (c :: cs).length := by
            rw [List.length_cons, Nat.pow_succ', Nat.mul_assoc]

theorem natOfDecimals_lt (cs : List Char) : natOfDecimals cs < 10 ^ cs.length := by
  cases cs with
  | nil => decide
  | cons c cs =>
      rw [natOfDecimals]
      cases hvalue : natOfDigits? 10 (c :: cs) with
      | none => exact Nat.pow_pos (by decide)
      | some value =>
          have hlt : value < (0 + 1) * 10 ^ (c :: cs).length := lt_of_foldlM_digitValue? hvalue
          rwa [Nat.zero_add, Nat.one_mul] at hlt

theorem exists_cons_of_isDigit {cs : List Char} (hne : cs ≠ [])
    (hdigits : ∀ c ∈ cs, c.isDigit = true) : ∃ c rest, cs = c :: rest ∧ c.isDigit = true := by
  obtain ⟨c, rest, rfl⟩ := List.exists_cons_of_ne_nil hne
  exact ⟨c, rest, rfl, hdigits c List.mem_cons_self⟩

theorem isDigit_of_mem_toString {n : Nat} {c : Char} (hc : c ∈ (toString n).toList) :
    c.isDigit = true := by
  rw [Nat.toString_eq_repr, Nat.toList_repr] at hc
  exact Nat.isDigit_of_mem_toDigits (by decide) (by decide) hc

theorem toList_toString_ne_nil (n : Nat) : (toString n).toList ≠ [] := by
  rw [Nat.toString_eq_repr, Nat.toList_repr]
  exact Nat.toDigits_ne_nil

theorem ofDigitChars_toString (n : Nat) : Nat.ofDigitChars 10 (toString n).toList 0 = n := by
  rw [Nat.toString_eq_repr, Nat.toList_repr, Nat.ofDigitChars_ten_toDigits]

theorem exists_toDigits_eq_cons {n : Nat} (hpos : 0 < n) :
    ∃ d ds, Nat.toDigits 10 n = Nat.digitChar d :: ds ∧ 0 < d ∧ d < 10 := by
  induction n using Nat.strongRecOn with
  | ind n ih =>
      by_cases hsmall : n < 10
      · exact ⟨n, [], Nat.toDigits_of_lt_base hsmall, hpos, hsmall⟩
      · obtain ⟨d, ds, hdigits, hd⟩ := ih (n / 10) (by omega) (by omega)
        exact ⟨d, ds ++ [(n % 10).digitChar],
          by rw [Nat.toDigits_of_base_le (by decide) (by omega), hdigits, List.cons_append], hd⟩

/-- No number but zero is written with a zero in front. -/
theorem toList_toString_of_head? {n : Nat} (hzero : (toString n).toList.head? = some '0') :
    (toString n).toList = ['0'] := by
  rw [Nat.toString_eq_repr, Nat.toList_repr] at hzero ⊢
  cases Nat.eq_zero_or_pos n with
  | inl hn => rw [hn, Nat.toDigits_zero]
  | inr hpos =>
      obtain ⟨d, ds, hdigits, hd, hten⟩ := exists_toDigits_eq_cons hpos
      rw [hdigits, List.head?_cons, Option.some.injEq] at hzero
      have hvalue := Nat.toNat_digitChar_of_lt_ten hten
      rw [hzero] at hvalue
      have hchar : '0'.toNat = 48 := rfl
      omega

end UpgradeGate.Decimal
