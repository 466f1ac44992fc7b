import Mathlib.Algebra.Group.Nat.Defs
import UpgradeGate.Instant
import UpgradeGate.Proofs.Decimal
import UpgradeGate.Proofs.Text

/-!
# Instants and their texts

The text of an instant is read as that instant: no year, leap second or fraction is lost. Only a
leap second within a minute has the text of the second after it, and is read as that. Neither a text
nor a clock gives such a second.
-/

namespace UpgradeGate.Instant

open Text Text.Reader

/-! ### Leap seconds -/

/-- A leap second elsewhere than at the end of a minute. -/
def IsStray (instant : Instant) : Prop :=
  1000000000 ≤ instant.nanosecond ∧ instant.second ≠ 59

instance (instant : Instant) : Decidable instant.IsStray := instDecidableAnd

/-- What is read for an instant: a stray leap second is taken for the second after it. -/
def settled (instant : Instant) : Instant :=
  if h : instant.IsStray then
    { instant with
      second := instant.second + 1
      nanosecond := instant.nanosecond - 1000000000
      second_lt := Nat.lt_of_le_of_ne instant.second_lt fun hlast => h.2 (Nat.succ.inj hlast)
      nanosecond_lt := Nat.lt_of_le_of_lt (Nat.sub_le _ _) instant.nanosecond_lt }
  else instant

theorem settled_eq_self {instant : Instant} (hstray : ¬ instant.IsStray) :
    instant.settled = instant :=
  dif_neg hstray

theorem settled_eq_self_iff {instant : Instant} :
    instant.settled = instant ↔ ¬ instant.IsStray := by
  refine ⟨fun heq hstray => ?_, settled_eq_self⟩
  have hsecond : instant.second + 1 = instant.second := by
    simpa [settled, hstray] using congrArg Instant.second heq
  omega

theorem text_settled (instant : Instant) : instant.settled.text = instant.text := by
  unfold settled
  split
  · next hstray =>
    have hlt := instant.nanosecond_lt
    have hnanosecond := hstray.1
    have hquotient : (instant.nanosecond - 1000000000) / 1000000000 = 0 := by omega
    have hleap : instant.nanosecond / 1000000000 = 1 := by omega
    have hfraction : (instant.nanosecond - 1000000000) % 1000000000 =
        instant.nanosecond % 1000000000 := by omega
    simp only [text, hquotient, hleap, hfraction, Nat.add_zero]
  · rfl

/-- The clock shows no leap seconds. -/
theorem not_isStray_of_ofNanoseconds? {n : Nat} {instant : Instant}
    (hinstant : ofNanoseconds? n = some instant) : ¬ instant.IsStray := by
  unfold ofNanoseconds? at hinstant
  dsimp only at hinstant
  split at hinstant
  · cases hinstant
    rintro ⟨hnanosecond, _⟩
    have hlt := Nat.mod_lt n (by decide : 1000000000 > 0)
    dsimp only at hnanosecond
    omega
  · cases hinstant

/-! ### Padded numbers -/

theorem toList_padded (width n : Nat) :
    (padded width n).toList =
      List.replicate (width - (toString n).length) '0' ++ (toString n).toList := by
  rw [padded, String.toList_append, String.toList_ofList]

theorem isDigit_of_mem_padded {width n : Nat} {c : Char} (hc : c ∈ (padded width n).toList) :
    c.isDigit = true := by
  rw [toList_padded, List.mem_append] at hc
  cases hc with
  | inl hzero => rw [List.eq_of_mem_replicate hzero]; rfl
  | inr hdigit => exact Decimal.isDigit_of_mem_toString hdigit

theorem length_padded {width n : Nat} (hwidth : 0 < width) (hfits : n < 10 ^ width) :
    (padded width n).toList.length = width := by
  have hlength : (toString n).length ≤ width := by
    rw [← String.length_toList, Nat.toString_eq_repr, Nat.toList_repr]
    exact (Nat.length_toDigits_le_iff (by decide) hwidth).mpr hfits
  rw [toList_padded, List.length_append, List.length_replicate, String.length_toList]
  omega

theorem padded_ne_nil (width n : Nat) : (padded width n).toList ≠ [] := by
  rw [toList_padded]
  exact List.append_ne_nil_of_right_ne_nil _ (Decimal.toList_toString_ne_nil n)

@[simp]
theorem natOfDecimals_padded (width n : Nat) :
    Decimal.natOfDecimals (padded width n).toList = n := by
  rw [Decimal.natOfDecimals_of_isDigit fun c => isDigit_of_mem_padded, toList_padded,
    Nat.ofDigitChars_append, Nat.ofDigitChars_replicate_zero, Nat.mul_zero,
    Nat.toString_eq_repr, Nat.toList_repr, Nat.ofDigitChars_ten_toDigits]

theorem exists_padded_eq_cons (width n : Nat) :
    ∃ c cs, (padded width n).toList = c :: cs ∧ c.isDigit = true :=
  Decimal.exists_cons_of_isDigit (padded_ne_nil width n) fun _ => isDigit_of_mem_padded

/-! ### The parts of a text -/

namespace Reader

theorem run_skipBlanks {c : Char} (hblank : isBlank c = false) (cs : List Char) :
    skipBlanks.run (c :: cs) = some ((), c :: cs) := by
  change some ((), (c :: cs).dropWhile isBlank) = _
  rw [List.dropWhile_cons_of_neg (by simp [hblank])]

theorem run_skipBlanks_padded (width n : Nat) (rest : List Char) :
    skipBlanks.run ((padded width n).toList ++ rest) =
      some ((), (padded width n).toList ++ rest) := by
  obtain ⟨c, cs, hcons, hdigit⟩ := exists_padded_eq_cons width n
  rw [hcons]
  exact run_skipBlanks (isBlank_of_isDigit hdigit) _

theorem run_mark {c : Char} (hblank : isBlank c = false) (rest : List Char) :
    (mark c).run (c :: rest) = some ((), rest) := by
  rw [mark, run_bind (run_skipBlanks hblank rest),
    run_bind (run_oneOf (by simp) rest)]
  rfl

theorem run_digits (most : Option Nat) {cs ds : List Char}
    (htaken : most.elim (cs.takeWhile Char.isDigit) (cs.takeWhile Char.isDigit).take = ds)
    (hne : ds ≠ []) : (digits most).run cs = some (ds, cs.drop ds.length) := by
  have hrun : (digits most).run cs =
      (if ds.isEmpty then failure else pure ds : Reader (List Char)).run (cs.drop ds.length) := by
    subst htaken
    cases most with
    | none => rfl
    | some most => rfl
  rw [hrun, if_neg (by simpa using hne)]
  rfl

theorem run_digits_some {width n : Nat} (hwidth : 0 < width) (hfits : n < 10 ^ width)
    (rest : List Char) :
    (digits (some width)).run ((padded width n).toList ++ rest) =
      some ((padded width n).toList, rest) := by
  rw [run_digits (some width) _ (padded_ne_nil width n), List.drop_left]
  rw [Option.elim_some, List.takeWhile_append_of_pos fun c => isDigit_of_mem_padded,
    List.take_left' (length_padded hwidth hfits)]

theorem run_digits_none (width n : Nat) {c : Char} (hc : c.isDigit = false) (rest : List Char) :
    (digits none).run ((padded width n).toList ++ c :: rest) =
      some ((padded width n).toList, c :: rest) := by
  rw [run_digits none _ (padded_ne_nil width n), List.drop_left]
  rw [Option.elim_none, List.takeWhile_append_of_pos fun c => isDigit_of_mem_padded,
    List.takeWhile_cons_of_neg (by simp [hc]), List.append_nil]

theorem run_number {least greatest n : Nat} (hleast : least ≤ n) (hgreatest : n ≤ greatest)
    (hfits : n < 100) (rest : List Char) :
    (number least greatest).run ((padded 2 n).toList ++ rest) = some (n, rest) := by
  rw [number, run_bind (run_skipBlanks_padded 2 n rest),
    run_bind (run_digits_some (by decide) hfits rest)]
  dsimp only
  rw [natOfDecimals_padded, if_pos ⟨hleast, hgreatest⟩]
  rfl

theorem run_year_of_four {n : Nat} (hfits : n < 10000) (rest : List Char) :
    Reader.year.run ((padded 4 n).toList ++ rest) = some ((n : Int), rest) := by
  obtain ⟨c, cs, hcons, hdigit⟩ := exists_padded_eq_cons 4 n
  have hminus : c ≠ '-' := by rintro rfl; cases hdigit
  have hplus : c ≠ '+' := by rintro rfl; cases hdigit
  have hdigits := run_digits_some (by decide : 0 < 4) hfits rest
  rw [Reader.year, run_bind (run_skipBlanks_padded 4 n _)]
  rw [hcons, List.cons_append] at hdigits ⊢
  rw [run_bind (run_optional_ne hminus _), if_neg (by decide),
    run_bind (run_optional_ne hplus _), if_neg (by decide), run_bind hdigits, ← hcons,
    natOfDecimals_padded]
  rfl

theorem run_year_minus (n : Nat) {c : Char} (hc : c.isDigit = false) (rest : List Char) :
    Reader.year.run ('-' :: ((padded 4 n).toList ++ c :: rest)) =
      some (-(n : Int), c :: rest) := by
  rw [Reader.year, run_bind (run_skipBlanks (by decide) _), run_bind (run_optional_self '-' _),
    if_pos rfl, run_bind (run_digits_none 4 n hc rest), natOfDecimals_padded]
  rfl

theorem run_year_plus (n : Nat) {c : Char} (hc : c.isDigit = false) (rest : List Char) :
    Reader.year.run ('+' :: ((padded 4 n).toList ++ c :: rest)) = some ((n : Int), c :: rest) := by
  rw [Reader.year, run_bind (run_skipBlanks (by decide) _),
    run_bind (run_optional_ne (by decide) _), if_neg (by decide),
    run_bind (run_optional_self '+' _), if_pos rfl, run_bind (run_digits_none 4 n hc rest),
    natOfDecimals_padded]
  rfl

theorem run_year (year : Int) (rest : List Char) :
    Reader.year.run ((yearText year).toList ++ '-' :: rest) = some (year, '-' :: rest) := by
  rw [yearText]
  split
  · next hrange =>
    have hyear := run_year_of_four (n := year.toNat) (by omega) ('-' :: rest)
    rw [Int.toNat_of_nonneg hrange.1] at hyear
    exact hyear
  · split
    · next hnegative =>
      have hyear := run_year_minus year.natAbs (c := '-') (by decide) rest
      rw [show -(year.natAbs : Int) = year by omega] at hyear
      rw [String.toList_append]
      exact hyear
    · next hpositive =>
      have hyear := run_year_plus year.natAbs (c := '-') (by decide) rest
      rw [show (year.natAbs : Int) = year by omega] at hyear
      rw [String.toList_append]
      exact hyear

theorem run_fraction_point {width n : Nat} (hwidth : 0 < width) (hnine : width ≤ 9)
    (hfits : n < 10 ^ width) {c : Char} (hc : c.isDigit = false) (rest : List Char) :
    Reader.fraction.run ('.' :: ((padded width n).toList ++ c :: rest)) =
      some (n * 10 ^ (9 - width), c :: rest) := by
  rw [Reader.fraction, run_bind (run_optional_self '.' _), if_pos rfl,
    run_bind (run_digits_none width n hc rest)]
  dsimp only
  rw [List.take_of_length_le (by rw [length_padded hwidth hfits]; exact hnine),
    natOfDecimals_padded, length_padded hwidth hfits]
  rfl

theorem run_fraction {nanosecond : Nat} (hlt : nanosecond < 1000000000) (rest : List Char) :
    Reader.fraction.run ((fractionText nanosecond).toList ++ 'Z' :: rest) =
      some (nanosecond, 'Z' :: rest) := by
  have hpoint (width n : Nat) (hwidth : 0 < width ∧ width ≤ 9) (hfits : n < 10 ^ width)
      (hwhole : n * 10 ^ (9 - width) = nanosecond) :
      Reader.fraction.run (("." ++ padded width n).toList ++ 'Z' :: rest) =
        some (nanosecond, 'Z' :: rest) := by
    rw [← hwhole, String.toList_append]
    exact run_fraction_point hwidth.1 hwidth.2 hfits (by decide) rest
  rw [fractionText]
  split
  · next hzero =>
    rw [hzero]
    exact run_bind (run_optional_ne (by decide) _)
  · split
    · exact hpoint 3 _ (by decide) (by omega) (by omega)
    · split
      · exact hpoint 6 _ (by decide) (by omega) (by omega)
      · exact hpoint 9 _ (by decide) hlt (by omega)

/-- The second after the last one of a minute is read as that one, whose fraction goes on. -/
theorem run_seconds (instant : Instant) (rest : List Char) :
    Reader.seconds.run ((padded 2 (instant.second + instant.nanosecond / 1000000000)).toList ++
        ((fractionText (instant.nanosecond % 1000000000)).toList ++ 'Z' :: rest)) =
      some ((instant.settled.second, instant.settled.nanosecond), 'Z' :: rest) := by
  have hsecond := instant.second_lt
  have hnanosecond := instant.nanosecond_lt
  rw [Reader.seconds, run_bind (run_number (Nat.zero_le _) (by omega) (by omega) _),
    run_bind (run_fraction (by omega) rest)]
  refine congrArg (fun read => some (read, 'Z' :: rest)) ?_
  unfold settled
  split
  · next hsixty =>
    have hstray : ¬ instant.IsStray := fun hstray => hstray.2 (by omega)
    rw [dif_neg hstray]
    exact Prod.ext (by omega) (by omega)
  · next hsixty =>
    split
    · next hstray =>
      have hleap := hstray.1
      exact Prod.ext (by dsimp only; omega) (by dsimp only; omega)
    · next hstray =>
      have hwhole : instant.nanosecond < 1000000000 := by
        by_contra hleap
        exact hstray ⟨by omega, by omega⟩
      exact Prod.ext (by dsimp only; omega) (by dsimp only; omega)

theorem run_offset : Reader.offset.run ['Z'] = some (0, []) := rfl

theorem shifted_zero (instant : Instant) :
    shifted instant.day instant.hour instant.minute instant.second instant.nanosecond 0 =
      some instant := by
  have hhour := instant.hour_lt
  have hminute := instant.minute_lt
  have hday : ¬ ((instant.hour * 60 + instant.minute - 0 : Int) < 0) := by omega
  have hnight : ¬ (1440 ≤ (instant.hour * 60 + instant.minute - 0 : Int)) := by omega
  have hminutes : ((instant.hour * 60 + instant.minute - 0 : Int) % 1440).toNat =
      instant.hour * 60 + instant.minute := by omega
  unfold shifted
  simp only [hminutes, if_neg hday, if_neg hnight]
  rw [dif_pos ⟨instant.day_valid, instant.day_valid, instant.second_lt, instant.nanosecond_lt⟩]
  cases instant
  simp
  omega

end Reader

theorem month_day_le {day : Day} (hvalid : day.isValid = true) :
    (1 ≤ day.month ∧ day.month ≤ 12) ∧ 1 ≤ day.day ∧ day.day ≤ 31 := by
  have hdays : Day.daysIn day.year day.month ≤ 31 := by
    unfold Day.daysIn
    split
    · split <;> decide
    · split <;> decide
  simp only [Day.isValid, Bool.and_eq_true, decide_eq_true_eq] at hvalid
  omega

theorem toList_text (instant : Instant) :
    instant.text.toList =
      (yearText instant.day.year).toList ++ '-' :: ((padded 2 instant.day.month).toList ++
        '-' :: ((padded 2 instant.day.day).toList ++ 'T' :: ((padded 2 instant.hour).toList ++
          ':' :: ((padded 2 instant.minute).toList ++ ':' ::
            ((padded 2 (instant.second + instant.nanosecond / 1000000000)).toList ++
              ((fractionText (instant.nanosecond % 1000000000)).toList ++ ['Z'])))))) := by
  have hdash : "-".toList = ['-'] := rfl
  have htee : "T".toList = ['T'] := rfl
  have hcolon : ":".toList = [':'] := rfl
  have hzulu : "Z".toList = ['Z'] := rfl
  simp only [text, String.toList_append, List.append_assoc, hdash, htee, hcolon, hzulu,
    List.cons_append, List.nil_append]

/-- Only the seconds are settled. -/
theorem settled_frame (instant : Instant) :
    instant.settled.day = instant.day ∧ instant.settled.hour = instant.hour ∧
      instant.settled.minute = instant.minute := by
  unfold settled
  split <;> exact ⟨rfl, rfl, rfl⟩

theorem run_text (instant : Instant) :
    Reader.instant.run instant.text.toList = some (instant.settled, []) := by
  obtain ⟨hmonth, hday⟩ := month_day_le instant.day_valid
  have hhour := instant.hour_lt
  have hminute := instant.minute_lt
  obtain ⟨hsameDay, hsameHour, hsameMinute⟩ := instant.settled_frame
  rw [toList_text, Reader.instant, run_bind (Reader.run_year _ _),
    run_bind (Reader.run_mark (by decide) _),
    run_bind (Reader.run_number hmonth.1 hmonth.2 (by omega) _),
    run_bind (Reader.run_mark (by decide) _),
    run_bind (Reader.run_number hday.1 hday.2 (by omega) _), run_bind (run_oneOf (by decide) _),
    run_bind (Reader.run_number (Nat.zero_le _) (by omega) (by omega) _),
    run_bind (Reader.run_mark (by decide) _),
    run_bind (Reader.run_number (Nat.zero_le _) (by omega) (by omega) _),
    run_bind (Reader.run_mark (by decide) _), run_bind (Reader.run_seconds instant _),
    run_bind (Reader.run_skipBlanks (by decide) _), run_bind Reader.run_offset]
  change (Reader.shifted instant.day _ _ _ _ _ >>= fun value => some (value, [])) = _
  rw [← hsameDay, ← hsameHour, ← hsameMinute, Reader.shifted_zero]
  rfl

/-- Of an instant its text tells all but whether it is a stray leap second. -/
theorem ofString?_text (instant : Instant) : ofString? instant.text = some instant.settled := by
  rw [ofString?, readAll, run_text]
  rfl

/-- Half a second into a leap second at midnight shows as one and a half seconds after midnight. -/
example :
    let stray : Instant :=
      { millennium with nanosecond := 1500000000, nanosecond_lt := by decide }
    stray.text = "2000-01-01T00:00:01.500Z" ∧
      ofString? stray.text =
        some { millennium with
          second := 1, nanosecond := 500000000
          second_lt := by decide, nanosecond_lt := by decide } := by
  decide +kernel

/-! ### Texts that are read -/

namespace Reader

theorem gives_fraction : Reader.fraction.Gives (· < 1000000000) := by
  refine gives_bind fun isPoint => ?_
  cases isPoint with
  | false => exact gives_pure (by decide)
  | true =>
      refine gives_bind fun ds => gives_pure ?_
      have hnine : (ds.take 9).length ≤ 9 := List.length_take_le 9 ds
      calc Decimal.natOfDecimals (ds.take 9) * 10 ^ (9 - (ds.take 9).length)
          < 10 ^ (ds.take 9).length * 10 ^ (9 - (ds.take 9).length) :=
            Nat.mul_lt_mul_of_pos_right (Decimal.natOfDecimals_lt _) (Nat.pow_pos (by decide))
        _ = 1000000000 := by rw [← Nat.pow_add, Nat.add_sub_cancel' hnine]

theorem gives_seconds :
    Reader.seconds.Gives fun read => read.2 < 1000000000 ∨ read.1 = 59 := by
  refine gives_bind fun second => gives_fraction.bind fun nanosecond hnanosecond => gives_pure ?_
  split
  · exact .inr rfl
  · exact .inl hnanosecond

theorem seconds_of_shifted {day : Day} {hour minute second nanosecond : Nat} {offset : Int}
    {instant : Instant}
    (hshifted : shifted day hour minute second nanosecond offset = some instant) :
    instant.second = second ∧ instant.nanosecond = nanosecond := by
  unfold shifted at hshifted
  obtain ⟨_, hsome⟩ := Option.dite_none_right_eq_some.mp hshifted
  exact Option.some.inj hsome ▸ ⟨rfl, rfl⟩

theorem gives_instant : Reader.instant.Gives fun instant => ¬ instant.IsStray := by
  -- Of all that is read before, only the seconds matter.
  refine gives_bind fun year => gives_bind fun _ => gives_bind fun month => gives_bind fun _ =>
    gives_bind fun day => gives_bind fun _ => gives_bind fun hour => gives_bind fun _ =>
    gives_bind fun minute => gives_bind fun _ =>
    gives_seconds.bind fun (second, nanosecond) hread =>
    gives_bind fun _ => gives_bind fun offset => gives_bind fun _ => ?_
  intro cs instant rest hlift
  obtain ⟨_, hshifted, hpair⟩ := Option.bind_eq_some_iff.mp hlift
  cases hpair
  obtain ⟨hsecond, hnanosecond⟩ := seconds_of_shifted hshifted
  rintro ⟨hleap, hstray⟩
  rcases hread with hwhole | hlast
  · rw [hnanosecond] at hleap
    exact Nat.not_lt.mpr hleap hwhole
  · exact hstray (hsecond.trans hlast)

end Reader

/-- No text is read as a stray leap second. -/
theorem not_isStray_of_ofString? {s : String} {instant : Instant}
    (hread : ofString? s = some instant) : ¬ instant.IsStray := by
  obtain ⟨⟨value, rest⟩, hvalue, hrest⟩ := Option.bind_eq_some_iff.mp hread
  obtain ⟨_, hsame⟩ := Option.ite_none_right_eq_some.mp hrest
  exact Option.some.inj hsame ▸ Reader.gives_instant _ _ _ hvalue

end UpgradeGate.Instant
