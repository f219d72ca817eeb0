import SexprShell.Proofs.Number.Shortest
import SexprShell.Proofs.Script.CommandTree

/-!
# The texts of ratios

Nine significant digits lead back to a single, also by way of a double (`convert_rounded_nine`), so
that the search for the least number of digits always ends. The text of a ratio is the decimal of
that many digits, and reads back as the single that the ratio is rounded to
(`emit_ratio_reads_back`).
-/

namespace SexprShell.Number

variable {n : Nat} {s : Rat}

/-! ## Digits of singles -/

theorem significant_bounds (hn : 0 < n) (hs : s ≠ 0) :
    |s| / 2 ≤ |significant n s| ∧ |significant n s| ≤ 2 * |s| := by
  have power : (10 : Rat) ^ (1 - n : Int) ≤ 1 := zpow_le_one_of_nonpos₀ (by norm_num) (by omega)
  have half : |significant n s - s| ≤ |s| / 2 := calc
    |significant n s - s| ≤ |s| * 10 ^ (1 - n : Int) / 2 := significant_error hs n
    _ ≤ |s| / 2 := by
      gcongr
      exact mul_le_of_le_one_right (abs_nonneg s) power
  have above := abs_sub_abs_le_abs_sub (significant n s) s
  have below := abs_sub_abs_le_abs_sub s (significant n s)
  rw [abs_sub_comm] at below
  exact ⟨by linarith, by linarith⟩

variable (hs : Format.single.Holds s) (nonzero : s ≠ 0) (hfits : |s| < 2 ^ (128 : Int))

include hs nonzero in
/-- Digits of a single are far from the least normal double. -/
theorem normal_significant (hn : 0 < n) : Format.leastNormal ≤ |significant n s| := calc
  Format.leastNormal ≤ 2 ^ (-149 + -1 : Int) :=
    zpow_le_zpow_right₀ (by norm_num) (by norm_num)
  _ = 2 ^ (-149 : Int) / 2 := by
    rw [zpow_add₀ (by norm_num)]
    rfl
  _ ≤ |s| / 2 := by
    have least : 2 ^ (-149 : Int) ≤ |s| := hs.le_abs nonzero
    gcongr
  _ ≤ |significant n s| := (significant_bounds hn nonzero).1

include hs nonzero hfits in
/-- Digits of a single are in the range of doubles. -/
theorem rounded_eq (hn : 0 < n) :
    rounded n s = .finite (Format.double.round (significant n s)) := by
  have normal := normal_significant hs nonzero hn
  have positive := Format.leastNormal_pos.trans_le normal
  have error := Format.double_round_error_of_normal normal
  have size := (significant_bounds hn nonzero).2
  have above := abs_sub_abs_le_abs_sub (Format.double.round (significant n s)) (significant n s)
  have below := abs_sub_abs_le_abs_sub (significant n s) (Format.double.round (significant n s))
  rw [abs_sub_comm] at below
  have range : |Format.double.round (significant n s)| < 2 ^ Format.double.maxExponent := calc
    |Format.double.round (significant n s)| ≤ 2 * |significant n s| := by linarith
    _ ≤ 4 * |s| := by linarith
    _ < 2 ^ (2 + 128 : Int) := by
      rw [zpow_add₀ (by norm_num)]
      linarith
    _ ≤ 2 ^ Format.double.maxExponent := zpow_le_zpow_right₀ (by norm_num) (by decide)
  have nonzero : Format.double.round (significant n s) ≠ 0 := by
    rw [← abs_pos]
    linarith
  rw [rounded, Format.encode, Format.encode?_of_fits nonzero range, Option.getD_some]

include hs nonzero hfits in
/-- The ninth digit of a decimal is finer than half a unit of the 24th digit of a binary number, and
so much that the rounding to a double does not matter. -/
theorem convert_rounded_nine : Format.single.convert (rounded 9 s) = .finite s := by
  rw [rounded_eq hs nonzero hfits (by decide)]
  refine Format.encode_of_near (by decide) hs hfits ?_
  have digits : |significant 9 s - s| ≤ |s| / 10 ^ 8 / 2 := significant_error nonzero 9
  have size := (significant_bounds (show 0 < 9 by decide) nonzero).2
  have normal := normal_significant hs nonzero (show 0 < 9 by decide)
  have error := Format.double_round_error_of_normal normal
  have total := abs_sub_le (Format.double.round (significant 9 s)) (significant 9 s) s
  change |Format.double.round (significant 9 s) - s| * 2 ^ (24 + 1) < |s|
  norm_num at digits error ⊢
  have positive := abs_pos.mpr nonzero
  linarith

/-! ## The search for digits -/

theorem leastDigits?_eq_some_iff : leastDigits? s = some n ↔
    Format.single.convert (rounded n s) = .finite s ∧ (0 < n ∧ n ≤ 9) ∧
      ∀ m, 0 < m → m < n → Format.single.convert (rounded m s) ≠ .finite s := by
  have digits : [1, 2, 3, 4, 5, 6, 7, 8, 9] = List.range' 1 9 := rfl
  rw [leastDigits?, digits, List.find?_range'_eq_some]
  simp only [decide_eq_true_eq, List.mem_range'_1, Bool.not_eq_true', decide_eq_false_iff_not]
  exact and_congr_right fun _ => and_congr (by omega) Iff.rfl

include hs nonzero hfits in
theorem exists_leastDigits : ∃ n, leastDigits? s = some n := by
  rw [← Option.isSome_iff_exists, leastDigits?, List.find?_isSome]
  exact ⟨9, by simp, decide_eq_true (convert_rounded_nine hs nonzero hfits)⟩

theorem leastDigits?_zero : leastDigits? 0 = some 1 := by
  refine leastDigits?_eq_some_iff.mpr ⟨?_, by decide, fun m hm hm' => by omega⟩
  rw [rounded, significant_zero, Format.encode_zero, Format.convert_zero]
  rfl

/-! ## The text of a single -/

include hs nonzero hfits in
theorem singleText_finite (h : leastDigits? s = some n) :
    ∃ d, Decimal.take (singleText (.finite s)).toList = (d, []) ∧
      d.value = significant n s ∧ d.toDouble = rounded n s := by
  obtain ⟨-, ⟨hn, hn'⟩, -⟩ := leastDigits?_eq_some_iff.mp h
  obtain ⟨j, g, decimal, digits⟩ := exists_significant n s
  have normal := normal_significant hs nonzero hn
  rw [decimal] at normal
  have few : |j| < 10 ^ 15 := calc
    |j| ≤ 10 ^ n := digits
    _ < 10 ^ 15 := pow_lt_pow_right₀ (by decide) (by omega)
  obtain ⟨d, htake, hdigits, hvalue⟩ := take_toText_round few normal
  have text : singleText (.finite s) =
      (Double.finite (Format.double.round (j * 10 ^ g))).toText := by
    simp only [singleText, nonzero, if_false, h, rounded_eq hs nonzero hfits hn, decimal]
  refine ⟨d, by rw [text, htake], by rw [hvalue, decimal], ?_⟩
  rw [Decimal.toDouble_eq_encode hdigits, hvalue, rounded, decimal]

theorem singleText_zero (negative : Bool) :
    ∃ d, Decimal.take (singleText (.zero negative)).toList = (d, []) ∧
      d.value = 0 ∧ d.toDouble = .zero negative := by
  refine ⟨⟨negative, 0, -1⟩, ?_, ?_, rfl⟩
  · cases negative <;> decide
  · simp [Decimal.value_eq]

end SexprShell.Number

namespace SexprShell.Script

open Number

/-- The text of a ratio reads back. If neither the double nor the single nearest to it is infinite,
some number of digits of the single leads back to it, and the text is the decimal with the least
such number of digits. Rounded to a double and then to a single it is the single of the ratio, with
the sign of a zero. -/
theorem emit_ratio_reads_back {q s : Rat} {d : Double} (hd : Format.double.encode? q = some d)
    (hs : (Format.single.convert d).value? = some s) (ctx : Context) :
    ∃ n text decimal,
      leastDigits? s = some n ∧ 0 < n ∧ n ≤ 9 ∧
      (∀ m, 0 < m → m < n → Format.single.convert (rounded m s) ≠ .finite s) ∧
      emit (.ratio q) ctx = .ok text ∧
      Decimal.take text.toList = (decimal, []) ∧
      decimal.value = significant n s ∧
      Format.single.convert decimal.toDouble = Format.single.convert d := by
  have literal_eq : literal (.ratio q) = .ok (singleText (Format.single.convert d)) := by
    simp [literal, ratioText?, hd]
  have has := Format.has_convert (Format.has_of_encode? hd) hs
  generalize Format.single.convert d = single at hs literal_eq has ⊢
  cases has with
  | zero negative =>
    obtain rfl : s = 0 := by cases negative <;> cases hs <;> rfl
    obtain ⟨decimal, htake, hvalue, hdouble⟩ := singleText_zero negative
    refine ⟨1, _, decimal, leastDigits?_zero, by decide, by decide, fun m hm hm' => by omega,
      emit_of_literal literal_eq ctx, htake, by rw [hvalue, significant_zero], ?_⟩
    rw [hdouble, Format.convert_zero]
  | finite nonzero holds fits =>
    cases hs
    obtain ⟨n, hn⟩ := exists_leastDigits holds nonzero fits
    obtain ⟨back, ⟨least, most⟩, fewer⟩ := leastDigits?_eq_some_iff.mp hn
    obtain ⟨decimal, htake, hvalue, hdouble⟩ := singleText_finite holds nonzero fits hn
    exact ⟨n, _, decimal, hn, least, most, fewer, emit_of_literal literal_eq ctx, htake, hvalue,
      by rw [hdouble, back]⟩

/-- A third, as a double and as a single. -/
theorem emit_ratio_reads_back_third :
    Format.double.encode? (mkRat 1 3) = some (.finite (mkRat 6004799503160661 (2 ^ 54))) ∧
    (Format.single.convert (.finite (mkRat 6004799503160661 (2 ^ 54)))).value? =
      some (mkRat 11184811 (2 ^ 25)) ∧
    ∃ n text decimal,
      leastDigits? (mkRat 11184811 (2 ^ 25)) = some n ∧ 0 < n ∧ n ≤ 9 ∧
      (∀ m, 0 < m → m < n → Format.single.convert (rounded m (mkRat 11184811 (2 ^ 25))) ≠
        .finite (mkRat 11184811 (2 ^ 25))) ∧
      emit (.ratio (mkRat 1 3)) {} = .ok text ∧
      Decimal.take text.toList = (decimal, []) ∧
      decimal.value = significant n (mkRat 11184811 (2 ^ 25)) ∧
      Format.single.convert decimal.toDouble =
        Format.single.convert (.finite (mkRat 6004799503160661 (2 ^ 54))) := by
  have double : Format.double.encode? (mkRat 1 3) =
      some (.finite (mkRat 6004799503160661 (2 ^ 54))) := by decide +kernel
  have single : (Format.single.convert (.finite (mkRat 6004799503160661 (2 ^ 54)))).value? =
      some (mkRat 11184811 (2 ^ 25)) := by decide +kernel
  exact ⟨double, single, emit_ratio_reads_back double single {}⟩

example : ratioText? (mkRat (-2) 3) = some "-0.6666667" := by decide +kernel

end SexprShell.Script
