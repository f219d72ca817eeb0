import Mathlib.Algebra.Order.Archimedean.Basic
import Mathlib.Data.Int.Log
import Mathlib.Data.Rat.Floor
import Mathlib.Tactic.FieldSimp
import Mathlib.Tactic.Linarith
import Mathlib.Tactic.Positivity
import SexprShell.Number.Rounding

/-!
# Rounding to a grid

Rounding takes a number to a nearest point of the grid, and to the only point that is less than half
a step away (`onGrid_error`, `onGrid_eq_of_near`). The exponent of the leading digit is the
logarithm (`leadingExponent_eq_log`), so that rounding to `n` significant digits changes a number by
at most half a unit in the last of them (`significant_error`).
-/

namespace SexprShell.Number

variable {base n : Nat} {step q : Rat}

/-! ## Powers -/

theorem scale_eq_zpow (base : Nat) (e : Int) : scale base e = (base : Rat) ^ e := by
  cases e with
  | ofNat n => simp [scale, Rat.mkRat_eq_div]
  | negSucc n => simp [scale, Rat.mkRat_eq_div, zpow_negSucc]

theorem scale_pos (hbase : 1 < base) (e : Int) : 0 < scale base e := by
  rw [scale_eq_zpow]
  exact zpow_pos (by exact_mod_cast Nat.zero_lt_of_lt hbase) e

theorem magnitude_eq_abs (q : Rat) : magnitude q = |q| := by
  unfold magnitude
  split
  · next h => exact (abs_of_neg h).symm
  · next h => exact (abs_of_nonneg (not_lt.mp h)).symm

/-- A multiple of a power is a multiple of every smaller power. -/
theorem exists_mul_zpow_eq (hbase : base ≠ 0) {g e : Int} (h : g ≤ e) (k : Int) :
    ∃ j : Int, (k : Rat) * (base : Rat) ^ e = j * (base : Rat) ^ g := by
  obtain ⟨n, rfl⟩ : ∃ n : Nat, e = g + n := ⟨(e - g).toNat, by omega⟩
  refine ⟨k * base ^ n, ?_⟩
  rw [zpow_add₀ (by exact_mod_cast hbase), zpow_natCast]
  push_cast
  ring

/-! ## Leading digits -/

/-- The count of digits lies between two powers of the base. -/
theorem pow_length_toDigits (hbase : 1 < base) (hn : n ≠ 0) :
    ∃ k, (Nat.toDigits base n).length = k + 1 ∧ base ^ k ≤ n ∧ n < base ^ (k + 1) := by
  obtain ⟨k, hk⟩ : ∃ k, (Nat.toDigits base n).length = k + 1 :=
    Nat.exists_eq_succ_of_ne_zero (Nat.ne_of_gt Nat.length_toDigits_pos)
  refine ⟨k, hk, ?_, (Nat.length_toDigits_le_iff hbase k.succ_pos).mp hk.le⟩
  cases k with
  | zero => exact Nat.pos_of_ne_zero hn
  | succ k =>
    refine Nat.not_lt.mp fun h => ?_
    have := (Nat.length_toDigits_le_iff hbase k.succ_pos).mpr h
    omega

theorem log_eq_iff (hbase : 1 < base) (hq : 0 < q) {e : Int} :
    Int.log base q = e ↔ (base : Rat) ^ e ≤ q ∧ q < (base : Rat) ^ (e + 1) := by
  rw [Int.zpow_le_iff_le_log hbase hq, Int.lt_zpow_iff_log_lt hbase hq]
  omega

theorem abs_eq_natAbs_div (q : Rat) : |q| = q.num.natAbs / q.den := by
  rw [Nat.cast_natAbs, Int.cast_abs]
  conv_lhs => rw [← Rat.num_div_den q, abs_div, Nat.abs_cast]

/-- Of the two candidates that the digits of numerator and denominator leave, the comparison takes
the right one. -/
theorem leadingExponent_eq_log (hbase : 1 < base) (hq : q ≠ 0) :
    leadingExponent base q = Int.log base |q| := by
  have pos : 0 < |q| := abs_pos.mpr hq
  have nonzero : (base : Rat) ≠ 0 := by exact_mod_cast Nat.ne_zero_of_lt hbase
  obtain ⟨a, ha, num, num'⟩ :=
    pow_length_toDigits hbase (Int.natAbs_ne_zero.mpr (Rat.num_ne_zero.mpr hq))
  obtain ⟨b, hb, den, den'⟩ := pow_length_toDigits hbase q.den_ne_zero
  have above : |q| < (base : Rat) ^ ((a : Int) - b + 1) := calc
    |q| = q.num.natAbs / q.den := abs_eq_natAbs_div q
    _ < (base : Rat) ^ (a + 1) / (base : Rat) ^ b := by
      gcongr
      · exact_mod_cast num'
      · exact_mod_cast den
    _ = (base : Rat) ^ ((a : Int) - b + 1) := by
      rw [sub_add_eq_add_sub, zpow_sub₀ nonzero]
      norm_cast
  have below : (base : Rat) ^ ((a : Int) - b - 1) ≤ |q| := calc
    (base : Rat) ^ ((a : Int) - b - 1) = (base : Rat) ^ a / (base : Rat) ^ (b + 1) := by
      rw [sub_sub, zpow_sub₀ nonzero]
      norm_cast
    _ ≤ q.num.natAbs / q.den := by
      gcongr
      · exact_mod_cast num
      · exact_mod_cast den'.le
    _ = |q| := (abs_eq_natAbs_div q).symm
  have candidate : ((Nat.toDigits base q.num.natAbs).length : Int) -
      (Nat.toDigits base q.den).length = a - b := by omega
  simp only [leadingExponent, magnitude_eq_abs, scale_eq_zpow, candidate]
  split
  · next h => exact ((log_eq_iff hbase pos).mpr ⟨h, above⟩).symm
  · next h => exact ((log_eq_iff hbase pos).mpr ⟨below, by simpa using h⟩).symm

theorem zpow_leadingExponent_le (hbase : 1 < base) (hq : q ≠ 0) :
    (base : Rat) ^ leadingExponent base q ≤ |q| := by
  have log := leadingExponent_eq_log hbase hq
  exact ((log_eq_iff hbase (abs_pos.mpr hq)).mp log.symm).1

theorem lt_zpow_leadingExponent (hbase : 1 < base) (q : Rat) :
    |q| < (base : Rat) ^ (leadingExponent base q + 1) := by
  by_cases hq : q = 0
  · rw [hq, abs_zero]
    exact zpow_pos (by exact_mod_cast Nat.zero_lt_of_lt hbase) _
  · have log := leadingExponent_eq_log hbase hq
    exact ((log_eq_iff hbase (abs_pos.mpr hq)).mp log.symm).2

/-- A number has `n` digits down to the place of the `n`th. -/
theorem abs_lt_digits (hbase : 1 < base) (n : Nat) (q : Rat) :
    |q| < (base : Rat) ^ n * (base : Rat) ^ (leadingExponent base q - n + 1) := calc
  |q| < (base : Rat) ^ (leadingExponent base q + 1) := lt_zpow_leadingExponent hbase q
  _ = (base : Rat) ^ n * (base : Rat) ^ (leadingExponent base q - n + 1) := by
    rw [← zpow_natCast, ← zpow_add₀ (by exact_mod_cast Nat.ne_zero_of_lt hbase)]
    congr 1
    ring

theorem leadingExponent_neg (base : Nat) (q : Rat) :
    leadingExponent base (-q) = leadingExponent base q := by
  simp [leadingExponent, magnitude_eq_abs]

/-! ## Nearest integers -/

theorem roundEven_error (q : Rat) : |q - roundEven q| ≤ 1 / 2 := by
  have below := Rat.floor_le q
  have above := Rat.lt_floor_add_one q
  have half : mkRat 1 2 = (1 / 2 : Rat) := by norm_num
  unfold roundEven
  simp only [half]
  split
  · rw [abs_le]; constructor <;> linarith
  · split
    · push_cast at *
      rw [abs_le]; constructor <;> linarith
    · have tie : q - q.floor = 1 / 2 := by linarith
      obtain h | h := Int.emod_two_eq_zero_or_one q.floor
      · rw [h, abs_le]; push_cast; constructor <;> linarith
      · rw [h, abs_le]; push_cast; constructor <;> linarith

theorem roundEven_eq_of_near {k : Int} (h : |q - k| < 1 / 2) : roundEven q = k := by
  have close : |((roundEven q - k : Int) : Rat)| < 1 := by
    have error := roundEven_error q
    push_cast
    rw [abs_lt] at h ⊢
    rw [abs_le] at error
    constructor <;> linarith
  rw [← Int.cast_abs] at close
  have : |roundEven q - k| < 1 := by exact_mod_cast close
  have := Int.abs_lt_one_iff.mp this
  omega

theorem abs_roundEven_le {m : Int} (h : |q| ≤ m) : |roundEven q| ≤ m := by
  have error := abs_le.mp (roundEven_error q)
  rw [abs_le] at h
  have close : |(roundEven q : Rat)| < ((m + 1 : Int) : Rat) := by
    push_cast
    rw [abs_lt]
    constructor <;> linarith
  rw [← Int.cast_abs] at close
  exact Int.lt_add_one_iff.mp (by exact_mod_cast close)

theorem roundEven_midpoint (k : Int) : roundEven (k + 1 / 2) = k + k % 2 := by
  have floor : ⌊(k : Rat) + 1 / 2⌋ = k := Int.floor_eq_iff.mpr ⟨by linarith, by linarith⟩
  change Rat.floor (k + 1 / 2) = k at floor
  have half : mkRat 1 2 = (1 / 2 : Rat) := by norm_num
  simp only [roundEven, floor, half, add_sub_cancel_left, lt_irrefl, if_false]

theorem roundEven_neg (q : Rat) : roundEven (-q) = -roundEven q := by
  obtain near | tie := (roundEven_error q).lt_or_eq
  · refine roundEven_eq_of_near ?_
    have reflected : -q - (-roundEven q : Int) = -(q - roundEven q) := by
      push_cast
      ring
    rwa [reflected, abs_neg]
  · obtain ⟨k, rfl⟩ : ∃ k : Int, q = k + 1 / 2 := by
      obtain h | h := (abs_eq (by norm_num)).mp tie
      · exact ⟨roundEven q, by linarith⟩
      · exact ⟨roundEven q - 1, by push_cast; linarith⟩
    have reflected : -((k : Rat) + 1 / 2) = ((-k - 1 : Int) : Rat) + 1 / 2 := by
      push_cast
      ring
    rw [reflected, roundEven_midpoint, roundEven_midpoint]
    omega

/-! ## Nearest grid points -/

theorem onGrid_error (hstep : 0 < step) (q : Rat) : |onGrid step q - q| ≤ step / 2 := by
  have scaled : onGrid step q - q = (roundEven (q / step) - q / step) * step := by
    rw [onGrid, sub_mul, div_mul_cancel₀ _ hstep.ne']
  calc |onGrid step q - q|
    _ = |q / step - roundEven (q / step)| * step := by
      rw [scaled, abs_mul, abs_of_pos hstep, abs_sub_comm]
    _ ≤ 1 / 2 * step := by gcongr; exact roundEven_error _
    _ = step / 2 := by ring

theorem onGrid_eq_of_near (hstep : 0 < step) {k : Int} (h : |q - k * step| < step / 2) :
    onGrid step q = k * step := by
  have near : |q / step - k| < 1 / 2 := by
    have scaled : q / step - k = (q - k * step) / step := by field_simp
    rw [scaled, abs_div, abs_of_pos hstep, div_lt_iff₀ hstep]
    linarith
  rw [onGrid, roundEven_eq_of_near near]

theorem onGrid_nearest (hstep : 0 < step) (q : Rat) (k : Int) :
    |onGrid step q - q| ≤ |k * step - q| := by
  by_cases near : |q - k * step| < step / 2
  · rw [onGrid_eq_of_near hstep near]
  · rw [abs_sub_comm (k * step)]
    exact (onGrid_error hstep q).trans (not_lt.mp near)

theorem exists_onGrid (hstep : 0 < step) {m : Int} (h : |q| ≤ m * step) :
    ∃ k : Int, onGrid step q = k * step ∧ |k| ≤ m := by
  refine ⟨roundEven (q / step), rfl, abs_roundEven_le ?_⟩
  rwa [abs_div, abs_of_pos hstep, div_le_iff₀ hstep]

theorem onGrid_neg (step q : Rat) : onGrid step (-q) = -onGrid step q := by
  rw [onGrid, neg_div, roundEven_neg, onGrid, Int.cast_neg, neg_mul]

/-! ## Significant digits -/

theorem significant_zero (n : Nat) : significant n 0 = 0 := by
  rw [significant, onGrid, zero_div, roundEven_eq_of_near (k := 0) (by norm_num), Int.cast_zero,
    zero_mul]

/-- A number with `n` significant digits has that many digits. -/
theorem exists_significant (n : Nat) (q : Rat) :
    ∃ j g : Int, significant n q = j * 10 ^ g ∧ |j| ≤ 10 ^ n := by
  have digits : |q| < 10 ^ n * scale 10 (leadingExponent 10 q - n + 1) := by
    rw [scale_eq_zpow]
    exact_mod_cast abs_lt_digits (show 1 < 10 by decide) n q
  have positive := scale_pos (show 1 < 10 by decide) (leadingExponent 10 q - n + 1)
  obtain ⟨j, decimal, hj⟩ := exists_onGrid positive (by exact_mod_cast digits.le)
  refine ⟨j, leadingExponent 10 q - n + 1, ?_, hj⟩
  rw [significant, decimal, scale_eq_zpow]
  rfl

theorem significant_error (hq : q ≠ 0) (n : Nat) :
    |significant n q - q| ≤ |q| * 10 ^ (1 - n : Int) / 2 := by
  have leading : (10 : Rat) ^ leadingExponent 10 q ≤ |q| :=
    zpow_leadingExponent_le (by decide) hq
  calc |significant n q - q|
    _ ≤ scale 10 (leadingExponent 10 q - n + 1) / 2 := onGrid_error (scale_pos (by decide) _) q
    _ = 10 ^ leadingExponent 10 q * 10 ^ (1 - n : Int) / 2 := by
      rw [scale_eq_zpow, ← zpow_add₀ (by norm_num)]
      congr 2
      ring
    _ ≤ |q| * 10 ^ (1 - n : Int) / 2 := by
      have := zpow_pos (show (0 : Rat) < 10 by norm_num) (1 - n)
      gcongr

end SexprShell.Number
