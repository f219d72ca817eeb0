import SexprShell.Proofs.Number.Decimal

/-!
# Shortest decimals

A decimal of at most fifteen digits is told from every other such decimal by the double nearest to
it, unless that double is subnormal. So it is the decimal with which the double is written
(`shortest_round`), and the text of the double is read as the decimal (`take_toText_round`).
-/

namespace SexprShell.Number

variable {q x z : Rat} {n : Nat} {j k e g : Int}

/-! ## The search -/

theorem withDigits?_eq_some (h : withDigits? q n = some (k, e)) :
    e = leadingExponent 10 q - n + 1 ∧ Format.double.round (k * 10 ^ e) = q := by
  obtain ⟨l, found, heq⟩ := Option.map_eq_some_iff.mp h
  obtain ⟨rfl, rfl⟩ := Prod.mk.inj heq
  have reads := List.find?_some found
  rw [decide_eq_true_eq, scale_eq_zpow] at reads
  exact ⟨rfl, reads⟩

/-- A decimal that reads back as the number and is the nearest one of `n` digits is found. -/
theorem withDigits?_isSome {step : Rat} (hstep : step = 10 ^ (leadingExponent 10 q - n + 1))
    (hnear : |q - k * step| < step / 2) (hround : Format.double.round (k * step) = q) :
    (withDigits? q n).isSome := by
  have positive : 0 < step := hstep ▸ zpow_pos (by norm_num) _
  have near : roundEven (q / step) = k := by
    have := onGrid_eq_of_near positive hnear
    rw [onGrid] at this
    exact_mod_cast mul_right_cancel₀ positive.ne' this
  have scaled : scale 10 (leadingExponent 10 q - n + 1) = step := by
    rw [hstep, scale_eq_zpow]
    rfl
  simp [withDigits?, scaled, near, hround]

/-- The shortest decimal has no more digits than one that is found. -/
theorem exists_shortest (hn : 0 < n) (hn' : n ≤ 17) (h : (withDigits? q n).isSome) :
    ∃ m, 0 < m ∧ m ≤ n ∧ withDigits? q m = some (shortest q) := by
  have found : ((List.range 17).findSome? fun i => withDigits? q (i + 1)).isSome := by
    rw [List.findSome?_isSome_iff]
    exact ⟨n - 1, by simp; omega, by rwa [Nat.sub_add_cancel hn]⟩
  obtain ⟨decimal, hdecimal⟩ := Option.isSome_iff_exists.mp found
  obtain ⟨before, i, after, range, hi, none⟩ := List.findSome?_eq_some_iff.mp hdecimal
  refine ⟨i + 1, by omega, ?_, by rw [hi, shortest, hdecimal, Option.getD_some]⟩
  by_contra more
  have sorted := List.pairwise_lt_range (n := 17)
  rw [range, List.pairwise_append, List.pairwise_cons] at sorted
  have mem : n - 1 ∈ before ++ i :: after := range ▸ List.mem_range.mpr (by omega)
  obtain early | rfl | late : n - 1 ∈ before ∨ n - 1 = i ∨ n - 1 ∈ after := by simpa using mem
  · have := none _ early
    rw [Nat.sub_add_cancel hn] at this
    simp [this] at h
  · omega
  · have := sorted.2.1.1 _ late
    omega

/-! ## Fifteen digits -/

open Format (leastNormal leastNormal_pos)

/-- What is rounded to a double lies within half a unit of the fifteenth digit of the double. -/
theorem near_of_round (hx : leastNormal ≤ 2 * x) (hz : z ≠ 0) (h : Format.double.round z = x) :
    |x - z| < 10 ^ (leadingExponent 10 x - 14) / 2 := by
  have positive : 0 < x := by linarith [leastNormal_pos]
  have error := Format.double_round_error hz
  rw [h] at error
  have size := abs_lt_digits (show 1 < 10 by decide) 15 x
  have place : leadingExponent 10 x - (15 : Nat) + 1 = leadingExponent 10 x - 14 := by omega
  rw [abs_of_pos positive, place] at size
  have triangle := abs_sub_abs_le_abs_sub z x
  rw [abs_sub_comm, abs_of_pos positive] at triangle
  norm_num at error size
  linarith

theorem round_bounds (hz : leastNormal ≤ z) :
    z - z / 2 ^ 52 ≤ Format.double.round z ∧ Format.double.round z ≤ z + z / 2 ^ 52 := by
  have positive : 0 < z := leastNormal_pos.trans_le hz
  have error := Format.double_round_error_of_normal (hz.trans (le_abs_self z))
  rw [abs_of_pos positive, abs_le] at error
  exact ⟨by linarith, by linarith⟩

theorem round_pos (hz : leastNormal ≤ z) : 0 < Format.double.round z := by
  have positive : 0 < z := leastNormal_pos.trans_le hz
  have := (round_bounds hz).1
  linarith

/-- The last of fifteen digits is at the place of the fifteenth digit of the double, or in front of
it. -/
theorem leadingExponent_round_le (hj : j < 10 ^ 15) (hnormal : leastNormal ≤ j * 10 ^ g) :
    leadingExponent 10 (Format.double.round (j * 10 ^ g)) - 14 ≤ g := by
  have above := (round_bounds hnormal).2
  have unit : (0 : Rat) < 10 ^ g := zpow_pos (by norm_num) g
  have most : (j : Rat) * 10 ^ g ≤ (10 ^ 15 - 1) * 10 ^ g := by
    have : (j : Rat) ≤ 10 ^ 15 - 1 := by exact_mod_cast Int.le_sub_one_of_lt hj
    gcongr
  have round_pos := round_pos hnormal
  have leading := zpow_leadingExponent_le (show 1 < 10 by decide) round_pos.ne'
  rw [abs_of_pos round_pos] at leading
  norm_num at above most
  have bound : (10 : Rat) ^ leadingExponent 10 (Format.double.round (j * 10 ^ g)) <
      10 ^ (15 + g) := calc
    (10 : Rat) ^ leadingExponent 10 (Format.double.round (j * 10 ^ g))
      ≤ Format.double.round (j * 10 ^ g) := by exact_mod_cast leading
    _ < 10 ^ 15 * 10 ^ g := by linarith
    _ = 10 ^ (15 + g) := by
      rw [zpow_add₀ (by norm_num)]
      rfl
  have := (zpow_lt_zpow_iff_right₀ (by norm_num)).mp bound
  omega

/-- The decimal and the shortest one are both on the grid of fifteen digits, and both less than half
a step away from the double. -/
theorem shortest_round (hj : j < 10 ^ 15) (hnormal : leastNormal ≤ j * 10 ^ g) :
    (shortest (Format.double.round (j * 10 ^ g))).1 *
      10 ^ (shortest (Format.double.round (j * 10 ^ g))).2 = (j : Rat) * 10 ^ g := by
  have finer := leadingExponent_round_le hj hnormal
  have below := (round_bounds hnormal).1
  generalize hx : Format.double.round (j * 10 ^ g) = x at finer below ⊢
  have normal : leastNormal ≤ 2 * x := by linarith [leastNormal_pos]
  have positive : (0 : Rat) < 10 ^ (leadingExponent 10 x - 14) := zpow_pos (by norm_num) _
  have near := near_of_round normal (leastNormal_pos.trans_le hnormal).ne' hx
  obtain ⟨j', same⟩ := exists_mul_zpow_eq (show 10 ≠ 0 by decide) finer j
  push_cast at same
  rw [same] at near hx ⊢
  obtain ⟨m, hm, hm', found⟩ := exists_shortest (q := x) (n := 15) (by decide) (by decide)
    (withDigits?_isSome (by push_cast; congr 1; ring) near hx)
  generalize hdecimal : shortest x = decimal at found ⊢
  obtain ⟨k, e⟩ := decimal
  obtain ⟨rfl, reads⟩ := withDigits?_eq_some found
  have nonzero : (k : Rat) * 10 ^ (leadingExponent 10 x - m + 1) ≠ 0 := by
    intro zero
    rw [zero, Format.round_zero] at reads
    linarith [leastNormal_pos]
  have near' := near_of_round normal nonzero reads
  obtain ⟨k', same'⟩ := exists_mul_zpow_eq (show 10 ≠ 0 by decide)
    (show leadingExponent 10 x - 14 ≤ leadingExponent 10 x - m + 1 by omega) k
  push_cast at same'
  rw [same'] at near' ⊢
  exact (onGrid_eq_of_near positive near').symm.trans (onGrid_eq_of_near positive near)

/-! ## The text -/

theorem writes_shortest (hj : j < 10 ^ 15) (hnormal : leastNormal ≤ j * 10 ^ g) :
    Decimal.Writes (layout (shortest (Format.double.round (j * 10 ^ g))).1
      (shortest (Format.double.round (j * 10 ^ g))).2) (j * 10 ^ g) := by
  have same := shortest_round hj hnormal
  have positive := leastNormal_pos.trans_le hnormal
  rw [← same] at positive
  have digits := pos_of_mul_pos_left positive (zpow_pos (by norm_num) _).le
  have writes := Decimal.writes_layout (by exact_mod_cast digits)
    (shortest (Format.double.round (j * 10 ^ g))).2
  rwa [same] at writes

theorem toText_of_pos (hx : 0 < x) :
    (Double.finite x).toText.toList = layout (shortest x).1 (shortest x).2 := by
  simp [Double.toText, magnitude_eq_abs, hx.ne', abs_of_pos hx, hx.le]

theorem toText_of_neg (hx : 0 < x) :
    (Double.finite (-x)).toText.toList = '-' :: layout (shortest x).1 (shortest x).2 := by
  simp [Double.toText, magnitude_eq_abs, hx.ne', abs_of_pos hx, hx]

theorem take_toText_signed (hj : j < 10 ^ 15) (hnormal : leastNormal ≤ j * 10 ^ g)
    (negative : Bool) : ∃ digits exponent,
    Decimal.take (Double.finite (if negative then -Format.double.round (j * 10 ^ g)
      else Format.double.round (j * 10 ^ g))).toText.toList = (⟨negative, digits, exponent⟩, []) ∧
    digits ≠ 0 ∧ digits * 10 ^ exponent = (j : Rat) * 10 ^ g := by
  have positive := leastNormal_pos.trans_le hnormal
  obtain ⟨digits, exponent, htake, hvalue⟩ := writes_shortest hj hnormal
  refine ⟨digits, exponent, ?_, ?_, hvalue⟩
  · cases negative with
    | false => exact (congrArg _ (toText_of_pos (round_pos hnormal))).trans htake
    | true =>
      refine (congrArg _ (toText_of_neg (round_pos hnormal))).trans ?_
      rw [Decimal.take_minus (by rw [htake]), htake]
  · rintro rfl
    simp [← hvalue] at positive

/-- The text of the double nearest to a decimal of fifteen digits is that decimal. -/
theorem take_toText_round (hj : |j| < 10 ^ 15) (hnormal : leastNormal ≤ |(j : Rat) * 10 ^ g|) :
    ∃ d, Decimal.take (Double.finite (Format.double.round (j * 10 ^ g))).toText.toList = (d, []) ∧
      d.digits ≠ 0 ∧ d.value = j * 10 ^ g := by
  obtain positive | negative := lt_or_gt_of_ne (abs_pos.mp (leastNormal_pos.trans_le hnormal)).symm
  · rw [abs_of_pos positive] at hnormal
    obtain ⟨digits, exponent, htake, hdigits, hvalue⟩ :=
      take_toText_signed ((le_abs_self j).trans_lt hj) hnormal false
    exact ⟨_, htake, hdigits, by simp [Decimal.value_eq, hvalue]⟩
  · obtain ⟨i, rfl⟩ : ∃ i, j = -i := ⟨-j, (neg_neg j).symm⟩
    rw [Int.cast_neg, neg_mul] at hnormal negative ⊢
    rw [abs_neg] at hj hnormal
    rw [abs_of_pos (neg_neg_iff_pos.mp negative)] at hnormal
    obtain ⟨digits, exponent, htake, hdigits, hvalue⟩ :=
      take_toText_signed ((le_abs_self i).trans_lt hj) hnormal true
    exact ⟨_, by rw [Format.round_neg]; exact htake, hdigits, by simp [Decimal.value_eq, hvalue]⟩

end SexprShell.Number
