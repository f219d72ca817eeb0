import SexprShell.Number.Double
import SexprShell.Proofs.Number.Rounding

/-!
# Rounding to a format

What a format rounds a number to is a number of the format, and none of them is nearer
(`Format.holds_round`, `Format.Holds.abs_round_sub_le`). Its numbers are so far apart that whatever
is close to one of them is rounded to it (`Format.round_eq_of_near`). Rounding changes a number by
half a unit of its last binary digit, or by half the least number of the format
(`Format.round_error`).
-/

namespace SexprShell.Number

namespace Format

variable {f : Format} {q r s x : Rat} {d : Double}

/-- The numbers of a format, as if it had no largest one. -/
def Holds (f : Format) (q : Rat) : Prop :=
  ∃ k e : Int, q = k * 2 ^ e ∧ |k| ≤ 2 ^ f.precision ∧ f.minExponent ≤ e

/-- The values of a format that stand for numbers. Zero has a sign there. -/
inductive Has (f : Format) : Double → Prop where
  | zero (negative : Bool) : Has f (.zero negative)
  | finite {s : Rat} : s ≠ 0 → f.Holds s → |s| < 2 ^ f.maxExponent → Has f (.finite s)

/-- The exponent of the last binary digit that a format keeps of a number. -/
def lastPlace (f : Format) (q : Rat) : Int :=
  max (leadingExponent 2 q - f.precision + 1) f.minExponent

/-- The least positive double with all binary digits. -/
def leastNormal : Rat := 2 ^ (-1022 : Int)

theorem leastNormal_pos : 0 < leastNormal := zpow_pos (by norm_num) _

/-! ## Spacing -/

theorem spacing_eq_zpow (f : Format) (q : Rat) : f.spacing q = 2 ^ f.lastPlace q := by
  rw [spacing, scale_eq_zpow]
  rfl

theorem spacing_pos (f : Format) (q : Rat) : 0 < f.spacing q := scale_pos (by decide) _

/-- A number has no more binary digits in front of its last place than the format. -/
theorem abs_lt_spacing (f : Format) (q : Rat) : |q| < 2 ^ f.precision * f.spacing q := calc
  |q| < 2 ^ f.precision * 2 ^ (leadingExponent 2 q - f.precision + 1) := by
    exact_mod_cast abs_lt_digits (show 1 < 2 by decide) f.precision q
  _ ≤ 2 ^ f.precision * f.spacing q := by
    rw [spacing_eq_zpow]
    gcongr
    · norm_num
    · exact le_max_left _ _

theorem two_zpow_leadingExponent_le (hq : q ≠ 0) : (2 : Rat) ^ leadingExponent 2 q ≤ |q| := by
  exact_mod_cast zpow_leadingExponent_le (show 1 < 2 by decide) hq

/-- A unit of the last binary digit, or the least number of the format. -/
theorem spacing_le (hq : q ≠ 0) :
    f.spacing q ≤ 2 * |q| / 2 ^ f.precision + 2 ^ f.minExponent := by
  have leading := two_zpow_leadingExponent_le hq
  have digit : (2 : Rat) ^ (leadingExponent 2 q - f.precision + 1) ≤
      2 * |q| / 2 ^ f.precision := by
    rw [zpow_add₀ (by norm_num), zpow_sub₀ (by norm_num), zpow_natCast, zpow_one,
      div_mul_eq_mul_div, mul_comm]
    gcongr
  have least : (0 : Rat) < 2 ^ f.minExponent := zpow_pos (by norm_num) _
  have unit : (0 : Rat) ≤ 2 * |q| / 2 ^ f.precision := by positivity
  rw [spacing_eq_zpow, lastPlace]
  obtain h | h := max_choice (leadingExponent 2 q - f.precision + 1) f.minExponent
  · rw [h]
    linarith
  · rw [h]
    linarith

/-! ## Numbers of a format -/

theorem Holds.le_abs (hs : f.Holds s) (h : s ≠ 0) : 2 ^ f.minExponent ≤ |s| := by
  obtain ⟨k, e, rfl, -, he⟩ := hs
  have digits : (1 : Rat) ≤ |(k : Rat)| := by
    have : k ≠ 0 := by
      rintro rfl
      simp at h
    exact_mod_cast Int.one_le_abs this
  have unit : (0 : Rat) < 2 ^ e := zpow_pos (by norm_num) e
  calc (2 : Rat) ^ f.minExponent
    _ ≤ 2 ^ e := zpow_le_zpow_right₀ (by norm_num) he
    _ ≤ |(k : Rat)| * 2 ^ e := le_mul_of_one_le_left unit.le digits
    _ = |(k : Rat) * 2 ^ e| := by rw [abs_mul, abs_of_pos unit]

/-- Two numbers on one grid, the first with few digits there and the second an even one. Only a
distance of one step needs the parity. -/
theorem abs_le_gap_of_even {a b m : Int} (hm : Even m) (hm' : 0 < m) (ha : |a| ≤ m) (hb : Even b)
    (h : a ≠ b) : |b| ≤ |a - b| * m := by
  have apart : 1 ≤ |a - b| := Int.one_le_abs (sub_ne_zero.mpr h)
  have triangle := abs_sub_abs_le_abs_sub b a
  rw [abs_sub_comm] at triangle
  obtain next | further := apart.eq_or_lt
  · have even : Even |b| := even_abs.mpr hb
    rw [← next] at triangle ⊢
    obtain ⟨i, rfl⟩ := hm
    obtain ⟨j, hj⟩ := even
    omega
  · have two : 2 ≤ m := by
      obtain ⟨i, rfl⟩ := hm
      omega
    have product := mul_nonneg (sub_nonneg.mpr further) (sub_nonneg.mpr two)
    linarith

theorem abs_mul_le_gap {a b e : Int} {p : Nat} (h : |b| ≤ |a - b| * 2 ^ p) :
    |(b : Rat) * 2 ^ e| ≤ |(a : Rat) * 2 ^ e - b * 2 ^ e| * 2 ^ p := by
  have unit : (0 : Rat) < 2 ^ e := zpow_pos (by norm_num) e
  have digits : |(b : Rat)| ≤ |(a - b : Rat)| * 2 ^ p := by exact_mod_cast h
  calc |(b : Rat) * 2 ^ e|
    _ = |(b : Rat)| * 2 ^ e := by rw [abs_mul, abs_of_pos unit]
    _ ≤ |(a - b : Rat)| * 2 ^ p * 2 ^ e := by gcongr
    _ = |(a : Rat) * 2 ^ e - b * 2 ^ e| * 2 ^ p := by
      rw [← sub_mul, abs_mul _ ((2 : Rat) ^ e), abs_of_pos unit]
      ring

/-- Numbers of a format are at least a unit of the last digit apart. -/
theorem Holds.abs_le_gap (hp : 1 ≤ f.precision) (hr : f.Holds r) (hs : f.Holds s) (h : r ≠ s) :
    |s| ≤ |r - s| * 2 ^ f.precision := by
  obtain ⟨j, g, rfl, hj, -⟩ := hr
  obtain ⟨k, e, rfl, hk, -⟩ := hs
  have positive : (0 : Int) < 2 ^ f.precision := by positivity
  by_cases finer : e ≤ g
  · obtain ⟨a, same⟩ := exists_mul_zpow_eq (show 2 ≠ 0 by decide) finer j
    push_cast at same
    rw [same] at h ⊢
    refine abs_mul_le_gap ?_
    have apart : 1 ≤ |a - k| := Int.one_le_abs (sub_ne_zero.mpr fun same => h (by rw [same]))
    exact hk.trans (le_mul_of_one_le_left positive.le apart)
  -- on the grid of `r` the digits of `s` may be too many by one, but then they are even
  · obtain ⟨b, same⟩ := exists_mul_zpow_eq (show 2 ≠ 0 by decide) (show g + 1 ≤ e by omega) k
    have even : (k : Rat) * 2 ^ e = (2 * b : Int) * 2 ^ g := by
      push_cast at same ⊢
      rw [same, zpow_add₀ (by norm_num)]
      ring
    rw [even] at h ⊢
    refine abs_mul_le_gap (abs_le_gap_of_even (even_two.pow_of_ne_zero (by omega)) positive hj
      (even_two_mul b) fun same => h (by rw [same]))

/-! ## Rounding -/

theorem round_neg (f : Format) (q : Rat) : f.round (-q) = -f.round q := by
  rw [round, spacing, leadingExponent_neg, onGrid_neg, round, spacing]

theorem holds_round (f : Format) (q : Rat) : f.Holds (f.round q) := by
  obtain ⟨k, hround, hk⟩ := exists_onGrid (m := 2 ^ f.precision) (f.spacing_pos q)
    (by exact_mod_cast (f.abs_lt_spacing q).le)
  exact ⟨k, f.lastPlace q, by rw [← spacing_eq_zpow]; exact hround, hk, le_max_right _ _⟩

theorem round_error (hq : q ≠ 0) :
    |f.round q - q| ≤ |q| / 2 ^ f.precision + 2 ^ f.minExponent / 2 := calc
  |f.round q - q| ≤ f.spacing q / 2 := onGrid_error (f.spacing_pos q) q
  _ ≤ (2 * |q| / 2 ^ f.precision + 2 ^ f.minExponent) / 2 := by
    gcongr
    exact spacing_le hq
  _ = |q| / 2 ^ f.precision + 2 ^ f.minExponent / 2 := by ring

theorem double_round_error (hq : q ≠ 0) :
    |double.round q - q| ≤ (|q| + leastNormal) / 2 ^ 53 := by
  have error : |double.round q - q| ≤ |q| / 2 ^ 53 + 2 ^ (-1074 : Int) / 2 := round_error hq
  rw [show (-1074 : Int) = -1022 + -52 by norm_num, zpow_add₀ (by norm_num), ← leastNormal] at error
  norm_num at error ⊢
  linarith

/-- From the least normal number on, the error is relative. -/
theorem double_round_error_of_normal (hq : leastNormal ≤ |q|) :
    |double.round q - q| ≤ |q| / 2 ^ 52 := by
  have error := double_round_error (abs_pos.mp (leastNormal_pos.trans_le hq))
  norm_num at error ⊢
  linarith

/-- What is smaller than half of the least number of the format is rounded to zero. -/
theorem round_eq_zero (h : |q| < 2 ^ f.minExponent / 2) : f.round q = 0 := by
  have least : (2 : Rat) ^ f.minExponent ≤ f.spacing q := by
    rw [spacing_eq_zpow]
    exact zpow_le_zpow_right₀ (by norm_num) (le_max_right _ _)
  have near : |q - (0 : Int) * f.spacing q| < f.spacing q / 2 := by
    simp only [Int.cast_zero, zero_mul, sub_zero]
    linarith
  rw [round, onGrid_eq_of_near (f.spacing_pos q) near, Int.cast_zero, zero_mul]

theorem round_zero (f : Format) : f.round 0 = 0 := by
  have := zpow_pos (show (0 : Rat) < 2 by norm_num) f.minExponent
  exact round_eq_zero (by rw [abs_zero]; linarith)

/-- If a digit in front of the last place is kept, the power at the leading digit lies on the grid
on the same side of zero. -/
theorem exists_on_grid_below (hq : q ≠ 0) (h : f.lastPlace q ≤ leadingExponent 2 q) :
    ∃ k : Int, |k * f.spacing q - q| = |q| - 2 ^ leadingExponent 2 q := by
  have leading := two_zpow_leadingExponent_le hq
  obtain ⟨k, same⟩ := exists_mul_zpow_eq (show 2 ≠ 0 by decide) h 1
  push_cast at same
  rw [one_mul, ← spacing_eq_zpow] at same
  obtain positive | negative := lt_or_gt_of_ne hq.symm
  · rw [abs_of_pos positive] at leading ⊢
    refine ⟨k, ?_⟩
    rw [← same, abs_sub_comm, abs_of_nonneg (sub_nonneg.mpr leading)]
  · rw [abs_of_neg negative] at leading ⊢
    refine ⟨-k, ?_⟩
    rw [Int.cast_neg, neg_mul, ← same, abs_of_nonneg (by linarith)]
    ring

/-- No number of the format is nearer. -/
theorem Holds.abs_round_sub_le (hp : 1 ≤ f.precision) (hs : f.Holds s) (q : Rat) :
    |f.round q - q| ≤ |s - q| := by
  by_cases hq : q = 0
  · subst hq
    rw [round_zero, sub_zero, abs_zero]
    exact abs_nonneg _
  obtain ⟨k, e, rfl, hk, he⟩ := hs
  by_cases coarser : f.lastPlace q ≤ e
  · obtain ⟨j, same⟩ := exists_mul_zpow_eq (show 2 ≠ 0 by decide) coarser k
    push_cast at same
    rw [same, ← spacing_eq_zpow]
    exact onGrid_nearest (f.spacing_pos q) q j
  -- a number between the points of the grid has its leading digit behind that of `q`
  · rw [lastPlace] at coarser
    have unit : (0 : Rat) < 2 ^ e := zpow_pos (by norm_num) e
    have below : |(k : Rat) * 2 ^ e| ≤ 2 ^ leadingExponent 2 q := calc
      |(k : Rat) * 2 ^ e| = |(k : Rat)| * 2 ^ e := by rw [abs_mul, abs_of_pos unit]
      _ ≤ 2 ^ f.precision * 2 ^ e := by
        gcongr
        exact_mod_cast hk
      _ = 2 ^ (f.precision + e) := by rw [zpow_add₀ (by norm_num), zpow_natCast]
      _ ≤ 2 ^ leadingExponent 2 q := zpow_le_zpow_right₀ (by norm_num) (by omega)
    obtain ⟨i, distance⟩ := exists_on_grid_below (f := f) hq (by rw [lastPlace]; omega)
    calc |f.round q - q|
      _ ≤ |i * f.spacing q - q| := onGrid_nearest (f.spacing_pos q) q i
      _ = |q| - 2 ^ leadingExponent 2 q := distance
      _ ≤ |q| - |(k : Rat) * 2 ^ e| := by linarith
      _ ≤ |k * 2 ^ e - q| := by
        rw [abs_sub_comm (k * 2 ^ e : Rat)]
        exact abs_sub_abs_le_abs_sub _ _

/-- What is close to a number of the format is rounded to it: what it is rounded to cannot be
further away. -/
theorem round_eq_of_near (hp : 1 ≤ f.precision) (hs : f.Holds s)
    (h : |x - s| * 2 ^ (f.precision + 1) < |s|) : f.round x = s := by
  by_contra other
  have nearest := hs.abs_round_sub_le hp x
  rw [abs_sub_comm s] at nearest
  refine h.not_ge ?_
  calc |s|
    _ ≤ |f.round x - s| * 2 ^ f.precision := (f.holds_round x).abs_le_gap hp hs other
    _ ≤ (|f.round x - x| + |x - s|) * 2 ^ f.precision := by
      gcongr
      exact abs_sub_le _ _ _
    _ ≤ (|x - s| + |x - s|) * 2 ^ f.precision := by gcongr
    _ = |x - s| * 2 ^ (f.precision + 1) := by ring

/-! ## Encoding -/

theorem fits_iff : f.fits q ↔ |q| < 2 ^ f.maxExponent := by
  simp [fits, magnitude_eq_abs, scale_eq_zpow]

theorem encode?_of_round_eq_zero (h : f.round q = 0) :
    f.encode? q = some (.zero (decide (q < 0))) := by
  simp [encode?, h]

theorem encode?_of_fits (h : f.round q ≠ 0) (hfits : |f.round q| < 2 ^ f.maxExponent) :
    f.encode? q = some (.finite (f.round q)) := by
  simp [encode?, h, fits_iff, hfits]

theorem encode?_of_not_fits (h : 2 ^ f.maxExponent ≤ |f.round q|) : f.encode? q = none := by
  have : f.round q ≠ 0 := by
    intro zero
    have := zpow_pos (show (0 : Rat) < 2 by norm_num) f.maxExponent
    rw [zero, abs_zero] at h
    linarith
  simp [encode?, this, fits_iff, h]

theorem has_of_encode? (h : f.encode? q = some d) : f.Has d := by
  simp only [encode?] at h
  split at h
  · cases h
    exact .zero _
  · next nonzero =>
    split at h
    · next fit =>
      cases h
      exact .finite nonzero (f.holds_round q) (fits_iff.mp fit)
    · cases h

theorem encode_of_near (hp : 1 ≤ f.precision) (hs : f.Holds s) (hfits : |s| < 2 ^ f.maxExponent)
    (h : |x - s| * 2 ^ (f.precision + 1) < |s|) : f.encode x = .finite s := by
  have round := round_eq_of_near hp hs h
  have nonzero : s ≠ 0 := by
    rintro rfl
    have := abs_nonneg (x - 0)
    rw [abs_zero] at h
    exact absurd h (not_lt.mpr (by positivity))
  rw [encode, encode?_of_fits (by rwa [round]) (by rwa [round]), round, Option.getD_some]

theorem encode_zero (f : Format) : f.encode 0 = .zero false := by
  rw [encode, encode?_of_round_eq_zero f.round_zero]
  rfl

theorem convert_zero (f : Format) (b : Bool) : f.convert (.zero b) = .zero b := by
  cases b with
  | false => exact f.encode_zero
  | true => rfl

theorem has_convert {g : Format} (hd : g.Has d) (h : (f.convert d).value? = some s) :
    f.Has (f.convert d) := by
  cases hd with
  | zero b =>
    rw [convert_zero]
    exact .zero b
  | @finite x =>
    rw [convert, encode] at h ⊢
    cases he : f.encode? x with
    | none =>
      rw [he] at h
      cases h
    | some d => exact has_of_encode? he

end Format

end SexprShell.Number
