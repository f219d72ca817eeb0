import SexprShell.Number.Shortest
import SexprShell.Proofs.Number.Format
import SexprShell.Proofs.Source.Numeral

/-!
# Decimal texts

A decimal that is laid out positionally or with an exponent is read as the same number, whatever
zeros and whatever exponent the layout makes explicit (`Decimal.writes_layout`). The double that is
read off a numeral is the one nearest to its value: the bounds on its exponent only save work
(`Decimal.toDouble_eq_encode`).
-/

namespace SexprShell.Number

open Text Source

/-! ## Runs of digits -/

section
variable {cs ds : List Char}

theorem digitsValue_concat (cs : List Char) (c : Char) :
    digitsValue (cs ++ [c]) = 10 * digitsValue cs + (digit? c).getD 0 := by
  simp [digitsValue]

theorem digitsValue_append (cs ds : List Char) :
    digitsValue (cs ++ ds) = digitsValue cs * 10 ^ ds.length + digitsValue ds := by
  induction ds using List.reverseRecOn with
  | nil => simp [digitsValue]
  | append_singleton ds d ih =>
    rw [← List.append_assoc, digitsValue_concat, digitsValue_concat, ih, List.length_append,
      List.length_singleton]
    ring

theorem digitsValue_zeros (n : Nat) : digitsValue (List.replicate n '0') = 0 := by
  induction n with
  | zero => rfl
  | succ n ih =>
    have zero : digit? '0' = some 0 := by decide
    rw [List.replicate_succ', digitsValue_concat, ih, zero]
    rfl

theorem digitsValue_zeros_append (n : Nat) (cs : List Char) :
    digitsValue (List.replicate n '0' ++ cs) = digitsValue cs := by
  rw [digitsValue_append, digitsValue_zeros, zero_mul, zero_add]

theorem isDigit_zeros (n : Nat) : ∀ c ∈ List.replicate n '0', isDigit c := by
  intro c hc
  rw [List.eq_of_mem_replicate hc]
  decide

theorem isDigits_append_right (hcs : ∀ c ∈ cs, isDigit c) (hds : IsDigits ds) :
    IsDigits (cs ++ ds) :=
  ⟨List.append_ne_nil_of_right_ne_nil _ hds.1, List.forall_mem_append.mpr ⟨hcs, hds.2⟩⟩

theorem isDigits_append_left (hcs : IsDigits cs) (hds : ∀ d ∈ ds, isDigit d) :
    IsDigits (cs ++ ds) :=
  ⟨List.append_ne_nil_of_left_ne_nil hcs.1 _, List.forall_mem_append.mpr ⟨hcs.2, hds⟩⟩

/-- A run of digits ends where no digit follows. -/
theorem span_digits (hcs : ∀ c ∈ cs, isDigit c) (ds : List Char)
    (hds : ∀ d, ds.head? = some d → isDigit d = false) :
    (cs ++ ds).takeWhile isDigit = cs ∧ (cs ++ ds).dropWhile isDigit = ds := by
  rw [List.takeWhile_append_of_pos hcs, List.dropWhile_append_of_pos hcs]
  cases ds with
  | nil => simp
  | cons d ds => simp [hds d rfl]

end

/-! ## Reading -/

namespace Decimal

variable {whole fraction tail cs ds : List Char} {q : Rat}

/-- A power behind a sign is read as it is, also with zeros in front. -/
theorem takeExponent_signed (n : Nat) (e : Int) :
    takeExponent ('e' :: (if e < 0 then '-' else '+') ::
      (List.replicate n '0' ++ Nat.toDigits 10 e.natAbs)) = (e, []) := by
  have digits := isDigits_append_right (isDigit_zeros n) (isDigits_toDigits e.natAbs)
  have value : digitsValue (List.replicate n '0' ++ Nat.toDigits 10 e.natAbs) = e.natAbs := by
    rw [digitsValue_zeros_append, digitsValue_toDigits]
  generalize List.replicate n '0' ++ Nat.toDigits 10 e.natAbs = ds at digits value ⊢
  obtain ⟨run, rest⟩ := span_digits digits.2 [] (by simp)
  rw [List.append_nil] at run rest
  by_cases h : e < 0
  · simp [takeExponent, h, run, rest, value, digits.1, abs_of_neg]
  · simp [takeExponent, h, run, rest, value, digits.1]
    omega

theorem take_pointed (hwhole : IsDigits whole) (hfraction : ∀ c ∈ fraction, isDigit c)
    (tail : List Char) (htail : ∀ c, tail.head? = some c → isDigit c = false) :
    take (whole ++ '.' :: (fraction ++ tail)) =
      (⟨false, digitsValue (whole ++ fraction), (takeExponent tail).1 - fraction.length⟩,
        (takeExponent tail).2) := by
  obtain ⟨whole_eq, rest_eq⟩ :=
    span_digits hwhole.2 ('.' :: (fraction ++ tail)) (by simp [isDigit_point])
  obtain ⟨fraction_eq, tail_eq⟩ := span_digits hfraction tail htail
  simp only [take, takeSign_digits_append hwhole, whole_eq, rest_eq, fraction_eq, tail_eq]

theorem take_whole (hwhole : IsDigits whole)
    (htail : ∀ c, tail.head? = some c → isDigit c = false ∧ c ≠ '.') :
    take (whole ++ tail) =
      (⟨false, digitsValue whole, (takeExponent tail).1⟩, (takeExponent tail).2) := by
  obtain ⟨whole_eq, rest_eq⟩ := span_digits hwhole.2 tail fun c hc => (htail c hc).1
  simp only [take, takeSign_digits_append hwhole, whole_eq, rest_eq]
  cases tail with
  | nil => simp
  | cons c tail =>
    have := (htail c rfl).2
    simp [this]

theorem take_minus (h : (take cs).1.negative = false) :
    take ('-' :: cs) = (⟨true, (take cs).1.digits, (take cs).1.exponent⟩, (take cs).2) := by
  have unsigned : takeSign cs = (false, cs) := by
    unfold takeSign
    split
    · simp [take, takeSign] at h
    · rfl
  have signed : takeSign ('-' :: cs) = (true, cs) := rfl
  simp only [take, signed, unsigned]

/-- A text is an unsigned numeral of this value, to its end. -/
def Writes (cs : List Char) (q : Rat) : Prop :=
  ∃ digits exponent, take cs = (⟨false, digits, exponent⟩, []) ∧ digits * 10 ^ exponent = q

/-! ## Layouts -/

theorem writes_pointed (hwhole : IsDigits whole) (hfraction : ∀ c ∈ fraction, isDigit c) :
    Writes (whole ++ '.' :: fraction)
      (digitsValue (whole ++ fraction) * 10 ^ (-fraction.length : Int)) := by
  refine ⟨_, -fraction.length, ?_, rfl⟩
  have := take_pointed hwhole hfraction [] (by simp)
  simpa [takeExponent] using this

theorem writes_positional_of_nonpos (hcs : IsDigits cs) {point : Int} (h : point ≤ 0) :
    Writes (positional cs point) (digitsValue cs * 10 ^ (point - cs.length)) := by
  have whole : IsDigits (List.replicate 1 '0') := ⟨by simp, isDigit_zeros 1⟩
  have fraction : ∀ c ∈ List.replicate (-point).toNat '0' ++ cs, isDigit c :=
    List.forall_mem_append.mpr ⟨isDigit_zeros _, hcs.2⟩
  have exponent : (-(List.replicate (-point).toNat '0' ++ cs).length : Int) =
      point - cs.length := by
    simp
    omega
  have writes := writes_pointed whole fraction
  rw [digitsValue_zeros_append, digitsValue_zeros_append, exponent] at writes
  rwa [positional, if_pos h]

theorem positional_natCast (cs : List Char) {n : Nat} (hn : 0 < n) :
    positional cs n = cs.take n ++ List.replicate (n - (cs.take n).length) '0' ++
      '.' :: (if (cs.drop n).isEmpty then ['0'] else cs.drop n) := by
  rw [positional, if_neg (by omega), Int.toNat_natCast]

theorem writes_positional_of_lt (hcs : IsDigits cs) {n : Nat} (hn : 0 < n) (h : n < cs.length) :
    Writes (positional cs n) (digitsValue cs * 10 ^ (n - cs.length : Int)) := by
  have whole : IsDigits (cs.take n) :=
    ⟨by simp [hcs.1]; omega, fun c hc => hcs.2 c (List.mem_of_mem_take hc)⟩
  have fraction : ∀ c ∈ cs.drop n, isDigit c := fun c hc => hcs.2 c (List.mem_of_mem_drop hc)
  have exponent : (-(cs.drop n).length : Int) = n - cs.length := by
    simp
    omega
  have writes := writes_pointed whole fraction
  rw [List.take_append_drop, exponent] at writes
  have no_zeros : n - (cs.take n).length = 0 := by simp; omega
  have some_fraction : (cs.drop n).isEmpty = false := by simp; omega
  rw [positional_natCast cs hn, no_zeros, some_fraction]
  simpa using writes

theorem writes_positional_of_le (hcs : IsDigits cs) {n : Nat} (hn : 0 < n) (h : cs.length ≤ n) :
    Writes (positional cs n) (digitsValue cs * 10 ^ (n - cs.length : Int)) := by
  obtain ⟨m, rfl⟩ := Nat.exists_eq_add_of_le h
  have writes := writes_pointed (isDigits_append_left hcs (isDigit_zeros m)) (isDigit_zeros 1)
  have value : (digitsValue (cs ++ List.replicate m '0' ++ List.replicate 1 '0') : Rat) *
      10 ^ (-(List.replicate 1 '0').length : Int) = digitsValue cs * 10 ^ m := by
    rw [digitsValue_append, digitsValue_append, digitsValue_zeros, digitsValue_zeros]
    simp
  rw [value] at writes
  have exponent : ((cs.length + m : Nat) - cs.length : Int) = m := by omega
  rw [exponent, zpow_natCast, positional_natCast cs hn]
  simpa [List.take_of_length_le, List.drop_of_length_le] using writes

theorem writes_positional (hcs : IsDigits cs) (point : Int) :
    Writes (positional cs point) (digitsValue cs * 10 ^ (point - cs.length)) := by
  obtain nonpos | positive := le_or_gt point 0
  · exact writes_positional_of_nonpos hcs nonpos
  · obtain ⟨n, rfl⟩ := Int.eq_ofNat_of_zero_le positive.le
    have hn : 0 < n := by omega
    obtain inside | behind := Nat.lt_or_ge n cs.length
    · exact writes_positional_of_lt hcs hn inside
    · exact writes_positional_of_le hcs hn behind

theorem writes_scientific (hcs : IsDigits cs) (exponent : Int) :
    Writes (scientific cs exponent) (digitsValue cs * 10 ^ (exponent + 1 - cs.length)) := by
  obtain ⟨tail, htail⟩ : ∃ tail, tail = 'e' :: (if exponent < 0 then '-' else '+') ::
      (List.replicate (2 - (Nat.toDigits 10 exponent.natAbs).length) '0' ++
        Nat.toDigits 10 exponent.natAbs) := ⟨_, rfl⟩
  have power : takeExponent tail = (exponent, []) := by rw [htail, takeExponent_signed]
  have mark : ∀ c, tail.head? = some c → isDigit c = false ∧ c ≠ '.' := by
    rw [htail]
    rintro _ ⟨⟩
    decide
  obtain ⟨c, cs, rfl⟩ := List.exists_cons_of_ne_nil hcs.1
  have whole : IsDigits [c] := ⟨by simp, by simpa using hcs.2 c (by simp)⟩
  cases cs with
  | nil =>
    refine ⟨digitsValue [c], exponent, ?_, by simp⟩
    have := take_whole whole mark
    rw [power] at this
    simpa [scientific, htail] using this
  | cons d cs =>
    refine ⟨digitsValue (c :: d :: cs), exponent - (d :: cs).length, ?_, ?_⟩
    · have fraction : ∀ x ∈ d :: cs, isDigit x := fun x hx => hcs.2 x (List.mem_cons_of_mem _ hx)
      have := take_pointed whole fraction tail fun x hx => (mark x hx).1
      rw [power] at this
      simpa [scientific, htail] using this
    · congr 2
      simp

theorem exists_zeros (cs : List Char) :
    ∃ n, cs = (cs.reverse.dropWhile (· == '0')).reverse ++ List.replicate n '0' := by
  refine ⟨(cs.reverse.takeWhile (· == '0')).length, ?_⟩
  have zeros : cs.reverse.takeWhile (· == '0') =
      List.replicate (cs.reverse.takeWhile (· == '0')).length '0' :=
    List.eq_replicate_of_mem fun c hc => by simpa using List.mem_takeWhile_imp hc
  conv_lhs => rw [← List.reverse_reverse cs,
    ← List.takeWhile_append_dropWhile (p := (· == '0')) (l := cs.reverse)]
  rw [List.reverse_append, zeros, List.reverse_replicate]
  simp

/-- The digits of a positive number without the zeros at their end. -/
theorem exists_stripped {k : Nat} (hk : k ≠ 0) : ∃ digits n,
    ((Nat.toDigits 10 k).reverse.dropWhile (· == '0')).reverse = digits ∧
      (Nat.toDigits 10 k).length = digits.length + n ∧ IsDigits digits ∧
      digitsValue digits * 10 ^ n = k := by
  obtain ⟨n, hn⟩ := exists_zeros (Nat.toDigits 10 k)
  generalize ((Nat.toDigits 10 k).reverse.dropWhile (· == '0')).reverse = digits at hn
  have value : digitsValue digits * 10 ^ n = k := by
    have := digitsValue_toDigits k
    rwa [hn, digitsValue_append, digitsValue_zeros, List.length_replicate, add_zero] at this
  refine ⟨digits, n, rfl, by rw [hn]; simp, ⟨?_, fun c hc => ?_⟩, value⟩
  · rintro rfl
    rw [show digitsValue [] = 0 from rfl, zero_mul] at value
    exact hk value.symm
  · exact (isDigits_toDigits k).2 c (hn ▸ List.mem_append_left _ hc)

/-- Zeros at the end of the digits are left to the exponent. -/
theorem writes_layout {k : Int} (hk : 0 < k) (e : Int) : Writes (layout k e) (k * 10 ^ e) := by
  obtain ⟨digits, n, stripped, written, hdigits, value⟩ :=
    exists_stripped (Int.natAbs_ne_zero.mpr hk.ne')
  simp only [layout, stripped]
  generalize (Nat.toDigits 10 k.natAbs).length = point at written
  have value : (digitsValue digits : Rat) * 10 ^ n = k := by
    rw [← Int.natAbs_of_nonneg hk.le]
    exact_mod_cast value
  have exponent : (point + e - digits.length : Int) = n + e := by omega
  have same : (k : Rat) * 10 ^ e = digitsValue digits * 10 ^ (point + e - digits.length) := by
    rw [exponent, zpow_add₀ (by norm_num), zpow_natCast, ← mul_assoc, value]
  rw [same]
  split
  · have := writes_scientific hdigits (point + e - 1)
    rwa [sub_add_cancel] at this
  · exact writes_positional hdigits _

/-! ## Values -/

theorem value_eq (d : Decimal) :
    d.value = if d.negative then -(d.digits * 10 ^ d.exponent : Rat)
      else d.digits * 10 ^ d.exponent := by
  simp [value, scale_eq_zpow, Rat.mkRat_eq_div]

theorem value_neg_iff {d : Decimal} (h : d.digits ≠ 0) : d.value < 0 ↔ d.negative := by
  have digits : (0 : Rat) < d.digits := by exact_mod_cast Nat.pos_of_ne_zero h
  have power := zpow_pos (show (0 : Rat) < 10 by norm_num) d.exponent
  have := mul_pos digits power
  rw [value_eq]
  split
  · next hd => simp [hd, this]
  · next hd => simp [hd, this.le]

theorem abs_value (d : Decimal) : |d.value| = d.digits * 10 ^ d.exponent := by
  have power := zpow_pos (show (0 : Rat) < 10 by norm_num) d.exponent
  have := mul_nonneg (Nat.cast_nonneg (α := Rat) d.digits) power.le
  rw [value_eq]
  split
  · rw [abs_neg, abs_of_nonneg this]
  · rw [abs_of_nonneg this]

/-- A number of 310 digits is above every finite double. -/
theorem encode_of_large (h : 10 ^ (309 : Int) ≤ |q|) :
    Format.double.encode q = .infinite (decide (q < 0)) := by
  have powers : 2 ^ 1026 ≤ 10 ^ 309 := by decide +kernel
  have powers : (2 : Rat) ^ (1026 : Int) ≤ 10 ^ (309 : Int) := by exact_mod_cast powers
  have size : 4 * (2 : Rat) ^ (1024 : Int) ≤ |q| := calc
    4 * (2 : Rat) ^ (1024 : Int) = 2 ^ (2 + 1024 : Int) := by
      rw [zpow_add₀ (by norm_num)]
      norm_num
    _ ≤ |q| := powers.trans h
  have one : (1 : Rat) ≤ 2 ^ (1024 : Int) := one_le_zpow₀ (by norm_num) (by norm_num)
  have least : Format.leastNormal ≤ 1 := zpow_le_one_of_nonpos₀ (by norm_num) (by norm_num)
  have large : (2 : Rat) ^ Format.double.maxExponent ≤ |Format.double.round q| := by
    change (2 : Rat) ^ (1024 : Int) ≤ _
    generalize (2 : Rat) ^ (1024 : Int) = top at size one ⊢
    have error := Format.double_round_error (abs_pos.mp (show 0 < |q| by linarith only [size, one]))
    have triangle := abs_sub_abs_le_abs_sub q (Format.double.round q)
    rw [abs_sub_comm] at triangle
    linarith only [size, one, least, error, triangle]
  rw [Format.encode, Format.encode?_of_not_fits large, Option.getD_none]

/-- A number that is zero in its first 324 decimal places is less than half of the least positive
double. -/
theorem encode_of_small (h : |q| < 10 ^ (-324 : Int)) :
    Format.double.encode q = .zero (decide (q < 0)) := by
  have powers : 2 ^ 1075 ≤ 10 ^ 324 := by decide +kernel
  have small : |q| < (2 : Rat) ^ Format.double.minExponent / 2 := calc
    |q| < 10 ^ (-324 : Int) := h
    _ = ((10 : Rat) ^ 324)⁻¹ := by rw [zpow_neg]; rfl
    _ ≤ ((2 : Rat) ^ 1075)⁻¹ := by
      gcongr
      exact_mod_cast powers
    _ = 2 ^ (-1074 : Int) / 2 := by
      rw [zpow_neg, pow_succ, mul_inv]
      rfl
  rw [Format.encode, Format.encode?_of_round_eq_zero (Format.round_eq_zero small), Option.getD_some]

theorem toDouble_eq_encode {d : Decimal} (h : d.digits ≠ 0) :
    d.toDouble = Format.double.encode d.value := by
  have sign : d.negative = decide (d.value < 0) := by
    rw [← Bool.coe_iff_coe, decide_eq_true_iff, value_neg_iff h]
  obtain ⟨k, hk, below, above⟩ := pow_length_toDigits (show 1 < 10 by decide) h
  have power := zpow_pos (show (0 : Rat) < 10 by norm_num) d.exponent
  simp only [toDouble, h, if_false, hk, sign]
  split
  · next large =>
    refine (encode_of_large ?_).symm
    calc (10 : Rat) ^ (309 : Int)
      _ ≤ 10 ^ (k + d.exponent) := zpow_le_zpow_right₀ (by norm_num) (by omega)
      _ = 10 ^ k * 10 ^ d.exponent := by rw [zpow_add₀ (by norm_num), zpow_natCast]
      _ ≤ d.digits * 10 ^ d.exponent := by
        gcongr
        exact_mod_cast below
      _ = |d.value| := (abs_value d).symm
  · split
    · next small =>
      refine (encode_of_small ?_).symm
      calc |d.value|
        _ = d.digits * 10 ^ d.exponent := abs_value d
        _ < 10 ^ (k + 1) * 10 ^ d.exponent := by
          gcongr
          exact_mod_cast above
        _ = 10 ^ ((k + 1 : Nat) + d.exponent) := by rw [zpow_add₀ (by norm_num), zpow_natCast]
        _ ≤ 10 ^ (-324 : Int) := zpow_le_zpow_right₀ (by norm_num) (by omega)
    · rfl

end Decimal

end SexprShell.Number
