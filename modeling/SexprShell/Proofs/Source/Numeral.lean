import Mathlib.Data.List.Basic
import SexprShell.Proofs.Source.Lexeme
import SexprShell.Source.Token

/-!
# Numerals

Decimal numerals are read as the numbers that they are written for, and no digit of any script is a
blank or a bracket.
-/

namespace SexprShell.Source

open Number Text

/-! ## Digits -/

theorem digitRanges_blankRanges : ∀ r ∈ digitRanges, ∀ s ∈ blankRanges, r.2 < s.1 ∨ s.2 < r.1 := by
  decide

theorem isBlank_of_isDigit {c : Char} (h : isDigit c) : isBlank c = false := by
  obtain ⟨n, hn⟩ := Option.isSome_iff_exists.mp h
  obtain ⟨r, hr, -⟩ := Option.map_eq_some_iff.mp hn
  have hc := List.find?_some hr
  simp only [Bool.and_eq_true, decide_eq_true_eq] at hc
  rw [isBlank, Bool.eq_false_iff]
  intro hb
  obtain ⟨s, hs, h1, h2⟩ := inRanges_iff.mp hb
  have := digitRanges_blankRanges r (List.mem_of_find?_eq_some hr) s hs
  omega

theorem isWordChar_of_isDigit {c : Char} (h : isDigit c) : isWordChar c := by
  have hw : ∀ d ∈ wordBreaks, (!isDigit d) = true := List.all_eq_true.mp (by decide)
  simp only [isWordChar, isBlank_of_isDigit h, Bool.not_false, Bool.true_and, Bool.not_eq_true',
    List.contains_eq_mem, decide_eq_false_iff_not]
  intro hc
  have := hw c hc
  rw [h] at this
  cases this

theorem digit?_of_isDigit {c : Char} (h : c.isDigit) : digit? c = some (c.toNat - '0'.toNat) := by
  obtain ⟨h1, h2⟩ : 48 ≤ c.toNat ∧ c.toNat ≤ 57 := by
    simpa [Char.isDigit, Char.le_def, UInt32.le_iff_toNat_le] using h
  have found : digitRanges.find? (fun r => r.1 ≤ c.toNat && c.toNat ≤ r.2) = some (0x30, 0x39) := by
    rw [digitRanges, List.find?_cons_of_pos]
    simp [h1, h2]
  rw [digit?, found]
  simp only [Option.map_some, Option.some.injEq]
  exact Nat.mod_eq_of_lt (by omega)

theorem digitsValue_eq {cs : List Char} (h : ∀ c ∈ cs, c.isDigit) :
    digitsValue cs = Nat.ofDigitChars 10 cs 0 := by
  rw [digitsValue, Nat.ofDigitChars_eq_foldl]
  refine List.foldl_ext _ _ _ fun n c hc => ?_
  rw [digit?_of_isDigit (h c hc)]
  rfl

theorem isDigit_of_mem_toDigits {c : Char} {n : Nat} (h : c ∈ Nat.toDigits 10 n) : c.isDigit :=
  Nat.isDigit_of_mem_toDigits (by omega) (by omega) h

theorem digitsValue_toDigits (n : Nat) : digitsValue (Nat.toDigits 10 n) = n := by
  rw [digitsValue_eq fun c hc => isDigit_of_mem_toDigits hc, Nat.ofDigitChars_ten_toDigits]

theorem isDigits_toDigits (n : Nat) : IsDigits (Nat.toDigits 10 n) :=
  ⟨Nat.toDigits_ne_nil, fun c hc => by
    rw [isDigit, digit?_of_isDigit (isDigit_of_mem_toDigits hc)]; rfl⟩

/-! ## Integers -/

theorem takeSign_digits_append {cs : List Char} (h : IsDigits cs) (rest : List Char) :
    takeSign (cs ++ rest) = (false, cs ++ rest) := by
  obtain ⟨c, cs, rfl⟩ := List.exists_cons_of_ne_nil h.1
  rw [List.cons_append]
  unfold takeSign
  split
  · next heq =>
    have := h.2 '-' (by simp [(List.cons.inj heq).1])
    rw [isDigit_minus] at this
    cases this
  · rfl

theorem takeSign_digits {cs : List Char} (h : IsDigits cs) : takeSign cs = (false, cs) := by
  simpa using takeSign_digits_append h []

theorem toList_toString_int : ∀ n : Int, (∃ m : Nat, n = m ∧
    (toString n).toList = Nat.toDigits 10 m) ∨
    ∃ m : Nat, n = -(m : Int) ∧ (toString n).toList = '-' :: Nat.toDigits 10 m
  | .ofNat m => .inl ⟨m, rfl, Nat.toList_repr⟩
  | .negSucc m => .inr ⟨m + 1, rfl, by simp [Int.toString_eq_repr, Int.repr]⟩

theorem isInteger_toString (n : Int) : IsInteger (toString n).toList := by
  obtain ⟨m, -, h⟩ | ⟨m, -, h⟩ := toList_toString_int n
  · exact ⟨[], _, h, .inl rfl, isDigits_toDigits m⟩
  · exact ⟨['-'], _, h, .inr rfl, isDigits_toDigits m⟩

/-- An integer is read back from its numeral. -/
theorem integerOf_toString (n : Int) : integerOf (toString n).toList = n := by
  obtain ⟨m, hn, h⟩ | ⟨m, hn, h⟩ := toList_toString_int n
  · rw [h, integerOf, takeSign_digits (isDigits_toDigits m)]
    simp [digitsValue_toDigits, hn]
  · rw [h, integerOf, takeSign]
    simp [digitsValue_toDigits, hn]

theorem slash_notMem_toString (n : Int) : '/' ∉ (toString n).toList := by
  have hd : ∀ m : Nat, '/' ∉ Nat.toDigits 10 m := fun m hm => by
    have := isDigit_of_mem_toDigits hm
    revert this
    decide
  obtain ⟨m, -, h⟩ | ⟨m, -, h⟩ := toList_toString_int n
  · rw [h]; exact hd m
  · rw [h]; simp [hd m]

end SexprShell.Source
