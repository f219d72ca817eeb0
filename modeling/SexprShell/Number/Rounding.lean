/-!
# Rounding exact numbers

Rounding to a grid of equally spaced numbers, in exact arithmetic. The same function rounds to a
number of binary digits and to a number of decimal digits: only the spacing differs.
-/

namespace SexprShell.Number

/-- `base ^ e`, for an exponent of either sign. -/
def scale (base : Nat) : Int → Rat
  | .ofNat n => mkRat (Nat.pow base n) 1
  | .negSucc n => mkRat 1 (Nat.pow base (n + 1))

/-- The distance of a number from zero. -/
def magnitude (q : Rat) : Rat := if q < 0 then -q else q

/-- The exponent of the leading digit in a base: the `e` with `base ^ e ≤ |q| < base ^ (e + 1)`, for
`q` other than zero. Counting the digits of numerator and denominator leaves two candidates. -/
def leadingExponent (base : Nat) (q : Rat) : Int :=
  let e : Int := (Nat.toDigits base q.num.natAbs).length - (Nat.toDigits base q.den).length
  if scale base e ≤ magnitude q then e else e - 1

/-- The nearest integer; a number halfway between two goes to the even one. -/
def roundEven (q : Rat) : Int :=
  let k := q.floor
  if q - k < mkRat 1 2 then k else if mkRat 1 2 < q - k then k + 1 else k + k % 2

/-- The nearest multiple of a step. -/
def onGrid (step q : Rat) : Rat := roundEven (q / step) * step

/-- A number with `n` significant decimal digits. -/
def significant (n : Nat) (q : Rat) : Rat :=
  onGrid (scale 10 (leadingExponent 10 q - n + 1)) q

/-- A binary floating-point format. Its finite values are the multiples of `2 ^ minExponent` that
have at most `precision` binary digits and lie below `2 ^ maxExponent` in magnitude. -/
structure Format where
  precision : Nat
  minExponent : Int
  maxExponent : Int

namespace Format

def double : Format := ⟨53, -1074, 1024⟩

def single : Format := ⟨24, -149, 128⟩

/-- The spacing of a format's values around a number. -/
def spacing (f : Format) (q : Rat) : Rat :=
  scale 2 (max (leadingExponent 2 q - f.precision + 1) f.minExponent)

/-- The nearest value of a format, as if the format had no largest value. -/
def round (f : Format) (q : Rat) : Rat := onGrid (f.spacing q) q

/-- Whether a rounded number is small enough for the format. -/
def fits (f : Format) (q : Rat) : Bool := decide (magnitude q < scale 2 f.maxExponent)

end Format

end SexprShell.Number
