import SexprShell.Number.Rounding

/-!
# Floating-point numbers

The values of binary floating-point arithmetic: exact numbers, a zero with a sign, two infinities,
and the value that is no number. A value does not know its format; `Format.encode?` and
`Format.convert` produce values of a given one.
-/

namespace SexprShell.Number

inductive Double where
  | finite (value : Rat)
  | negativeZero
  | infinite (negative : Bool)
  | nan
  deriving DecidableEq

namespace Double

/-- The number that a value stands for; both zeros stand for zero. -/
def value? : Double → Option Rat
  | finite q => some q
  | negativeZero => some 0
  | _ => none

/-- A zero of the given sign. -/
def zero (negative : Bool) : Double := if negative then negativeZero else finite 0

end Double

namespace Format

/-- The nearest value of a format, or nothing where the format has none that large. A negative
number that rounds to zero keeps its sign. -/
def encode? (f : Format) (q : Rat) : Option Double :=
  let r := f.round q
  if r = 0 then some (.zero (decide (q < 0)))
  else if f.fits r then some (.finite r)
  else none

/-- The nearest value of a format; what is too large becomes infinite. -/
def encode (f : Format) (q : Rat) : Double :=
  (f.encode? q).getD (.infinite (decide (q < 0)))

/-- Bring a value into another format. -/
def convert (f : Format) : Double → Double
  | .finite q => f.encode q
  | d => d

end Format

end SexprShell.Number
