import SexprShell.Number.Double
import SexprShell.Text.Digit

/-!
# Decimal numerals

Numerals such as `-12.50e-3`, in digits of any script, and the floating-point values they stand for.
Runs of digits of any length are read as integers: the limit that an interpreter may be configured
to put on the digits of an integer, 4300 of them unless it is changed, is taken as switched off.
-/

namespace SexprShell.Number

open Text

/-- `digits · 10 ^ exponent`, with a sign that zero has as well. -/
structure Decimal where
  negative : Bool
  digits : Nat
  exponent : Int
  deriving DecidableEq

/-- A leading minus sign, and what follows it. -/
def takeSign : List Char → Bool × List Char
  | '-' :: cs => (true, cs)
  | cs => (false, cs)

/-- The integer that a run of digits with an optional minus sign writes. -/
def integerOf (cs : List Char) : Int :=
  let (negative, digits) := takeSign cs
  if negative then -(digitsValue digits : Int) else digitsValue digits

namespace Decimal

/-- The exponent at the end of a numeral, and what follows it: a letter `e`, an optional sign and at
least one digit. -/
def takeExponent (cs : List Char) : Int × List Char :=
  match cs with
  | c :: rest =>
    let (negative, digits) :=
      match rest with
      | '-' :: ds => (true, ds)
      | '+' :: ds => (false, ds)
      | ds => (false, ds)
    let run := digits.takeWhile isDigit
    if (c == 'e' || c == 'E') && !run.isEmpty then
      (if negative then -(digitsValue run : Int) else digitsValue run, digits.dropWhile isDigit)
    else (0, cs)
  | [] => (0, [])

/-- The numeral at the start of a text, and what follows it: an optional minus sign, digits, and
optionally a point with further digits and an exponent. -/
def take (cs : List Char) : Decimal × List Char :=
  let (negative, cs) := takeSign cs
  let whole := cs.takeWhile isDigit
  let rest := cs.dropWhile isDigit
  let (fraction, rest) :=
    match rest with
    | '.' :: ds => (ds.takeWhile isDigit, ds.dropWhile isDigit)
    | ds => ([], ds)
  let (e, rest) := takeExponent rest
  (⟨negative, digitsValue (whole ++ fraction), e - fraction.length⟩, rest)

/-- The number that a numeral writes. -/
def value (d : Decimal) : Rat :=
  let q := mkRat d.digits 1 * scale 10 d.exponent
  if d.negative then -q else q

/-- The double nearest to a numeral. The first two bounds keep the exact computation small: a number
of 310 digits is above every finite double, and one below `10 ^ -324` is less than half of the
least positive one. -/
def toDouble (d : Decimal) : Double :=
  let top := (Nat.toDigits 10 d.digits).length + d.exponent
  if d.digits = 0 then .zero d.negative
  else if 310 ≤ top then .infinite d.negative
  else if top ≤ -324 then .zero d.negative
  else Format.double.encode d.value

end Decimal

end SexprShell.Number
