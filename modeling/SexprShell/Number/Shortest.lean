import SexprShell.Number.Decimal

/-!
# The text of a floating-point number

A double is written with the fewest decimal digits that read back as the same double, and of those
with the digits nearest to it. Numbers from `0.0001` up to but not including `10 ^ 16` are written
positionally, with at least one digit behind the point; others with an exponent of at least two
digits that always has its sign.
-/

namespace SexprShell.Number

/-- The decimal `k · 10 ^ e` of exactly `n` digits that reads back as the positive double `q`. Only
the two neighbours of `q` with that many digits can, and the nearer one is preferred. -/
def withDigits? (q : Rat) (n : Nat) : Option (Int × Int) :=
  let e := leadingExponent 10 q - n + 1
  let near := roundEven (q / scale 10 e)
  let far := 2 * (q / scale 10 e).floor + 1 - near
  ([near, far].find? fun (k : Int) => Format.double.round (k * scale 10 e) = q).map (·, e)

/-- The decimal of fewest digits that reads back as the positive double `q`. Seventeen digits are
always enough. -/
def shortest (q : Rat) : Int × Int :=
  ((List.range 17).findSome? fun i => withDigits? q (i + 1)).getD
    (roundEven (q / scale 10 (leadingExponent 10 q - 16)), leadingExponent 10 q - 16)

/-- Digits with the decimal point behind the first `point` of them. -/
def positional (digits : List Char) (point : Int) : List Char :=
  if point ≤ 0 then '0' :: '.' :: List.replicate (-point).toNat '0' ++ digits
  else
    let whole := digits.take point.toNat
    let fraction := digits.drop point.toNat
    whole ++ List.replicate (point.toNat - whole.length) '0' ++
      '.' :: (if fraction.isEmpty then ['0'] else fraction)

/-- Digits with the point behind the first of them, and an exponent. -/
def scientific (digits : List Char) (exponent : Int) : List Char :=
  let power := Nat.toDigits 10 exponent.natAbs
  digits.take 1 ++ (if digits.length ≤ 1 then [] else '.' :: digits.drop 1) ++
    'e' :: (if exponent < 0 then '-' else '+') ::
      List.replicate (2 - power.length) '0' ++ power

/-- The text of `k · 10 ^ e`, for positive `k`. -/
def layout (k e : Int) : List Char :=
  let written := Nat.toDigits 10 k.natAbs
  let digits := (written.reverse.dropWhile (· == '0')).reverse
  let point := written.length + e
  if point ≤ -4 ∨ 16 < point then scientific digits (point - 1) else positional digits point

namespace Double

def toText : Double → String
  | finite q =>
    if q = 0 then "0.0"
    else
      let (k, e) := shortest (magnitude q)
      String.ofList (if q < 0 then '-' :: layout k e else layout k e)
  | negativeZero => "-0.0"
  | infinite negative => if negative then "-inf" else "inf"
  | nan => "nan"

/-- Read what `toText` writes, and other numerals. -/
def ofText? (s : String) : Option Double :=
  if s = "nan" then some nan
  else if s = "inf" then some (infinite false)
  else if s = "-inf" then some (infinite true)
  else
    match Decimal.take s.toList with
    | (d, []) => some d.toDouble
    | _ => none

end Double

end SexprShell.Number
