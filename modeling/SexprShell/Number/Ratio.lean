import SexprShell.Number.Shortest

/-!
# The text of a ratio

A ratio is written as a number of single precision: rounded to a double, then to a single, it is
shown with the fewest significant digits, one to nine, that lead back to that single.
-/

namespace SexprShell.Number

/-- The double that `n` significant digits of a number stand for. -/
def rounded (n : Nat) (q : Rat) : Double := Format.double.encode (significant n q)

/-- The least number of significant digits that lead back to the single `q`, if nine are enough. -/
def leastDigits? (q : Rat) : Option Nat :=
  [1, 2, 3, 4, 5, 6, 7, 8, 9].find? fun n => Format.single.convert (rounded n q) = .finite q

/-- The text of a single. -/
def singleText (s : Double) : String :=
  match s with
  | .finite q =>
    if q = 0 then s.toText
    else
      match leastDigits? q with
      | some n => (rounded n q).toText
      | none => s.toText
  | _ => s.toText

/-- The text of a ratio, or nothing where the ratio is too large for a double. -/
def ratioText? (q : Rat) : Option String :=
  (Format.double.encode? q).map fun d => singleText (Format.single.convert d)

end SexprShell.Number
