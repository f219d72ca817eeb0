import SexprShell.Sexpr.Mapping
import SexprShell.Source.Position
import SexprShell.Source.Terminal

/-!
# Reading errors

The ways in which a text fails to be read. The first three are errors of notation and have a
position; the next three come up when the items of a well-bracketed text are given their meaning.
-/

namespace SexprShell.Source

inductive ReadError where
  /-- No lexeme starts with this character here. -/
  | unmatched (c : Char) (position : Position)
  /-- A closing bracket that closes nothing. -/
  | unexpectedClosing (b : Bracket) (position : Position)
  /-- The text ends inside a bracket or behind a mark; the position is that of the last token. -/
  | unexpectedEnd (lastToken : Position)
  | oddMap
  | unhashableKey (key : Sexpr.Unhashable)
  | zeroDenominator (numerator : Int)
  /-- A text that should hold one expression holds another number of them. -/
  | notSingle (count : Nat)
  deriving DecidableEq

namespace ReadError

/-- Where the notation goes wrong, if it does. -/
def position? : ReadError → Option Position
  | unmatched _ p | unexpectedClosing _ p | unexpectedEnd p => some p
  | _ => none

/-- Whether an error arises from what an item means. -/
def isMeaning : ReadError → Bool
  | unhashableKey _ | zeroDenominator _ => true
  | _ => false

def bracketName : Bracket → String
  | .round => "RPAR"
  | .square => "RSQB"
  | .curly => "RBRACE"

/-- A token that was not expected, by name and characters. -/
def unexpected (name characters : String) (p : Position) : String :=
  "Unexpected token Token('" ++ name ++ "', '" ++ characters ++ "') at line " ++
    toString p.line ++ ", column " ++ toString p.column ++ "."

/-- What went wrong, without the closing remark on the position. -/
def summary : ReadError → String
  | unmatched c p =>
    "No terminal matches '" ++ String.singleton c ++ "' in the current parser context, at line " ++
      toString p.line ++ " col " ++ toString p.column
  | unexpectedClosing b p => unexpected (bracketName b) (String.singleton b.closing) p
  | unexpectedEnd p => unexpected "$END" "" p
  | oddMap => "map literal needs an even number of items"
  | unhashableKey u =>
    "Error trying to process rule \"map\":\n\nunhashable type: '" ++ u.typeName ++ "'"
  | zeroDenominator n =>
    "Error trying to process rule \"RATIO\":\n\nFraction(" ++ toString n ++ ", 0)"
  | notSingle n => "Expected one expression; got " ++ toString n

def message (e : ReadError) : String :=
  match e.position? with
  | some p =>
    e.summary ++ " (line " ++ toString p.line ++ ", col " ++ toString p.column ++ ")"
  | none => e.summary

end ReadError

end SexprShell.Source
