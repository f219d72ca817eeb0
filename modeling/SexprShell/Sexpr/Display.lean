import SexprShell.Number.Shortest
import SexprShell.Sexpr.Basic
import SexprShell.Text.Quoted

/-!
# Showing expressions

The text that stands for an expression inside an error message. Integers of any length are shown:
the limit that an interpreter may be configured to put on the digits of an integer, 4300 of them
unless it is changed, is taken as switched off.
-/

namespace SexprShell.Sexpr

open Text

mutual

/-- The text of an expression. A mapping is shown as `{1: 2, 3: 4}`. -/
def display : Sexpr → String
  | nil => "None"
  | bool b => if b then "True" else "False"
  | int n => toString n
  | ratio q => "Fraction(" ++ toString q.num ++ ", " ++ toString q.den ++ ")"
  | float d => d.toText
  | text s => quoted s
  | name .symbol s => "Symbol(" ++ quoted s ++ ")"
  | name .keyword s => "Keyword(" ++ quoted s ++ ")"
  | name .bare s => quoted s
  | seq .list items => "[" ++ displayItems items ++ "]"
  | seq .tuple items => "(" ++ displayItems items ++ (if items.length = 1 then ",)" else ")")
  | map entries => "\x7b" ++ displayEntries entries ++ "\x7d"
  | form items _ => "Form([" ++ displayItems items ++ "])"
  | foreign t => "<" ++ t ++ ">"

/-- Expressions one after another, with commas between them. -/
def displayItems : List Sexpr → String
  | [] => ""
  | [e] => display e
  | e :: es => display e ++ ", " ++ displayItems es

def displayEntries : List (Sexpr × Sexpr) → String
  | [] => ""
  | [(k, v)] => display k ++ ": " ++ display v
  | (k, v) :: es => display k ++ ": " ++ display v ++ ", " ++ displayEntries es

end

end SexprShell.Sexpr
