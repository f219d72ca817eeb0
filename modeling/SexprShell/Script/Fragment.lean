import SexprShell.Script.Error
import SexprShell.Text.Blank

/-!
# Fragments of script text

The ways in which rendered texts are changed, checked and put together.
-/

namespace SexprShell.Script

open Text

def doubleQuoted (s : String) : String := "\"" ++ s ++ "\""

/-! ## Names -/

/-- What stands for a character inside a variable's name. -/
def mungedChar (c : Char) : List Char :=
  if c = '-' then "__".toList
  else if c = '.' then "_DOT_".toList
  else if c = '/' then "_SLASH_".toList
  else [c]

/-- A text as part of a variable's name. -/
def munged (s : String) : String := String.ofList (s.toList.flatMap mungedChar)

/-- Let a text pass as a variable's name: it must not hold a hyphen. -/
def identifier (rule : Option String) (s : String) : Outcome :=
  if s.toList.contains '-' then .error (.ofCause (.invalidIdentifier s) rule) else .ok s

/-! ## Lines -/

/-- A text that ends with a line feed. -/
def terminated (s : String) : String :=
  if s.toList.getLast? = some '\n' then s else s ++ "\n"

/-- A text as a statement on lines of its own, followed by a comment if there is one. The empty text
is no statement. -/
def asStatement (comment s : String) : String :=
  if s = "" then ""
  else if comment = "" then terminated s
  else terminated (dropEndWhile (· == '\n') s ++ comment)

/-- A branch of a conditional: on lines of its own if that is asked for or if it has several lines,
else on the line of the keyword in front. -/
def asBranch (block : Bool) (s : String) : String :=
  if block || s.toList.contains '\n' then "\n" ++ strip s ++ "\n" else " " ++ s ++ ";"

/-! ## Operands -/

/-- Whether a rendered operand shows by its first characters that quotes must not be put around
it. -/
def isSubexpression (s : String) : Bool :=
  match s.toList with
  | '\\' :: '(' :: _ => true
  | c :: _ => c == '!' || c == '-' || c == '@'
  | [] => false

/-- An operand under an operator that compares texts. -/
def asOperand (s : String) : String := if isSubexpression s then s else doubleQuoted s

/-! ## Lists -/

/-- A text in front of a chain. Blank texts are left out, and the chain of none is empty. -/
def chainOnto (operator s rest : String) : String :=
  if allBlank s then rest else if rest = "" then s else s ++ " " ++ operator ++ " " ++ rest

/-- Texts joined by an operator, blank ones left out. -/
def chained (operator : String) (parts : List String) : String :=
  parts.foldr (chainOnto operator) ""

/-- Texts between parentheses, with commas between them. -/
def commaList (parts : List String) : String := "(" ++ ", ".intercalate parts ++ ")"

end SexprShell.Script
