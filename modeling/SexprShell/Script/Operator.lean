import SexprShell.Script.Template

/-!
# Infix operators

Operators between two operands. Comparisons are written as tests between square brackets,
arithmetic between parentheses, and the connectives without any delimiters.
-/

namespace SexprShell.Script

/-- The predicates on files, with the flags of the tests they are written as. -/
def fileTests : List (String × String) :=
  [("file-exists?", "-e"), ("directory?", "-d"), ("symlink?", "-h"), ("readable?", "-r"),
    ("writeable?", "-w"), ("empty?", "-z")]

namespace Operator

def arithmetic : List String := ["+", "-", "/", "*", "%"]

/-- The operators whose operands are compared as quoted texts. -/
def comparisons : List String :=
  ["==", "=", "<", ">", "<=", ">=", "!=", "<<", ">>", "<<<", ">>>", "&", "|"]

def connectives : List String := ["&&", "||", "and", "or"]

def isArithmetic (op : String) : Bool := arithmetic.contains op

/-- Whether the operands of an operator are quoted. -/
def isQuoted (op : String) : Bool := comparisons.contains op

/-- Whether an operator makes a test. The predicates on files do, too. -/
def isLogical (op : String) : Bool := comparisons.contains op || (fileTests.lookup op).isSome

def isInfix (op : String) : Bool :=
  arithmetic.contains op || comparisons.contains op || connectives.contains op

/-- The operators that the script language spells differently. -/
def spellings : List (String × String) :=
  [("and", "&&"), ("or", "||"), ("<", "-lt"), (">", "-gt"), ("<=", "-le"), (">=", "-ge"),
    ("=", "==")]

/-- An operator in the spelling of the script language. -/
def spelled (op : String) : String := (spellings.lookup op).getD op

/-- What stands around an operator and its operands. -/
def delimiters (op : String) : String × String :=
  if isLogical op then ("[ ", " ]") else if isArithmetic op then ("(", ")") else ("", "")

open Template

/-- An operand, in quotes where the operator wants them. -/
def operand (op : String) (e : Sexpr) (ctx : Context) : Template :=
  if isQuoted op then finish .operand (sub e ctx) else sub e ctx

/-- An operator with its first two operands. Further ones are left out, and fewer are refused. -/
def template (op : String) (args : List Sexpr) (ctx : Context) : Template :=
  match args with
  | left :: right :: _ =>
    concat [text (delimiters op).1, operand op left ctx, text (" " ++ spelled op ++ " "),
      operand op right ctx, text (delimiters op).2]
  | _ => refuse (.tooFewOperands op args.length) (some op)

theorem mem_subs_operand {s : Sexpr × Context} {op : String} {e : Sexpr} {ctx : Context} :
    s ∈ (operand op e ctx).subs ↔ s = (e, ctx) := by
  unfold operand; split <;> simp [subs]

end Operator

end SexprShell.Script
