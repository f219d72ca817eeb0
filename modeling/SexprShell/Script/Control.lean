import SexprShell.Script.Template
import SexprShell.Sexpr.Mapping

/-!
# Control flow

Conditionals, loops, groups and chains.
-/

namespace SexprShell.Script

open Template Sexpr

/-- The head of a conditional, up to the keyword that begins its branch. -/
def condition (negated : Bool) (args : List Sexpr) (ctx : Context) : Template :=
  if negated then concat [text "if ! ( ", sub (argAt args 0) ctx, text " )", text "; then"]
  else concat [text "if ", sub (argAt args 0) ctx, text "; then"]

/-- A branch stands on lines of its own if it is a block or a conditional. -/
def branch (e : Sexpr) (ctx : Context) : Template :=
  finish (.branch (e.isBlock || e.headName? == some "if")) (sub e ctx)

/-- Whether an expression makes a branch; nil and false stand for none. -/
def isBranch : Sexpr → Bool
  | .nil | .bool false => false
  | _ => true

/-- The second branch of a conditional, if there is one. -/
def alternative (args : List Sexpr) (ctx : Context) : Template :=
  if isBranch (argAt args 2) then append (text "else") (branch (argAt args 2) ctx) else text ""

/-- A conditional with one or two branches. -/
def conditional (negated : Bool) (args : List Sexpr) (ctx : Context) : Template :=
  concat [condition negated args ctx, branch (argAt args 1) ctx, alternative args ctx, text "fi"]

/-- A conditional whose branch is all the remaining arguments. -/
def guarded (negated : Bool) (args : List Sexpr) (ctx : Context) : Template :=
  concat [condition negated args ctx, text "\n", finish .stripped (statements (args.drop 1) ctx),
    text "\nfi"]

/-- One arm of a choice. -/
def arm (ctx : Context) (clause : Sexpr × Sexpr) : Template :=
  concat [sub clause.1 ctx, text ")\n", sub clause.2 ctx]

/-- A choice between patterns. The arms are rendered before what they are compared with. -/
def choice (args : List Sexpr) (ctx : Context) : Template :=
  if (args.drop 1).length % 2 = 1 then refuse .oddCaseClauses (some "case")
  else
    late (concat [text "case ", sub (argAt args 0) ctx, text " in\n"])
      (append (separated ";;\n" ((pairUp (args.drop 1)).map (arm ctx))) (text ";;\nesac"))

/-- A loop as long as a condition holds. -/
def loop (args : List Sexpr) (ctx : Context) : Template :=
  concat [text "while ", sub (argAt args 0) ctx, text "; do\n", statements (args.drop 1) ctx,
    text "done\n"]

/-- A loop over words. They are no array literal, and are rendered before the variable. -/
def iteration (args : List Sexpr) (ctx : Context) : Template :=
  match argAt args 0 with
  | .seq _ [target, values] =>
    append
      (late (concat [text "for ", sub target ctx, text " in "]) (sub values ctx.undelimited))
      (concat [text "; do\n", statements (args.drop 1) ctx, text "done"])
  | _ => refuse .loopBinding (some "doseq")

/-- Statements as one block: `{`, the statements and `}` on lines of their own. -/
def grouped (args : List Sexpr) (ctx : Context) : Template :=
  concat [text "\x7b\n", statements args ctx, text "\x7d"]

end SexprShell.Script
