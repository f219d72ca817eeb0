import SexprShell.Script.Template

/-!
# Commands

Calls of commands, texts put together from parts, the tests with one operand, and the notation for
methods of objects.
-/

namespace SexprShell.Script

open Template Sexpr

/-- A command with its arguments, which are rendered before it. -/
def command (head : Sexpr) (args : List Sexpr) (ctx : Context) : Template :=
  late (sub head ctx) (concat (args.map fun e => append (text " ") (sub e ctx)))

/-- Texts without anything between them. -/
def concatenation (args : List Sexpr) (ctx : Context) : Template := concat (each args ctx)

/-- Texts with spaces between them. -/
def words (args : List Sexpr) (ctx : Context) : Template := separated " " (each args ctx)

def quotation (args : List Sexpr) (ctx : Context) : Template :=
  concat [text "\"", words args ctx, text "\""]

/-- Print words, with a line feed at the end or without. -/
def echo (newline : Bool) (args : List Sexpr) (ctx : Context) : Template :=
  append (text (if newline then "echo " else "echo -n ")) (words args ctx)

def fileTest (flag : String) (args : List Sexpr) (ctx : Context) : Template :=
  concat [text ("[ " ++ flag ++ " "), sub (argAt args 0) ctx, text " ]"]

/-- A command whose status is inverted: `! { ls; }`. -/
def negation (args : List Sexpr) (ctx : Context) : Template :=
  concat [text "! \x7b ", sub (argAt args 0) ctx, text "; \x7d"]

def returning (args : List Sexpr) (ctx : Context) : Template :=
  append (text "return ") (sub (argAt args 0) ctx)

/-- Expressions between parentheses, with commas between them. -/
def argumentList (args : List Sexpr) (ctx : Context) : Template :=
  concat [text "(", separated ", " (each args ctx), text ")"]

/-- A method called on an object. -/
def methodCall (object method : Sexpr) (args : List Sexpr) (ctx : Context) : Template :=
  concat [sub object ctx, text ".", sub method ctx, argumentList args ctx]

/-- A new object of a class. -/
def construction (args : List Sexpr) (ctx : Context) : Template :=
  concat [text "new ", sub (argAt args 0) ctx, argumentList (args.drop 1) ctx]

end SexprShell.Script
