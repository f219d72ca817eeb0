import SexprShell.Script.Signature
import SexprShell.Script.Template

/-!
# Functions

A function declares its flags, names its positional arguments by number, and runs its body.
-/

namespace SexprShell.Script

open Template Sexpr

/-- The lines that give names to positional arguments. -/
def argumentNames (names : List String) (ctx : Context) : Template :=
  concat ((names.zipIdx 1).map fun p =>
    append (sub (.symbol p.1) ctx) (text ("=$" ++ toString p.2 ++ "\n")))

/-- A function from its name, its help text or nil, its signature and its body. Its text is `f() {`,
the lines inside and `}`. -/
def function (name doc signature : Sexpr) (body : List Sexpr) (ctx : Context) : Template :=
  match name with
  | .name .symbol s =>
    match Signature.ofSexpr signature with
    | .error f => fail f
    | .ok g =>
      concat [text (s ++ "() \x7b\n"), ofOutcome (declarations doc g.flags),
        argumentNames g.positional ctx, statements body ctx, text "\x7d\n"]
  | _ => refuse (.functionName name)

/-- A function from the arguments of its definition: a name, a help text if the next argument is a
text, a signature, and the body. -/
def definition (args : List Sexpr) (ctx : Context) : Template :=
  match args.drop 1 with
  | .text doc :: signature :: body => function (argAt args 0) (.text doc) signature body ctx
  | [.text _] | [] => refuse .signatureMissing (some "defn")
  | signature :: body => function (argAt args 0) .nil signature body ctx

end SexprShell.Script
