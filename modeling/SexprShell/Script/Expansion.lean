import SexprShell.Script.Data
import SexprShell.Sexpr.Mapping

/-!
# Expansions

Parameter expansion and command substitution. No comments appear inside them.
-/

namespace SexprShell.Script

open Template Sexpr

/-- The options of a parameter expansion, with their marks. The first one that is given counts. -/
def expansionOptions : List (String × String) :=
  [("default", "-"), ("default-value", ":-"), ("default-assign", "="),
    ("default-assign-value", ":="), ("alternate", "+"), ("alternate-value", ":+"), ("error", "?"),
    ("error-value", ":?")]

/-- The value of an option: that of the last pair whose key is spelled like it. -/
def optionValue? (pairs : List (Sexpr × Sexpr)) (option : String) : Option Sexpr :=
  (pairs.reverse.find? fun p => p.1.spelling? == some option).map (·.2)

/-- The mark and the value of the option that counts. -/
def chosenOption? (pairs : List (Sexpr × Sexpr)) : Option (String × Sexpr) :=
  expansionOptions.findSome? fun o => (optionValue? pairs o.1).map (o.2, ·)

/-- The output of a command for a form, as in `$(ls)`, the value of a parameter for anything else,
as in `${x}` or `${x-y}`. Options only count for parameters. -/
def expansion (args : List Sexpr) (ctx : Context) : Template :=
  if (args.drop 1).length % 2 = 1 then refuse .oddDerefOptions (some "deref")
  else
    match argAt args 0 with
    | .form items location =>
      concat [text "$(", sub (.form items location) ctx.quiet, text ")"]
    | e =>
      match chosenOption? (pairUp (args.drop 1)) with
      | some (mark, value) =>
        concat [text "$\x7b", sub e ctx.quiet, text mark, sub value ctx.quiet, text "\x7d"]
      | none => concat [text "$\x7b", sub e ctx.quiet, text "\x7d"]

/-- Look an entry up in the mapping in a variable. -/
def lookup (args : List Sexpr) (ctx : Context) : Template :=
  concat [text "$(hash_echo ", mungedSub (argAt args 0) ctx, text " ",
    mungedSub (argAt args 1) ctx, text " -n)"]

/-- An item of an array, as in `${xs[1]}`. -/
def item (args : List Sexpr) (ctx : Context) : Template :=
  concat [text "$\x7b", sub (argAt args 0) ctx, text "[", sub (argAt args 1) ctx, text "]\x7d"]

end SexprShell.Script
