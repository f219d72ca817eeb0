import SexprShell.Script.Template

/-!
# Sequences, mappings and variables

Array literals, associative-array literals, and the forms that set variables and their entries.
Mappings in variables are kept entry by entry, by calls that also work where a shell has no
associative arrays.
-/

namespace SexprShell.Script

open Template Sexpr

/-- The items of a sequence one after another, in parentheses unless the context says otherwise. -/
def sequence (items : List Sexpr) (ctx : Context) : Template :=
  let body := separated " " (each items ctx)
  if ctx.delimited then concat [text "(", body, text ")"] else body

/-- An entry of an associative-array literal. -/
def entryLiteral (ctx : Context) (entry : Sexpr × Sexpr) : Template :=
  concat [text "[", sub entry.1 ctx, text "]=", sub entry.2 ctx]

def mapping (entries : List (Sexpr × Sexpr)) (ctx : Context) : Template :=
  concat [text "(", separated " " (entries.map (entryLiteral ctx)), text ")"]

/-- An expression whose text is part of a variable's name. -/
def mungedSub (e : Sexpr) (ctx : Context) : Template := finish .munged (sub e ctx)

/-- The call that sets an entry of the mapping in a variable. -/
def setEntry (target : Sexpr) (ctx : Context) (entry : Sexpr × Sexpr) : Template :=
  concat [text "hash_set ", mungedSub target ctx, text " ", mungedSub entry.1 ctx, text " ",
    sub entry.2 ctx]

/-- The calls that set all entries, as one block: `{ hash_set m a 1; hash_set m b 2;  }`. -/
def setEntries (target : Sexpr) (entries : List (Sexpr × Sexpr)) (ctx : Context) : Template :=
  concat [text "\x7b ",
    concat (entries.map fun entry => append (setEntry target ctx entry) (text "; ")),
    text " \x7d"]

/-- The name of a variable, refused where it cannot be one. -/
def checkedName (rule : String) (e : Sexpr) (ctx : Context) : Template :=
  finish (.identifier rule) (sub e ctx)

/-- The ways of writing an assignment whose name is taken as it is. -/
inductive Assignment where
  | plain
  | locally
  | arithmetic
  | shorthand
  deriving DecidableEq

namespace Assignment

/-- What stands in front of the name. -/
def keyword : Assignment → String
  | plain => ""
  | locally => "local "
  | arithmetic => "let "
  | shorthand => "alias "

/-- What stands around the value. -/
def quote : Assignment → String
  | shorthand => "'"
  | _ => ""

end Assignment

def assignment (a : Assignment) (args : List Sexpr) (ctx : Context) : Template :=
  concat [text a.keyword, sub (argAt args 0) ctx, text ("=" ++ a.quote), sub (argAt args 1) ctx,
    text a.quote]

/-- Give a new value to a variable. -/
def setVariable (args : List Sexpr) (ctx : Context) : Template :=
  concat [checkedName "set!" (argAt args 0) ctx, text "=", sub (argAt args 1) ctx]

/-- Introduce a variable. A mapping is set entry by entry, after the name has been checked. -/
def newVariable (args : List Sexpr) (ctx : Context) : Template :=
  match argAt args 1 with
  | .map entries =>
    append (finish .dropped (checkedName "var" (argAt args 0) ctx))
      (setEntries (argAt args 0) entries ctx)
  | value => concat [checkedName "var" (argAt args 0) ctx, text "=", sub value ctx]

/-- Add the entries of a mapping to the mapping in a variable. -/
def merge (args : List Sexpr) (ctx : Context) : Template :=
  match argAt args 1 with
  | .map entries => setEntries (argAt args 0) entries ctx
  | _ => refuse .mergeTarget (some "merge!")

/-- Set one entry of the mapping in a variable. -/
def associate (args : List Sexpr) (ctx : Context) : Template :=
  append (finish .dropped (checkedName "assoc!" (argAt args 0) ctx))
    (setEntry (argAt args 0) ctx (argAt args 1, argAt args 2))

/-- Set one item of an array. -/
def setItem (args : List Sexpr) (ctx : Context) : Template :=
  concat [sub (argAt args 0) ctx, text "[", sub (argAt args 1) ctx, text "]=",
    sub (argAt args 2) ctx]

end SexprShell.Script
