import SexprShell.Script.Command
import SexprShell.Script.Control
import SexprShell.Script.Expansion
import SexprShell.Script.Function
import SexprShell.Script.Operator
import SexprShell.Text.Identifier

/-!
# Special forms

The constructs of the script language that have a form of their own, by the symbols at their heads.
-/

namespace SexprShell.Script

inductive Special where
  | fileTest (flag : String)
  | negation
  | conditional (negated : Bool)
  | guarded (negated : Bool)
  | choice
  | loop
  | iteration
  | group
  | block
  | chain (operator : String)
  | returning
  | assignment (a : Assignment)
  | newVariable
  | setVariable
  | merge
  | associate
  | setItem
  | lookup
  | item
  | expansion
  | concatenation
  | quotation
  | echo (newline : Bool)
  /-- A method named by the second argument. -/
  | method
  /-- A method named by the head itself. -/
  | dotted (method : String)
  | construction
  | definition
  deriving DecidableEq

namespace Special

/-- The heads that are words, with what they stand for. -/
def table : List (String × Special) :=
  fileTests.map (fun t => (t.1, fileTest t.2)) ++
  [("not", negation), ("if", conditional false), ("if-not", conditional true),
    ("when", guarded false), ("when-not", guarded true), ("case", choice), ("while", loop),
    ("doseq", iteration), ("group", group), ("do", block), ("pipe", chain "|"),
    ("chain-or", chain "||"), ("chain-and", chain "&&"), ("return", returning),
    ("local", assignment .locally), ("var", newVariable), ("defvar", assignment .plain),
    ("let", assignment .arithmetic), ("alias", assignment .shorthand), ("set!", setVariable),
    ("merge!", merge), ("assoc!", associate), ("aset", setItem), ("get", lookup), ("aget", item),
    ("deref", expansion), ("str", concatenation), ("quoted", quotation), ("println", echo true),
    ("print", echo false), ("dot-method", method), ("new", construction), ("defn", definition)]

/-- The method that a head of the shape `.name` calls. Other heads that start with a point, such as
relative paths, are commands. -/
def dotted? (s : String) : Option String :=
  match s.toList with
  | '.' :: cs => if Text.isIdentifier (String.ofList cs) then some (String.ofList cs) else none
  | _ => none

/-- The special form that a symbol is the head of. -/
def ofSymbol? (s : String) : Option Special := (table.lookup s).or ((dotted? s).map dotted)

/-- The special form that an expression is the head of. Only symbols are. -/
def ofHead? : Sexpr → Option Special
  | .name .symbol s => ofSymbol? s
  | _ => none

open Template Sexpr

def template : Special → List Sexpr → Context → Template
  | .fileTest flag, args, ctx => Script.fileTest flag args ctx
  | .negation, args, ctx => Script.negation args ctx
  | .conditional negated, args, ctx => Script.conditional negated args ctx
  | .guarded negated, args, ctx => Script.guarded negated args ctx
  | .choice, args, ctx => Script.choice args ctx
  | .loop, args, ctx => Script.loop args ctx
  | .iteration, args, ctx => Script.iteration args ctx
  | .group, args, ctx => grouped args ctx
  | .block, args, ctx => statements args ctx
  | .chain op, args, ctx => chainOf op (each args ctx)
  | .returning, args, ctx => Script.returning args ctx
  | .assignment a, args, ctx => Script.assignment a args ctx
  | .newVariable, args, ctx => Script.newVariable args ctx
  | .setVariable, args, ctx => Script.setVariable args ctx
  | .merge, args, ctx => Script.merge args ctx
  | .associate, args, ctx => Script.associate args ctx
  | .setItem, args, ctx => Script.setItem args ctx
  | .lookup, args, ctx => Script.lookup args ctx
  | .item, args, ctx => Script.item args ctx
  | .expansion, args, ctx => Script.expansion args ctx
  | .concatenation, args, ctx => Script.concatenation args ctx
  | .quotation, args, ctx => Script.quotation args ctx
  | .echo newline, args, ctx => Script.echo newline args ctx
  | .method, args, ctx => methodCall (argAt args 0) (argAt args 1) (args.drop 2) ctx
  | .dotted m, args, ctx => methodCall (argAt args 0) (.symbol m) (args.drop 1) ctx
  | .construction, args, ctx => Script.construction args ctx
  | .definition, args, ctx => Script.definition args ctx

end Special

end SexprShell.Script
