import SexprShell.Script.Emit

/-!
# Dialects

The script languages that expressions can be written in, and the operations that each of them has.
-/

namespace SexprShell.Script

inductive Dialect where
  | bash
  deriving DecidableEq

namespace Dialect

def name : Dialect → String
  | bash => "bash"

def all : List Dialect := [bash]

/-- The dialect of a name. -/
def ofName (name : String) : Except Failure Dialect :=
  match all.find? (·.name == name) with
  | some d => .ok d
  | none => .error (.ofCause (.unknownDialect name))

def render : Dialect → Sexpr → Context → Outcome
  | bash, e, ctx => emit e ctx

def renderLiteral : Dialect → Sexpr → Outcome
  | bash, e => literal e

def renderInfix : Dialect → String → List Sexpr → Context → Outcome
  | bash, op, args, ctx => (Operator.template op args ctx).render emit

/-- The text of a form with a special head. For a form with another one, the refusal names the form
and has no location. Only forms are passed to this operation: nothing else has a head, and what the
definition says about other expressions stands for no call. -/
def renderSpecial : Dialect → Sexpr → Context → Outcome
  | bash, e, ctx =>
    if (Special.ofHead? e.head).isSome then emit e ctx
    else .error (.refused { cause := .notSpecial e.head, form := some e })

def renderFunction : Dialect → Sexpr → Sexpr → Sexpr → List Sexpr → Context → Outcome
  | bash, name, doc, signature, body, ctx => emitFunction name doc signature body ctx

def renderCall : Dialect → Sexpr → List Sexpr → Context → Outcome
  | bash, head, args, ctx => (command head args ctx).render emit

end Dialect

end SexprShell.Script
