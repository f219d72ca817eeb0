import SexprShell.Sexpr.Display

/-!
# Failures

An expression without script text fails for a cause, which may belong to a rule of the script
language. The innermost form around the failure is attached to it, once and for all.
-/

namespace SexprShell.Script

/-- The four families of causes. -/
inductive ErrorKind where
  | arity
  | identifier
  | signature
  | form
  deriving DecidableEq

inductive Cause where
  | unknownValue (typeName : String)
  | tooFewOperands (operator : String) (count : Nat)
  | invalidIdentifier (name : String)
  | oddDerefOptions
  | oddCaseClauses
  | loopBinding
  | mergeTarget
  | notSpecial (head : Sexpr)
  | unknownDialect (name : String)
  | functionName (found : Sexpr)
  | signatureMissing
  | signatureKind
  | misplacedArgument (name : String)
  | flagShape (found : Sexpr)
  | docKind

namespace Cause

def kind : Cause → ErrorKind
  | tooFewOperands .. => .arity
  | invalidIdentifier _ => .identifier
  | functionName _ | signatureMissing | signatureKind | misplacedArgument _ | flagShape _
  | docKind => .signature
  | _ => .form

/-- The name that was refused. -/
def refusedName? : Cause → Option String
  | invalidIdentifier name => some name
  | _ => none

def text : Cause → String
  | unknownValue t => "Cannot emit value of type " ++ t
  | tooFewOperands op n =>
    "Infix operator " ++ op ++ " needs 2 arguments; got " ++ toString n
  | invalidIdentifier name => "Invalid bash symbol " ++ name
  | oddDerefOptions => "deref options must be key/value pairs"
  | oddCaseClauses => "case needs pattern/body pairs"
  | loopBinding => "doseq binding must be [var values]"
  | mergeTarget => "merge! needs a mapping"
  | notSpecial head => head.display ++ " is not a special form"
  | unknownDialect name => "Unknown dialect '" ++ name ++ "'"
  | functionName found => "function name must be a symbol; got " ++ found.display
  | signatureMissing => "defn needs a signature"
  | signatureKind => "function signature must be a sequence"
  | misplacedArgument name => "positional argument " ++ name ++ " follows a flag spec"
  | flagShape found =>
    "flag spec must be [type long short doc default]; got " ++ found.display
  | docKind => "function doc string must be text"

end Cause

structure EmitError where
  cause : Cause
  /-- The rule that was broken; without one, the head of the attached form. -/
  rule : Option String := none
  form : Option Sexpr := none
  location : Option Location := none

namespace EmitError

/-- The cause, the rule in brackets, and where the attached form was written. -/
def message (e : EmitError) : String :=
  let rule := match e.rule with
    | some r => " (in " ++ r ++ ")"
    | none => ""
  let location := match e.location with
    | some l => " (" ++ l.cite ++ ")"
    | none => ""
  e.cause.text ++ rule ++ location

/-- Attach a form to an error that has none. A rule given where the error arose stays. -/
def attach (form : Sexpr) (e : EmitError) : EmitError :=
  match e.form with
  | some _ => e
  | none =>
    { e with form := some form, location := form.location?, rule := e.rule.or form.headName? }

end EmitError

inductive Failure where
  /-- A ratio that no double is large enough for. -/
  | overflow
  | refused (e : EmitError)

namespace Failure

def message : Failure → String
  | overflow => "integer division result too large for a float"
  | refused e => e.message

/-- A refusal outside all forms. -/
def ofCause (cause : Cause) (rule : Option String := none) : Failure := .refused { cause, rule }

/-- A failure as seen from outside an expression: a form is attached to it, other expressions leave
it alone. -/
def within (e : Sexpr) : Failure → Failure
  | refused err => if e.isForm then refused (err.attach e) else refused err
  | overflow => overflow

end Failure

/-- The text of an expression, or the failure to give it one. -/
abbrev Outcome := Except Failure String

end SexprShell.Script
