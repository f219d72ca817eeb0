import SexprShell.Number.Ratio
import SexprShell.Script.Error

/-!
# Literals

The texts of expressions without parts. Texts and names are written as their characters: whether
they are quoted is up to the form around them. Integers of any length are written: the limit that an
interpreter may be configured to put on the digits of an integer, 4300 of them unless it is changed,
is taken as switched off.
-/

namespace SexprShell.Script

open Number

/-- The text of a literal. A ratio may be too large to be written; expressions with parts and values
of foreign types are no literals. -/
def literal : Sexpr → Outcome
  | .nil => .ok "null"
  | .bool b => .ok (if b then "true" else "false")
  | .int n => .ok (toString n)
  | .ratio q =>
    match ratioText? q with
    | some s => .ok s
    | none => .error .overflow
  | .float d => .ok d.toText
  | .text s | .name _ s => .ok s
  | .seq .list _ => .error (.ofCause (.unknownValue "list"))
  | .seq .tuple _ => .error (.ofCause (.unknownValue "tuple"))
  | .map _ => .error (.ofCause (.unknownValue "dict"))
  | .form .. => .error (.ofCause (.unknownValue "Form"))
  | .foreign t => .error (.ofCause (.unknownValue t))

end SexprShell.Script
