import SexprShell.Script.Literal
import SexprShell.Script.Fragment

/-!
# Signatures

The arguments of a function: the names of positional arguments, then the flags that the function
takes. Flags are declared by calls at the start of the function.
-/

namespace SexprShell.Script

/-- A flag, written as a sequence of its five fields. -/
structure FlagSpec where
  kind : SequenceKind
  type : Sexpr
  long : Sexpr
  short : Sexpr
  doc : Sexpr
  default : Sexpr

namespace FlagSpec

def ofSexpr? : Sexpr → Option FlagSpec
  | .seq kind [type, long, short, doc, default] => some ⟨kind, type, long, short, doc, default⟩
  | _ => none

def toSexpr (f : FlagSpec) : Sexpr := .seq f.kind [f.type, f.long, f.short, f.doc, f.default]

theorem toSexpr_of_ofSexpr? {e : Sexpr} {f : FlagSpec} (h : ofSexpr? e = some f) :
    f.toSexpr = e := by
  unfold ofSexpr? at h
  split at h
  · cases h; rfl
  · cases h

/-- A field of a declaration. Nil stands for an empty field. -/
def field : Sexpr → Outcome
  | .nil => .ok ""
  | e => literal e

/-- The call that declares a flag. Its type is rendered last. -/
def declaration (f : FlagSpec) : Outcome := do
  let long ← field f.long
  let default ← field f.default
  let doc ← field f.doc
  let short ← field f.short
  let type ← field f.type
  .ok ("DEFINE_" ++ type ++ " " ++
    " ".intercalate [doubleQuoted long, doubleQuoted default, doubleQuoted doc,
      doubleQuoted short] ++ "\n")

end FlagSpec

structure Signature where
  positional : List String
  flags : List FlagSpec

namespace Signature

/-- Flags, among which no positional argument may stand. -/
def flagsOf : List Sexpr → Except Failure (List FlagSpec)
  | [] => .ok []
  | .name .symbol s :: _ => .error (.ofCause (.misplacedArgument s))
  | e :: es =>
    match FlagSpec.ofSexpr? e with
    | some f => (flagsOf es).map (f :: ·)
    | none => .error (.ofCause (.flagShape e))

/-- Symbols up to the first flag, then flags. -/
def ofItems : List Sexpr → Except Failure Signature
  | .name .symbol s :: es => (ofItems es).map fun g => { g with positional := s :: g.positional }
  | es => (flagsOf es).map fun flags => ⟨[], flags⟩

/-- A signature is written as a sequence. -/
def ofSexpr : Sexpr → Except Failure Signature
  | .seq _ items => ofItems items
  | _ => .error (.ofCause .signatureKind)

end Signature

/-- The call that sets the help text of a function's flags. -/
def helpText : Sexpr → Outcome
  | .text s => .ok ("FLAGS_HELP=" ++ doubleQuoted s ++ "\n")
  | _ => .error (.ofCause .docKind)

/-- The lines that parse a function's flags. -/
def flagParsing : String := "FLAGS \"$@\" || exit 1\neval set -- \"${FLAGS_ARGV}\"\n"

/-- The help text, if there is one, and the declarations of flags, if there are any. -/
def declarations (doc : Sexpr) (flags : List FlagSpec) : Outcome := do
  let help ← match doc with
    | .nil => .ok ""
    | doc => helpText doc
  let declared ← flags.mapM FlagSpec.declaration
  .ok (help ++ String.join declared ++ if flags.isEmpty then "" else flagParsing)

end SexprShell.Script
