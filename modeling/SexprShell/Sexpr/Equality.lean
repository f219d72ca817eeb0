import SexprShell.Sexpr.Basic

/-!
# Equality of expressions

Numbers and booleans are equal by exact value, whatever their representation, and the value that is
no number equals nothing. Names are equal to names of their kind only. Mappings are equal whatever
the order of their entries, and forms whatever their locations. Of a foreign value only the type is
known, and values of one type are equal; but a plain object equals only itself, and no two
expressions hold the same one.
-/

namespace SexprShell.Sexpr

open Number

/-- A place on the number line, its two ends included. -/
inductive Quantity where
  | exact (q : Rat)
  | infinite (negative : Bool)
  deriving DecidableEq

/-- The quantity that a number or a boolean stands for. -/
def quantity? : Sexpr → Option Quantity
  | bool b => some (.exact (if b then 1 else 0))
  | int n => some (.exact n)
  | ratio q => some (.exact q)
  | float (.infinite negative) => some (.infinite negative)
  | float d => d.value?.map .exact
  | _ => none

/-- Equality of expressions without parts. -/
def sameAtom (a b : Sexpr) : Bool :=
  match a, b with
  | nil, nil => true
  | text s, text t => s == t
  | name k s, name l t => k == l && s == t
  | foreign s, foreign t => s == t && s != "object"
  | a, b => match a.quantity?, b.quantity? with
    | some x, some y => x == y
    | _, _ => false

mutual

def same : Sexpr → Sexpr → Bool
  | seq k xs, b => match b with
    | seq l ys => k == l && sameItems xs ys
    | _ => false
  | form xs _, b => match b with
    | form ys _ => sameItems xs ys
    | _ => false
  | map es, b => match b with
    | map fs => es.length == fs.length && sameEntries es fs
    | _ => false
  | a, b => sameAtom a b

/-- Equality of expressions place by place. -/
def sameItems : List Sexpr → List Sexpr → Bool
  | [], ys => ys.isEmpty
  | x :: xs, ys => match ys with
    | y :: ys => same x y && sameItems xs ys
    | [] => false

/-- Whether each of the entries has an equal one among others. -/
def sameEntries : List (Sexpr × Sexpr) → List (Sexpr × Sexpr) → Bool
  | [], _ => true
  | (k, v) :: es, fs => fs.any (fun f => same k f.1 && same v f.2) && sameEntries es fs

end

/-! ## Inequality -/

/-- Whether expressions without parts are told apart. -/
def differAtom (a b : Sexpr) : Bool :=
  match a, b with
  | nil, nil => false
  | text s, text t => s != t
  | name k s, name l t => k != l || s != t
  | foreign s, foreign t => s != t || s == "object"
  | a, b => match a.quantity?, b.quantity? with
    | some x, some y => x != y
    | _, _ => true

mutual

/-- Whether two expressions are told apart. -/
def differ : Sexpr → Sexpr → Bool
  | seq k xs, b => match b with
    | seq l ys => k != l || differItems xs ys
    | _ => true
  | form xs _, b => match b with
    | form ys _ => differItems xs ys
    | _ => true
  | map es, b => match b with
    | map fs => es.length != fs.length || differEntries es fs
    | _ => true
  | a, b => differAtom a b

/-- Whether expressions are told apart at some place, or one place has an expression on one side
only. -/
def differItems : List Sexpr → List Sexpr → Bool
  | [], ys => !ys.isEmpty
  | x :: xs, ys => match ys with
    | y :: ys => differ x y || differItems xs ys
    | [] => true

/-- Whether one of the entries is told apart from all others. -/
def differEntries : List (Sexpr × Sexpr) → List (Sexpr × Sexpr) → Bool
  | [], _ => false
  | (k, v) :: es, fs => fs.all (fun f => differ k f.1 || differ v f.2) || differEntries es fs

end

end SexprShell.Sexpr
