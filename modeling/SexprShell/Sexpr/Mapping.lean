import SexprShell.Sexpr.Equality

/-!
# Building mappings

A mapping has one entry for each key, up to equality. A key that comes again keeps its first
spelling and its place, and takes the new value. What can change, a list, a mapping or a foreign
set, is no key, nor is anything that contains one.
-/

namespace SexprShell.Sexpr

/-- What keeps an expression from being a key. -/
inductive Unhashable where
  | list
  | map
  | set
  deriving DecidableEq

def Unhashable.typeName : Unhashable → String
  | list => "list"
  | map => "dict"
  | set => "set"

mutual

/-- The first list, mapping or set inside an expression, depth first; none in a key. -/
def unhashable? : Sexpr → Option Unhashable
  | seq .list _ => some .list
  | map _ => some .map
  | foreign "set" => some .set
  | seq .tuple items | form items _ => unhashableIn? items
  | _ => none

def unhashableIn? : List Sexpr → Option Unhashable
  | [] => none
  | e :: es => e.unhashable?.or (unhashableIn? es)

end

/-- Set the value under a key. -/
def insert (key value : Sexpr) : List (Sexpr × Sexpr) → List (Sexpr × Sexpr)
  | [] => [(key, value)]
  | (k, v) :: entries =>
    if k.same key then (k, value) :: entries else (k, v) :: insert key value entries

/-- Insert entries from left to right, the first of them being the earliest. -/
def insertAll (entries pairs : List (Sexpr × Sexpr)) : List (Sexpr × Sexpr) :=
  pairs.foldl (fun es p => insert p.1 p.2 es) entries

/-- The entries of the mapping with the given pairs, or what keeps the first bad key from being
one. -/
def entriesOf (pairs : List (Sexpr × Sexpr)) : Except Unhashable (List (Sexpr × Sexpr)) :=
  match pairs.findSome? fun p => p.1.unhashable? with
  | some u => .error u
  | none => .ok (insertAll [] pairs)

/-- Consecutive items two by two; an item left over at the end is dropped. -/
def pairUp : List α → List (α × α)
  | a :: b :: rest => (a, b) :: pairUp rest
  | _ => []

end SexprShell.Sexpr
