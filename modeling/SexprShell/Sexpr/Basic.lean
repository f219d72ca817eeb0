import SexprShell.Number.Double

/-!
# Expressions

The trees that scripts are written in. A form is the parenthesised notation of a construct or a
command: a head followed by arguments. Sequences and mappings are data, and names are kept apart
from texts of the same spelling.
-/

namespace SexprShell

open Number

/-- The line of a source text on which a form starts, with the file and the column if known. -/
structure Location where
  line : Int
  file : Option String := none
  column : Option Int := none
  deriving DecidableEq

/-- How a location is cited: `file:line`, or `line n` where there is no file name. -/
def Location.cite (l : Location) : String :=
  match l.file with
  | none | some "" => "line " ++ toString l.line
  | some file => file ++ ":" ++ toString l.line

inductive NameKind where
  | symbol
  | keyword
  /-- A name that is neither, and is written without any mark. -/
  | bare
  deriving DecidableEq

inductive SequenceKind where
  | list
  /-- A sequence that may be a mapping's key. -/
  | tuple
  deriving DecidableEq

inductive Sexpr where
  | nil
  | bool (b : Bool)
  | int (n : Int)
  | ratio (q : Rat)
  | float (d : Double)
  | text (s : String)
  | name (kind : NameKind) (spelling : String)
  | seq (kind : SequenceKind) (items : List Sexpr)
  /-- Entries in order of insertion. -/
  | map (entries : List (Sexpr × Sexpr))
  | form (items : List Sexpr) (location : Option Location)
  /-- A value of a type that scripts do not know. -/
  | foreign (typeName : String)

namespace Sexpr

abbrev symbol (s : String) : Sexpr := .name .symbol s

abbrev keyword (s : String) : Sexpr := .name .keyword s

/-- A keyword from its name, with or without the leading colon. -/
def ofKeyword (s : String) : Sexpr :=
  match s.toList with
  | ':' :: cs => keyword (String.ofList cs)
  | _ => keyword s

/-- A form from its head and arguments. A text in head position stands for a symbol. -/
def call (head : Sexpr) (args : List Sexpr) (location : Option Location := none) : Sexpr :=
  match head with
  | text s => form (symbol s :: args) location
  | _ => form (head :: args) location

/-! ## Kinds -/

def isForm : Sexpr → Bool
  | form .. => true
  | _ => false

def isSymbol : Sexpr → Bool
  | name .symbol _ => true
  | _ => false

def isSeq : Sexpr → Bool
  | seq .. => true
  | _ => false

def isMap : Sexpr → Bool
  | map _ => true
  | _ => false

def isText : Sexpr → Bool
  | text _ => true
  | _ => false

/-- The characters of a text or a name of any kind. -/
def spelling? : Sexpr → Option String
  | text s | name _ s => some s
  | _ => none

/-! ## Forms -/

/-- The items of a form; none for anything else. -/
def items : Sexpr → List Sexpr
  | form items _ => items
  | _ => []

/-- Where a form was written; nothing for anything else. -/
def location? : Sexpr → Option Location
  | form _ location => location
  | _ => none

/-- The first item; nil where there is none. -/
def headOf (items : List Sexpr) : Sexpr := items.headD nil

def head (e : Sexpr) : Sexpr := headOf e.items

def args (e : Sexpr) : List Sexpr := e.items.tail

/-- The argument at a place; nil where it is missing. -/
def argAt (args : List Sexpr) (i : Nat) : Sexpr := args.getD i nil

/-- The first arguments of a form, filled up with nil to a given count. A negative count says
instead how many arguments are left out at the end. -/
def paddedArgs (e : Sexpr) : Int → List Sexpr
  | .ofNat count => (List.range count).map (argAt e.args)
  | .negSucc n => e.args.take (e.args.length - (n + 1))

/-- The name of a form's head, if that is a symbol. -/
def headName? : Sexpr → Option String
  | form (name .symbol s :: _) _ => some s
  | _ => none

/-- A form headed by `do`, whose statements stand on lines of their own. -/
def isBlock (e : Sexpr) : Bool := e.headName? == some "do"

/-! ## Height -/

mutual

/-- The length of the longest path from an expression down to a leaf, the leaf included. -/
def height : Sexpr → Nat
  | seq _ items | form items _ => heightOfItems items + 1
  | map entries => heightOfEntries entries + 1
  | _ => 1

def heightOfItems : List Sexpr → Nat
  | [] => 1
  | e :: es => max e.height (heightOfItems es)

def heightOfEntries : List (Sexpr × Sexpr) → Nat
  | [] => 1
  | (k, v) :: es => max (max k.height v.height) (heightOfEntries es)

end

theorem height_le_of_mem {e : Sexpr} : ∀ {items : List Sexpr}, e ∈ items →
    e.height ≤ heightOfItems items
  | x :: xs, h => by
    simp only [heightOfItems]
    cases List.mem_cons.mp h with
    | inl h => subst h; omega
    | inr h => have := height_le_of_mem h; omega

theorem height_key_le {k v : Sexpr} : ∀ {entries : List (Sexpr × Sexpr)}, (k, v) ∈ entries →
    k.height ≤ heightOfEntries entries ∧ v.height ≤ heightOfEntries entries
  | (x, y) :: es, h => by
    simp only [heightOfEntries]
    cases List.mem_cons.mp h with
    | inl h => cases h; omega
    | inr h => have := height_key_le h; omega

theorem one_le_heightOfItems : ∀ items : List Sexpr, 1 ≤ heightOfItems items
  | [] => Nat.le_refl 1
  | _ :: xs => by
    have := one_le_heightOfItems xs
    simp only [heightOfItems]; omega

theorem one_le_heightOfEntries : ∀ entries : List (Sexpr × Sexpr), 1 ≤ heightOfEntries entries
  | [] => Nat.le_refl 1
  | _ :: es => by
    have := one_le_heightOfEntries es
    simp only [heightOfEntries]; omega

theorem one_le_height (e : Sexpr) : 1 ≤ e.height := by
  cases e <;> simp [height]

end Sexpr

end SexprShell
