import SexprShell.Source.Datum

/-!
# Reading

From a text to the expressions it writes. Round brackets are forms, square brackets lists and curly
brackets mappings; `@x` is `(deref x)`. All errors of notation come before all errors of meaning,
and of the latter the first in the order in which items are completed.
-/

namespace SexprShell.Source

open Number

/-- The expression that an atom writes. -/
def Atom.toSexpr : Atom → Except ReadError Sexpr
  | .ratio n d =>
    if d = 0 then .error (.zeroDenominator n)
    else
      let q := mkRat n d
      .ok (if q.den = 1 then .int q.num else .ratio q)
  | .float d => .ok (.float d.toDouble)
  | .int n => .ok (.int n)
  | .keyword s => .ok (.keyword s)
  | .text s => .ok (.text s)
  | .symbol s =>
    .ok (if s = "nil" then .nil else if s = "true" then .bool true
      else if s = "false" then .bool false else .symbol s)

/-- The mapping with the given items as keys and values in turn. -/
def mappingOf (items : List Sexpr) : Except ReadError Sexpr :=
  if items.length % 2 = 1 then .error .oddMap
  else
    match Sexpr.entriesOf (Sexpr.pairUp items) with
    | .error u => .error (.unhashableKey u)
    | .ok entries => .ok (.map entries)

/-- The expression that items between brackets write. -/
def groupOf (b : Bracket) (location : Option Location) (items : List Sexpr) :
    Except ReadError Sexpr :=
  match b with
  | .round => .ok (.form items location)
  | .square => .ok (.seq .list items)
  | .curly => mappingOf items

mutual

/-- The expression that a datum writes; `locate` says which locations forms are given. -/
def Datum.toSexpr (locate : Position → Option Location) : Datum → Except ReadError Sexpr
  | .atom a => a.toSexpr
  | .group b p items =>
    match itemsToSexprs locate items with
    | .ok es => groupOf b (locate p) es
    | .error e => .error e
  | .deref p item =>
    match item.toSexpr locate with
    | .ok e => .ok (.form [.symbol "deref", e] (locate p))
    | .error e => .error e

def itemsToSexprs (locate : Position → Option Location) :
    List Datum → Except ReadError (List Sexpr)
  | [] => .ok []
  | d :: ds =>
    match d.toSexpr locate with
    | .ok e =>
      match itemsToSexprs locate ds with
      | .ok es => .ok (e :: es)
      | .error e => .error e
    | .error e => .error e

end

/-- The location of what starts at a position of a file, if locations are wanted. -/
def locateIn (file : Option String) (track : Bool) (p : Position) : Option Location :=
  if track then some ⟨p.line, file, some p.column⟩ else none

/-- Every expression of a text, in order. -/
def readAll (src : String) (file : Option String := none) (track : Bool := false) :
    Except ReadError (List Sexpr) :=
  match parse src.toList with
  | .ok data => itemsToSexprs (locateIn file track) data
  | .error e => .error e

/-- The expression of a text that holds exactly one. -/
def read (src : String) (file : Option String := none) (track : Bool := false) :
    Except ReadError Sexpr :=
  match readAll src file track with
  | .ok [e] => .ok e
  | .ok es => .error (.notSingle es.length)
  | .error e => .error e

end SexprShell.Source
