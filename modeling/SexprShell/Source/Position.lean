/-!
# Positions in a source text

Lines and columns count characters from one; only a line feed starts a line.
-/

namespace SexprShell.Source

structure Position where
  line : Nat
  column : Nat
  deriving DecidableEq

namespace Position

/-- The position of the first character. -/
def start : Position := ⟨1, 1⟩

/-- The position behind a character. -/
def next (p : Position) (c : Char) : Position :=
  if c = '\n' then ⟨p.line + 1, 1⟩ else ⟨p.line, p.column + 1⟩

/-- The position behind a run of characters. -/
def advance (p : Position) (cs : List Char) : Position := cs.foldl next p

@[simp] theorem advance_nil (p : Position) : p.advance [] = p := rfl

@[simp] theorem advance_cons (p : Position) (c : Char) (cs : List Char) :
    p.advance (c :: cs) = (p.next c).advance cs := rfl

theorem advance_append (p : Position) (cs ds : List Char) :
    p.advance (cs ++ ds) = (p.advance cs).advance ds :=
  List.foldl_append

end Position

end SexprShell.Source
