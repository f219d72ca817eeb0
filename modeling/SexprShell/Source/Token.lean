import SexprShell.Number.Decimal
import SexprShell.Source.Position
import SexprShell.Source.Terminal

/-!
# Tokens

The lexemes that mean something, with the positions at which they start. `scan` cuts a text from the
left by the first terminal that matches and drops gaps and comments.
-/

namespace SexprShell.Source

open Number Text

/-- What a token without brackets writes. A ratio is kept as written. -/
inductive Atom where
  | ratio (numerator : Int) (denominator : Nat)
  | float (d : Decimal)
  | int (n : Int)
  | keyword (s : String)
  | text (s : String)
  | symbol (s : String)
  deriving DecidableEq

inductive Token where
  | opening (b : Bracket)
  | closing (b : Bracket)
  | deref
  | atom (a : Atom)
  deriving DecidableEq

/-- The character that a backslash and `c` write inside a text. -/
def escaped (c : Char) : Char :=
  if c = 'n' then '\n' else if c = 't' then '\t' else if c = 'r' then '\r'
  else if c = '0' then '\x00' else c

/-- The characters that the inside of a text writes. -/
def unescape : List Char → List Char
  | '\\' :: c :: cs => escaped c :: unescape cs
  | c :: cs => c :: unescape cs
  | [] => []

/-- Numerator and denominator of a ratio's lexeme. -/
def ratioOf (lexeme : List Char) : Atom :=
  .ratio (integerOf (lexeme.takeWhile (· != '/')))
    (digitsValue ((lexeme.dropWhile (· != '/')).drop 1))

/-- The token that a lexeme stands for; gaps and comments stand for none. -/
def Terminal.token? : Terminal → List Char → Option Token
  | .ratio, lexeme => some (.atom (ratioOf lexeme))
  | .float, lexeme => some (.atom (.float (Decimal.take lexeme).1))
  | .int, lexeme => some (.atom (.int (integerOf lexeme)))
  | .keyword, lexeme => some (.atom (.keyword (String.ofList (lexeme.drop 1))))
  | .text, lexeme => some (.atom (.text (String.ofList (unescape (lexeme.drop 1).dropLast))))
  | .symbol, lexeme => some (.atom (.symbol (String.ofList lexeme)))
  | .opening b, _ => some (.opening b)
  | .closing b, _ => some (.closing b)
  | .deref, _ => some .deref
  | .comment, _ | .gap, _ => none

/-- How a scan ends: at the end of the text, or at a character where no terminal matches. -/
inductive Ending where
  | complete
  | stuck (c : Char) (position : Position)
  deriving DecidableEq

/-- Cut a text into tokens. The first `skip` characters belong to a lexeme that has been dealt with
already. -/
def scan (skip : Nat) (p : Position) : List Char → List (Position × Token) × Ending
  | [] => ([], .complete)
  | c :: cs =>
    match skip with
    | n + 1 => scan n (p.next c) cs
    | 0 =>
      match Terminal.first? (c :: cs) with
      | none => ([], .stuck c p)
      | some (t, width) =>
        let (tokens, ending) := scan (width - 1) (p.next c) cs
        match t.token? ((c :: cs).take width) with
        | some token => ((p, token) :: tokens, ending)
        | none => (tokens, ending)

/-- Within a lexeme a scan only moves on. -/
theorem scan_skip (p : Position) : ∀ (n : Nat) (cs : List Char),
    scan n p cs = scan 0 (p.advance (cs.take n)) (cs.drop n)
  | 0, cs => by simp
  | n + 1, [] => by simp [scan]
  | n + 1, c :: cs => by
    rw [scan, scan_skip (p.next c) n cs]; rfl

end SexprShell.Source
