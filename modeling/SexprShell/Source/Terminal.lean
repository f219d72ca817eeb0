import SexprShell.Text.Blank
import SexprShell.Text.Digit

/-!
# Terminals

The kinds of lexeme that a source text is cut into. A terminal says how many characters at the start
of a text belong to it, as many as possible; `Terminal.all` lists the terminals in the order in
which they are tried.
-/

namespace SexprShell.Source

open Text

inductive Bracket where
  | round
  | square
  | curly
  deriving DecidableEq

namespace Bracket

def opening : Bracket → Char
  | round => '('
  | square => '['
  | curly => '{'

def closing : Bracket → Char
  | round => ')'
  | square => ']'
  | curly => '}'

end Bracket

inductive Terminal where
  | ratio
  | float
  | int
  | keyword
  | text
  | symbol
  | opening (b : Bracket)
  | closing (b : Bracket)
  /-- The mark `@` in front of an item. -/
  | deref
  | comment
  /-- Blanks and commas between items. -/
  | gap
  deriving DecidableEq

/-! ## Classes of characters -/

/-- The characters other than blanks that end a word. -/
def wordBreaks : List Char := ['(', ')', '[', ']', '{', '}', '"', ';', ',']

/-- The characters that a word, once begun, is made of. -/
def isWordChar (c : Char) : Bool := !isBlank c && !wordBreaks.contains c

/-- The characters that a symbol can begin with. -/
def isSymbolStart (c : Char) : Bool := isWordChar c && c != ':' && c != '@'

/-- The characters behind the colon of a keyword. -/
def isKeywordChar (c : Char) : Bool := isWordChar c && c != '@'

def isGap (c : Char) : Bool := isBlank c || c == ','

/-! ## Widths -/

/-- The number of characters at the start of a text that satisfy `p`. -/
def runWidth (p : Char → Bool) (cs : List Char) : Nat := (cs.takeWhile p).length

/-- The same, if there is at least one. -/
def runWidth? (p : Char → Bool) (cs : List Char) : Option Nat :=
  match runWidth p cs with
  | 0 => none
  | n => some n

/-- An optional minus sign and at least one digit. -/
def intWidth? : List Char → Option Nat
  | '-' :: cs => (runWidth? isDigit cs).map (· + 1)
  | cs => runWidth? isDigit cs

/-- An integer, a separator and at least one digit. -/
def pairWidth? (separator : Char) (cs : List Char) : Option Nat :=
  match intWidth? cs with
  | none => none
  | some n =>
    match cs.drop n with
    | c :: rest => if c = separator then (runWidth? isDigit rest).map (n + 1 + ·) else none
    | [] => none

/-- A letter `e`, an optional sign and at least one digit; zero where there is no such exponent. -/
def exponentWidth : List Char → Nat
  | c :: rest =>
    if c = 'e' ∨ c = 'E' then
      match rest with
      | s :: digits =>
        if s = '-' ∨ s = '+' then ((runWidth? isDigit digits).map (· + 2)).getD 0
        else ((runWidth? isDigit rest).map (· + 1)).getD 0
      | [] => 0
    else 0
  | [] => 0

/-- From behind the opening quote of a text up to and including its closing quote. A backslash takes
the next character with it. -/
def closingWidth? : List Char → Option Nat
  | '"' :: _ => some 1
  | '\\' :: _ :: cs => (closingWidth? cs).map (· + 2)
  | ['\\'] => none
  | _ :: cs => (closingWidth? cs).map (· + 1)
  | [] => none

namespace Terminal

/-- How many characters at the start of a text a terminal takes, if it matches there. -/
def width? : Terminal → List Char → Option Nat
  | ratio, cs => pairWidth? '/' cs
  | float, cs => (pairWidth? '.' cs).map fun n => n + exponentWidth (cs.drop n)
  | int, cs => intWidth? cs
  | keyword, ':' :: cs => (runWidth? isKeywordChar cs).map (· + 1)
  | text, '"' :: cs => (closingWidth? cs).map (· + 1)
  | symbol, c :: cs => if isSymbolStart c then some (1 + runWidth isWordChar cs) else none
  | opening b, c :: _ => if c = b.opening then some 1 else none
  | closing b, c :: _ => if c = b.closing then some 1 else none
  | deref, '@' :: _ => some 1
  | comment, ';' :: cs => some (1 + runWidth (· != '\n') cs)
  | gap, cs => runWidth? isGap cs
  | _, _ => none

/-- Every terminal, in the order in which they are tried. -/
def all : List Terminal :=
  [ratio, float, int, keyword, text, symbol, opening .round, closing .round, opening .square,
    closing .square, opening .curly, closing .curly, deref, comment, gap]

/-- The first terminal that matches at the start of a text, with its width. -/
def first? (cs : List Char) : Option (Terminal × Nat) :=
  all.findSome? fun t => (t.width? cs).map (t, ·)

end Terminal

end SexprShell.Source
