import SexprShell.Proofs.Sexpr.Entries
import SexprShell.Proofs.Source.Numeral

/-!
# The notation of expressions

`Sexpr.Readable` are the expressions that have a notation, `Written` is the notation as a sequence
of pieces, and `Laid` lays pieces out as text: with anything between them that means nothing, and
with something where two pieces would run together otherwise.
-/

namespace SexprShell

open Source Text

/-! ## Readable expressions -/

/-- The names that are read as symbols. -/
structure IsSymbolName (s : String) : Prop where
  ne_nil : s.toList ≠ []
  word : ∀ c ∈ s.toList, isWordChar c
  head : ∀ c, s.toList.head? = some c → c ≠ ':' ∧ c ≠ '@'
  /-- It does not start with a digit, nor with a minus sign and a digit. -/
  noNumber : ∀ sign c rest, sign = [] ∨ sign = ['-'] → s.toList = sign ++ c :: rest →
    isDigit c = false
  unnamed : s ≠ "nil" ∧ s ≠ "true" ∧ s ≠ "false"

/-- Nothing but a minus sign in front could make a number of a name. -/
theorem IsSymbolName.of_head {s : String} {c : Char} {rest : List Char} (hs : s.toList = c :: rest)
    (hword : ∀ c ∈ s.toList, isWordChar c) (hc : isDigit c = false ∧ c ∉ [':', '@', '-'])
    (hs' : s ≠ "nil" ∧ s ≠ "true" ∧ s ≠ "false") : IsSymbolName s where
  ne_nil := by simp [hs]
  word := hword
  head := by
    intro d hd
    cases (Option.some.inj ((congrArg List.head? hs).symm.trans hd) : c = d)
    simp_all
  noNumber := by
    rintro sign d rest' (rfl | rfl) h
    · cases hs.symm.trans h
      exact hc.1
    · cases hs.symm.trans h
      simp at hc
  unnamed := hs'

/-- The names that are read as keywords. -/
structure IsKeywordName (s : String) : Prop where
  ne_nil : s.toList ≠ []
  word : ∀ c ∈ s.toList, isKeywordChar c

/-- Expressions that have a notation. There are no floats among them. -/
inductive Sexpr.Readable : Sexpr → Prop where
  | nil : Readable .nil
  | bool (b : Bool) : Readable (.bool b)
  | int (n : Int) : Readable (.int n)
  | ratio {q : Rat} : 2 ≤ q.den → Readable (.ratio q)
  | text (s : String) : Readable (.text s)
  | symbol {s : String} : IsSymbolName s → Readable (.symbol s)
  | keyword {s : String} : IsKeywordName s → Readable (.keyword s)
  | list {items : List Sexpr} : (∀ e ∈ items, Readable e) → Readable (.seq .list items)
  | form {items : List Sexpr} {location : Option Location} : (∀ e ∈ items, Readable e) →
      Readable (.form items location)
  /-- The keys are pairwise unequal, and neither a list nor a mapping is anywhere in them. -/
  | map {entries : List (Sexpr × Sexpr)} : (∀ p ∈ entries, Readable p.1) →
      (∀ p ∈ entries, Readable p.2) → entries.Pairwise (fun p q => p.1.same q.1 = false) →
      (∀ p ∈ entries, p.1.unhashable? = none) → Readable (.map entries)

/-! ## Pieces -/

/-- What a notation consists of. -/
inductive Piece where
  | opening (b : Bracket)
  | closing (b : Bracket)
  /-- The mark in front of what is dereferenced. -/
  | mark
  | atom (lexeme : List Char)

namespace Piece

def chars : Piece → List Char
  | opening b => [b.opening]
  | closing b => [b.closing]
  | mark => ['@']
  | atom l => l

def isAtom : Piece → Bool
  | atom _ => true
  | _ => false

/-- Whether a piece would run together with an atom in front of it. -/
def joins : Piece → Bool
  | atom _ | mark => true
  | _ => false

end Piece

/-- A character between the quotes of a text. -/
def quotedTextChar (c : Char) : List Char := if c = '"' ∨ c = '\\' then ['\\', c] else [c]

/-- The lexeme of an expression without parts. -/
def Sexpr.lexeme? : Sexpr → Option (List Char)
  | .nil => some "nil".toList
  | .bool b => some (if b then "true" else "false").toList
  | .int n => some (toString n).toList
  | .ratio q => some ((toString q.num).toList ++ '/' :: (toString q.den).toList)
  | .text s => some ('"' :: (s.toList.flatMap quotedTextChar ++ ['"']))
  | .name .symbol s => some s.toList
  | .name .keyword s => some (':' :: s.toList)
  | _ => none

/-- The pieces that expressions are written with, one expression after another. -/
inductive Written : List Sexpr → List Piece → Prop where
  | nil : Written [] []
  | atom {e : Sexpr} {l : List Char} {es : List Sexpr} {ps : List Piece} : e.lexeme? = some l →
      Written es ps → Written (e :: es) (.atom l :: ps)
  | form {items es : List Sexpr} {location : Option Location} {inner ps : List Piece} :
      Written items inner → Written es ps → Written (.form items location :: es)
        (.opening .round :: (inner ++ .closing .round :: ps))
  | list {items es : List Sexpr} {inner ps : List Piece} : Written items inner → Written es ps →
      Written (.seq .list items :: es) (.opening .square :: (inner ++ .closing .square :: ps))
  | map {entries : List (Sexpr × Sexpr)} {es : List Sexpr} {inner ps : List Piece} :
      Written (Sexpr.keysAndValues entries) inner → Written es ps →
      Written (.map entries :: es) (.opening .curly :: (inner ++ .closing .curly :: ps))
  /-- The short form of `(deref item)`. -/
  | deref {item : Sexpr} {es : List Sexpr} {location : Option Location} {ps : List Piece} :
      Written (item :: es) ps →
      Written (.form [.symbol "deref", item] location :: es) (.mark :: ps)

/-! ## Layouts -/

/-- What means nothing between two pieces: blanks, commas, and comments with the end of their
line. -/
inductive Spacing : List Char → Prop where
  | nil : Spacing []
  | gap {c : Char} {g : List Char} : isGap c → Spacing g → Spacing (c :: g)
  | comment {w g : List Char} : (∀ c ∈ w, c ≠ '\n') → Spacing g →
      Spacing (';' :: (w ++ '\n' :: g))

/-- A text with the given pieces in it. The flag says whether there is an atom right in front. -/
inductive Laid : Bool → List Piece → List Char → Prop where
  | nil {afterAtom : Bool} {g : List Char} : Spacing g → Laid afterAtom [] g
  | cons {afterAtom : Bool} {g cs : List Char} {p : Piece} {ps : List Piece} : Spacing g →
      (afterAtom = true → p.joins = true → g ≠ []) → Laid p.isAtom ps cs →
      Laid afterAtom (p :: ps) (g ++ (p.chars ++ cs))

/-- A text that expressions are written in. -/
def IsNotation (es : List Sexpr) (src : String) : Prop :=
  ∃ ps, Written es ps ∧ Laid false ps src.toList

/-! ## Where atoms end -/

/-- A text does not go on with a character of a word. -/
def EndsWord (rest : List Char) : Prop := ∀ c, rest.head? = some c → isWordChar c = false

theorem EndsWord.not_digit {rest : List Char} (h : EndsWord rest) :
    ∀ c, rest.head? = some c → isDigit c = false := by
  intro c hc
  cases hd : isDigit c with
  | false => rfl
  | true => rw [← h c hc, isWordChar_of_isDigit hd]

theorem isWordChar_of_isGap {c : Char} (h : isGap c) : isWordChar c = false := by
  simp only [isGap, Bool.or_eq_true, beq_iff_eq] at h
  rcases h with h | rfl
  · simp [isWordChar, h]
  · decide

theorem Spacing.endsWord {g cs : List Char} (H : Spacing g) (hg : g = [] → EndsWord cs) :
    EndsWord (g ++ cs) := by
  cases H with
  | nil => exact hg rfl
  | gap hc _ => rintro c ⟨⟩; exact isWordChar_of_isGap hc
  | comment _ _ => rintro c ⟨⟩; decide

/-- What is laid out behind an atom does not go on with the atom. -/
theorem Laid.endsWord {ps : List Piece} {cs : List Char} (H : Laid true ps cs) : EndsWord cs := by
  cases H with
  | nil hg =>
    have : EndsWord (cs ++ []) := hg.endsWord fun _ c hc => by cases hc
    rwa [List.append_nil] at this
  | @cons _ g cs p ps hg hj _ =>
    refine hg.endsWord fun hnil => ?_
    cases p with
    | opening b => cases b <;> (rintro c ⟨⟩; decide)
    | closing b => cases b <;> (rintro c ⟨⟩; decide)
    | mark | atom => exact absurd hnil (hj rfl rfl)

end SexprShell
