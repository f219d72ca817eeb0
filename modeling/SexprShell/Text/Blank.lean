import SexprShell.Text.Ranges

/-!
# Blank characters

The Unicode property `White_Space` and the four information separators U+001C to U+001F; what is
left of a text without the blanks around it.
-/

namespace SexprShell.Text

/-- The blank characters. -/
def blankRanges : List (Nat × Nat) := [
  (0x9, 0xD), (0x1C, 0x20), (0x85, 0x85), (0xA0, 0xA0), (0x1680, 0x1680), (0x2000, 0x200A),
  (0x2028, 0x2029), (0x202F, 0x202F), (0x205F, 0x205F), (0x3000, 0x3000)]

def isBlank (c : Char) : Bool := inRanges blankRanges c

/-- Whether a text holds nothing but blanks; the empty text does. -/
def allBlank (s : String) : Bool := s.toList.all isBlank

/-- Drop trailing characters as long as they satisfy `p`. -/
def dropEndWhile (p : Char → Bool) (s : String) : String :=
  String.ofList (s.toList.reverse.dropWhile p).reverse

/-- A text without the blanks at its two ends. -/
def strip (s : String) : String :=
  dropEndWhile isBlank (String.ofList (s.toList.dropWhile isBlank))

theorem toList_dropEndWhile (p : Char → Bool) (s : String) :
    (dropEndWhile p s).toList = (s.toList.reverse.dropWhile p).reverse := by
  simp [dropEndWhile]

theorem toList_strip (s : String) :
    (strip s).toList = ((s.toList.dropWhile isBlank).reverse.dropWhile isBlank).reverse := by
  simp [strip, dropEndWhile]

end SexprShell.Text
