/-
This file defines blanks, the trimming of text, and its parts between separators.
-/

namespace Storyboard.Text

/-- A blank is a space, a line or field separator, or a space of another width. -/
def isBlank (character : Char) : Bool :=
  let code := character.toNat
  (0x09 ≤ code && code ≤ 0x0D) || (0x1C ≤ code && code ≤ 0x20) || code = 0x85 || code = 0xA0 ||
    code = 0x1680 || (0x2000 ≤ code && code ≤ 0x200A) || code = 0x2028 || code = 0x2029 ||
    code = 0x202F || code = 0x205F || code = 0x3000

/-- Drops the characters at both ends that satisfy a predicate. -/
def trimBy (drops : Char → Bool) (characters : List Char) : List Char :=
  ((characters.dropWhile drops).reverse.dropWhile drops).reverse

/-- Drops the blanks at both ends. -/
def trim (text : String) : String := String.ofList (trimBy isBlank text.toList)

/-- The parts of a text between its separators. -/
def parts (separator : Char) (text : String) : List String := (text.toList.splitOn separator).map String.ofList

/-- Text that is not blank throughout. -/
def isFilled (text : String) : Bool := !text.toList.all isBlank

end Storyboard.Text
