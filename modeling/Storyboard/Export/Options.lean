/-
This file defines the options of an export and the name of its main component.
-/

namespace Storyboard

namespace ComponentName

/-- The name that is used when a text holds no letter or digit. -/
def fallback : String := "FigmaPrototype"

/-- A letter becomes a capital. -/
def capitalized : List Char → List Char
  | [] => []
  | first :: rest => first.toUpper :: rest

/-- An identifier made of the plain letters and digits of a text, which starts with a capital. -/
def ofText (text : String) : String :=
  match text.toList.filter Char.isAlphanum with
  | [] => fallback
  | first :: rest =>
      if first.isDigit then String.ofList ("Screen".toList ++ first :: rest)
      else String.ofList (capitalized (first :: rest))

end ComponentName

structure ExportOptions where
  includeStyles : Bool := true
  minify : Bool := false
  includeImages : Bool := true
  componentName : String := ComponentName.fallback
  deriving DecidableEq, Repr, Inhabited

end Storyboard
