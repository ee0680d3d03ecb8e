/-
This file defines the routes of the service.
-/

import Storyboard.Text.Blank

namespace Storyboard.Server

/-- What a path asks for. -/
inductive Route where
  | health
  | formats
  | analyze
  | convert (format : String)
  | convertLink (format : String)
  deriving DecidableEq, Repr

namespace Route

/-- The method by which a route is taken. -/
def method : Route → String
  | .health | .formats => "GET"
  | _ => "POST"

/-- A line end after a path does not count. -/
def withoutLineEnd (text : String) : String :=
  match text.toList.reverse with
  | '\n' :: rest => String.ofList rest.reverse
  | _ => text

/-- The route of a path. A format is any part of a path that is not empty. -/
def ofPath? (path : String) : Option Route :=
  match Text.parts '/' path with
  | ["", part] => if withoutLineEnd part = "health" then some .health else none
  | ["", "v1", part] =>
      if withoutLineEnd part = "formats" then some .formats
      else if withoutLineEnd part = "analyze" then some .analyze
      else none
  | ["", "v1", "convert", format] => if format.isEmpty then none else some (.convert format)
  | ["", "v1", "convert", format, part] =>
      if !format.isEmpty ∧ withoutLineEnd part = "figma" then some (.convertLink format) else none
  | _ => none

/-- A path whose last slashes are too many leads elsewhere. -/
def isMisspelt (path : String) : Bool :=
  path.endsWith "/" &&
    (ofPath? (String.ofList (path.toList.reverse.dropWhile (· = '/')).reverse)).isSome

end Route

end Storyboard.Server
