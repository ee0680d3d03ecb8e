/-
This file checks texts, numbers and flags that came from outside, and converts those written in another way.
-/

import Storyboard.Number.Basic
import Storyboard.Schema.Checked
import Storyboard.Schema.WholeText

namespace Storyboard.Schema

/-- A text. Nothing else is taken for one. -/
def text : Json → Checked String
  | .string value => .valid value
  | value => .fail .notText value

/-- A text of a least number of characters. -/
def textOfAtLeast (least : Nat) (value : Json) : Checked String :=
  (text value).andThen fun checked =>
    if checked.length < least then .fail (.textTooShort least) value else .valid checked

/-- A text of at most a number of characters. -/
def textOfAtMost (most : Nat) (value : Json) : Checked String :=
  (text value).andThen fun checked =>
    if most < checked.length then .fail (.textTooLong most) value else .valid checked

/-- The number that a text is. -/
def readDouble? (text : String) : Option Double :=
  let characters := text.toList
  match Numeral.double? (Text.trimBy isWhiteSpace characters) with
  | some value => some value
  | none => (withoutUnderscores? characters).bind Numeral.double?

def double (value : Json) : Checked Double :=
  match value with
  | .double checked => .valid checked
  | .int checked =>
      let nearest := Double.ofInt checked
      if nearest.isFinite then .valid nearest else .fail .notNumber value
  | .bool checked => .valid (if checked then .one else .zero)
  | .string text => (readDouble? text).elim (.fail .unreadableNumber value) .valid
  | _ => .fail .notNumber value

/-- The first number, without its sign, that 64 bits do not hold. -/
def wordBound : Nat := 0x8000000000000000

/-- The whole number that a number with a point stands for, if it is less than the bound in size. -/
def shortWhole? (value : Double) : Option Int :=
  match value.truncate with
  | .ok truncated => if value.isWhole && truncated.natAbs < wordBound then some truncated else none
  | .error _ => none

/-- A whole number. A number with a point is one when it has no fraction and is not too large. -/
def whole (value : Json) : Checked Int :=
  match value with
  | .int checked => .valid checked
  | .bool checked => .valid (if checked then 1 else 0)
  | .double checked =>
      if !checked.isFinite then .fail .notFinite value
      else if !checked.isWhole then .fail .fractionalWhole value
      else (shortWhole? checked).elim (.fail .oversizedWhole value) .valid
  | .string text =>
      match WholeText.read text with
      | .ok checked => .valid checked
      | .error kind => .fail kind value
  | _ => .fail .notWhole value

def trueWords : List String := ["1", "true", "t", "yes", "y", "on"]

def falseWords : List String := ["0", "false", "f", "no", "n", "off"]

/-- A whole number of 64 bits. -/
def isWord64 (value : Int) : Bool := -(wordBound : Int) ≤ value && value < wordBound

/-- The flag that a whole number stands for. -/
def flagOfInt? (value : Int) : Option Bool :=
  if value = 0 then some false
  else if value = 1 then some true
  else none

/-- The flag that a word stands for, where case does not count. -/
def flagOfWord? (word : String) : Option Bool :=
  let small := String.ofList (word.toList.map Char.toLower)
  if small ∈ trueWords then some true
  else if small ∈ falseWords then some false
  else none

def flag (value : Json) : Checked Bool :=
  match value with
  | .bool checked => .valid checked
  | .int checked =>
      if isWord64 checked then (flagOfInt? checked).elim (.fail .unreadableFlag value) .valid
      else .fail .notFlag value
  | .double checked =>
      match shortWhole? checked with
      | some truncated => (flagOfInt? truncated).elim (.fail .unreadableFlag value) .valid
      | none => .fail .notFlag value
  | .string word => (flagOfWord? word).elim (.fail .unreadableFlag value) .valid
  | _ => .fail .notFlag value

/-- A value may also be null. -/
def optional {α : Type} (check : Json → Checked α) (value : Json) : Checked (Option α) :=
  if value.isNull then .valid none else some <$> check value

/-- The bounds of a number, both optional. -/
structure Bounds where
  atMost? : Option Nat := none
  atLeast? : Option Nat := none
  above? : Option Nat := none

namespace Bounds

/-- The first bound that a value violates, given how the value compares with a bound. -/
def violation? (bounds : Bounds) (isAtMost isAtLeast isAbove : Nat → Bool) : Option IssueKind :=
  let tooGreat := bounds.atMost?.bind fun bound => if isAtMost bound then none else some (.aboveMost bound)
  let tooSmall := bounds.atLeast?.bind fun bound => if isAtLeast bound then none else some (.belowLeast bound)
  let notAbove := bounds.above?.bind fun bound => if isAbove bound then none else some (.notAbove bound)
  (tooGreat.or tooSmall).or notAbove

/-- The first bound that a number violates. The undefined number violates all of them. -/
def violationByDouble? (bounds : Bounds) (value : Double) : Option IssueKind :=
  bounds.violation?
    (fun bound => value.atMost (.ofInt bound))
    (fun bound => (Double.ofInt bound).atMost value)
    (fun bound => (Double.ofInt bound).less value)

/-- The first bound that a whole number violates. -/
def violationByWhole? (bounds : Bounds) (value : Int) : Option IssueKind :=
  bounds.violation?
    (fun bound => decide (value ≤ bound))
    (fun bound => decide ((bound : Int) ≤ value))
    (fun bound => decide ((bound : Int) < value))

end Bounds

def doubleWithin (bounds : Bounds) (value : Json) : Checked Double :=
  (double value).andThen fun checked =>
    match bounds.violationByDouble? checked with
    | some kind => .fail kind value
    | none => .valid checked

def wholeWithin (bounds : Bounds) (value : Json) : Checked Int :=
  (whole value).andThen fun checked =>
    match bounds.violationByWhole? checked with
    | some kind => .fail kind value
    | none => .valid checked

/-- A list whose items are checked. -/
def list {α : Type} (check : Json → Checked α) (value : Json) : Checked (List α) :=
  match value with
  | .array items => Checked.eachFrom check 0 items
  | _ => .fail .notList value

/-- The name of a field, and the other name that is taken for it. -/
structure FieldName where
  preferred : String
  other : String

def FieldName.single (name : String) : FieldName := ⟨name, name⟩

/-- A field under the name that the object uses for it. -/
def find? (fields : List (String × Json)) (name : FieldName) : Option (String × Json) :=
  match fields.lookup name.preferred with
  | some value => some (name.preferred, value)
  | none => (fields.lookup name.other).map fun value => (name.other, value)

/-- A field that may be missing. -/
def fieldOr {α : Type} (fields : List (String × Json)) (name : FieldName) (default : α)
    (check : Json → Checked α) : Checked α :=
  match find? fields name with
  | some (key, value) => (check value).under (.field key)
  | none => .valid default

/-- A field that must be there. -/
def required {α : Type} (fields : List (String × Json)) (name : FieldName) (check : Json → Checked α) :
    Checked α :=
  match find? fields name with
  | some (key, value) => (check value).under (.field key)
  | none => (Checked.fail .missing (.object fields)).under (.field name.preferred)

/-- An object of a named model. -/
def model {α : Type} (name : String) (check : List (String × Json) → Checked α) (value : Json) : Checked α :=
  match value with
  | .object fields => check fields
  | _ => .fail (.notModel name) value

end Storyboard.Schema
