/-
This file defines JSON values that keep the order of fields and tell whole numbers from others.
-/

import Storyboard.Number.Basic
import Storyboard.Text.Quoted

namespace Storyboard

/-- A JSON value. The fields of an object have distinct names and an order. -/
inductive Json where
  | null
  | bool (value : Bool)
  | int (value : Int)
  | double (value : Double)
  | string (value : String)
  | array (items : List Json)
  | object (fields : List (String × Json))
  deriving Inhabited

namespace Json

def fields? : Json → Option (List (String × Json))
  | .object fields => some fields
  | _ => none

def items? : Json → Option (List Json)
  | .array items => some items
  | _ => none

def string? : Json → Option String
  | .string value => some value
  | _ => none

def isObject (value : Json) : Bool := value.fields?.isSome

def isNull : Json → Bool
  | .null => true
  | _ => false

/-- The value is the word false, and not merely empty. -/
def isFalse : Json → Bool
  | .bool value => !value
  | _ => false

/-- Null, false, zero and whatever is empty count as absent. -/
def isAbsent : Json → Bool
  | .null => true
  | .bool value => !value
  | .int value => value = 0
  | .double value => value.same .zero
  | .string value => value.isEmpty
  | .array items => items.isEmpty
  | .object fields => fields.isEmpty

/-- A field, or null when the object lacks it. -/
def field (fields : List (String × Json)) (name : String) : Json :=
  (fields.lookup name).getD .null

/-- Replaces a field in its place, or adds it at the end. -/
def putField (fields : List (String × Json)) (name : String) (value : Json) : List (String × Json) :=
  if fields.any (·.1 = name) then
    fields.map fun (key, old) => if key = name then (key, value) else (key, old)
  else fields ++ [(name, value)]

/-- The word for the kind of a value in messages. -/
def kindName : Json → String
  | .null => "NoneType"
  | .bool _ => "bool"
  | .int _ => "int"
  | .double _ => "float"
  | .string _ => "str"
  | .array _ => "list"
  | .object _ => "dict"

mutual

/-- A value inside another one in messages, where strings are quoted. -/
def quotedText : Json → String
  | .null => "None"
  | .bool value => if value then "True" else "False"
  | .int value => toString value
  | .double value => NumberLayout.plain.text value
  | .string value => Text.Quoted.encode value
  | .array items => "[" ++ ", ".intercalate (quotedItems items) ++ "]"
  | .object fields => "\x7b" ++ ", ".intercalate (quotedFields fields) ++ "\x7d"

/-- The items of an array in messages. -/
def quotedItems : List Json → List String
  | [] => []
  | item :: rest => quotedText item :: quotedItems rest

/-- The fields of an object in messages. -/
def quotedFields : List (String × Json) → List String
  | [] => []
  | (name, value) :: rest => (Text.Quoted.encode name ++ ": " ++ quotedText value) :: quotedFields rest

end

/-- A value in messages, where a string stands for itself. -/
def plainText : Json → String
  | .string value => value
  | value => value.quotedText

/-- The most digits of a whole number that is read or written out. -/
def maxDigits : Nat := 4300

mutual

/-- Every whole number inside a value passes a test. -/
def everyWhole (test : Int → Bool) : Json → Bool
  | .int value => test value
  | .array items => itemsEveryWhole test items
  | .object fields => fieldsEveryWhole test fields
  | _ => true

/-- Every whole number inside the items passes a test. -/
def itemsEveryWhole (test : Int → Bool) : List Json → Bool
  | [] => true
  | item :: rest => everyWhole test item && itemsEveryWhole test rest

/-- Every whole number inside the fields passes a test. -/
def fieldsEveryWhole (test : Int → Bool) : List (String × Json) → Bool
  | [] => true
  | (_, value) :: rest => everyWhole test value && fieldsEveryWhole test rest

end

/-- A whole number has no more digits than are written out. -/
def fitsDigits (value : Int) : Bool := (Nat.toDigits 10 value.natAbs).length ≤ maxDigits

/-- A value can be written out when no whole number inside it has too many digits. -/
def isWritable : Json → Bool := everyWhole fitsDigits

/-- The text of a value, if it can be written out. -/
def written (value : Json) : Except NumberFault String :=
  if value.isWritable then .ok value.plainText else .error .tooLong

/-- The word that a value stands for, where an absent one gives way to a default. -/
def word (value : Json) (default : String) : Except NumberFault String :=
  if value.isAbsent then .ok default else value.written

mutual

/-- Every number inside a value is finite. -/
def isFinite : Json → Bool
  | .double value => value.isFinite
  | .array items => itemsFinite items
  | .object fields => fieldsFinite fields
  | _ => true

/-- Every number inside the items is finite. -/
def itemsFinite : List Json → Bool
  | [] => true
  | item :: rest => item.isFinite && itemsFinite rest

/-- Every number inside the fields is finite. -/
def fieldsFinite : List (String × Json) → Bool
  | [] => true
  | (_, value) :: rest => value.isFinite && fieldsFinite rest

end

mutual

/-- Puts null in the place of every number that is not finite. -/
def withFiniteNumbers : Json → Json
  | .double value => if value.isFinite then .double value else .null
  | .array items => .array (itemsWithFiniteNumbers items)
  | .object fields => .object (fieldsWithFiniteNumbers fields)
  | value => value

/-- Puts null in the place of every number in the items that is not finite. -/
def itemsWithFiniteNumbers : List Json → List Json
  | [] => []
  | item :: rest => item.withFiniteNumbers :: itemsWithFiniteNumbers rest

/-- Puts null in the place of every number in the fields that is not finite. -/
def fieldsWithFiniteNumbers : List (String × Json) → List (String × Json)
  | [] => []
  | (name, value) :: rest => (name, value.withFiniteNumbers) :: fieldsWithFiniteNumbers rest

end

end Json

def Number.json : Number → Json
  | .whole value => .int value
  | .double value => .double value

end Storyboard
