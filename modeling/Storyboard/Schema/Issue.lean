/-
This file defines the issues that are found in values that came from outside.
-/

import Storyboard.Design.NodeType
import Storyboard.Json.Basic

namespace Storyboard

/-- A step from a value to a part of it. -/
inductive Step where
  | field (name : String)
  | index (position : Nat)
  deriving DecidableEq, Repr

/-- What is wrong with a value. -/
inductive IssueKind where
  | missing
  | notText
  | textTooShort (least : Nat)
  | textTooLong (most : Nat)
  | unknownType
  | notNumber
  | unreadableNumber
  | notWhole
  | unreadableWhole
  | oversizedWhole
  | fractionalWhole
  | notFinite
  | notFlag
  | unreadableFlag
  | belowLeast (least : Nat)
  | aboveMost (most : Nat)
  | notAbove (bound : Nat)
  | notList
  | notObject
  | notModel (name : String)
  | notAttributes
  | malformedText
  | tooDeep
  | rejected (reason : String)
  deriving DecidableEq, Repr

namespace IssueKind

/-- The word for a kind of issue. -/
def code : IssueKind → String
  | .missing => "missing"
  | .notText => "string_type"
  | .textTooShort _ => "string_too_short"
  | .textTooLong _ => "string_too_long"
  | .unknownType => "enum"
  | .notNumber => "float_type"
  | .unreadableNumber => "float_parsing"
  | .notWhole => "int_type"
  | .unreadableWhole => "int_parsing"
  | .oversizedWhole => "int_parsing_size"
  | .fractionalWhole => "int_from_float"
  | .notFinite => "finite_number"
  | .notFlag => "bool_type"
  | .unreadableFlag => "bool_parsing"
  | .belowLeast _ => "greater_than_equal"
  | .aboveMost _ => "less_than_equal"
  | .notAbove _ => "greater_than"
  | .notList => "list_type"
  | .notObject => "dict_type"
  | .notModel _ => "model_type"
  | .notAttributes => "model_attributes_type"
  | .malformedText => "json_invalid"
  | .tooDeep => "recursion_depth_exceeded"
  | .rejected _ => "value_error"

/-- Quoted words with a comma between them, and the word or before the last one. -/
def alternatives : List String → String
  | [] => ""
  | [word] => s!"'{word}'"
  | [word, last] => s!"'{word}' or '{last}'"
  | word :: rest => s!"'{word}', " ++ alternatives rest

def characterCount (count : Nat) : String := if count = 1 then "1 character" else s!"{count} characters"

def message : IssueKind → String
  | .missing => "Field required"
  | .notText => "Input should be a valid string"
  | .textTooShort least => s!"String should have at least {characterCount least}"
  | .textTooLong most => s!"String should have at most {characterCount most}"
  | .unknownType => "Input should be " ++ alternatives (NodeType.all.map NodeType.word)
  | .notNumber => "Input should be a valid number"
  | .unreadableNumber => "Input should be a valid number, unable to parse string as a number"
  | .notWhole => "Input should be a valid integer"
  | .unreadableWhole => "Input should be a valid integer, unable to parse string as an integer"
  | .oversizedWhole => "Unable to parse input string as an integer, exceeded maximum size"
  | .fractionalWhole => "Input should be a valid integer, got a number with a fractional part"
  | .notFinite => "Input should be a finite number"
  | .notFlag => "Input should be a valid boolean"
  | .unreadableFlag => "Input should be a valid boolean, unable to interpret input"
  | .belowLeast least => s!"Input should be greater than or equal to {least}"
  | .aboveMost most => s!"Input should be less than or equal to {most}"
  | .notAbove bound => s!"Input should be greater than {bound}"
  | .notList => "Input should be a valid list"
  | .notObject => "Input should be a valid dictionary"
  | .notModel name => s!"Input should be a valid dictionary or instance of {name}"
  | .notAttributes => "Input should be a valid dictionary or object to extract fields from"
  | .malformedText => "JSON decode error"
  | .tooDeep => "Recursion error - maximum validation depth exceeded"
  | .rejected reason => s!"Value error, {reason}"

end IssueKind

/-- An issue lies at a place and quotes the value that it is about. -/
structure Issue where
  place : List Step
  kind : IssueKind
  input : Json

end Storyboard
