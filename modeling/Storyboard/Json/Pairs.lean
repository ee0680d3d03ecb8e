/-
This file reads the fields of an object from pairs of a name and a value.
-/

import Storyboard.Json.Basic

namespace Storyboard

/-- Why values are not pairs of a name and a value. -/
inductive PairFault where
  /-- The value at this position has no parts. -/
  | noParts (position : Nat)
  /-- The value at this position has another number of parts than two. -/
  | notTwo (position parts : Nat)
  /-- The name at this position is a list or an object. -/
  | badName (position : Nat)
  deriving DecidableEq, Repr

def PairFault.message : PairFault → String
  | .noParts position => s!"cannot convert dictionary update sequence element #{position} to a sequence"
  | .notTwo position parts =>
      s!"dictionary update sequence element #{position} has length {parts}; 2 is required"
  | .badName position => s!"name at position {position} is not a text"

namespace Json

/-- The parts of a value: the items of a list, the characters of a text, or the names of an object. -/
def parts? : Json → Option (List Json)
  | .array items => some items
  | .string text => some (text.toList.map fun character => .string (String.singleton character))
  | .object fields => some (fields.map fun (name, _) => .string name)
  | _ => none

/-- Adds the field of a pair. A name that is neither text nor a list or an object names no field. -/
def putPair (fields : List (String × Json)) (position : Nat) (pair : Json) :
    Except PairFault (List (String × Json)) :=
  match pair.parts? with
  | none => .error (.noParts position)
  | some [.string name, value] => .ok (putField fields name value)
  | some [.array _, _] | some [.object _, _] => .error (.badName position)
  | some [_, _] => .ok fields
  | some parts => .error (.notTwo position parts.length)

/-- Adds the fields of pairs, from a position on. -/
def putPairs (fields : List (String × Json)) (position : Nat) :
    List Json → Except PairFault (List (String × Json))
  | [] => .ok fields
  | pair :: rest => do putPairs (← putPair fields position pair) (position + 1) rest

end Json

end Storyboard
