/-
This file packs files into archives and takes them out again.
-/

import Storyboard.Archive.Checksum
import Storyboard.Text.Quoted
import Storyboard.Text.Utf8

namespace Storyboard

/-- What a file holds before it is packed: a text by its code points, or bytes as they are. -/
inductive Payload where
  | text (codes : List Nat)
  | bytes (bytes : List UInt8)

namespace Payload

/-- The payload of a string. -/
def ofString (text : String) : Payload := .text (text.toList.map Char.toNat)

/-- The bytes of a payload, unless its text holds a surrogate. -/
def encode : Payload → Except Text.Utf8.SurrogateRun (List UInt8)
  | .text codes => Text.Utf8.encode codes
  | .bytes content => .ok content

end Payload

structure Member where
  name : String
  bytes : List UInt8
  deriving DecidableEq, Inhabited

namespace Member

def checksum (member : Member) : UInt32 := Checksum.ofBytes member.bytes

/-- The year, month, day, hour, minute and second of every member. -/
def timestamp : List Nat := [1980, 1, 1, 0, 0, 0]

/-- Every member is compressed by this method. -/
def method : Nat := 8

/-- The permissions of every member. -/
def mode : Nat := 0o644

end Member

/-- An archive holds members in the order in which they were packed. -/
structure Archive where
  members : List Member
  deriving DecidableEq, Inhabited

/-- Why files cannot be packed, with the path at fault. -/
inductive PackFault where
  | unsafePath (path : String)
  | notEncodable (path : String) (run : Text.Utf8.SurrogateRun)
  | nameTooLong (path : String)
  | contentTooLong (path : String)
  deriving DecidableEq, Repr

namespace PackFault

def path : PackFault → String
  | .unsafePath path => path
  | .notEncodable path _ => path
  | .nameTooLong path => path
  | .contentTooLong path => path

/-- The reason for the refusal. -/
def reason : PackFault → String
  | .unsafePath path => s!"Invalid archive member path: {Text.Quoted.encode path}"
  | .notEncodable _ run => run.message
  | .nameTooLong _ => "member name too long"
  | .contentTooLong _ => "member content too long"

/-- Faults that are reported as such. The rest are faults of the service itself. -/
def isReported : PackFault → Bool
  | .nameTooLong _ | .contentTooLong _ => false
  | _ => true

end PackFault

namespace Archive

/-- Splits at every slash. -/
def segments : List Char → List (List Char)
  | [] => [[]]
  | character :: rest =>
      match segments rest with
      | [] => [[character]]
      | segment :: others =>
          if character = '/' then [] :: segment :: others else (character :: segment) :: others

/-- A safe path is relative, not empty, and never goes up. -/
def isSafePath (path : String) : Bool :=
  !path.isEmpty && path.toList.head? ≠ some '/' && ['.', '.'] ∉ segments path.toList

/-- A member name ends before its first null character. -/
def storedName (path : String) : String := String.ofList (path.toList.takeWhile (· ≠ '\x00'))

def maxNameBytes : Nat := 65535

def maxContentBytes : Nat := 0x7FFFFFFF

/-- The most bytes that are written at once. -/
def chunkSize : Nat := 0x10000

/-- The parts in which bytes are written. -/
def chunks (bytes : List UInt8) : List (List UInt8) :=
  (List.range ((bytes.length + chunkSize - 1) / chunkSize)).map fun index =>
    (bytes.drop (index * chunkSize)).take chunkSize

/-- Writes one member, part by part. -/
def writeMember (path : String) (bytes : List UInt8) : Except PackFault Member :=
  let name := storedName path
  if maxNameBytes < (Text.Utf8.encodeString name).length then .error (.nameTooLong path)
  else
    let written := (chunks bytes).flatten
    if maxContentBytes < written.length then .error (.contentTooLong path) else .ok { name, bytes := written }

def packFile (path : String) (payload : Payload) : Except PackFault Member :=
  if !isSafePath path then .error (.unsafePath path)
  else match payload.encode with
    | .error run => .error (.notEncodable path run)
    | .ok bytes => writeMember path bytes

/-- Packs files in their order, up to the first one that cannot be packed. -/
def pack (files : List (String × Payload)) : Except PackFault Archive := do
  return ⟨← files.mapM fun (path, payload) => packFile path payload⟩

/-- The last member of a name. -/
def find? (archive : Archive) (name : String) : Option Member :=
  archive.members.reverse.find? (·.name = name)

/-- The names of the members, each one once, at its first position. -/
def names (archive : Archive) : List String := (archive.members.map (·.name)).eraseDups

/-- Takes out one text by its name. -/
def unpackName (archive : Archive) (name : String) : Except Text.Utf8.Fault (String × String) :=
  match archive.find? name with
  | none => .ok (name, "")
  | some member => do return (name, String.ofList (← Text.Utf8.decode member.bytes))

/-- Takes out all texts. Of several members with one name the last one counts. -/
def unpack (archive : Archive) : Except Text.Utf8.Fault (List (String × String)) :=
  archive.names.mapM archive.unpackName

end Archive

end Storyboard
