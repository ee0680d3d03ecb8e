/-
This file reads archives from their bytes, as far as their members are stored without compression.
-/

import Storyboard.Archive.Basic
import Storyboard.Text.LegacyPage

namespace Storyboard.Stored

/-- Why bytes are no archive. -/
inductive Fault where
  | notAnArchive
  | badDirectoryOffset
  | truncatedDirectory
  | badDirectoryEntry
  | corruptExtra (kind size : Nat)
  | truncatedHeader
  | badHeader
  | nameMismatch (name : String) (bytes : List UInt8)
  | overlap (name : String)
  | badChecksum (name : String)
  | notText (fault : Text.Utf8.Fault)
  /-- The entry lies before the first byte. -/
  | negativeOffset (distance : Nat)
  /-- The bytes of a member end too soon. -/
  | endOfData
  /-- The member needs a feature beyond plain storage. -/
  | unsupported
  | encrypted
  deriving DecidableEq, Repr

/-- Bytes between quotes, with what is not printable escaped. -/
def quotedBytes (bytes : List UInt8) : String :=
  let characters := bytes.map fun byte => Char.ofNat byte.toNat
  let quote := Text.Quoted.quoteFor characters
  let encode := fun character : Char =>
    if character.toNat < 0x80 then Text.Quoted.encodeCharacter quote character
    else Text.Quoted.escapeCode character.toNat
  "b" ++ String.ofList (quote :: characters.flatMap encode ++ [quote])

def Fault.message : Fault → String
  | .notAnArchive => "File is not a zip file"
  | .badDirectoryOffset => "Bad offset for central directory"
  | .truncatedDirectory => "Truncated central directory"
  | .badDirectoryEntry => "Bad magic number for central directory"
  | .corruptExtra kind size => s!"Corrupt extra field {String.ofList (Text.hexText 4 kind)} (size={size})"
  | .truncatedHeader => "Truncated file header"
  | .badHeader => "Bad magic number for file header"
  | .nameMismatch name bytes =>
      s!"File name in directory {Text.Quoted.encode name} and header {quotedBytes bytes} differ."
  | .overlap name => s!"Overlapped entries: {Text.Quoted.encode name} (possible zip bomb)"
  | .badChecksum name => s!"Bad CRC-32 for file {Text.Quoted.encode name}"
  | .notText fault => fault.message
  | .negativeOffset distance => s!"negative seek value -{distance}"
  | .endOfData | .unsupported | .encrypted => ""

/-- A number, lowest byte first. -/
def littleEndian : List UInt8 → Nat
  | [] => 0
  | byte :: rest => byte.toNat + 256 * littleEndian rest

/-- Some bytes from an offset on. -/
def slice (bytes : List UInt8) (offset length : Nat) : List UInt8 := (bytes.drop offset).take length

/-- The number in some bytes from an offset on. -/
def numberAt (bytes : List UInt8) (offset length : Nat) : Nat := littleEndian (slice bytes offset length)

/-- The marks of the parts of an archive. -/
def endMark : List UInt8 := [0x50, 0x4B, 0x05, 0x06]

def entryMark : List UInt8 := [0x50, 0x4B, 0x01, 0x02]

def headerMark : List UInt8 := [0x50, 0x4B, 0x03, 0x04]

def endLength : Nat := 22

/-- The length of a directory entry before its texts. -/
def entryLength : Nat := 46

/-- The length of a member header before its texts. -/
def headerLength : Nat := 30

/-- The last position at which bytes start with a mark. -/
def lastMark? (mark : List UInt8) (position : Nat) (found : Option Nat) : List UInt8 → Option Nat
  | [] => found
  | byte :: rest =>
      lastMark? mark (position + 1) (if mark.isPrefixOf (byte :: rest) then some position else found) rest

/-- The position of the end record, behind which a comment may stand. -/
def endPosition? (bytes : List UInt8) : Option Nat :=
  let size := bytes.length
  let tail := bytes.drop (size - endLength)
  if tail.length = endLength ∧ endMark.isPrefixOf tail ∧ tail.drop 20 = [0, 0] then some (size - endLength)
  else
    let start := size - 65536 - endLength
    (lastMark? endMark start none (bytes.drop start)).filter fun position => position + endLength ≤ size

structure Entry where
  /-- The name as it is stored, which may hold null characters. -/
  fullName : String
  flags : Nat
  method : Nat
  checksum : Nat
  storedSize : Nat
  size : Nat
  /-- The offset of the member header. -/
  offset : Int

namespace Entry

def name (entry : Entry) : String := Archive.storedName entry.fullName

end Entry

/-- One bit of a field of flags. -/
def hasFlag (flags bit : Nat) : Bool := flags / bit % 2 = 1

/-- A name is text, or in the characters of an old page when its flag is missing. -/
def nameText (flags : Nat) (bytes : List UInt8) : Except Fault String :=
  if hasFlag flags 0x800 then
    match Text.Utf8.decode bytes with
    | .ok characters => .ok (String.ofList characters)
    | .error fault => .error (.notText fault)
  else .ok (String.ofList (bytes.map Text.legacyCharacter))

/-- Each part of an extra field states its length, which must not reach over the end. -/
def checkExtra : (fuel : Nat) → List UInt8 → Except Fault Unit
  | 0, _ => .ok ()
  | fuel + 1, extra =>
      if extra.length < 4 then .ok ()
      else
        let size := numberAt extra 2 2
        if extra.length < size + 4 then .error (.corruptExtra (numberAt extra 0 2) size)
        else checkExtra fuel (extra.drop (size + 4))

/-- The greatest version of the format that is understood. -/
def maxVersion : Nat := 63

/-- Reads the directory, where `left` counts the bytes that it should still have. -/
def readEntries (shift : Int) : (fuel : Nat) → (left : Int) → List UInt8 → Except Fault (List Entry)
  | 0, _, _ => .ok []
  | fuel + 1, left, bytes =>
      if left ≤ 0 then .ok []
      else if bytes.length < entryLength then .error .truncatedDirectory
      else if !entryMark.isPrefixOf bytes then .error .badDirectoryEntry
      else
        let nameLength := numberAt bytes 28 2
        let extraLength := numberAt bytes 30 2
        let commentLength := numberAt bytes 32 2
        let flags := numberAt bytes 8 2
        match nameText flags (slice bytes entryLength nameLength) with
        | .error fault => .error fault
        | .ok fullName =>
            if maxVersion < numberAt bytes 6 1 then .error .unsupported
            else do
              checkExtra bytes.length (slice bytes (entryLength + nameLength) extraLength)
              let length := entryLength + nameLength + extraLength + commentLength
              let entry : Entry := {
                fullName
                flags
                method := numberAt bytes 10 2
                checksum := numberAt bytes 16 4
                storedSize := numberAt bytes 20 4
                size := numberAt bytes 24 4
                offset := (numberAt bytes 42 4 : Int) + shift }
              return entry :: (← readEntries shift fuel (left - length) (bytes.drop length))

/-- The directory of an archive, with the position at which it starts. -/
def directory (bytes : List UInt8) : Except Fault (List Entry × Nat) :=
  match endPosition? bytes with
  | none => .error .notAnArchive
  | some position =>
      let size := numberAt bytes (position + 12) 4
      let offset := numberAt bytes (position + 16) 4
      let start := (position : Int) - size
      if start < 0 then .error .badDirectoryOffset
      else do
        let entries ← readEntries (start - offset) bytes.length.succ size (slice bytes start.toNat size)
        return (entries, start.toNat)

/-- A member must end where the next one starts, and the last one at the directory. -/
def limits (start : Int) : List (Nat × Int) → List (Nat × Int)
  | [] => []
  | (index, offset) :: rest => (index, start) :: limits offset rest

/-- The limit of each entry, by its position in the directory. -/
def limitOf (entries : List Entry) (start : Nat) (index : Nat) : Int :=
  let offsets := entries.mapIdx fun position entry => (position, entry.offset)
  let descending := offsets.mergeSort fun left right => decide (right.2 ≤ left.2)
  ((limits start descending).lookup index).getD start

/-- Reads the bytes of an entry, which must end before a limit. -/
def readEntry (bytes : List UInt8) (entry : Entry) (limit : Int) : Except Fault Member :=
  if entry.offset < 0 then .error (.negativeOffset entry.offset.natAbs)
  else
    let header := bytes.drop entry.offset.toNat
    if header.length < headerLength then .error .truncatedHeader
    else if !headerMark.isPrefixOf header then .error .badHeader
    else
      let nameLength := numberAt header 26 2
      let extraLength := numberAt header 28 2
      let nameBytes := slice header headerLength nameLength
      if hasFlag entry.flags 0x20 ∨ hasFlag entry.flags 0x40 then .error .unsupported
      else
        match nameText (numberAt header 6 2) nameBytes with
        | .error fault => .error fault
        | .ok headerName =>
            let body := header.drop (headerLength + nameLength + extraLength)
            if headerName ≠ entry.fullName then .error (.nameMismatch entry.fullName nameBytes)
            else if limit < (bytes.length : Int) - body.length + entry.storedSize then
              .error (.overlap entry.fullName)
            else if hasFlag entry.flags 1 then .error .encrypted
            else if entry.method ≠ 0 then .error .unsupported
            else
              let data := (body.take entry.storedSize).take entry.size
              if data.length < min entry.storedSize entry.size then .error .endOfData
              else if (Checksum.ofBytes data).toNat ≠ entry.checksum then .error (.badChecksum entry.name)
              else .ok { name := entry.name, bytes := data }

/-- The text of the last entry of a name. -/
def readName (bytes : List UInt8) (entries : List Entry) (start : Nat) (name : String) :
    Except Fault (String × String) :=
  match (entries.mapIdx fun index entry => (index, entry)).reverse.find? (·.2.name = name) with
  | none => .ok (name, "")
  | some (index, entry) => do
      let member ← readEntry bytes entry (limitOf entries start index)
      match Text.Utf8.decode member.bytes with
      | .ok characters => return (name, String.ofList characters)
      | .error fault => .error (.notText fault)

/-- All texts of an archive, by their names. -/
def read (bytes : List UInt8) : Except Fault (List (String × String)) := do
  let (entries, start) ← directory bytes
  (entries.map Entry.name).eraseDups.mapM (readName bytes entries start)

end Storyboard.Stored
