/-
This file converts between code points and UTF-8 bytes.
-/

import Storyboard.Text.Hex

namespace Storyboard.Text.Utf8

/-- A code point of the range kept for surrogates has no bytes. -/
def isSurrogate (code : Nat) : Bool := 0xD800 ≤ code && code ≤ 0xDFFF

/-- The bytes of a code point. -/
def encodeCode (code : Nat) : List UInt8 :=
  let trailing := fun weight : Nat => UInt8.ofNat (0x80 + code / weight % 0x40)
  if code < 0x80 then [UInt8.ofNat code]
  else if code < 0x800 then [UInt8.ofNat (0xC0 + code / 0x40), trailing 1]
  else if code < 0x10000 then [UInt8.ofNat (0xE0 + code / 0x1000), trailing 0x40, trailing 1]
  else [UInt8.ofNat (0xF0 + code / 0x40000), trailing 0x1000, trailing 0x40, trailing 1]

/-- The first run of surrogates in a text, by its first code point and its position. -/
structure SurrogateRun where
  code : Nat
  position : Nat
  length : Nat
  deriving DecidableEq, Repr

def SurrogateRun.message (run : SurrogateRun) : String :=
  let place :=
    if run.length = 1 then
      s!"character '\\u{String.ofList (hexText 4 run.code)}' in position {run.position}"
    else s!"characters in position {run.position}-{run.position + run.length - 1}"
  s!"'utf-8' codec can't encode {place}: surrogates not allowed"

/-- The first run of surrogates, if there is any. -/
def surrogateRun? (codes : List Nat) : Option SurrogateRun :=
  let before := codes.takeWhile (!isSurrogate ·)
  match codes.dropWhile (!isSurrogate ·) with
  | [] => none
  | code :: rest =>
      some { code, position := before.length, length := 1 + (rest.takeWhile isSurrogate).length }

/-- Encodes a text unless it holds a surrogate. -/
def encode (codes : List Nat) : Except SurrogateRun (List UInt8) :=
  match surrogateRun? codes with
  | some run => .error run
  | none => .ok (codes.flatMap encodeCode)

def encodeString (text : String) : List UInt8 :=
  text.toList.flatMap fun character => encodeCode character.toNat

/-- Why bytes are no text. -/
inductive FaultKind where
  | invalidStart
  | invalidContinuation
  | unexpectedEnd
  deriving DecidableEq, Repr

/-- The bytes at fault. -/
structure Fault where
  kind : FaultKind
  position : Nat
  length : Nat
  firstByte : UInt8
  deriving DecidableEq, Repr

def Fault.message (fault : Fault) : String :=
  let place :=
    if fault.length = 1 then
      s!"byte 0x{String.ofList (hexText 2 fault.firstByte.toNat)} in position {fault.position}"
    else s!"bytes in position {fault.position}-{fault.position + fault.length - 1}"
  let reason := match fault.kind with
    | .invalidStart => "invalid start byte"
    | .invalidContinuation => "invalid continuation byte"
    | .unexpectedEnd => "unexpected end of data"
  s!"'utf-8' codec can't decode {place}: {reason}"

/-- What the first bytes of a text stand for. -/
inductive Lead where
  | scalar (code : Nat) (length : Nat)
  | fault (kind : FaultKind) (length : Nat)
  deriving DecidableEq, Repr

/-- The bytes that may follow a leading byte. -/
structure Sequence where
  /-- The number of bytes after the leading one. -/
  trailing : Nat
  /-- The bits that the leading byte contributes. -/
  high : Nat
  /-- The least and the greatest second byte. -/
  secondFrom : Nat
  secondTo : Nat

/-- The form of a sequence, by its leading byte. -/
def sequence? (byte : Nat) : Option Sequence :=
  if byte < 0xC2 then none
  else if byte < 0xE0 then some ⟨1, byte - 0xC0, 0x80, 0xBF⟩
  else if byte < 0xF0 then
    some ⟨2, byte - 0xE0, if byte = 0xE0 then 0xA0 else 0x80, if byte = 0xED then 0x9F else 0xBF⟩
  else if byte < 0xF5 then
    some ⟨3, byte - 0xF0, if byte = 0xF0 then 0x90 else 0x80, if byte = 0xF4 then 0x8F else 0xBF⟩
  else none

/-- Reads the bytes after the leading one, where `length` counts those already read. -/
def continueLead (least greatest : Nat) (code length : Nat) : (trailing : Nat) → List UInt8 → Lead
  | 0, _ => .scalar code length
  | _ + 1, [] => .fault .unexpectedEnd length
  | trailing + 1, byte :: rest =>
      let value := byte.toNat
      if least ≤ value ∧ value ≤ greatest then
        continueLead 0x80 0xBF (code * 0x40 + value % 0x40) (length + 1) trailing rest
      else .fault .invalidContinuation length

/-- Reads the first code point of a text that is not empty. -/
def lead (byte : UInt8) (rest : List UInt8) : Lead :=
  if byte < 0x80 then .scalar byte.toNat 1
  else match sequence? byte.toNat with
    | none => .fault .invalidStart 1
    | some form => continueLead form.secondFrom form.secondTo form.high 1 form.trailing rest

/-- Decodes from a position on, where `fuel` bounds the bytes and `done` holds what is read, last first. -/
def decodeFrom : (fuel : Nat) → (position : Nat) → (done : List Char) → List UInt8 →
    Except Fault (List Char)
  | 0, _, done, _ => .ok done.reverse
  | _, _, done, [] => .ok done.reverse
  | fuel + 1, position, done, byte :: rest =>
      match lead byte rest with
      | .scalar code length =>
          decodeFrom fuel (position + length) (Char.ofNat code :: done) (rest.drop (length - 1))
      | .fault kind length => .error { kind, position, length, firstByte := byte }

/-- Decodes a text, and refuses it at its first fault. -/
def decode (bytes : List UInt8) : Except Fault (List Char) := decodeFrom bytes.length 0 [] bytes

/-- Decodes with a replacement character for each fault. -/
def repairFrom : (fuel : Nat) → (done : List Char) → List UInt8 → List Char
  | 0, done, _ => done.reverse
  | _, done, [] => done.reverse
  | fuel + 1, done, byte :: rest =>
      match lead byte rest with
      | .scalar code length => repairFrom fuel (Char.ofNat code :: done) (rest.drop (length - 1))
      | .fault _ length => repairFrom fuel ('\uFFFD' :: done) (rest.drop (length - 1))

/-- Decodes a text, replacing what is no text. -/
def repair (bytes : List UInt8) : List Char := repairFrom bytes.length [] bytes

end Storyboard.Text.Utf8
