/-
This file computes the checksums of archive members.
-/

namespace Storyboard.Checksum

/-- The polynomial, lowest power first. -/
def polynomial : UInt32 := 0xEDB88320

/-- Divides once by the variable. -/
def step (value : UInt32) : UInt32 :=
  if value &&& 1 = 1 then polynomial ^^^ (value >>> 1) else value >>> 1

/-- The remainder of each value of one byte. -/
def table : Array UInt32 :=
  (Array.range 256).map fun byte => step (step (step (step (step (step (step (step (UInt32.ofNat byte))))))))

/-- The remainder after one more byte. -/
def update (value : UInt32) (byte : UInt8) : UInt32 :=
  table.getD ((value ^^^ byte.toUInt32) &&& 0xFF).toNat 0 ^^^ (value >>> 8)

/-- The cyclic redundancy check of 32 bits. -/
def ofBytes (bytes : List UInt8) : UInt32 := bytes.foldl update 0xFFFFFFFF ^^^ 0xFFFFFFFF

end Storyboard.Checksum
