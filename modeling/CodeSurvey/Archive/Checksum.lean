/-!
# Checksums

The cyclic redundancy check of 32 bits with the reflected polynomial `EDB88320`, a byte at a time from a
table of 256 remainders.
-/

namespace CodeSurvey.Archive

/-- One bit of division by the polynomial. -/
def divideBit (c : UInt32) : UInt32 :=
  if c &&& 1 = 1 then (0xEDB88320 : UInt32) ^^^ (c >>> 1) else c >>> 1

/-- The remainder that one byte leaves. -/
def byteRemainder (b : Nat) : UInt32 := Nat.repeat divideBit 8 (UInt32.ofNat b)

def remainders : Array UInt32 := (Array.range 256).map byteRemainder

def checksumStep (c : UInt32) (b : UInt8) : UInt32 :=
  remainders.getD ((c ^^^ b.toUInt32) &&& 0xFF).toNat 0 ^^^ (c >>> 8)

/-- The checksum of some bytes. -/
def checksum (bytes : ByteArray) : UInt32 :=
  bytes.data.foldl checksumStep 0xFFFFFFFF ^^^ 0xFFFFFFFF

end CodeSurvey.Archive
