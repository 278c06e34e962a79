/-!
The CRC-32 check value that closes a gzip member.

The check value divides the octets, read from their least significant bit, by the polynomial
`0x04C11DB7` written bit-reversed as `0xEDB88320`. The remainder starts with every bit set and is
complemented at the end. Each octet is folded into the low bits of the remainder, followed by
eight one-bit shifts, where the polynomial is added whenever a one falls out.
-/

namespace Vestibule.Compress

def crcShift (c : UInt32) : UInt32 :=
  if c &&& 1 = 1 then (c >>> 1) ^^^ 0xEDB88320 else c >>> 1

def crcShifts : Nat → UInt32 → UInt32
  | 0, c => c
  | n + 1, c => crcShifts n (crcShift c)

def crcOctet (c : UInt32) (b : UInt8) : UInt32 := crcShifts 8 (c ^^^ b.toUInt32)

def crc32 (bs : List UInt8) : UInt32 := bs.foldl crcOctet 0xFFFFFFFF ^^^ 0xFFFFFFFF

theorem crc32_append (a b : List UInt8) :
    crc32 (a ++ b) = b.foldl crcOctet (a.foldl crcOctet 0xFFFFFFFF) ^^^ 0xFFFFFFFF := by
  simp [crc32, List.foldl_append]

theorem crc32_nil : crc32 [] = 0 := by decide

end Vestibule.Compress
