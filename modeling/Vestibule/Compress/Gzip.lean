import Vestibule.Compress.Checksum
import Vestibule.Compress.Deflate

/-!
A gzip member around a deflate stream.

The member starts with the magic octets, the deflate method, no flags, no modification time,
no extra flags and the unknown system (255). The deflate stream follows. Last come the CRC-32 of
the octets and their number modulo `2 ^ 32`, both as little-endian 32-bit words.
-/

namespace Vestibule.Compress

def gzipHeader : List UInt8 := [0x1f, 0x8b, 8, 0, 0, 0, 0, 0, 0, 0xff]

def word32 (n : Nat) : List UInt8 :=
  [UInt8.ofNat n, UInt8.ofNat (n / 256), UInt8.ofNat (n / 65536), UInt8.ofNat (n / 16777216)]

def gzip (data : List UInt8) : List UInt8 :=
  gzipHeader ++ Deflate.deflate data ++ word32 (crc32 data).toNat ++ word32 (data.length % 4294967296)

theorem word32_length (n : Nat) : (word32 n).length = 4 := rfl

theorem gzip_prefix (data : List UInt8) : (gzip data).take 10 = gzipHeader := by
  simp [gzip, gzipHeader, List.take_append_of_le_length]

end Vestibule.Compress
