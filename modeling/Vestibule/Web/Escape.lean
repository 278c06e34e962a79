import Vestibule.Text.Utf8
import Vestibule.Text.Quote

/-!
Percent-encoding of URL parts.

An octet that may not stand as it is in a part of a URL is written as `%` and two uppercase
hexadecimal digits. Letters, digits and `-_.~` always stand as they are; which reserved
characters may stand depends on the part: a whole path keeps all but `?`, one segment of a path
also escapes `/`, `;` and `,`, user information escapes `@`, `/`, `?` and `:`, a query component
escapes all of them, and a fragment keeps them all. A host keeps the sub-delimiters too, because
a host may not use escapes for ASCII; so does the zone of an IPv6 address.

Reading an escaped part back fails on a `%` without two hexadecimal digits, and in a host on an
escape of ASCII other than `%25` or on an ASCII character that would need one. A zone may escape
any octet that could stand in a host unescaped, a space and `%` itself.
-/

namespace Vestibule.Web

/-- The parts of a URL, each with its own set of characters that may stand unescaped. -/
inductive Part where
  | host
  | path
  | segment
  | userinfo
  | query
  | fragment
  | zone
  deriving Repr, DecidableEq

def Part.isHostLike : Part → Bool
  | .host | .zone => true
  | _ => false

def upperHex (n : Nat) : Char := "0123456789ABCDEF".toList.getD n '0'

def octetIn (cs : String) (b : UInt8) : Bool := b < 128 && cs.toList.contains (Char.ofNat b.toNat)

/-- Whether an octet must be escaped to stand in a part. -/
def mustEscape (part : Part) (b : UInt8) : Bool :=
  let c := Char.ofNat b.toNat
  if b < 128 && c.isAlphanum then false
  else if part.isHostLike && octetIn "!$&'()*+,;=:[]<>\"" b then false
  else if octetIn "-_.~" b then false
  else if octetIn "$&+,/:;=?@" b then
    match part with
    | .path => c == '?'
    | .segment => c == '/' || c == ';' || c == ',' || c == '?'
    | .userinfo => c == '@' || c == '/' || c == '?' || c == ':'
    | .query => true
    | .fragment => false
    | .host | .zone => true
  else if part == .fragment && octetIn "!()*" b then false
  else true

def escapeOctet (b : UInt8) : List UInt8 :=
  [37, (upperHex (b.toNat / 16)).toNat.toUInt8, (upperHex (b.toNat % 16)).toNat.toUInt8]

/-- Octets made safe to stand in a part; in a query component a space becomes `+`. -/
def escapeBytes (part : Part) (bs : List UInt8) : List UInt8 :=
  bs.flatMap fun b =>
    if !mustEscape part b then [b]
    else if part == .query && b == 32 then [43]
    else escapeOctet b

def asciiText (bs : List UInt8) : String := String.ofList (bs.map fun b => Char.ofNat b.toNat)

def escapeSegment (s : String) : String := asciiText (escapeBytes .segment (Text.Utf8.encode s))

def escapePath (s : String) : String := asciiText (escapeBytes .path (Text.Utf8.encode s))

/-- Why an escaped part could not be read. -/
inductive EscapeError where
  /-- A `%` without two hexadecimal digits, or an escape a host may not use; the offending
  octets, at most three. -/
  | badEscape (octets : List UInt8)
  | badHostCharacter (octet : UInt8)
  deriving Repr, DecidableEq

def EscapeError.message : EscapeError → String
  | .badEscape bs => "invalid URL escape " ++ Text.Quote.quoteBytes bs
  | .badHostCharacter b => "invalid character " ++ Text.Quote.quoteBytes [b] ++ " in host name"

/-- The value of a hexadecimal digit octet. -/
def hexValue? (b : UInt8) : Option Nat :=
  if 48 ≤ b && b ≤ 57 then some (b.toNat - 48)
  else if 65 ≤ b && b ≤ 70 then some (b.toNat - 55)
  else if 97 ≤ b && b ≤ 102 then some (b.toNat - 87)
  else none

/-- Reads an escaped part back into octets; in a query component `+` is a space. -/
def unescapeBytes (part : Part) : List UInt8 → Except EscapeError (List UInt8)
  | [] => .ok []
  | 37 :: rest =>
    match rest with
    | h :: l :: more =>
      match hexValue? h, hexValue? l with
      | some hv, some lv =>
        let v := (hv * 16 + lv).toUInt8
        let isPercent := h == 50 && l == 53
        if part == .host && hv < 8 && !isPercent then .error (.badEscape [37, h, l])
        else if part == .zone && !isPercent && v != 32 && mustEscape .host v then
          .error (.badEscape [37, h, l])
        else do
          let tail ← unescapeBytes part more
          pure ((hv * 16 + lv).toUInt8 :: tail)
      | _, _ => .error (.badEscape (37 :: (rest.take 2)))
    | _ => .error (.badEscape (37 :: rest))
  | b :: rest =>
    if part.isHostLike && b < 128 && mustEscape .host b then .error (.badHostCharacter b)
    else do
      let tail ← unescapeBytes part rest
      pure ((if part == .query && b == 43 then 32 else b) :: tail)

/-- Whether escaped octets are already a fit form of a part: each octet is a sub-delimiter,
`:`, `@`, a bracket, `%`, or one the part keeps. -/
def isFitEscape (part : Part) (bs : List UInt8) : Bool :=
  bs.all fun b => octetIn "!$&'()*+,;=:@[]%" b || !mustEscape part b

end Vestibule.Web
