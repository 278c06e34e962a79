import Vestibule.Compress.Gzip
import Vestibule.Text.Numeral
import Vestibule.Text.Utf8

/-!
Choosing the content coding of an answer from the `Accept-Encoding` lines of a request.

Each line is read as clauses separated by commas. A clause is a name made of token characters
and slashes, with an optional `;q=` quality. The quality is `0` or `1`, optionally followed by
a point and digits. Those digits are added up as 64-bit integers, which wrap, and divided as
floating-point numbers.
The rest of a line is dropped at the first clause with no name, a parameter other than `q`, a
quality that does not read or is negative, or anything but a comma after a clause.

The offered codings are identity and gzip, in that order. Offers are tried in turn, and
each clause in turn within an offer. A clause naming the offer, or `*`, wins when its quality
is strictly higher than the best so far, which starts below zero. A best quality of exactly
zero picks no coding, which falls back to identity. With no clause at all the choice is
identity.
-/

namespace Vestibule.Web

/-- The coding applied to the body of an answer. -/
inductive Coding where
  | identity
  | gzip
  deriving Repr, DecidableEq, Inhabited

def Coding.apply : Coding → List UInt8 → List UInt8
  | .identity, bs => bs
  | .gzip, bs => Compress.gzip bs

def Coding.name : Coding → String
  | .identity => "identity"
  | .gzip => "gzip"

namespace ContentCoding

/-- A clause of the header: a coding name and its quality. -/
structure Clause where
  name : String
  quality : Float

def isBlank (b : UInt8) : Bool := b == 32 || b == 9 || b == 13 || b == 10

def isNameOctet (b : UInt8) : Bool :=
  b == 47 || (32 < b && b < 127 && !"\"(),/:;<=>?@[]\\\x7b\x7d".toList.contains (Char.ofNat b.toNat))

/-- Digits after a point: their value and their scale, both as wrapping 64-bit integers, and the
octets after them. -/
def fraction (n d : Int) : List UInt8 → Int × Int × List UInt8
  | b :: rest =>
    if 48 ≤ b && b ≤ 57 then
      fraction (Text.Numeral.wrap64 (n * 10 + (b.toNat - 48 : Nat))) (Text.Numeral.wrap64 (d * 10)) rest
    else (n, d, b :: rest)
  | [] => (n, d, [])

/-- A quality after `q=`, below zero when it does not read, and the octets after it. -/
def quality : List UInt8 → Float × List UInt8
  | b :: rest =>
    if b == 48 || b == 49 then
      let q : Float := if b == 49 then 1 else 0
      match rest with
      | 46 :: digits =>
        let (n, d, after) := fraction 0 1 digits
        (q + Float.ofInt n / Float.ofInt d, after)
      | _ => (q, rest)
    else (-1, [])
  | [] => (-1, [])

/-- The clauses of one line, from octets `bs` on, with `fuel` clauses at most. -/
def clauses : (fuel : Nat) → List UInt8 → List Clause
  | 0, _ => []
  | fuel + 1, bs =>
    let name := bs.takeWhile isNameOctet
    if name.isEmpty then [] else
    let rest := (bs.drop name.length).dropWhile isBlank
    let read : Option (Float × List UInt8) :=
      match rest with
      | 59 :: more =>
        match more.dropWhile isBlank with
        | 113 :: 61 :: q => let (v, after) := quality q; if v < 0 then none else some (v, after)
        | _ => none
      | _ => some (1, rest)
    match read with
    | none => []
    | some (q, after) =>
      let clause : Clause := ⟨Text.Utf8.decode name, q⟩
      match after.dropWhile isBlank with
      | 44 :: more => clause :: clauses fuel (more.dropWhile isBlank)
      | _ => [clause]

def parse (lines : List String) : List Clause :=
  lines.flatMap fun line => let bs := Text.Utf8.encode line; clauses (bs.length + 1) bs

def offers : List String := ["identity", "gzip"]

/-- The chosen coding name, empty for none: the best quality over offers and clauses in turn. -/
def choose (cs : List Clause) : String :=
  let (best, q) := offers.foldl (fun acc offer =>
    cs.foldl (fun (acc : String × Float) c =>
      if acc.2 < c.quality && (c.name == "*" || c.name == offer) then (offer, c.quality) else acc) acc)
    ("identity", -1)
  if q == 0 then "" else best

def negotiate (lines : List String) : Coding :=
  if choose (parse lines) == "gzip" then .gzip else .identity

end ContentCoding

theorem Coding.apply_identity (bs : List UInt8) : Coding.identity.apply bs = bs := rfl

theorem Coding.apply_gzip (bs : List UInt8) : Coding.gzip.apply bs = Compress.gzip bs := rfl

end Vestibule.Web
