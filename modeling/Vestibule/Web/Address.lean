import Vestibule.Text.Quote

/-!
IP addresses written as text: dotted IPv4 and colon-separated IPv6, the latter with an optional
zone after `%`.

An IPv4 address is four decimal fields, each at most 255 and without a leading zero. An IPv6
address is up to eight groups of one to four hexadecimal digits separated by colons; one `::`
stands for one or more groups of zeros, and the last two groups may be written as an IPv4
address. Which form a text claims is decided by the first `.`, `:` or `%` in it.

A text that is no address is refused with the first fault met from the left, named in the
message together with the unread rest of the text where that helps.
-/

namespace Vestibule.Web.Address

/-- Octet strings. -/
abbrev Bytes := List UInt8

/-- An address read from text: four IPv4 fields, or the sixteen octets of an IPv6 address with
its zone. -/
inductive Ip where
  | v4 (fields : List Nat)
  | v6 (octets : List Nat) (zone : Bytes)
  deriving Repr, DecidableEq

def Ip.isV4 : Ip → Bool
  | .v4 _ => true
  | .v6 _ _ => false

def Ip.zone : Ip → Bytes
  | .v4 _ => []
  | .v6 _ zone => zone

/-- Whether an address is a loopback address: one in `127.0.0.0/8`, also when mapped into IPv6
as `::ffff:127.x.y.z`, or `::1`. -/
def Ip.isLoopback : Ip → Bool
  | .v4 fields => fields.head? == some 127
  | .v6 octets _ =>
    octets == List.replicate 15 0 ++ [1] ||
      (octets.take 12 == List.replicate 10 0 ++ [255, 255] && octets.getD 12 0 == 127)

/-- Why a text is no address: the text, the fault, and the unread text at the fault when the
message names it. -/
structure AddressError where
  input : Bytes
  reason : String
  rest : Bytes
  deriving Repr, DecidableEq

def AddressError.message (e : AddressError) : String :=
  "ParseAddr(" ++ Text.Quote.quoteBytes e.input ++ "): " ++ e.reason ++
    (if e.rest.isEmpty then "" else " (at " ++ Text.Quote.quoteBytes e.rest ++ ")")

def isDigit (b : UInt8) : Bool := 48 ≤ b && b ≤ 57

def isHex (b : UInt8) : Bool := isDigit b || (97 ≤ b && b ≤ 102) || (65 ≤ b && b ≤ 70)

def hexValue (ds : Bytes) : Nat :=
  ds.foldl (fun acc b =>
    acc * 16 + if isDigit b then b.toNat - 48 else if b ≤ 70 then b.toNat - 55 else b.toNat - 87) 0

/-- Reads dotted IPv4 fields from `s`, which ends the text `input`. The state is the value of
the field in progress, its number of digits, the fields done, whether an octet was read yet and
whether the last octet was a dot. -/
def v4Fields (input : Bytes) :
    Bytes → Nat → Nat → List Nat → Bool → Bool → Except AddressError (List Nat)
  | [], val, _, done, _, _ =>
    if done.length < 3 then .error ⟨input, "IPv4 address too short", []⟩
    else .ok (done ++ [val])
  | b :: rest, val, digits, done, started, afterDot =>
    if isDigit b then
      if digits == 1 && val == 0 then
        .error ⟨input, "IPv4 field has octet with leading zero", []⟩
      else
        let v := val * 10 + (b.toNat - 48)
        if v > 255 then .error ⟨input, "IPv4 field has value >255", []⟩
        else v4Fields input rest v (digits + 1) done true false
    else if b == 46 then
      if !started || rest.isEmpty || afterDot then
        .error ⟨input, "IPv4 field must have at least one digit", b :: rest⟩
      else if done.length == 3 then .error ⟨input, "IPv4 address too long", []⟩
      else v4Fields input rest 0 0 (done ++ [val]) true true
    else .error ⟨input, "unexpected character", b :: rest⟩

/-- Reads the groups of an IPv6 address from `s`, with the octets `done` read so far and the
number of octets before a `::` if one was read. Gives the octets, the position of the `::` and
what is left unread. -/
def v6Groups (input : Bytes) :
    Nat → Bytes → List Nat → Option Nat → Except AddressError (List Nat × Option Nat × Bytes)
  | 0, s, done, gap => .ok (done, gap, s)
  | fuel + 1, s, done, gap =>
    if done.length ≥ 16 then .ok (done, gap, s) else
    let digits := (s.takeWhile isHex).length
    if digits > 4 then .error ⟨input, "each group must have 4 or less digits", s⟩
    else if digits == 0 then
      .error ⟨input, "each colon-separated field must have at least one digit", s⟩
    else
      let after := s.drop digits
      if after.head? == some 46 then
        if gap.isNone && done.length != 12 then
          .error ⟨input, "embedded IPv4 address must replace the final 2 fields of the address", s⟩
        else if done.length + 4 > 16 then
          .error ⟨input,
            "too many hex fields to fit an embedded IPv4 at the end of the address", s⟩
        else
          match v4Fields input s 0 0 [] false false with
          | .error e => .error e
          | .ok fields => .ok (done ++ fields, gap, [])
      else
        let v := hexValue (s.take digits)
        let done := done ++ [v / 256, v % 256]
        match after with
        | [] => .ok (done, gap, [])
        | c :: more =>
          if c != 58 then .error ⟨input, "unexpected character, want colon", after⟩
          else if more.isEmpty then
            .error ⟨input, "colon must be followed by more characters", after⟩
          else if more.head? == some 58 then
            if gap.isSome then .error ⟨input, "multiple :: in address", more⟩
            else if more.length == 1 then .ok (done, some done.length, [])
            else v6Groups input fuel (more.drop 1) done (some done.length)
          else v6Groups input fuel more done gap

/-- Reads an IPv6 address, with an optional zone after the first `%`; a `::` stands for as many
zero octets as the address lacks. -/
def parseV6 (input : Bytes) : Except AddressError Ip :=
  let addr := input.takeWhile (· != 37)
  let zoneMark := input.drop addr.length
  let zone := zoneMark.drop 1
  if !zoneMark.isEmpty && zone.isEmpty then
    .error ⟨input, "zone must be a non-empty string", []⟩
  else
    let (s, gap) := if addr.take 2 == [58, 58] then (addr.drop 2, some 0) else (addr, none)
    if gap.isSome && s.isEmpty then .ok (.v6 (List.replicate 16 0) zone) else
    match v6Groups input 9 s [] gap with
    | .error e => .error e
    | .ok (done, gap, left) =>
      if !left.isEmpty then .error ⟨input, "trailing garbage after address", left⟩
      else if done.length < 16 then
        match gap with
        | none => .error ⟨input, "address string too short", []⟩
        | some g =>
          .ok (.v6 (done.take g ++ List.replicate (16 - done.length) 0 ++ done.drop g) zone)
      else if gap.isSome then
        .error ⟨input, "the :: must expand to at least one field of zeros", []⟩
      else .ok (.v6 done zone)

/-- Reads an address. The first `.` makes the text an IPv4 address, the first `:` an IPv6 one;
a `%` before either is a zone without an address. -/
def parse (input : Bytes) : Except AddressError Ip :=
  match input.find? (fun b => b == 46 || b == 58 || b == 37) with
  | some 46 => (v4Fields input input 0 0 [] false false).map .v4
  | some 58 => parseV6 input
  | some _ => .error ⟨input, "missing IPv6 address", []⟩
  | none => .error ⟨input, "unable to parse IP", []⟩

theorem parse_nil : parse [] = .error ⟨[], "unable to parse IP", []⟩ := rfl

theorem parse_loopback_v6 : (parse [58, 58, 49]).toOption.map Ip.isLoopback = some true := by
  decide

end Vestibule.Web.Address
