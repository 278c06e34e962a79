/-!
Reading the URL-safe base64 alphabet with `=` padding.

Four symbols carry three octets; line feeds and carriage returns between symbols are skipped. A
group may end early with `==` after two symbols or `=` after three, and then only line breaks may
follow. A failure names the offset of the octet where reading stopped. The unused low bits of a
short group are not checked.
-/

namespace Vestibule.Text.Base64

/-- The value of a symbol of the URL-safe alphabet. -/
def symbolValue (b : UInt8) : Option Nat :=
  let n := b.toNat
  if 65 ≤ n && n ≤ 90 then some (n - 65)
  else if 97 ≤ n && n ≤ 122 then some (n - 71)
  else if 48 ≤ n && n ≤ 57 then some (n + 4)
  else if n == 45 then some 62
  else if n == 95 then some 63
  else none

def isBreak (b : UInt8) : Bool := b == 10 || b == 13

/-- The octets carried by the symbol values of one group: three for four symbols, two for three,
one for two. -/
def groupOctets (vals : List Nat) : List UInt8 :=
  let v := vals.foldl (fun acc x => acc * 64 + x) 0 * Nat.pow 64 (4 - vals.length)
  let all := [(v / 65536 % 256).toUInt8, (v / 256 % 256).toUInt8, (v % 256).toUInt8]
  all.take (vals.length - 1)

/-- Where a reader stands inside a group. -/
inductive Phase where
  | symbols (vals : List Nat)
  | halfPadded (vals : List Nat)
  | padded
  deriving Repr, DecidableEq

/-- Reads the octets starting at offset `pos` in phase `ph`; `out` holds what earlier groups
gave. A failure is the offset the reader names. -/
def readFrom (ph : Phase) (pos : Nat) (out : List UInt8) : List UInt8 → Except Nat (List UInt8)
  | [] =>
    match ph with
    | .symbols [] => .ok out
    | .symbols vals => .error (pos - vals.length)
    | .halfPadded _ => .error pos
    | .padded => .ok out
  | b :: rest =>
    match ph with
    | .symbols vals =>
      match symbolValue b with
      | some v =>
        if vals.length == 3 then readFrom (.symbols []) (pos + 1) (out ++ groupOctets (vals ++ [v])) rest
        else readFrom (.symbols (vals ++ [v])) (pos + 1) out rest
      | none =>
        if isBreak b then readFrom ph (pos + 1) out rest
        else if b == 61 then
          if vals.length < 2 then .error pos
          else if vals.length == 2 then readFrom (.halfPadded vals) (pos + 1) out rest
          else readFrom .padded (pos + 1) (out ++ groupOctets vals) rest
        else .error pos
    | .halfPadded vals =>
      if isBreak b then readFrom ph (pos + 1) out rest
      else if b == 61 then readFrom .padded (pos + 1) (out ++ groupOctets vals) rest
      else .error (pos - 1)
    | .padded =>
      if isBreak b then readFrom ph (pos + 1) out rest
      else .error pos

def decode (bs : List UInt8) : Except Nat (List UInt8) := readFrom (.symbols []) 0 [] bs

def padToQuad (bs : List UInt8) : List UInt8 :=
  bs ++ List.replicate ((4 - bs.length % 4) % 4) 61

def failureMessage (pos : Nat) : String := s!"illegal base64 data at input byte {pos}"

def standardSymbol (n : Nat) : Char :=
  "ABCDEFGHIJKLMNOPQRSTUVWXYZabcdefghijklmnopqrstuvwxyz0123456789+/".toList.getD n '='

/-- Writes octets in the standard alphabet, padding the last group with `=`. -/
def encodeStandard : List UInt8 → List Char
  | a :: b :: c :: rest =>
    let n := a.toNat * 65536 + b.toNat * 256 + c.toNat
    [standardSymbol (n / 262144), standardSymbol (n / 4096 % 64), standardSymbol (n / 64 % 64),
      standardSymbol (n % 64)] ++ encodeStandard rest
  | [a, b] =>
    let n := a.toNat * 65536 + b.toNat * 256
    [standardSymbol (n / 262144), standardSymbol (n / 4096 % 64), standardSymbol (n / 64 % 64), '=']
  | [a] =>
    let n := a.toNat * 65536
    [standardSymbol (n / 262144), standardSymbol (n / 4096 % 64), '=', '=']
  | [] => []

end Vestibule.Text.Base64
