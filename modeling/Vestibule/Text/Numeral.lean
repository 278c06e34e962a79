import Vestibule.Text.Quote

/-!
Reading whole numbers and truth values from text.

A whole number is an optional sign and one or more decimal digits; it must fit a signed word of
a given width, 32 or 64 bits. Digits are read from the left, and the first fault met decides the
error: a character that is no digit makes the text malformed, and a value past the unsigned range
of the width makes it out of range even when a stray character follows. A value that passed that
test but not the signed range is out of range too. A truth value is one of six spellings of true and six of false.
-/

namespace Vestibule.Text.Numeral

/-- Why a text is no number of the wanted kind. -/
inductive NumberError where
  | malformed
  | outOfRange
  deriving Repr, DecidableEq

def NumberError.reason : NumberError → String
  | .malformed => "invalid syntax"
  | .outOfRange => "value out of range"

def NumberError.message (reader input : String) (e : NumberError) : String :=
  "strconv." ++ reader ++ ": parsing " ++ Quote.quote input ++ ": " ++ e.reason

def wordBound : Nat := Nat.pow 2 64

def signBound : Nat := Nat.pow 2 63

/-- Reads decimal digits onto the value `acc` read so far; a value past `top` is out of range. -/
def readDigits (top acc : Nat) : List Char → Except NumberError Nat
  | [] => .ok acc
  | c :: rest =>
    if c.isDigit then
      let n := acc * 10 + (c.toNat - 48)
      if n ≤ top then readDigits top n rest else .error .outOfRange
    else .error .malformed

def readUnsigned (bits : Nat) (cs : List Char) : Except NumberError Nat :=
  if cs.isEmpty then .error .malformed else readDigits (Nat.pow 2 bits - 1) 0 cs

/-- A signed decimal of `bits` bits with an optional `+` or `-` in front. -/
def readInt (bits : Nat) (s : String) : Except NumberError Int :=
  let (neg, digits) := match s.toList with
    | '-' :: ds => (true, ds)
    | '+' :: ds => (false, ds)
    | ds => (false, ds)
  let cutoff := Nat.pow 2 (bits - 1)
  match readUnsigned bits digits with
  | .error .malformed => .error .malformed
  | .error .outOfRange => .error .outOfRange
  | .ok n =>
    if neg then
      if n ≤ cutoff then .ok (-(n : Int)) else .error .outOfRange
    else if n < cutoff then .ok n else .error .outOfRange

def readInt64 (s : String) : Except NumberError Int := readInt 64 s

def wrap64 (x : Int) : Int :=
  (x + (signBound : Int)) % (wordBound : Int) - (signBound : Int)

/-- A truth value: `1`, `t`, `T`, `TRUE`, `true` or `True`, and `0`, `f`, `F`, `FALSE`, `false`
or `False`. -/
def readTruth (s : String) : Option Bool :=
  match s with
  | "1" | "t" | "T" | "TRUE" | "true" | "True" => some true
  | "0" | "f" | "F" | "FALSE" | "false" | "False" => some false
  | _ => none

theorem readDigits_nil (top acc : Nat) : readDigits top acc [] = .ok acc := rfl

theorem readUnsigned_nil (bits : Nat) : readUnsigned bits [] = .error .malformed := rfl

end Vestibule.Text.Numeral
