import Vestibule.Text.Quote

/-!
Spans of time written as text, such as `1h30m`, `1.5s` or `-250ms`, read as whole nanoseconds.

A span is an optional sign and one or more terms; a term is a decimal number, with an optional
fraction, and a unit (`ns`, `us`, `µs`, `μs`, `ms`, `s`, `m`, `h`). A lone `0` needs no unit. The
whole part of each term and the running total must stay within 2^63 nanoseconds, a positive span
below it. The fraction is scaled to the unit in binary floating point and cut towards zero, so
that `1.5s` is 1500000000 and very long fractions keep only the digits that fit.
-/

namespace Vestibule.Duration

/-- Why a text is no span of time. -/
inductive DurationError where
  | invalid
  | missingUnit
  | unknownUnit (unit : String)
  deriving Repr, DecidableEq

/-- The message about the text `orig` that failed to read. -/
def DurationError.message (orig : String) : DurationError → String
  | .invalid => "time: invalid duration " ++ Text.Quote.quoteOctets orig
  | .missingUnit => "time: missing unit in duration " ++ Text.Quote.quoteOctets orig
  | .unknownUnit u =>
    "time: unknown unit " ++ Text.Quote.quoteOctets u ++ " in duration " ++
      Text.Quote.quoteOctets orig

def limit : Nat := Nat.pow 2 63

/-- Nanoseconds in one of each unit. -/
def unitNanos? (u : String) : Option Nat :=
  match u with
  | "ns" => some 1
  | "us" | "µs" | "μs" => some 1000
  | "ms" => some 1000000
  | "s" => some 1000000000
  | "m" => some 60000000000
  | "h" => some 3600000000000
  | _ => none

def isNumberChar (c : Char) : Bool := c == '.' || c.isDigit

/-- The leading digits as a value, or none when it passes the limit; with the rest. -/
def leadingWhole (acc : Nat) : List Char → Option Nat × List Char
  | [] => (some acc, [])
  | c :: rest =>
    if c.isDigit then
      if acc > limit / 10 then (none, (c :: rest).dropWhile Char.isDigit)
      else
        let n := acc * 10 + (c.toNat - 48)
        if n > limit then (none, rest.dropWhile Char.isDigit) else leadingWhole n rest
    else (some acc, c :: rest)

/-- The leading fraction digits as a value and its scale, the power of ten it is over; digits
that would carry the value past the limit are passed over. -/
def leadingFraction (acc : Nat) (scale : Float) (full : Bool) :
    List Char → Nat × Float × List Char
  | [] => (acc, scale, [])
  | c :: rest =>
    if c.isDigit then
      if full then leadingFraction acc scale true rest
      else if acc > (limit - 1) / 10 then leadingFraction acc scale true rest
      else
        let n := acc * 10 + (c.toNat - 48)
        if n > limit then leadingFraction acc scale true rest
        else leadingFraction n (scale * 10) false rest
    else (acc, scale, c :: rest)

def fractionNanos (f unit : Nat) (scale : Float) : Nat :=
  (Float.ofNat f * (Float.ofNat unit / scale)).toUInt64.toNat

/-- One term at the front of the text: its nanoseconds and the rest. -/
def term (cs : List Char) : Except DurationError (Nat × List Char) := do
  match cs with
  | c :: _ => if !isNumberChar c then throw .invalid
  | [] => throw .invalid
  let (whole?, afterWhole) := leadingWhole 0 cs
  let some whole := whole? | throw .invalid
  let pre := afterWhole.length != cs.length
  let (f, scale, afterFraction, post) := match afterWhole with
    | '.' :: ds =>
      let (f, scale, rest) := leadingFraction 0 1 false ds
      (f, scale, rest, rest.length != ds.length)
    | other => (0, 1, other, false)
  if !pre && !post then throw .invalid
  let unitChars := afterFraction.takeWhile (fun c => !isNumberChar c)
  let rest := afterFraction.dropWhile (fun c => !isNumberChar c)
  if unitChars.isEmpty then throw .missingUnit
  let u := String.ofList unitChars
  let some unit := unitNanos? u | throw (.unknownUnit u)
  if whole > limit / unit then throw .invalid
  let v := whole * unit
  let v := if f > 0 then v + fractionNanos f unit scale else v
  if v > limit then throw .invalid
  pure (v, rest)

/-- Adds up the terms of the text onto `total`. -/
def terms (total : Nat) (cs : List Char) : Except DurationError Nat :=
  match term cs with
  | .error e => .error e
  | .ok (v, rest) =>
    if total + v > limit then .error .invalid
    else if rest.isEmpty then .ok (total + v)
    else if rest.length < cs.length then terms (total + v) rest
    else .error .invalid
termination_by cs.length

/-- Reads a span of time as signed nanoseconds. -/
def read (s : String) : Except DurationError Int :=
  let (neg, body) := match s.toList with
    | '-' :: r => (true, r)
    | '+' :: r => (false, r)
    | r => (false, r)
  if body == ['0'] then .ok 0
  else if body.isEmpty then .error .invalid
  else
    match terms 0 body with
    | .error e => .error e
    | .ok d =>
      if neg then .ok (-(d : Int))
      else if d ≥ limit then .error .invalid
      else .ok d

end Vestibule.Duration
