/-!
Reading a number as a single-precision binary floating-point value.

The text is `inf` or `infinity` in any case with an optional sign, `nan` in any case without one,
or a number: an optional sign, then either decimal digits with an optional point and an optional
exponent `e[+-]digits`, or `0x` and hexadecimal digits with an optional point and a required
binary exponent `p[+-]digits`. The `0x` prefix counts only when something follows it.
Underscores may stand between digits, or between the `0x` prefix and a digit, and nowhere else;
they are skipped. The digits of an exponent stop adding up once the exponent reaches 10000, which
already lies far outside the range of the format.

A number is rounded to the nearest value with a 24-bit significand and an exponent down to
`2 ^ -149`, ties to the even significand, from the exact value of every digit written. A value
that rounds past the largest finite one becomes an infinity of its sign.
-/

namespace Vestibule.Text.Single

/-- What a text reads as: an infinity, not a number, or the exact value `digits * base ^ scale`
with base 10 or 2. -/
inductive Reading where
  | infinity (neg : Bool)
  | notANumber
  | finite (neg : Bool) (digits : Nat) (binary : Bool) (scale : Int)
  deriving Repr, DecidableEq

def lowerOctet (b : UInt8) : UInt8 := if 65 ≤ b && b ≤ 90 then b + 32 else b

def isDecimal (b : UInt8) : Bool := 48 ≤ b && b ≤ 57

def digitValue (hex : Bool) (b : UInt8) : Option Nat :=
  if isDecimal b then some (b - 48).toNat
  else if hex && 97 ≤ lowerOctet b && lowerOctet b ≤ 102 then some (lowerOctet b - 87).toNat
  else none

def isWord (bs : List UInt8) (word : String) : Bool :=
  bs.map lowerOctet == word.toUTF8.toList

/-- Whether underscores stand only between digits, or between a base prefix and a digit. The
classes of what came last are: start, digit, underscore, other. -/
def underscoresFit (bs : List UInt8) : Bool :=
  let bs := match bs with
    | 45 :: rest | 43 :: rest => rest
    | _ => bs
  let (hex, start, bs) : Bool × Char × List UInt8 := match bs with
    | 48 :: p :: rest =>
      if lowerOctet p == 98 || lowerOctet p == 111 || lowerOctet p == 120 then
        (lowerOctet p == 120, '0', rest)
      else (false, '^', bs)
    | _ => (false, '^', bs)
  let step (saw : Option Char) (b : UInt8) : Option Char :=
    saw.bind fun saw =>
      if isDecimal b || (hex && 97 ≤ lowerOctet b && lowerOctet b ≤ 102) then some '0'
      else if b == 95 then (if saw == '0' then some '_' else none)
      else if saw == '_' then none
      else some '!'
  match bs.foldl step (some start) with
  | some saw => saw != '_'
  | none => false

/-- The digits of a significand: their value, how many follow the point, whether any were seen
and whether an underscore was, and the octets after them. -/
structure Significand where
  value : Nat
  fraction : Nat
  sawDigits : Bool
  underscores : Bool
  rest : List UInt8

/-- Reads the digits of a significand, with `point` telling whether the point was passed. -/
def significand (hex : Bool) (acc : Significand) (point : Bool) : List UInt8 → Significand
  | [] => { acc with rest := [] }
  | b :: bs =>
    if b == 95 then significand hex { acc with underscores := true } point bs
    else if b == 46 then
      if point then { acc with rest := b :: bs } else significand hex acc true bs
    else match digitValue hex b with
      | some d =>
        let value := acc.value * (if hex then 16 else 10) + d
        let fraction := if point then acc.fraction + 1 else acc.fraction
        significand hex { acc with value, fraction, sawDigits := true } point bs
      | none => { acc with rest := b :: bs }

/-- Reads exponent digits and underscores: the value, held once it reaches 10000, whether an
underscore was seen, and the octets after them. -/
def exponentDigits (e : Nat) (underscores : Bool) : List UInt8 → Nat × Bool × List UInt8
  | [] => (e, underscores, [])
  | b :: bs =>
    if b == 95 then exponentDigits e true bs
    else if isDecimal b then
      exponentDigits (if e < 10000 then e * 10 + (b - 48).toNat else e) underscores bs
    else (e, underscores, b :: bs)

/-- Reads the text as a number; none when it is not one, trailing octets included. -/
def readNumber (text : List UInt8) : Option Reading := do
  let (neg, body) := match text with
    | 43 :: rest => (false, rest)
    | 45 :: rest => (true, rest)
    | rest => (false, rest)
  let (hex, digits) := match body with
    | 48 :: x :: more => if lowerOctet x == 120 && !more.isEmpty then (true, more) else (false, body)
    | _ => (false, body)
  let s := significand hex ⟨0, 0, false, false, []⟩ false digits
  if !s.sawDigits then none
  let (expo, underscores, rest) ← match s.rest with
    | e :: more =>
      if lowerOctet e == (if hex then 112 else 101) then
        let (eneg, more) := match more with
          | 43 :: m => (false, m)
          | 45 :: m => (true, m)
          | m => (false, m)
        match more with
        | d :: _ =>
          if isDecimal d then
            let (e, u, after) := exponentDigits 0 s.underscores more
            some ((if eneg then -(e : Int) else e), u, after)
          else none
        | [] => none
      else if hex then none else some (0, s.underscores, s.rest)
    | [] => if hex then none else some (0, s.underscores, [])
  if !rest.isEmpty then none
  if underscores && !underscoresFit text then none
  let scale : Int := if hex then expo - 4 * s.fraction else expo - s.fraction
  some (.finite neg s.value hex scale)

/-- Reads the text; none when it is not a number. -/
def read (text : List UInt8) : Option Reading :=
  let (neg, word) := match text with
    | 43 :: rest => (false, rest)
    | 45 :: rest => (true, rest)
    | rest => (false, rest)
  if isWord word "inf" || isWord word "infinity" then some (.infinity neg)
  else if isWord text "nan" then some .notANumber
  else readNumber text

/-- The greatest `k` with `2 ^ k ≤ n / d`, for positive `n` and `d`. -/
def floorLog2 (n d : Nat) : Int :=
  let l : Int := (Nat.log2 n : Int) - (Nat.log2 d : Int)
  let reaches :=
    if 0 ≤ l then d * Nat.pow 2 l.toNat ≤ n else d ≤ n * Nat.pow 2 (-l).toNat
  if reaches then l else l - 1

def roundHalfEven (num den : Nat) : Nat :=
  let q := num / den
  let r := num % den
  if den < 2 * r || (den = 2 * r && q % 2 = 1) then q + 1 else q

def carry (m : Nat) (k : Int) : Nat × Int :=
  if m = Nat.pow 2 24 then (Nat.pow 2 23, k + 1) else (m, k)

/-- The significand and exponent of the single-precision value nearest to `n / d`, which is
positive: `n / d` divided by `2 ^ k` and rounded, where `k` is chosen so that the significand has
24 bits, or is `-149` for the smallest values. -/
def nearest (n d : Nat) : Nat × Int :=
  let k := max (floorLog2 n d - 23) (-149)
  let num := if 0 ≤ k then n else n * Nat.pow 2 (-k).toNat
  let den := if 0 ≤ k then d * Nat.pow 2 k.toNat else d
  carry (roundHalfEven num den) k

def ofRatio (n d : Nat) : Float :=
  let (m, k) := nearest n d
  if 104 < k then 1.0 / 0.0 else (Nat.toFloat m).scaleB k

/-- The single-precision value of an exact reading. Values whose size alone puts them past the
largest finite value or below half the smallest positive one are settled without computing. -/
def Reading.value : Reading → Float
  | .infinity neg => if neg then -(1.0 / 0.0) else 1.0 / 0.0
  | .notANumber => 0.0 / 0.0
  | .finite neg digits binary scale =>
    let magnitude : Float :=
      if digits = 0 then 0 else
      if binary then
        let top := scale + (Nat.log2 digits : Int)
        if 130 < top then 1.0 / 0.0 else if top < -160 then 0 else
        if 0 ≤ scale then ofRatio (digits * Nat.pow 2 scale.toNat) 1
        else ofRatio digits (Nat.pow 2 (-scale).toNat)
      else
        let top := scale + ((Nat.toDigits 10 digits).length : Int)
        if 40 < top then 1.0 / 0.0 else if top < -50 then 0 else
        if 0 ≤ scale then ofRatio (digits * Nat.pow 10 scale.toNat) 1
        else ofRatio digits (Nat.pow 10 (-scale).toNat)
    if neg then -magnitude else magnitude

def parse? (s : String) : Option Float := (read s.toUTF8.toList).map Reading.value

theorem carry_exponent_ge (m : Nat) (k : Int) : k ≤ (carry m k).2 := by
  unfold carry
  split
  · exact Int.le_add_of_nonneg_right (by decide)
  · exact Int.le_refl k

theorem nearest_exponent_ge (n d : Nat) : -149 ≤ (nearest n d).2 := by
  simp only [nearest]
  exact Int.le_trans (Int.le_max_right _ _) (carry_exponent_ge _ _)

theorem nearest_exact_one : nearest 1 1 = (Nat.pow 2 23, -23) := by decide

theorem digitValue_of_isDecimal (hex : Bool) (b : UInt8) (h : isDecimal b = true) :
    digitValue hex b = some (b - 48).toNat := by
  simp [digitValue, h]

end Vestibule.Text.Single
