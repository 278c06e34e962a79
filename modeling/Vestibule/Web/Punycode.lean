import Vestibule.Text.Utf8

/-!
Host names in ASCII form: each label that is not ASCII is written in Punycode (RFC 3492) after
the prefix `xn--`.

Punycode writes the ASCII characters of a label first, then a `-` if there were any, then the
other code points in ascending order, each as the distance from the last one inserted, counted
over the positions of the label, in a variable-length base-36 number whose digit thresholds
adapt to the distances seen so far.

The counters of encoding and decoding are 32-bit signed numbers. Encoding comes in two kinds
that differ only in how the distance meets that limit when the jump to the next code point is
added: the sum wraps and a negative distance is refused, or a sum past the limit is refused
outright. Either way a long label with large code points can have no Punycode form.

Reading a label back is checked: the counters must not pass their limit, a label holds at most
1024 code points, and no code point passes U+10FFFF. A label written with `xn--` that does not
read back, or reads back as ASCII alone, has no checked ASCII form, and neither has a label that
holds the replacement character U+FFFD, nor the host name that holds such a label. A label
written `xn--` and nothing more reads back as an empty label.
-/

namespace Vestibule.Web.Punycode

def digitChar (d : Nat) : Char :=
  if d < 26 then Char.ofNat (97 + d) else Char.ofNat (22 + d)

def threshold (k bias : Nat) : Nat :=
  if k ≤ bias then 1 else if bias + 26 ≤ k then 26 else k - bias

theorem threshold_pos (k bias : Nat) : 1 ≤ threshold k bias := by
  unfold threshold; split <;> (try split) <;> omega

theorem threshold_le (k bias : Nat) : threshold k bias ≤ 26 := by
  unfold threshold; split <;> (try split) <;> omega

def shrink (delta k : Nat) : Nat × Nat :=
  if 455 < delta then shrink (delta / 35) (k + 36) else (delta, k)
termination_by delta
decreasing_by omega

/-- The bias after a distance, for a label with `points` code points handled. -/
def adapt (delta points : Nat) (first : Bool) : Nat :=
  let d := if first then delta / 700 else delta / 2
  let d := d + d / points
  let (d, k) := shrink d 0
  k + 36 * d / (d + 38)

/-- A distance as variable-length base-36 digits, the least significant first. -/
def digits (bias k q : Nat) : List Char :=
  let t := threshold k bias
  if q < t then [digitChar q]
  else digitChar (t + (q - t) % (36 - t)) :: digits bias (k + 36) ((q - t) / (36 - t))
termination_by q
decreasing_by
  have h1 := threshold_pos k bias
  have h2 := threshold_le k bias
  have : (q - threshold k bias) / (36 - threshold k bias) ≤ q - threshold k bias :=
    Nat.div_le_self _ _
  omega

def counterLimit : Nat := 2147483647

def wrap32 (x : Int) : Int := (x + 2147483648) % 4294967296 - 2147483648

/-- How the distance counter of encoding meets its 32-bit limit when a jump to the next code
point is added to it. -/
inductive Overflow where
  /-- The sum wraps around as 32-bit arithmetic does, and a distance that comes out negative is
  refused. -/
  | wraps
  | refused
  deriving DecidableEq

/-- Adds a jump to the distance under the overflow rule; none when it is refused. -/
def Overflow.add : Overflow → Int → Nat → Option Int
  | .wraps, delta, jump =>
    let d := wrap32 (delta + jump)
    if d < 0 then none else some d
  | .refused, delta, jump =>
    if (counterLimit : Int) - delta < jump then none else some (wrap32 (delta + jump))

/-- The state of encoding: the output so far, the distance, the bias and how many code points
are handled. -/
structure State where
  out : List Char
  delta : Int
  bias : Nat
  handled : Nat

/-- Visits one code point of the label while inserting the code point `m`: a smaller one moves
the distance on, which may not wrap to a negative value, and `m` itself is written out. -/
def visit (basic m : Nat) (st : Option State) (r : Nat) : Option State :=
  st.bind fun st =>
    if r < m then
      let d := wrap32 (st.delta + 1)
      if d < 0 then none else some { st with delta := d }
    else if r == m then
      let q := st.delta.toNat
      some ⟨st.out ++ digits st.bias 36 q, 0, adapt q (st.handled + 1) (st.handled == basic),
        st.handled + 1⟩
    else some st

/-- Inserts the code points `ms`, in ascending order, having inserted up to `n`. The step to the
next round moves the distance on without a check. -/
def insertAll (rule : Overflow) (label : List Nat) (basic : Nat) :
    List Nat → Nat → Option State → Option State
  | [], _, st => st
  | m :: ms, n, st =>
    let st := st.bind fun st =>
      (rule.add st.delta ((m - n) * (st.handled + 1))).map fun d => { st with delta := d }
    let st := label.foldl (visit basic m) st
    insertAll rule label basic ms (m + 1) (st.map fun st => { st with delta := wrap32 (st.delta + 1) })

/-- The Punycode form of a label, without prefix; none when a counter overflows under `rule`. -/
def encode (rule : Overflow) (label : List Char) : Option (List Char) :=
  let points := label.map Char.toNat
  let basic := label.filter (·.toNat < 128)
  let others := ((points.filter (128 ≤ ·)).mergeSort (· ≤ ·)).eraseDups
  let start : State := ⟨basic ++ (if basic.isEmpty then [] else ['-']), 0, 72, basic.length⟩
  (insertAll rule points basic.length others 128 (some start)).map (·.out)

def isAscii (bs : List UInt8) : Bool := bs.all (· < 128)

/-- The ASCII form of a host name: each label that is not ASCII is read as UTF-8 and written
in Punycode after `xn--`, with counters that wrap; none when a label's counter comes out
negative. -/
def toAscii (host : List UInt8) : Option (List UInt8) :=
  if isAscii host then some host
  else
    let written := (host.splitOn 46).mapM fun l =>
      if isAscii l then some l
      else (encode .wraps (Text.Utf8.decodeChars l)).map fun e =>
        Text.Utf8.encodeChars ("xn--".toList ++ e)
    written.map fun ls => (ls.intersperse [46]).flatten

/-- The value of a Punycode digit: a letter in either case for 0 to 25, a decimal digit for 26
to 35. -/
def digitValue? (c : Char) : Option Nat :=
  if 'a' ≤ c && c ≤ 'z' then some (c.toNat - 97)
  else if 'A' ≤ c && c ≤ 'Z' then some (c.toNat - 65)
  else if '0' ≤ c && c ≤ '9' then some (c.toNat - 22)
  else none

/-- Reads one variable-length number and adds it onto `i`: the digit at weight position `k`
counts `w` times, and the number ends at the first digit below its threshold. None when the text
ends first, a character is no digit, or a counter passes `counterLimit`. -/
def readDelta (bias : Nat) : (k i w : Nat) → List Char → Option (Nat × List Char)
  | _, _, _, [] => none
  | k, i, w, c :: rest => do
    let d ← digitValue? c
    let i := i + d * w
    if counterLimit < i then none
    let t := threshold k bias
    if d < t then return (i, rest)
    let w := w * (36 - t)
    if counterLimit < w then none
    readDelta bias (k + 36) i w rest

/-- Inserts the code points given by the numbers in the text into `out`, with `i` the position
after the last insertion, `n` the last code point and `bias` the current bias. None when a
number does not read, the label already has 1024 code points, or a code point passes U+10FFFF.
Every number takes at least one character, so one step per character is enough. -/
def insertPoints : (fuel : Nat) → List Nat → (i n bias : Nat) → List Char → Option (List Nat)
  | _, out, _, _, _, [] => some out
  | 0, _, _, _, _, _ :: _ => none
  | fuel + 1, out, i, n, bias, c :: cs => do
    let (next, rest) ← readDelta bias 36 i 1 (c :: cs)
    if 1024 ≤ out.length then none
    let x := out.length + 1
    let n := n + next / x
    if 0x10FFFF < n then none
    insertPoints fuel (out.insertIdx (next % x) n) (next % x + 1) n (adapt (next - i) x (i == 0))
      rest

def pointChar (n : Nat) : Char :=
  if 0xD800 ≤ n && n ≤ 0xDFFF then '\uFFFD' else Char.ofNat n

/-- The code points of a label in Punycode, without prefix: the characters before the last `-`
are the ASCII part, and the numbers after it insert the others. A label ending in `-` is its ASCII
part alone; one whose only `-` comes first does not decode. -/
def decode (encoded : List Char) : Option (List Char) :=
  if encoded.isEmpty then some [] else
  let pos := match (encoded.reverse.findIdx? (· == '-')) with
    | some r => encoded.length - r
    | none => 0
  if pos == 1 then none
  else if pos == encoded.length then some encoded.dropLast
  else
    let basic := if pos == 0 then [] else encoded.take (pos - 1)
    (insertPoints (encoded.length + 1) (basic.map Char.toNat) 0 128 72 (encoded.drop pos)).map
      (·.map pointChar)

/-- One label in ASCII form, checked: none when the label holds the replacement character
U+FFFD, written or standing for octets that are no UTF-8, or when a label already in Punycode does
not decode or decodes to something that is ASCII alone or holds U+FFFD. A Punycode label that
decodes to nothing becomes empty. -/
def labelToAscii (label : List UInt8) : Option (List UInt8) :=
  let cs := Text.Utf8.decodeChars label
  if "xn--".toList.isPrefixOf cs then
    match decode (cs.drop 4) with
    | none => none
    | some [] => some []
    | some u =>
      if u.all (·.toNat < 128) || u.contains '\uFFFD' then none
      else (encode .refused u).map fun e => Text.Utf8.encodeChars ("xn--".toList ++ e)
  else if isAscii label then some label
  else if cs.contains '\uFFFD' then none
  else (encode .refused cs).map fun e => Text.Utf8.encodeChars ("xn--".toList ++ e)

/-- The checked ASCII form of a host name that is not all ASCII. The part before the first `:`
is converted label by label, with the labels already in Punycode decoded and written again; what
follows the `:` must be ASCII and is kept after it, unless it is empty. None when a label fails
or the part after the `:` is not ASCII. A host all in ASCII is left as it is, unchecked. -/
def toAsciiChecked (host : List UInt8) : Option (List UInt8) :=
  if isAscii host then some host else
  let name := host.takeWhile (· != 58)
  let rest := (host.drop name.length).drop 1
  if !isAscii rest then none else
  ((name.splitOn 46).mapM labelToAscii).map fun ls =>
    (ls.intersperse [46]).flatten ++ (if rest.isEmpty then [] else 58 :: rest)

theorem digitValue?_digitChar (d : Nat) (h : d < 36) : digitValue? (digitChar d) = some d := by
  have hall : ∀ e ∈ List.range 36, digitValue? (digitChar e) = some e := by decide
  exact hall d (List.mem_range.mpr h)

theorem decode_nil : decode [] = some [] := rfl

theorem toAsciiChecked_of_isAscii (host : List UInt8) (h : isAscii host = true) :
    toAsciiChecked host = some host := by
  simp [toAsciiChecked, h]

theorem toAsciiChecked_of_port_not_ascii (name rest : List UInt8) (hname : ∀ b ∈ name, b ≠ 58)
    (hrest : isAscii rest = false) : toAsciiChecked (name ++ 58 :: rest) = none := by
  have hhost : isAscii (name ++ 58 :: rest) = false := by
    simp only [isAscii, List.all_append, List.all_cons] at hrest ⊢
    simp [hrest]
  have htake : (name ++ 58 :: rest).takeWhile (· != 58) = name := by
    rw [List.takeWhile_append_of_pos (fun b hb => by simpa using hname b hb)]
    simp
  simp [toAsciiChecked, hhost, htake, hrest]

theorem toAscii_of_isAscii (host : List UInt8) (h : isAscii host = true) :
    toAscii host = some host := by
  simp [toAscii, h]

end Vestibule.Web.Punycode
