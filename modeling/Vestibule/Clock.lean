import Vestibule.Text.Numeral

/-!
Instants and spans of time on a nanosecond clock.

A span is a signed 64-bit count of nanoseconds. A span made from a count of some unit, such as
milliseconds, wraps into the 64-bit range as 64-bit arithmetic does, so a very large count may
come out small or negative; negating the most negative span leaves it as it is. Instants are
whole nanoseconds and never wrap. The span between two instants is their difference, held at the
nearer end of the 64-bit range when it does not fit.

A span shown in whole seconds is its seconds as a binary floating-point number, the whole seconds
plus the rest divided by a billion, cut towards zero; the rounding of that sum can carry a span
just short of a whole second up to it.
-/

namespace Vestibule.Clock

open Text.Numeral

def spanOf (count unit : Int) : Int := wrap64 (count * unit)

def millis (count : Int) : Int := spanOf count 1000000

def seconds (count : Int) : Int := spanOf count 1000000000

def negate (d : Int) : Int := wrap64 (-d)

def maxSpan : Int := (signBound : Int) - 1

def minSpan : Int := -(signBound : Int)

def between (t u : Int) : Int := max minSpan (min maxSpan (t - u))

def toSeconds (d : Int) : Float :=
  Float.ofInt (d.tdiv 1000000000) + Float.ofInt (d.tmod 1000000000) / 1000000000

def truncate (f : Float) : Int :=
  if f < 0 then -((-f).floor.toUInt64.toNat : Int) else (f.floor.toUInt64.toNat : Int)

def wholeSeconds (d : Int) : Int := truncate (toSeconds d)

theorem minSpan_le_maxSpan : minSpan ≤ maxSpan := by decide

theorem between_le (t u : Int) : between t u ≤ maxSpan := by
  have := minSpan_le_maxSpan
  simp only [between]; omega

theorem between_of_small (t u : Int) (lo : minSpan ≤ t - u) (hi : t - u ≤ maxSpan) :
    between t u = t - u := by
  simp only [between]; omega

theorem between_le_sub {t u : Int} (h : u ≤ t) : between t u ≤ t - u := by
  have : minSpan ≤ 0 := by decide
  simp only [between]; omega

theorem millis_zero : millis 0 = 0 := by decide

theorem negate_minSpan : negate minSpan = minSpan := by decide

end Vestibule.Clock
