/-!
Packing bit fields into octets.

A deflate stream is a sequence of bit fields packed into octets from the least significant bit
up: a field of width `w` and value `v` puts the lowest bit of `v` first. The sink keeps the
octets already complete and the bits of the octet being filled, as a number below `2 ^ width`
with `width < 8`.
-/

namespace Vestibule.Compress

/-- Octets already complete, and the `width` bits of the next one, as the number `pending`. -/
structure BitSink where
  done : Array UInt8
  pending : Nat
  width : Nat
  deriving Repr

namespace BitSink

def empty : BitSink := ⟨#[], 0, 0⟩

def settle (done : Array UInt8) (pending : Nat) : Nat → BitSink
  | w + 8 => settle (done.push (UInt8.ofNat pending)) (pending / 256) w
  | w => ⟨done, pending, w⟩

def put (s : BitSink) (value width : Nat) : BitSink :=
  settle s.done (s.pending + value % Nat.pow 2 width * Nat.pow 2 s.width) (s.width + width)

def align (s : BitSink) : BitSink :=
  if s.width = 0 then s else ⟨s.done.push (UInt8.ofNat s.pending), 0, 0⟩

def putOctets (s : BitSink) (bs : List UInt8) : BitSink :=
  ⟨s.align.done ++ bs.toArray, 0, 0⟩

def octets (s : BitSink) : List UInt8 := s.align.done.toList

theorem settle_width_lt (done : Array UInt8) (pending w : Nat) :
    (settle done pending w).width < 8 := by
  induction w using Nat.strongRecOn generalizing done pending with
  | _ w ih =>
    match w, ih with
    | w + 8, ih => simpa [settle] using ih w (by omega) _ _
    | 0, _ | 1, _ | 2, _ | 3, _ | 4, _ | 5, _ | 6, _ | 7, _ => simp [settle]

theorem put_width_lt (s : BitSink) (value width : Nat) : (s.put value width).width < 8 :=
  settle_width_lt _ _ _

theorem align_width (s : BitSink) : s.align.width = 0 := by
  unfold align
  split <;> simp_all

theorem octets_empty : empty.octets = [] := rfl

end BitSink

end Vestibule.Compress
