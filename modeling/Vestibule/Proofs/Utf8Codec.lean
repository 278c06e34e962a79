import Mathlib.Tactic.SplitIfs
import Vestibule.Text.Utf8

/-!
Reading back what the UTF-8 writer writes.

Each character is written as one to four octets, the first saying how many follow; reading them
gives the character back and leaves the rest of the input untouched, so a whole text is read
back from its octets. Characters below 128 are their own single octet.
-/

namespace Vestibule.Text.Utf8

theorem toNat_valid (c : Char) : c.toNat < 0xD800 ∨ (0xDFFF < c.toNat ∧ c.toNat < 0x110000) :=
  c.valid

theorem toNat_ofNat_of_lt {n : Nat} (h : n < 0xD800) : (Char.ofNat n).toNat = n := by
  have hv : n.isValidChar := Or.inl h
  have hof : Char.ofNat n = Char.ofNatAux n hv := dif_pos hv
  rw [hof]
  exact BitVec.toNat_ofNatLT _ _

theorem toNat_toUInt8 {n : Nat} (h : n < 256) : n.toUInt8.toNat = n := by
  simp [Nat.toUInt8, Nat.mod_eq_of_lt h]

theorem within_iff (lo hi b : UInt8) : within lo hi b = true ↔ lo.toNat ≤ b.toNat ∧ b.toNat ≤ hi.toNat := by
  simp [within, UInt8.le_iff_toNat_le]

theorem low6_continuation {k : Nat} (h : k < 64) : low6 (0x80 + k).toUInt8 = k := by
  rw [low6, toNat_toUInt8 (by omega)]
  omega

theorem decodeOne_encodeChar (c : Char) (rest : List UInt8) :
    ∃ b bs, encodeChar c = b :: bs ∧ decodeOne b (bs ++ rest) = (c, rest) := by
  have hv := toNat_valid c
  unfold encodeChar
  dsimp only
  split_ifs with h1 h2 h3
  · refine ⟨_, [], rfl, ?_⟩
    have hb := toNat_toUInt8 (show c.toNat < 256 by omega)
    unfold decodeOne
    rw [if_pos (by rw [UInt8.lt_iff_toNat_lt, hb]; simpa using h1), hb]
    simp [scalar]
  · refine ⟨_, [_], rfl, ?_⟩
    have hb := toNat_toUInt8 (show 0xC0 + c.toNat / 64 < 256 by omega)
    unfold decodeOne
    rw [if_neg (by rw [UInt8.lt_iff_toNat_lt, hb]; simp; omega)]
    rw [if_pos (by rw [within_iff, hb]; simp; omega)]
    have hc := toNat_toUInt8 (show 0x80 + c.toNat % 64 < 256 by omega)
    simp only [List.cons_append, List.nil_append]
    rw [if_pos (by rw [within_iff, hc]; simp; omega), hb, low6_continuation (by omega)]
    have hn : (0xC0 + c.toNat / 64) % 32 * 64 + c.toNat % 64 = c.toNat := by omega
    simp [scalar, hn]
  · refine ⟨_, [_, _], rfl, ?_⟩
    have hb := toNat_toUInt8 (show 0xE0 + c.toNat / 4096 < 256 by omega)
    have hc := toNat_toUInt8 (show 0x80 + c.toNat / 64 % 64 < 256 by omega)
    have hd := toNat_toUInt8 (show 0x80 + c.toNat % 64 < 256 by omega)
    unfold decodeOne
    rw [if_neg (by rw [UInt8.lt_iff_toNat_lt, hb]; simp; omega)]
    rw [if_neg (by rw [within_iff, hb]; simp; omega)]
    rw [if_pos (by rw [within_iff, hb]; simp; omega)]
    simp only [List.cons_append, List.nil_append, beq_iff_eq, ← UInt8.toNat_inj, hb]
    have hcond : (within (if 224 + c.toNat / 4096 = UInt8.toNat 224 then 160 else 128)
        (if 224 + c.toNat / 4096 = UInt8.toNat 237 then 159 else 191) (128 + c.toNat / 64 % 64).toUInt8 &&
        within 128 191 (128 + c.toNat % 64).toUInt8) = true := by
      rw [Bool.and_eq_true, within_iff, within_iff, hc, hd]
      split_ifs <;> simp_all <;> omega
    rw [if_pos hcond, low6_continuation (by omega), low6_continuation (by omega)]
    have hn : (224 + c.toNat / 4096) % 16 * 4096 + c.toNat / 64 % 64 * 64 + c.toNat % 64 = c.toNat := by
      omega
    simp [scalar, hn]
  · refine ⟨_, [_, _, _], rfl, ?_⟩
    have hb := toNat_toUInt8 (show 0xF0 + c.toNat / 262144 < 256 by omega)
    have hc := toNat_toUInt8 (show 0x80 + c.toNat / 4096 % 64 < 256 by omega)
    have hd := toNat_toUInt8 (show 0x80 + c.toNat / 64 % 64 < 256 by omega)
    have he := toNat_toUInt8 (show 0x80 + c.toNat % 64 < 256 by omega)
    unfold decodeOne
    rw [if_neg (by rw [UInt8.lt_iff_toNat_lt, hb]; simp; omega)]
    rw [if_neg (by rw [within_iff, hb]; simp; omega)]
    rw [if_neg (by rw [within_iff, hb]; simp; omega)]
    rw [if_pos (by rw [within_iff, hb]; simp; omega)]
    simp only [List.cons_append, List.nil_append, beq_iff_eq, ← UInt8.toNat_inj, hb]
    have hcond : (within (if 240 + c.toNat / 262144 = UInt8.toNat 240 then 144 else 128)
        (if 240 + c.toNat / 262144 = UInt8.toNat 244 then 143 else 191)
        (128 + c.toNat / 4096 % 64).toUInt8 && within 128 191 (128 + c.toNat / 64 % 64).toUInt8 &&
        within 128 191 (128 + c.toNat % 64).toUInt8) = true := by
      rw [Bool.and_eq_true, Bool.and_eq_true, within_iff, within_iff, within_iff, hc, hd, he]
      split_ifs <;> simp_all <;> omega
    rw [if_pos hcond, low6_continuation (by omega), low6_continuation (by omega),
      low6_continuation (by omega)]
    have hn : (240 + c.toNat / 262144) % 8 * 262144 + c.toNat / 4096 % 64 * 4096 +
        c.toNat / 64 % 64 * 64 + c.toNat % 64 = c.toNat := by
      omega
    simp [scalar, hn]

theorem decodeChars_encodeChars (cs : List Char) : decodeChars (encodeChars cs) = cs := by
  induction cs with
  | nil => simp [encodeChars, decodeChars]
  | cons c cs ih =>
    obtain ⟨b, bs, hc, hdec⟩ := decodeOne_encodeChar c (encodeChars cs)
    have hcons : encodeChars (c :: cs) = b :: (bs ++ encodeChars cs) := by
      simp [encodeChars, hc]
    rw [hcons, decodeChars, hdec, ih]

theorem decode_encode (s : String) : decode (encode s) = s := by
  simp [decode, encode, decodeChars_encodeChars]

theorem encode_text_append (s t : String) : encode (s ++ t) = encode s ++ encode t := by
  simp [encode, encode_append]

theorem encodeChar_of_lt {c : Char} (h : c.toNat < 0x80) : encodeChar c = [c.toNat.toUInt8] := by
  simp [encodeChar, h]

theorem le_of_mem_encodeChar {c : Char} (h : 0x80 ≤ c.toNat) {b : UInt8} (hb : b ∈ encodeChar c) :
    0x80 ≤ b.toNat := by
  have hv := toNat_valid c
  unfold encodeChar at hb
  dsimp only at hb
  split_ifs at hb with h1 h2 h3
  · omega
  all_goals
    simp only [List.mem_cons, List.not_mem_nil, or_false] at hb
    rcases hb with rfl | rfl | rfl | rfl <;> rw [toNat_toUInt8 (by omega)] <;> omega

theorem encodeChar_ofNat_octet {b : UInt8} (h : b.toNat < 0x80) :
    encodeChar (Char.ofNat b.toNat) = [b] := by
  have hc : (Char.ofNat b.toNat).toNat = b.toNat := toNat_ofNat_of_lt (by omega)
  rw [encodeChar_of_lt (by omega), hc]
  simp [Nat.toUInt8]

end Vestibule.Text.Utf8
