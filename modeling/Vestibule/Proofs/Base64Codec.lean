import Vestibule.Proofs.Utf8Codec
import Vestibule.Text.Base64

/-!
A writer for the URL-safe base64 alphabet, and its reading.

Three octets are written as four symbols; a short last group gives two or three symbols, with or
without `=` padding. The reader, given the text padded to whole groups, returns the octets
written. The written text is ASCII without a dot, so it can stand as one segment of a
dot-separated token.
-/

namespace Vestibule.Text.Base64

/-- The symbol of a value below 64 in the URL-safe alphabet, as an octet. -/
def urlSymbol (n : Nat) : UInt8 :=
  if n < 26 then (65 + n).toUInt8
  else if n < 52 then (71 + n).toUInt8
  else if n < 62 then (n - 4).toUInt8
  else if n == 62 then 45
  else 95

theorem symbolValue_urlSymbol {n : Nat} (h : n < 64) : symbolValue (urlSymbol n) = some n := by
  have hall : ∀ k : Fin 64, symbolValue (urlSymbol k) = some k := by decide
  exact hall ⟨n, h⟩

/-- Writes octets in the URL-safe alphabet, three octets to four symbols; a short last group is
padded with `=` when `pad` is set. -/
def encodeUrl (pad : Bool) : List UInt8 → List UInt8
  | a :: b :: c :: rest =>
    let n := a.toNat * 65536 + b.toNat * 256 + c.toNat
    [urlSymbol (n / 262144), urlSymbol (n / 4096 % 64), urlSymbol (n / 64 % 64),
      urlSymbol (n % 64)] ++ encodeUrl pad rest
  | [a, b] =>
    let n := a.toNat * 65536 + b.toNat * 256
    [urlSymbol (n / 262144), urlSymbol (n / 4096 % 64), urlSymbol (n / 64 % 64)] ++
      if pad then [61] else []
  | [a] =>
    let n := a.toNat * 65536
    [urlSymbol (n / 262144), urlSymbol (n / 4096 % 64)] ++ if pad then [61, 61] else []
  | [] => []

theorem padToQuad_append {xs : List UInt8} (h : xs.length = 4) (ys : List UInt8) :
    padToQuad (xs ++ ys) = xs ++ padToQuad ys := by
  simp only [padToQuad, List.length_append, h, List.append_assoc]
  congr 3
  omega

theorem padToQuad_encodeUrl (pad : Bool) (bs : List UInt8) :
    padToQuad (encodeUrl pad bs) = encodeUrl true bs := by
  induction bs using encodeUrl.induct with
  | case1 a b c rest ih =>
    rw [encodeUrl, encodeUrl, padToQuad_append (by simp), ih]
  | case2 a b => cases pad <;> simp [encodeUrl, padToQuad]
  | case3 a => cases pad <;> simp [encodeUrl, padToQuad]
  | case4 => simp [encodeUrl, padToQuad]

theorem toUInt8_eq {n : Nat} {a : UInt8} (h : n % 256 = a.toNat) : n.toUInt8 = a := by
  rw [← UInt8.toNat_inj]
  simpa [Nat.toUInt8] using h

theorem groupOctets_four (a b c : UInt8) {n : Nat}
    (hn : n = a.toNat * 65536 + b.toNat * 256 + c.toNat) :
    groupOctets [n / 262144, n / 4096 % 64, n / 64 % 64, n % 64] = [a, b, c] := by
  have ha := a.toNat_lt
  have hb := b.toNat_lt
  have hc := c.toNat_lt
  have hpow : Nat.pow 64 (4 - 4) = 1 := rfl
  simp only [groupOctets, List.foldl, List.length, hpow, Nat.mul_one, List.take,
    List.cons.injEq, and_true]
  refine ⟨toUInt8_eq ?_, toUInt8_eq ?_, toUInt8_eq ?_⟩ <;> omega

theorem groupOctets_three (a b : UInt8) {n : Nat} (hn : n = a.toNat * 65536 + b.toNat * 256) :
    groupOctets [n / 262144, n / 4096 % 64, n / 64 % 64] = [a, b] := by
  have ha := a.toNat_lt
  have hb := b.toNat_lt
  have hpow : Nat.pow 64 (4 - 3) = 64 := rfl
  simp only [groupOctets, List.foldl, List.length, hpow, List.take, List.cons.injEq, and_true]
  refine ⟨toUInt8_eq ?_, toUInt8_eq ?_⟩ <;> omega

theorem groupOctets_two (a : UInt8) {n : Nat} (hn : n = a.toNat * 65536) :
    groupOctets [n / 262144, n / 4096 % 64] = [a] := by
  have ha := a.toNat_lt
  have hpow : Nat.pow 64 (4 - 2) = 4096 := rfl
  simp only [groupOctets, List.foldl, List.length, hpow, List.take, List.cons.injEq, and_true]
  exact toUInt8_eq (by omega)

section Reading

variable {b : UInt8} {v : Nat} (hb : symbolValue b = some v) (pos : Nat) (out rest : List UInt8)
include hb

theorem readFrom_symbol {vals : List Nat} (hv : vals.length ≠ 3) :
    readFrom (.symbols vals) pos out (b :: rest) =
      readFrom (.symbols (vals ++ [v])) (pos + 1) out rest := by
  simp [readFrom, hb, hv]

theorem readFrom_fourth {vals : List Nat} (hv : vals.length = 3) :
    readFrom (.symbols vals) pos out (b :: rest) =
      readFrom (.symbols []) (pos + 1) (out ++ groupOctets (vals ++ [v])) rest := by
  simp [readFrom, hb, hv]

end Reading

theorem readFrom_encodeUrl (bs : List UInt8) (pos : Nat) (out : List UInt8) :
    readFrom (.symbols []) pos out (encodeUrl true bs) = .ok (out ++ bs) := by
  induction bs using encodeUrl.induct generalizing pos out with
  | case1 a b c rest ih =>
    have ha := a.toNat_lt
    have hb := b.toNat_lt
    have hc := c.toNat_lt
    rw [encodeUrl]
    generalize hn : a.toNat * 65536 + b.toNat * 256 + c.toNat = n
    simp only [List.cons_append, List.nil_append]
    rw [readFrom_symbol (symbolValue_urlSymbol (by omega)) _ _ _ (by simp),
      readFrom_symbol (symbolValue_urlSymbol (by omega)) _ _ _ (by simp),
      readFrom_symbol (symbolValue_urlSymbol (by omega)) _ _ _ (by simp),
      readFrom_fourth (symbolValue_urlSymbol (by omega)) _ _ _ (by simp), ih]
    simp [groupOctets_four a b c hn.symm]
  | case2 a b =>
    have ha := a.toNat_lt
    have hb := b.toNat_lt
    rw [encodeUrl]
    generalize hn : a.toNat * 65536 + b.toNat * 256 = n
    simp only [if_true, List.cons_append, List.nil_append]
    rw [readFrom_symbol (symbolValue_urlSymbol (by omega)) _ _ _ (by simp),
      readFrom_symbol (symbolValue_urlSymbol (by omega)) _ _ _ (by simp),
      readFrom_symbol (symbolValue_urlSymbol (by omega)) _ _ _ (by simp)]
    -- the `=` closes the group of three symbols
    simp [readFrom, symbolValue, isBreak, groupOctets_three a b hn.symm]
  | case3 a =>
    have ha := a.toNat_lt
    rw [encodeUrl]
    generalize hn : a.toNat * 65536 = n
    simp only [if_true, List.cons_append, List.nil_append]
    rw [readFrom_symbol (symbolValue_urlSymbol (by omega)) _ _ _ (by simp),
      readFrom_symbol (symbolValue_urlSymbol (by omega)) _ _ _ (by simp)]
    -- two `=` close the group of two symbols
    simp [readFrom, symbolValue, isBreak, groupOctets_two a hn.symm]
  | case4 => simp [encodeUrl, readFrom]

theorem decode_padToQuad_encodeUrl (pad : Bool) (bs : List UInt8) :
    decode (padToQuad (encodeUrl pad bs)) = .ok bs := by
  rw [padToQuad_encodeUrl, decode, readFrom_encodeUrl, List.nil_append]

theorem urlSymbol_ascii (n : Nat) : (urlSymbol n).toNat < 0x80 ∧ (urlSymbol n).toNat ≠ 46 := by
  unfold urlSymbol
  split_ifs <;> simp [Nat.toUInt8] <;> omega

theorem ascii_of_mem_encodeUrl {pad : Bool} {bs : List UInt8} {b : UInt8}
    (h : b ∈ encodeUrl pad bs) : b.toNat < 0x80 ∧ b.toNat ≠ 46 := by
  induction bs using encodeUrl.induct with
  | case1 a b' c rest ih =>
    rw [encodeUrl] at h
    simp only [List.cons_append, List.nil_append, List.mem_cons] at h
    rcases h with rfl | rfl | rfl | rfl | h
    any_goals exact urlSymbol_ascii _
    exact ih h
  | case2 a b' =>
    rw [encodeUrl] at h
    cases pad <;> simp only [List.cons_append, List.nil_append, List.mem_cons, List.not_mem_nil,
      or_false, if_true, Bool.false_eq_true, if_false, List.append_nil] at h
    · rcases h with rfl | rfl | rfl <;> exact urlSymbol_ascii _
    · rcases h with rfl | rfl | rfl | rfl
      any_goals exact urlSymbol_ascii _
      decide
  | case3 a =>
    rw [encodeUrl] at h
    cases pad <;> simp only [List.cons_append, List.nil_append, List.mem_cons, List.not_mem_nil,
      or_false, if_true, Bool.false_eq_true, if_false, List.append_nil] at h
    · rcases h with rfl | rfl <;> exact urlSymbol_ascii _
    · rcases h with rfl | rfl | rfl | rfl
      any_goals exact urlSymbol_ascii _
      all_goals decide
  | case4 => simp [encodeUrl] at h

def encodeUrlText (pad : Bool) (bs : List UInt8) : String :=
  String.ofList ((encodeUrl pad bs).map fun b => Char.ofNat b.toNat)

theorem encode_encodeUrlText (pad : Bool) (bs : List UInt8) :
    Utf8.encode (encodeUrlText pad bs) = encodeUrl pad bs := by
  simp only [Utf8.encode, encodeUrlText, String.toList_ofList, Utf8.encodeChars, List.flatMap_map]
  have hone : ∀ b ∈ encodeUrl pad bs, Utf8.encodeChar (Char.ofNat b.toNat) = [b] :=
    fun b hb => Utf8.encodeChar_ofNat_octet (ascii_of_mem_encodeUrl hb).1
  rw [List.flatMap_def, List.map_congr_left hone, ← List.flatMap_def, List.flatMap_singleton']

theorem dot_not_mem_encodeUrlText (pad : Bool) (bs : List UInt8) :
    '.' ∉ (encodeUrlText pad bs).toList := by
  simp only [encodeUrlText, String.toList_ofList, List.mem_map, not_exists, not_and]
  intro b hb hdot
  have hb' := ascii_of_mem_encodeUrl hb
  have h46 := congrArg Char.toNat hdot
  rw [Utf8.toNat_ofNat_of_lt (by omega)] at h46
  exact hb'.2 h46

end Vestibule.Text.Base64
