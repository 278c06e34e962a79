import Mathlib.Tactic.SplitIfs
import Vestibule.Json.Bind
import Vestibule.Json.Read
import Vestibule.Json.Write
import Vestibule.Proofs.Utf8Codec

/-!
Reading back what the writer writes.

The reader takes octets one at a time and only looks past an octet to name it in a refusal, so
its progress over a block of octets is a relation `Reads` between two machines that holds
whatever follows the block. Each written character of a string is taken in without a refusal and
decoded back to itself; an integer's decimal text leaves the reader inside a number whose literal
is that text. Main statements: an object whose members are strings and integers is read back
from its written text in any style (`readAll_render_object`), and the decimal text of a signed
64-bit integer reads back as that integer (`parseInt64_toString`).
-/

namespace Vestibule.Json

open Vestibule.Text

def Reads (m : Machine) (xs : List UInt8) (m' : Machine) : Prop :=
  ∀ rest, Machine.run true m (xs ++ rest) = Machine.run true m' rest

theorem run_cons (m : Machine) (c : UInt8) (cs : List UInt8) :
    Machine.run true m (c :: cs) = (m.step true c cs).bind (Machine.run true · cs) := by
  rw [Machine.run]
  split <;> rfl

namespace Reads

theorem nil (m : Machine) : Reads m [] m := fun _ => rfl

theorem trans {m₁ m₂ m₃ : Machine} {xs ys : List UInt8} (h₁ : Reads m₁ xs m₂)
    (h₂ : Reads m₂ ys m₃) : Reads m₁ (xs ++ ys) m₃ := by
  intro rest
  rw [List.append_assoc, h₁, h₂]

theorem single {m m' : Machine} {c : UInt8} (h : ∀ rest, m.step true c rest = .ok m') :
    Reads m [c] m' := by
  intro rest
  rw [List.singleton_append, run_cons, h]
  rfl

theorem cons {m m₁ m₂ : Machine} {c : UInt8} {xs : List UInt8}
    (h : ∀ rest, m.step true c rest = .ok m₁) (h' : Reads m₁ xs m₂) : Reads m (c :: xs) m₂ :=
  (single h).trans h'

theorem run_eq {m m' : Machine} {xs : List UInt8} (h : Reads m xs m') :
    Machine.run true m xs = .ok m' := by
  have hend := h []
  rw [List.append_nil] at hend
  rw [hend]
  rfl

end Reads

/-! ### Single steps -/

section Steps

variable {fs : List Frame} {r : Option Value} {sv : Bool} {raw : List UInt8}

theorem step_plain {c : UInt8} (h34 : c ≠ 34) (h92 : c ≠ 92) (h32 : 32 ≤ c.toNat)
    (rest : List UInt8) :
    (⟨.inString raw, fs, r, sv⟩ : Machine).step true c rest =
      .ok ⟨.inString (c :: raw), fs, r, sv⟩ := by
  have hlt : ¬ c < 32 := by
    rw [UInt8.lt_iff_toNat_lt]
    simpa using h32
  simp [Machine.step, h34, h92, hlt]

theorem step_backslash (rest : List UInt8) :
    (⟨.inString raw, fs, r, sv⟩ : Machine).step true 92 rest =
      .ok ⟨.inEscape (92 :: raw), fs, r, sv⟩ := by
  simp [Machine.step]

theorem step_short {e : UInt8} (he : isShortEscape e = true) (rest : List UInt8) :
    (⟨.inEscape raw, fs, r, sv⟩ : Machine).step true e rest =
      .ok ⟨.inString (e :: raw), fs, r, sv⟩ := by
  simp [Machine.step, he]

theorem step_unicode (rest : List UInt8) :
    (⟨.inEscape raw, fs, r, sv⟩ : Machine).step true 117 rest =
      .ok ⟨.inUnicode (117 :: raw) 0, fs, r, sv⟩ := by
  simp [Machine.step, isShortEscape]

theorem step_hex {c : UInt8} (hc : (hexValue c).isSome) {k : Nat} (hk : k < 3)
    (rest : List UInt8) :
    (⟨.inUnicode raw k, fs, r, sv⟩ : Machine).step true c rest =
      .ok ⟨.inUnicode (c :: raw) (k + 1), fs, r, sv⟩ := by
  have hk3 : (k == 3) = false := by simp; omega
  simp [Machine.step, hc, hk3]

theorem step_last_hex {c : UInt8} (hc : (hexValue c).isSome) (rest : List UInt8) :
    (⟨.inUnicode raw 3, fs, r, sv⟩ : Machine).step true c rest =
      .ok ⟨.inString (c :: raw), fs, r, sv⟩ := by
  simp [Machine.step, hc]

theorem step_open_key {P : Phase} (hP : P = .beginKeyOrEmpty ∨ P = .beginKey)
    (rest : List UInt8) :
    (⟨P, fs, r, sv⟩ : Machine).step true 34 rest = .ok ⟨.inString [], fs, r, sv⟩ := by
  rcases hP with rfl | rfl <;> simp [Machine.step, Machine.beginKey, isSpace]

theorem step_open_value (rest : List UInt8) :
    (⟨.beginValue, fs, r, true⟩ : Machine).step true 34 rest = .ok ⟨.inString [], fs, r, true⟩ := by
  simp [Machine.step, Machine.beginValue, isSpace]

theorem step_colon {acc : List (String × Value)} {k : String} (rest : List UInt8) :
    (⟨.endValue, .objectKey acc k :: fs, r, sv⟩ : Machine).step true 58 rest =
      .ok ⟨.beginValue, .objectValue acc k :: fs, r, sv⟩ := by
  simp [Machine.step, Machine.afterValue, isSpace]

theorem step_comma {acc : List (String × Value)} {k : String} (rest : List UInt8) :
    (⟨.endValue, .objectValue acc k :: fs, r, sv⟩ : Machine).step true 44 rest =
      .ok ⟨.beginKey, .objectKey acc "" :: fs, r, sv⟩ := by
  simp [Machine.step, Machine.afterValue, isSpace]

theorem step_close_top {acc : List (String × Value)} {k : String} (rest : List UInt8) :
    (⟨.endValue, [.objectValue acc k], r, sv⟩ : Machine).step true 125 rest =
      .ok ⟨.endTop, [], some (.object acc.reverse), sv⟩ := by
  simp [Machine.step, Machine.afterValue, Machine.close, Machine.give, isSpace]

theorem reads_pushing (ph : List UInt8 → Phase) {bs : List UInt8}
    (h : ∀ b ∈ bs, ∀ held rest, (⟨ph held, fs, r, sv⟩ : Machine).step true b rest =
      .ok ⟨ph (b :: held), fs, r, sv⟩) (held : List UInt8) :
    Reads ⟨ph held, fs, r, sv⟩ bs ⟨ph (bs.reverse ++ held), fs, r, sv⟩ := by
  induction bs generalizing held with
  | nil => exact Reads.nil _
  | cons b bs ih =>
    have hrest := ih (fun x hx => h x (List.mem_cons_of_mem _ hx)) (b :: held)
    simp only [List.reverse_cons, List.append_assoc, List.singleton_append] at hrest ⊢
    exact Reads.cons (h b (List.mem_cons_self ..) held) hrest

end Steps

/-! ### How a character is written inside a string -/

theorem escape_cases (st : Style) (c : Char) :
    (∃ e : UInt8, st.escape c = ['\\', Char.ofNat e.toNat] ∧ e.toNat < 128 ∧
        isShortEscape e = true ∧ e ≠ 117 ∧ escapeMeaning e = c) ∨
      (st.escape c = '\\' :: 'u' :: Quote.hexFixed 4 c.toNat ∧ c.toNat < 0x10000) ∨
      (st.escape c = [c] ∧ c ≠ '"' ∧ c ≠ '\\' ∧ 0x20 ≤ c.toNat) := by
  unfold Style.escape
  dsimp only
  split_ifs with hq hn hr ht hb hf hu
  · simp only [Bool.or_eq_true, beq_iff_eq] at hq
    rcases hq with rfl | rfl
    · exact Or.inl ⟨34, by decide, by decide, by decide, by decide, by decide⟩
    · exact Or.inl ⟨92, by decide, by decide, by decide, by decide, by decide⟩
  · simp only [beq_iff_eq] at hn
    subst hn
    exact Or.inl ⟨110, by decide, by decide, by decide, by decide, by decide⟩
  · simp only [beq_iff_eq] at hr
    subst hr
    exact Or.inl ⟨114, by decide, by decide, by decide, by decide, by decide⟩
  · simp only [beq_iff_eq] at ht
    subst ht
    exact Or.inl ⟨116, by decide, by decide, by decide, by decide, by decide⟩
  · simp only [Bool.and_eq_true, beq_iff_eq] at hb
    rw [hb.2]
    exact Or.inl ⟨98, by decide, by decide, by decide, by decide, by decide⟩
  · simp only [Bool.and_eq_true, beq_iff_eq] at hf
    rw [hf.2]
    exact Or.inl ⟨102, by decide, by decide, by decide, by decide, by decide⟩
  · -- controls, the three HTML characters and the two separators are all below 0x2030
    refine Or.inr (Or.inl ⟨rfl, ?_⟩)
    simp only [Bool.or_eq_true, decide_eq_true_eq, Bool.and_eq_true, beq_iff_eq] at hu
    rcases hu with ((hlt | ⟨-, (rfl | rfl) | rfl⟩) | h1) | h2
    all_goals first | decide | omega
  · simp only [Bool.or_eq_true, beq_iff_eq, not_or] at hq hu
    refine Or.inr (Or.inr ⟨rfl, hq.1, hq.2, ?_⟩)
    simp only [decide_eq_true_eq] at hu
    omega

def hexOctet (d : Nat) : UInt8 := (Quote.hexDigit d).toNat.toUInt8

theorem hexDigit_table : ∀ d : Fin 16,
    hexValue (hexOctet d) = some d ∧ Utf8.encodeChar (Quote.hexDigit d) = [hexOctet d] := by
  decide

theorem hexValue_hexOctet (k : Nat) : hexValue (hexOctet (k % 16)) = some (k % 16) :=
  (hexDigit_table ⟨k % 16, Nat.mod_lt _ (by decide)⟩).1

theorem encodeChars_hexFixed (n : Nat) : Utf8.encodeChars (Quote.hexFixed 4 n) =
    [hexOctet (n / 4096 % 16), hexOctet (n / 256 % 16), hexOctet (n / 16 % 16),
      hexOctet (n % 16)] := by
  have henc : ∀ k, Utf8.encodeChar (Quote.hexDigit (k % 16)) = [hexOctet (k % 16)] :=
    fun k => (hexDigit_table ⟨k % 16, Nat.mod_lt _ (by decide)⟩).2
  simp [Quote.hexFixed, List.range_succ, Utf8.encodeChars, henc]

theorem hex4_hexOctets {n : Nat} (h : n < 0x10000) :
    hex4 (hexOctet (n / 4096 % 16)) (hexOctet (n / 256 % 16)) (hexOctet (n / 16 % 16))
      (hexOctet (n % 16)) = some n := by
  simp only [hex4, hexValue_hexOctet, Option.bind_eq_bind, Option.bind_some]
  show some _ = some n
  congr 1
  omega

theorem encodeChars_short {e : UInt8} (he : e.toNat < 128) :
    Utf8.encodeChars ['\\', Char.ofNat e.toNat] = [92, e] := by
  have h92 : Utf8.encodeChar '\\' = [92] := by decide
  simp [Utf8.encodeChars, Utf8.encodeChar_ofNat_octet he, h92]

theorem encodeChars_unicode (n : Nat) :
    Utf8.encodeChars ('\\' :: 'u' :: Quote.hexFixed 4 n) =
      [92, 117, hexOctet (n / 4096 % 16), hexOctet (n / 256 % 16), hexOctet (n / 16 % 16),
        hexOctet (n % 16)] := by
  have h92 : Utf8.encodeChar '\\' = [92] := by decide
  have h117 : Utf8.encodeChar 'u' = [117] := by decide
  rw [Utf8.encodeChars, List.flatMap_cons, List.flatMap_cons, ← Utf8.encodeChars,
    encodeChars_hexFixed, h92, h117]
  rfl

theorem plain_octets {c : Char} (h34 : c ≠ '"') (h92 : c ≠ '\\') (h32 : 0x20 ≤ c.toNat) :
    ∀ b ∈ Utf8.encodeChar c, b ≠ 34 ∧ b ≠ 92 ∧ 32 ≤ b.toNat := by
  intro b hb
  by_cases hlt : c.toNat < 0x80
  · rw [Utf8.encodeChar_of_lt hlt, List.mem_singleton] at hb
    subst hb
    rw [Utf8.toNat_toUInt8 (by omega)]
    refine ⟨fun h => h34 ?_, fun h => h92 ?_, h32⟩
    · rw [← Char.ofNat_toNat c, ← Utf8.toNat_toUInt8 (n := c.toNat) (by omega), h]
      decide
    · rw [← Char.ofNat_toNat c, ← Utf8.toNat_toUInt8 (n := c.toNat) (by omega), h]
      decide
  · -- every octet of a character from 0x80 on is at least 0x80
    have hhigh := Utf8.le_of_mem_encodeChar (by omega) hb
    refine ⟨fun h => ?_, fun h => ?_, by omega⟩ <;> subst h <;> exact absurd hhigh (by decide)

/-! ### Decoding a string body -/

theorem unquote_escape (st : Style) (c : Char) (rest : List UInt8) :
    unquote (Utf8.encodeChars (st.escape c) ++ rest) = c :: unquote rest := by
  rcases escape_cases st c with ⟨e, he, hlt, -, h117, hmean⟩ | ⟨he, hlt⟩ | ⟨he, h34, hbs, h32⟩
  · rw [he, encodeChars_short hlt, List.cons_append, List.cons_append, List.nil_append, unquote,
      hmean]
    intro a b c d more he' _
    exact h117 he'
  · -- a scalar value is never half of a surrogate pair
    have hsur : isSurrogate c.toNat = false := by
      have hv := Utf8.toNat_valid c
      simp only [isSurrogate, Bool.and_eq_false_iff, decide_eq_false_iff_not, Nat.not_le,
        Nat.not_lt]
      omega
    rw [he, encodeChars_unicode]
    simp only [List.cons_append, List.nil_append]
    rw [unquote, hex4_hexOctets hlt]
    simp [hsur]
  · obtain ⟨b, bs, henc, hdec⟩ := Utf8.decodeOne_encodeChar c rest
    have hb : b ≠ 92 := (plain_octets h34 hbs h32 b (by rw [henc]; exact List.mem_cons_self ..)).2.1
    rw [he, Utf8.encodeChars, List.flatMap_cons, List.flatMap_nil, List.append_nil, henc,
      List.cons_append, unquote, hdec]
    · intro a b' c' d more hb' _
      exact hb hb'
    · intro e r hb' _
      exact hb hb'

theorem unquote_escapes (st : Style) (cs : List Char) :
    unquote (Utf8.encodeChars (cs.flatMap st.escape)) = cs := by
  induction cs with
  | nil => simp [Utf8.encodeChars, unquote]
  | cons c cs ih =>
    rw [List.flatMap_cons, Utf8.encode_append, unquote_escape, ih]

/-! ### Reading a string -/

section Strings

variable {fs : List Frame} {r : Option Value} {sv : Bool}

theorem reads_escape (st : Style) (c : Char) (raw : List UInt8) :
    Reads ⟨.inString raw, fs, r, sv⟩ (Utf8.encodeChars (st.escape c))
      ⟨.inString ((Utf8.encodeChars (st.escape c)).reverse ++ raw), fs, r, sv⟩ := by
  rcases escape_cases st c with ⟨e, he, hlt, hshort, -, -⟩ | ⟨he, -⟩ | ⟨he, h34, h92, h32⟩
  · rw [he, encodeChars_short hlt]
    exact Reads.cons step_backslash (Reads.single (step_short hshort))
  · rw [he, encodeChars_unicode]
    have hhex : ∀ k, (hexValue (hexOctet (k % 16))).isSome := by simp [hexValue_hexOctet]
    exact Reads.cons step_backslash (Reads.cons step_unicode
      (Reads.cons (step_hex (hhex _) (by decide)) (Reads.cons (step_hex (hhex _) (by decide))
        (Reads.cons (step_hex (hhex _) (by decide)) (Reads.single (step_last_hex (hhex _)))))))
  · rw [he, Utf8.encodeChars, List.flatMap_cons, List.flatMap_nil, List.append_nil]
    exact reads_pushing Phase.inString (fun b hb _ =>
      have hplain := plain_octets h34 h92 h32 b hb
      step_plain hplain.1 hplain.2.1 hplain.2.2) raw

theorem reads_escapes (st : Style) (cs : List Char) (raw : List UInt8) :
    Reads ⟨.inString raw, fs, r, sv⟩ (Utf8.encodeChars (cs.flatMap st.escape))
      ⟨.inString ((Utf8.encodeChars (cs.flatMap st.escape)).reverse ++ raw), fs, r, sv⟩ := by
  induction cs generalizing raw with
  | nil => exact Reads.nil _
  | cons c cs ih =>
    rw [List.flatMap_cons, Utf8.encode_append, List.reverse_append, List.append_assoc]
    exact (reads_escape st c raw).trans (ih _)

theorem give_phase (p q : Phase) (v : Value) :
    { (⟨p, fs, r, sv⟩ : Machine).give v with phase := q } = (⟨q, fs, r, sv⟩ : Machine).give v := by
  cases fs with
  | nil => rfl
  | cons f fs =>
    cases f with
    | objectKey ms key => cases v <;> rfl
    | objectValue ms k => rfl
    | array xs => rfl

theorem reads_string_body (st : Style) (s : String) :
    Reads ⟨.inString [], fs, r, sv⟩ (Utf8.encodeChars (s.toList.flatMap st.escape) ++ [34])
      ((⟨.endValue, fs, r, sv⟩ : Machine).give (.string s)) := by
  refine (reads_escapes st s.toList []).trans (Reads.single fun rest => ?_)
  simp only [Machine.step, List.append_nil, List.reverse_reverse, unquote_escapes,
    String.ofList_toList]
  rw [give_phase]
  rfl

theorem encode_string (st : Style) (s : String) :
    Utf8.encode (st.string s) = 34 :: (Utf8.encodeChars (s.toList.flatMap st.escape) ++ [34]) := by
  have hq : Utf8.encodeChar '"' = [34] := by decide
  simp [Utf8.encode, Style.string, Utf8.encodeChars, hq]

end Strings

/-! ### Reading an integer -/

theorem isDigit_iff (d : UInt8) : isDigit d = true ↔ 48 ≤ d.toNat ∧ d.toNat ≤ 57 := by
  simp [isDigit, UInt8.le_iff_toNat_le]

theorem digit_facts {d : UInt8} (hd : isDigit d = true) :
    isSpace d = false ∧ d ≠ 123 ∧ d ≠ 91 ∧ d ≠ 34 ∧ d ≠ 45 ∧ d ≠ 116 ∧ d ≠ 102 ∧ d ≠ 110 := by
  rw [isDigit_iff] at hd
  have hne : ∀ n : UInt8, (n.toNat < 48 ∨ 57 < n.toNat) → d ≠ n := by
    rintro n hn rfl
    omega
  refine ⟨?_, hne 123 (by decide), hne 91 (by decide), hne 34 (by decide), hne 45 (by decide),
    hne 116 (by decide), hne 102 (by decide), hne 110 (by decide)⟩
  simp [isSpace, hne 32 (by decide), hne 9 (by decide), hne 10 (by decide), hne 13 (by decide)]

theorem isDigit_octet {c : Char} (h : c.isDigit = true) :
    c.toNat < 0x80 ∧ isDigit c.toNat.toUInt8 = true := by
  simp only [Char.isDigit, Bool.and_eq_true, decide_eq_true_eq] at h
  have h1 : 48 ≤ c.toNat := h.1
  have h2 : c.toNat ≤ 57 := h.2
  refine ⟨by omega, ?_⟩
  simp [isDigit, UInt8.le_iff_toNat_le, Utf8.toNat_toUInt8 (show c.toNat < 256 by omega)]
  omega

theorem isDigit_of_mem_decimal {k : Nat} {c : Char} (h : c ∈ Nat.toDigits 10 k) :
    c.isDigit = true :=
  Nat.isDigit_of_mem_toDigits (by decide) (by decide) h

theorem digitChar_ne_zero : ∀ k : Fin 10, 0 < k.val → Nat.digitChar k ≠ '0' := by decide

theorem toDigits_lead (k : Nat) (hk : 0 < k) : ∃ d ds, Nat.toDigits 10 k = d :: ds ∧ d ≠ '0' := by
  induction k using Nat.strongRecOn with
  | ind k ih =>
    rw [Nat.toDigits_eq_if (by decide)]
    split
    · exact ⟨_, [], rfl, digitChar_ne_zero ⟨k, by omega⟩ hk⟩
    · obtain ⟨d, ds, hds, hd⟩ := ih (k / 10) (by omega) (by omega)
      exact ⟨d, ds ++ _, by rw [hds, List.cons_append], hd⟩

theorem encode_digits {cs : List Char} (h : ∀ c ∈ cs, c.isDigit = true) :
    ∀ b ∈ Utf8.encodeChars cs, isDigit b = true := by
  intro b hb
  obtain ⟨c, hc, hbc⟩ := List.mem_flatMap.mp hb
  have hdig := isDigit_octet (h c hc)
  rw [Utf8.encodeChar_of_lt hdig.1, List.mem_singleton] at hbc
  rw [hbc]
  exact hdig.2

section Integers

variable {fs : List Frame} {r : Option Value}

theorem step_digit {sv : Bool} {d : UInt8} (hd : isDigit d = true) (lit rest : List UInt8) :
    (⟨.integer lit, fs, r, sv⟩ : Machine).step true d rest =
      .ok ⟨.integer (d :: lit), fs, r, sv⟩ := by
  simp [Machine.step, hd]

theorem step_first_digit {d : UInt8} (hd : isDigit d = true) (h48 : d ≠ 48) (rest : List UInt8) :
    (⟨.beginValue, fs, r, true⟩ : Machine).step true d rest = .ok ⟨.integer [d], fs, r, true⟩ := by
  obtain ⟨hs, h123, h91, h34, h45, h116, h102, h110⟩ := digit_facts hd
  simp [Machine.step, Machine.beginValue, hs, h123, h91, h34, h45, h48, h116, h102, h110, hd]

theorem step_minus_digit {d : UInt8} (hd : isDigit d = true) (h48 : d ≠ 48) (lit rest : List UInt8) :
    (⟨.minus lit, fs, r, true⟩ : Machine).step true d rest =
      .ok ⟨.integer (d :: lit), fs, r, true⟩ := by
  simp [Machine.step, h48, hd]

theorem reads_positive {k : Nat} (hk : 0 < k) {ph : Phase} {lit : List UInt8}
    (hstep : ∀ d, isDigit d = true → d ≠ 48 → ∀ rest,
      (⟨ph, fs, r, true⟩ : Machine).step true d rest = .ok ⟨.integer (d :: lit), fs, r, true⟩) :
    Reads ⟨ph, fs, r, true⟩ (Utf8.encode k.repr)
      ⟨.integer ((Utf8.encode k.repr).reverse ++ lit), fs, r, true⟩ := by
  obtain ⟨d, ds, hds, hd0⟩ := toDigits_lead k hk
  have hdig := isDigit_octet (isDigit_of_mem_decimal (by rw [hds]; exact List.mem_cons_self ..))
  have hd48 : d.toNat.toUInt8 ≠ 48 := by
    intro h
    apply hd0
    rw [← Char.ofNat_toNat d, ← Utf8.toNat_toUInt8 (n := d.toNat) (by omega), h]
    decide
  have hrest : ∀ c ∈ ds, c.isDigit = true :=
    fun c hc => isDigit_of_mem_decimal (by rw [hds]; exact List.mem_cons_of_mem _ hc)
  simp only [Utf8.encode, Nat.toList_repr, hds, Utf8.encodeChars, List.flatMap_cons,
    Utf8.encodeChar_of_lt hdig.1, List.singleton_append, List.reverse_cons,
    List.append_assoc] at hstep ⊢
  rw [← Utf8.encodeChars]
  exact Reads.cons (hstep _ hdig.2 hd48)
    (reads_pushing Phase.integer (fun b hb => step_digit (encode_digits hrest b hb)) _)

theorem reads_int (n : Int) :
    ∃ ph, (ph = .integer (Utf8.encode (toString n)).reverse ∨
        ph = .zero (Utf8.encode (toString n)).reverse) ∧
      Reads ⟨.beginValue, fs, r, true⟩ (Utf8.encode (toString n)) ⟨ph, fs, r, true⟩ := by
  rw [Int.toString_eq_repr, Int.repr_eq_if]
  split
  · by_cases hk : n.toNat = 0
    · -- zero is the one literal that starts with the digit zero
      refine ⟨_, Or.inr rfl, ?_⟩
      rw [hk]
      exact Reads.single fun rest => by simp [Machine.step, Machine.beginValue, isSpace]; rfl
    · refine ⟨.integer ((Utf8.encode n.toNat.repr).reverse ++ []), by simp, ?_⟩
      exact reads_positive (by omega) fun d hd h48 rest => step_first_digit hd h48 rest
  · have hk : 0 < (-n).toNat := by omega
    refine ⟨_, Or.inl rfl, ?_⟩
    have hminus : Utf8.encode ("-" ++ (-n).toNat.repr) = 45 :: Utf8.encode (-n).toNat.repr := by
      have h45 : Utf8.encodeChar '-' = [45] := by decide
      simp [Utf8.encode, Utf8.encodeChars, h45]
    rw [hminus, List.reverse_cons]
    refine Reads.cons (fun rest => ?_)
      (reads_positive hk fun d hd h48 rest => step_minus_digit hd h48 [45] rest)
    simp [Machine.step, Machine.beginValue, isSpace]

end Integers

theorem map_ofNat_encodeChars {cs : List Char} (h : ∀ c ∈ cs, c.toNat < 0x80) :
    (Utf8.encodeChars cs).map (fun b => Char.ofNat b.toNat) = cs := by
  induction cs with
  | nil => rfl
  | cons c cs ih =>
    have hc := h c (List.mem_cons_self ..)
    rw [Utf8.encodeChars, List.flatMap_cons, ← Utf8.encodeChars, Utf8.encodeChar_of_lt hc,
      List.singleton_append, List.map_cons, ih fun x hx => h x (List.mem_cons_of_mem _ hx),
      Utf8.toNat_toUInt8 (by omega), Char.ofNat_toNat]

theorem asciiText_encode {s : String} (h : ∀ c ∈ s.toList, c.toNat < 0x80) :
    asciiText (Utf8.encode s) = s := by
  rw [asciiText, Utf8.encode, map_ofNat_encodeChars h, String.ofList_toList]

theorem toString_int_ascii (n : Int) : ∀ c ∈ (toString n).toList, c.toNat < 0x80 := by
  have hdigits : ∀ k : Nat, ∀ c ∈ k.repr.toList, c.toNat < 0x80 := by
    intro k c hc
    rw [Nat.toList_repr] at hc
    exact (isDigit_octet (isDigit_of_mem_decimal hc)).1
  rw [Int.toString_eq_repr, Int.repr_eq_if]
  split
  · exact hdigits _
  · intro c hc
    simp only [String.toList_append, List.mem_append] at hc
    rcases hc with hc | hc
    · have hm : "-".toList = ['-'] := by decide
      rw [hm, List.mem_singleton] at hc
      subst hc
      decide
    · exact hdigits _ c hc

/-! ### The value of a decimal literal -/

theorem foldl_decimal (ds : List Char) (h : ∀ c ∈ ds, c.isDigit = true) (init : Nat) :
    ds.foldl (fun (acc : Int) d => acc * 10 + ((d.toNat : Int) - 48)) (init : Int) =
      (Nat.ofDigitChars 10 ds init : Int) := by
  induction ds generalizing init with
  | nil => simp
  | cons d ds ih =>
    have hd : 48 ≤ d.toNat := by
      have hdig := h d (List.mem_cons_self ..)
      simp only [Char.isDigit, Bool.and_eq_true, decide_eq_true_eq] at hdig
      exact hdig.1
    have hstep : (init : Int) * 10 + ((d.toNat : Int) - 48) =
        ((10 * init + (d.toNat - '0'.toNat) : Nat) : Int) := by
      simp only [Char.reduceToNat]
      omega
    rw [List.foldl_cons, Nat.ofDigitChars_cons, hstep,
      ih fun c hc => h c (List.mem_cons_of_mem _ hc)]

theorem foldl_toDigits (k : Nat) :
    (Nat.toDigits 10 k).foldl (fun (acc : Int) d => acc * 10 + ((d.toNat : Int) - 48)) 0 = k := by
  have h := foldl_decimal (Nat.toDigits 10 k) (fun _ hc => isDigit_of_mem_decimal hc) 0
  rw [Nat.ofDigitChars_ten_toDigits] at h
  exact h

theorem toDigits_all (k : Nat) : (Nat.toDigits 10 k).all Char.isDigit = true :=
  List.all_eq_true.mpr fun _ hc => isDigit_of_mem_decimal hc

theorem parseInt64_toString {n : Int} (hlo : -9223372036854775808 ≤ n)
    (hhi : n ≤ 9223372036854775807) : parseInt64 (toString n) = some n := by
  rw [Int.toString_eq_repr, Int.repr_eq_if]
  split
  · rename_i hn
    obtain ⟨d, ds, hds⟩ : ∃ d ds, Nat.toDigits 10 n.toNat = d :: ds :=
      List.exists_cons_of_ne_nil Nat.toDigits_ne_nil
    have hd : d.isDigit = true := isDigit_of_mem_decimal (by rw [hds]; exact List.mem_cons_self ..)
    have hval := foldl_toDigits n.toNat
    have hall := toDigits_all n.toNat
    rw [hds] at hval hall
    simp only [parseInt64, Nat.toList_repr, hds]
    -- a digit is neither sign, so the whole text is read as digits
    split
    · rename_i heq
      rw [(List.cons.inj heq).1] at hd
      exact absurd hd (by decide)
    · rename_i heq
      rw [(List.cons.inj heq).1] at hd
      exact absurd hd (by decide)
    · simp only [List.isEmpty_cons, hall, Bool.not_true, Bool.or_false, Bool.false_eq_true,
        if_false, hval]
      rw [if_pos ⟨by omega, by omega⟩]
      congr 1
      omega
  · rename_i hn
    have hm : ("-" ++ (-n).toNat.repr).toList = '-' :: Nat.toDigits 10 (-n).toNat := by
      simp [String.toList_append]
    have hne : (Nat.toDigits 10 (-n).toNat).isEmpty = false := by
      cases h : Nat.toDigits 10 (-n).toNat
      · exact absurd h Nat.toDigits_ne_nil
      · rfl
    simp only [parseInt64, hm, hne, toDigits_all, Bool.not_true, Bool.or_false,
      Bool.false_eq_true, if_false, if_true, foldl_toDigits]
    rw [if_pos ⟨by omega, by omega⟩]
    congr 1
    omega

/-! ### Reading an object -/

/-- A value written as one token: a string, or an integer in decimal. -/
inductive Simple : Value → Prop
  | string (s : String) : Simple (.string s)
  | int (n : Int) : Simple (.ofInt n)

section Objects

variable {acc : List (String × Value)} {k : String}

theorem step_number_end {ph : Phase} {lit : List UInt8} (hph : ph = .integer lit ∨ ph = .zero lit)
    {t : UInt8} (ht : t = 44 ∨ t = 125) (rest : List UInt8) :
    (⟨ph, [.objectValue acc k], none, true⟩ : Machine).step true t rest =
      (⟨.endValue, [.objectValue ((k, .number (asciiText lit.reverse)) :: acc) k], none, true⟩ :
        Machine).step true t rest := by
  rcases ht with rfl | rfl <;> rcases hph with rfl | rfl <;> rfl

theorem reads_member_value (st : Style) {v : Value} (hv : Simple v) {t : UInt8}
    (ht : t = 44 ∨ t = 125) {m' : Machine}
    (hm : ∀ rest, (⟨.endValue, [.objectValue ((k, v) :: acc) k], none, true⟩ : Machine).step true t
      rest = .ok m') :
    Reads ⟨.beginValue, [.objectValue acc k], none, true⟩ (Utf8.encode (st.render v) ++ [t]) m' := by
  cases hv with
  | string s =>
    rw [Style.render, encode_string, List.cons_append]
    exact Reads.cons step_open_value ((reads_string_body st s).trans (Reads.single hm))
  | int n =>
    obtain ⟨ph, hph, hread⟩ := @reads_int [.objectValue acc k] none n
    rw [Value.ofInt, Style.render]
    refine hread.trans (Reads.single fun rest => ?_)
    rw [step_number_end hph ht rest, List.reverse_reverse, asciiText_encode (toString_int_ascii n)]
    exact hm rest

theorem reads_member (st : Style) {v : Value} (hv : Simple v) {P : Phase}
    (hP : P = .beginKeyOrEmpty ∨ P = .beginKey) {t : UInt8} (ht : t = 44 ∨ t = 125) {m' : Machine}
    (hm : ∀ rest, (⟨.endValue, [.objectValue ((k, v) :: acc) k], none, true⟩ : Machine).step true t
      rest = .ok m') :
    Reads ⟨P, [.objectKey acc ""], none, true⟩
      (Utf8.encode (st.string k ++ ":" ++ st.render v) ++ [t]) m' := by
  have hcolon : Utf8.encode ":" = [58] := by decide
  have hoctets : Utf8.encode (st.string k ++ ":" ++ st.render v) ++ [t] =
      34 :: ((Utf8.encodeChars (k.toList.flatMap st.escape) ++ [34]) ++
        58 :: (Utf8.encode (st.render v) ++ [t])) := by
    rw [Utf8.encode_text_append, Utf8.encode_text_append, hcolon, encode_string]
    simp
  rw [hoctets]
  -- the key is read as a string into the frame, and the colon turns the frame to its value
  exact Reads.cons (step_open_key hP) ((reads_string_body st k).trans
    (Reads.cons step_colon (reads_member_value st hv ht hm)))

end Objects

theorem reads_members (st : Style) (ms : List (String × Value)) (hms : ∀ m ∈ ms, Simple m.2)
    (hne : ms ≠ []) (acc : List (String × Value)) {P : Phase}
    (hP : P = .beginKeyOrEmpty ∨ P = .beginKey) :
    Reads ⟨P, [.objectKey acc ""], none, true⟩ (Utf8.encode (st.renderMembers ms) ++ [125])
      ⟨.endTop, [], some (.object (acc.reverse ++ ms)), true⟩ := by
  induction ms generalizing acc P with
  | nil => exact absurd rfl hne
  | cons m ms ih =>
    obtain ⟨k, v⟩ := m
    have hv : Simple v := hms (k, v) (List.mem_cons_self ..)
    cases ms with
    | nil =>
      -- the last member: the brace closes the object
      rw [Style.renderMembers]
      refine reads_member st hv hP (Or.inr rfl) fun rest => ?_
      rw [step_close_top, List.reverse_cons]
    | cons m' ms =>
      -- a comma, and the next members are read with this one added
      have htail := ih (fun x hx => hms x (List.mem_cons_of_mem _ hx)) (List.cons_ne_nil _ _)
        ((k, v) :: acc) (Or.inr rfl)
      have hcomma : Utf8.encode "," = [44] := by decide
      have hoctets : Utf8.encode (st.renderMembers ((k, v) :: m' :: ms)) ++ [125] =
          (Utf8.encode (st.string k ++ ":" ++ st.render v) ++ [44]) ++
            (Utf8.encode (st.renderMembers (m' :: ms)) ++ [125]) := by
        rw [Style.renderMembers, Utf8.encode_text_append, Utf8.encode_text_append, hcomma]
        · simp
        · exact List.cons_ne_nil _ _
      simp only [List.reverse_cons, List.append_assoc, List.singleton_append] at htail
      rw [hoctets]
      exact (reads_member st hv hP (Or.inl rfl) step_comma).trans htail

theorem readAll_render_object (st : Style) (ms : List (String × Value))
    (hms : ∀ m ∈ ms, Simple m.2) :
    readAll (Utf8.encode (st.render (.object ms))) = .ok (.object ms) := by
  have hbraces : Utf8.encode (st.render (.object ms)) =
      123 :: (Utf8.encode (st.renderMembers ms) ++ [125]) := by
    have hl : Utf8.encode "\x7b" = [123] := by decide
    have hr : Utf8.encode "\x7d" = [125] := by decide
    rw [Style.render, Utf8.encode_text_append, Utf8.encode_text_append, hl, hr]
    rfl
  have hopen : ∀ rest, Machine.start.step true 123 rest =
      .ok ⟨.beginKeyOrEmpty, [.objectKey [] ""], none, true⟩ := by
    intro rest
    simp [Machine.start, Machine.step, Machine.beginValue, Machine.openFrame, isSpace, maxDepth]
  -- the opening brace starts the object; the members, or the closing brace at once, finish it
  have hread : Reads Machine.start (Utf8.encode (st.render (.object ms)))
      ⟨.endTop, [], some (.object ms), true⟩ := by
    rw [hbraces]
    refine Reads.cons hopen ?_
    cases ms with
    | nil =>
      exact Reads.single fun rest => by simp [Machine.step, isSpace, Machine.close, Machine.give]
    | cons m ms => exact reads_members st _ hms (List.cons_ne_nil _ _) [] (Or.inl rfl)
  rw [readAll, hread.run_eq]
  rfl

end Vestibule.Json
