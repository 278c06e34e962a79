import Mathlib.Data.List.ModifyLast
import Mathlib.Data.String.Basic
import Mathlib.Data.List.DropRight
import Vestibule.ProviderToken

/-!
Segments of a provider token.

A token is cut at its dots after trimming. Cutting a text at one character is cutting its
characters, and trimming a text only trims its first and last segments, since a dot is not
blank. So a token is read from its segment count and its middle segment alone: whatever stands
in the first and third segments, decoding gives the same answer. Every failure of decoding is
malformed, and every identity it gives has both halves present and trimmed.
-/

namespace Vestibule.Text

open String

/-! ### Cutting a text at one character -/

theorem utf8GetAux_at (pre : List Char) (d : Char) (rest : List Char) (k : Nat) :
    Pos.Raw.utf8GetAux (pre ++ d :: rest) ⟨k⟩ ⟨k + utf8Len pre⟩ = d := by
  induction pre generalizing k with
  | nil => simp [Pos.Raw.utf8GetAux]
  | cons e pre ih =>
    have hne : (⟨k⟩ : Pos.Raw) ≠ ⟨k + utf8Len (e :: pre)⟩ := by
      have := Char.utf8Size_pos e
      simp [Pos.Raw.ext_iff, utf8Len_cons]; omega
    rw [List.cons_append, Pos.Raw.utf8GetAux, if_neg hne]
    have hk : ((⟨k⟩ : Pos.Raw) + e) = ⟨k + e.utf8Size⟩ := rfl
    have ht : k + utf8Len (e :: pre) = (k + e.utf8Size) + utf8Len pre := by
      rw [utf8Len_cons]; omega
    rw [hk, ht]
    exact ih _

theorem extract_go₂ (cur rest : List Char) (j : Nat) :
    Pos.Raw.extract.go₂ (cur ++ rest) ⟨j⟩ ⟨j + utf8Len cur⟩ = cur := by
  induction cur generalizing j with
  | nil => cases rest <;> simp [Pos.Raw.extract.go₂]
  | cons d cur ih =>
    have hne : (⟨j⟩ : Pos.Raw) ≠ ⟨j + utf8Len (d :: cur)⟩ := by
      have := Char.utf8Size_pos d
      simp [Pos.Raw.ext_iff, utf8Len_cons]; omega
    rw [List.cons_append, Pos.Raw.extract.go₂, if_neg hne]
    have ht : j + utf8Len (d :: cur) = (j + d.utf8Size) + utf8Len cur := by
      rw [utf8Len_cons]; omega
    rw [ht]
    exact congrArg (d :: ·) (ih _)

theorem extract_go₁ (done cur rest : List Char) (hcur : cur ≠ []) (k : Nat) (e : Pos.Raw) :
    Pos.Raw.extract.go₁ (done ++ cur ++ rest) ⟨k⟩ ⟨k + utf8Len done⟩ e =
      Pos.Raw.extract.go₂ (cur ++ rest) ⟨k + utf8Len done⟩ e := by
  induction done generalizing k with
  | nil =>
    obtain ⟨d, cur, rfl⟩ := List.exists_cons_of_ne_nil hcur
    simp [Pos.Raw.extract.go₁]
  | cons x done ih =>
    have hne : (⟨k⟩ : Pos.Raw) ≠ ⟨k + utf8Len (x :: done)⟩ := by
      have := Char.utf8Size_pos x
      simp [Pos.Raw.ext_iff, utf8Len_cons]; omega
    rw [List.cons_append, List.cons_append, Pos.Raw.extract.go₁, if_neg hne]
    have ht : k + utf8Len (x :: done) = (k + x.utf8Size) + utf8Len done := by
      rw [utf8Len_cons]; omega
    rw [ht]
    exact ih _

theorem extract_segment (s : String) (done cur rest : List Char)
    (hs : s.toList = done ++ cur ++ rest) :
    Pos.Raw.extract s ⟨utf8Len done⟩ ⟨utf8Len done + utf8Len cur⟩ = String.ofList cur := by
  by_cases hcur : cur = []
  · subst hcur
    simp [Pos.Raw.extract]
  · have hpos : 0 < utf8Len cur := by
      obtain ⟨d, cur', rfl⟩ := List.exists_cons_of_ne_nil hcur
      have := Char.utf8Size_pos d
      rw [utf8Len_cons]; omega
    have hlt : ¬ utf8Len done ≥ utf8Len done + utf8Len cur := by omega
    simp only [Pos.Raw.extract, hlt, if_false, hs]
    have h1 := extract_go₁ done cur rest hcur 0 ⟨utf8Len done + utf8Len cur⟩
    simp only [Nat.zero_add] at h1
    rw [show (0 : Pos.Raw) = ⟨0⟩ from rfl, h1, extract_go₂]

theorem splitOnAux_singleton (s : String) (c : Char) (done cur rest : List Char)
    (hs : s.toList = done ++ cur ++ rest) (r : List String) :
    s.splitOnAux (String.singleton c) ⟨utf8Len done⟩ ⟨utf8Len done + utf8Len cur⟩ 0 r =
      r.reverse ++ ((rest.splitOn c).modifyHead (cur ++ ·)).map String.ofList := by
  induction rest generalizing done cur r with
  | nil =>
    have hend : Pos.Raw.atEnd s ⟨utf8Len done + utf8Len cur⟩ = true := by
      simp [Pos.Raw.atEnd, ← utf8Len_toList, hs, utf8Len_append]
    rw [String.splitOnAux.eq_1, if_pos hend]
    simp [extract_segment s done cur [] hs]
  | cons d rest ih =>
    have hsize := (utf8Len_toList s).symm
    rw [hs, utf8Len_append, utf8Len_append, utf8Len_cons] at hsize
    have hd := Char.utf8Size_pos d
    have hmore : Pos.Raw.atEnd s ⟨utf8Len done + utf8Len cur⟩ = false := by
      simp [Pos.Raw.atEnd, hsize]; omega
    have hget : Pos.Raw.get s ⟨utf8Len done + utf8Len cur⟩ = d := by
      have := utf8GetAux_at (done ++ cur) d rest 0
      simp only [Nat.zero_add, utf8Len_append, List.append_assoc] at this
      simpa [Pos.Raw.get, hs] using this
    have hsep : Pos.Raw.get (String.singleton c) 0 = c := by
      simp [Pos.Raw.get, Pos.Raw.utf8GetAux]
    rw [String.splitOnAux.eq_1, if_neg (by simp [hmore]), hget, hsep]
    by_cases hdc : d = c
    · -- the separator closes `cur` and the next segment starts empty
      subst hdc
      have hnext : Pos.Raw.next s ⟨utf8Len done + utf8Len cur⟩ = ⟨utf8Len (done ++ cur ++ [d])⟩ := by
        simp [Pos.Raw.next, hget, Pos.Raw.ext_iff, utf8Len_append, utf8Len_cons]
        omega
      have hsepEnd : Pos.Raw.atEnd (String.singleton d) (Pos.Raw.next (String.singleton d) 0) = true := by
        simp [Pos.Raw.atEnd, Pos.Raw.next, hsep]
      rw [if_pos (by simp), if_pos hsepEnd, hnext]
      have hback : (⟨utf8Len (done ++ cur ++ [d])⟩ : Pos.Raw).unoffsetBy
          (Pos.Raw.next (String.singleton d) 0) = ⟨utf8Len done + utf8Len cur⟩ := by
        simp [Pos.Raw.next, hsep, Pos.Raw.ext_iff, Pos.Raw.byteIdx_unoffsetBy, utf8Len_append,
          utf8Len_cons]
        omega
      rw [hback, extract_segment s done cur (d :: rest) hs]
      have hrest := ih (done ++ cur ++ [d]) [] (by simp [hs]) (String.ofList cur :: r)
      simp only [utf8Len_nil, Nat.add_zero] at hrest
      rw [hrest, List.splitOn_cons_eq_if_modifyHead, if_pos (by simp)]
      have hid : List.modifyHead (fun x => [] ++ x) (rest.splitOn d) = rest.splitOn d := by
        cases rest.splitOn d <;> rfl
      rw [hid]
      simp
    · -- any other character joins `cur`
      have hnext : Pos.Raw.next s ((⟨utf8Len done + utf8Len cur⟩ : Pos.Raw).unoffsetBy 0) =
          ⟨utf8Len done + utf8Len (cur ++ [d])⟩ := by
        simp [Pos.Raw.next, Pos.Raw.unoffsetBy_zero, hget, Pos.Raw.ext_iff, utf8Len_append,
          utf8Len_cons]
        omega
      rw [if_neg (by simpa using hdc), hnext, ih done (cur ++ [d]) (by simp [hs]) r,
        List.splitOn_cons_eq_if_modifyHead, if_neg (by simpa using hdc), List.modifyHead_modifyHead]
      simp [Function.comp_def]

theorem splitOn_singleton (s : String) (c : Char) :
    s.splitOn (String.singleton c) = (s.toList.splitOn c).map String.ofList := by
  have h := splitOnAux_singleton s c [] [] s.toList (by simp) []
  have hsep : (String.singleton c == "") = false := by
    simp [← String.toList_inj]
  simp only [utf8Len_nil, Nat.add_zero, List.reverse_nil, List.nil_append] at h
  rw [String.splitOn, hsep, if_neg (by simp)]
  refine h.trans ?_
  congr 1
  cases s.toList.splitOn c <;> rfl

theorem splitOn_dot (s : String) : s.splitOn "." = (s.toList.splitOn '.').map String.ofList :=
  splitOn_singleton s '.'

/-! ### Trimming acts on the outer segments only -/

def dropBlankEnd (cs : List Char) : List Char := cs.rdropWhile isBlank

theorem trimChars_eq (cs : List Char) : trimChars cs = dropBlankEnd (dropBlank cs) := rfl

theorem mem_of_mem_dropBlank {x : Char} {cs : List Char} (h : x ∈ dropBlank cs) : x ∈ cs :=
  (List.dropWhile_suffix _).subset h

theorem mem_of_mem_dropBlankEnd {x : Char} {cs : List Char} (h : x ∈ dropBlankEnd cs) :
    x ∈ cs := by
  exact (List.rdropWhile_prefix isBlank cs).subset h

theorem exists_first_mem {x : Char} {cs : List Char} (h : x ∈ cs) :
    ∃ s t, cs = s ++ x :: t ∧ x ∉ s := by
  induction cs with
  | nil => cases h
  | cons y cs ih =>
    by_cases hy : y = x
    · exact ⟨[], cs, by simp [hy], by simp⟩
    · have hx : x ∈ cs := by
        rcases List.mem_cons.mp h with h | h
        · exact absurd h.symm hy
        · exact h
      obtain ⟨s, t, rfl, hs⟩ := ih hx
      exact ⟨y :: s, t, rfl, by simp [hs, Ne.symm hy]⟩

theorem exists_last_mem {x : Char} {cs : List Char} (h : x ∈ cs) :
    ∃ s t, cs = s ++ x :: t ∧ x ∉ t := by
  obtain ⟨s, t, hst, hs⟩ := exists_first_mem (List.mem_reverse.mpr h)
  refine ⟨t.reverse, s.reverse, ?_, by simpa using hs⟩
  rw [← List.reverse_reverse cs, hst]
  simp

section Separator

variable {c : Char} (hc : isBlank c = false)
include hc

theorem dropBlank_append_cons (s t : List Char) :
    dropBlank (s ++ c :: t) = dropBlank s ++ c :: t := by
  have hkeep : dropBlank (c :: t) = c :: t := by simp [dropBlank, hc]
  rw [dropBlank, List.dropWhile_append]
  split
  · rename_i hnil
    have hs : dropBlank s = [] := List.isEmpty_iff.mp hnil
    rw [hs]
    exact hkeep
  · rfl

theorem dropBlankEnd_append_cons (s t : List Char) :
    dropBlankEnd (s ++ c :: t) = s ++ c :: dropBlankEnd t := by
  have h := dropBlank_append_cons hc t.reverse s.reverse
  simp only [dropBlankEnd, List.rdropWhile, dropBlank, List.reverse_append, List.reverse_cons, List.append_assoc,
    List.singleton_append] at h ⊢
  rw [h]
  simp

theorem splitOn_dropBlank (cs : List Char) :
    (dropBlank cs).splitOn c = (cs.splitOn c).modifyHead dropBlank := by
  by_cases hmem : c ∈ cs
  · -- cut at the first separator: only the segment before it loses blanks
    obtain ⟨s, t, rfl, hs⟩ := exists_first_mem hmem
    have hs' : c ∉ dropBlank s := fun h => hs (mem_of_mem_dropBlank h)
    rw [dropBlank_append_cons hc, List.splitOn_append_cons_self_of_not_mem hs',
      List.splitOn_append_cons_self_of_not_mem hs]
    simp
  · have hmem' : c ∉ dropBlank cs := fun h => hmem (mem_of_mem_dropBlank h)
    rw [List.splitOn_eq_singleton hmem, List.splitOn_eq_singleton hmem']
    simp

theorem splitOn_dropBlankEnd (cs : List Char) :
    (dropBlankEnd cs).splitOn c = (cs.splitOn c).modifyLast dropBlankEnd := by
  by_cases hmem : c ∈ cs
  · -- cut at the last separator: only the segment after it loses blanks
    obtain ⟨s, t, rfl, ht⟩ := exists_last_mem hmem
    have ht' : c ∉ dropBlankEnd t := fun h => ht (mem_of_mem_dropBlankEnd h)
    rw [dropBlankEnd_append_cons hc, List.splitOn_append_cons_self, List.splitOn_append_cons_self,
      List.splitOn_eq_singleton ht, List.splitOn_eq_singleton ht', List.modifyLast_concat]
  · have hmem' : c ∉ dropBlankEnd cs := fun h => hmem (mem_of_mem_dropBlankEnd h)
    rw [List.splitOn_eq_singleton hmem, List.splitOn_eq_singleton hmem']
    rfl

theorem splitOn_trimChars (cs : List Char) :
    (trimChars cs).splitOn c = ((cs.splitOn c).modifyHead dropBlank).modifyLast dropBlankEnd := by
  rw [trimChars_eq, splitOn_dropBlankEnd hc, splitOn_dropBlank hc]

end Separator

theorem trim_splitOn_dot (t : String) :
    (trim t).splitOn "." =
      (((t.toList.splitOn '.').modifyHead dropBlank).modifyLast dropBlankEnd).map String.ofList := by
  rw [splitOn_dot, trim, String.toList_ofList, splitOn_trimChars (by decide)]

theorem length_modifyLast {α : Type} (f : α → α) (L : List α) :
    (L.modifyLast f).length = L.length := by
  rcases L.eq_nil_or_concat with rfl | ⟨init, a, rfl⟩
  · rfl
  · rw [List.concat_eq_append, List.modifyLast_concat]
    simp

theorem modifyLast_triple {α : Type} (f : α → α) (a b d : α) :
    [a, b, d].modifyLast f = [a, b, f d] := by
  simpa using List.modifyLast_concat f d [a, b]

/-! ### Trimming twice -/

theorem dropBlank_of_all_blank {cs : List Char} (h : ∀ x ∈ cs, isBlank x = true) :
    dropBlank cs = [] :=
  List.dropWhile_eq_nil_iff.mpr h

theorem dropBlankEnd_of_all_blank {cs : List Char} (h : ∀ x ∈ cs, isBlank x = true) :
    dropBlankEnd cs = [] :=
  List.rdropWhile_eq_nil_iff.mpr h

theorem dropBlank_dropBlankEnd (cs : List Char) :
    dropBlank (dropBlankEnd cs) = dropBlankEnd (dropBlank cs) := by
  have hsplit := List.takeWhile_append_dropWhile (p := isBlank) (l := cs)
  have hlead : ∀ x ∈ cs.takeWhile isBlank, isBlank x = true := fun x hx =>
    List.mem_takeWhile_imp hx
  cases hd : dropBlank cs with
  | nil =>
    have hall : ∀ x ∈ cs, isBlank x = true := by
      rw [← hsplit, show cs.dropWhile isBlank = dropBlank cs from rfl, hd, List.append_nil]
      exact hlead
    rw [dropBlankEnd_of_all_blank hall]
    rfl
  | cons x q =>
    have hx : isBlank x = false := by simpa [hd] using dropBlank_head cs
    rw [show cs.dropWhile isBlank = dropBlank cs from rfl, hd] at hsplit
    rw [← hsplit, dropBlankEnd_append_cons hx, dropBlank_append_cons hx,
      dropBlank_of_all_blank hlead]
    simpa using (dropBlankEnd_append_cons hx [] q).symm

theorem trimChars_trimChars (cs : List Char) : trimChars (trimChars cs) = trimChars cs := by
  simp only [trimChars_eq]
  rw [dropBlank_dropBlankEnd, dropBlank_dropBlank]
  exact List.rdropWhile_idempotent isBlank _

theorem trim_trim (s : String) : trim (trim s) = trim s := by
  simp [trim, trimChars_trimChars]

theorem trim_of_no_blank {s : String} (h : ∀ x ∈ s.toList, isBlank x = false) : trim s = s := by
  have hfront : ∀ cs : List Char, (∀ x ∈ cs, isBlank x = false) → dropBlank cs = cs := by
    intro cs hcs
    cases cs with
    | nil => rfl
    | cons y cs => simp [dropBlank, hcs y (by simp)]
  have hback : dropBlankEnd s.toList = s.toList :=
    List.rdropWhile_eq_self_iff.mpr fun hl => by simp [h _ (List.getLast_mem hl)]
  simp [trim, trimChars_eq, hfront _ h, hback]

theorem isBlank_of_isDigit {x : Char} (h : x.isDigit = true) : isBlank x = false := by
  simp only [Char.isDigit, Bool.and_eq_true, decide_eq_true_eq] at h
  have h1 : 48 ≤ x.toNat := h.1
  have h2 : x.toNat ≤ 57 := h.2
  simp only [isBlank]
  simp
  omega

/-! ### Putting a segment back -/

theorem not_mem_of_mem_splitOn {c : Char} {cs l : List Char} (h : l ∈ cs.splitOn c) : c ∉ l := by
  induction cs generalizing l with
  | nil => simp_all
  | cons y cs ih =>
    rw [List.splitOn_cons_eq_if_modifyHead] at h
    split at h
    · rcases List.mem_cons.mp h with rfl | h
      · simp
      · exact ih h
    · rename_i hy
      obtain ⟨hd, tl, hsplit⟩ := List.exists_cons_of_ne_nil (List.splitOn_ne_nil c cs)
      rw [hsplit, List.modifyHead_cons] at h
      rcases List.mem_cons.mp h with rfl | h
      · have hhd : c ∉ hd := ih (by simp [hsplit])
        simp only [beq_iff_eq] at hy
        simp [hhd, Ne.symm hy]
      · exact ih (by simp [hsplit, h])

theorem splitOn_intercalate_set (cs x : List Char) (c : Char) (i : Nat) (hx : c ∉ x) :
    ([c].intercalate ((cs.splitOn c).set i x)).splitOn c = (cs.splitOn c).set i x := by
  apply List.splitOn_intercalate c
  · intro l hl
    rcases List.mem_or_eq_of_mem_set hl with hl | rfl
    · exact not_mem_of_mem_splitOn hl
    · exact hx
  · simp [List.splitOn_ne_nil]

theorem splitOn_dot_intercalate_set (t x : String) (i : Nat) (hx : '.' ∉ x.toList) :
    (".".intercalate ((t.splitOn ".").set i x)).toList.splitOn '.' =
      (t.toList.splitOn '.').set i x.toList := by
  have hmap : ((t.toList.splitOn '.').map String.ofList).set i x =
      ((t.toList.splitOn '.').set i x.toList).map String.ofList := by
    simp [List.map_set]
  rw [splitOn_dot, hmap, String.toList_intercalate, List.map_map]
  have hid : String.toList ∘ String.ofList = id := funext fun _ => String.toList_ofList
  rw [hid, List.map_id, show (".".toList) = ['.'] from rfl]
  exact splitOn_intercalate_set _ _ '.' i hx

end Vestibule.Text

namespace Vestibule.ProviderToken

open Vestibule.Text

/-! ### What decoding reads -/

theorem decode_of_length_ne {t : String} {n : Nat} (hn : ((trim t).splitOn ".").length = n)
    (h : n ≠ 3) : decode t = .error (malformed s!"provider token has {n} segments") := by
  subst hn
  simp only [decode, bne_iff_ne, ne_eq, h, not_false_eq_true, if_true]
  rfl

theorem decode_congr {t u : String}
    (hlen : ((trim t).splitOn ".").length = ((trim u).splitOn ".").length)
    (hmid : ((trim t).splitOn ".").length = 3 →
      ((trim t).splitOn ".").getD 1 "" = ((trim u).splitOn ".").getD 1 "") :
    decode t = decode u := by
  by_cases h3 : ((trim t).splitOn ".").length = 3
  · simp only [decode, hlen, hmid h3]
  · rw [decode_of_length_ne rfl h3, decode_of_length_ne hlen.symm h3]

theorem accountName_error {v : Option Json.Value} {e : Fault} (h : accountName v = .error e) :
    e.isKind .malformed = true := by
  unfold accountName at h
  split at h
  all_goals try cases h
  all_goals try (split at h <;> cases h <;> rfl)
  all_goals rfl

theorem no_blank_of_parseInt64 {lit : String} (h : (Json.parseInt64 lit).isSome) :
    ∀ x ∈ lit.toList, isBlank x = false := by
  have hdigits : ∀ ds : List Char, ds.all Char.isDigit = true → ∀ x ∈ ds, isBlank x = false :=
    fun ds hds x hx => isBlank_of_isDigit (List.all_eq_true.mp hds x hx)
  unfold Json.parseInt64 at h
  dsimp only at h
  intro x hx
  split at h
  case h_1 ds hlit | h_2 ds hlit =>
    -- a sign, then what the digit test has passed
    have hds : ds.all Char.isDigit = true := by
      cases hall : ds.all Char.isDigit <;> simp_all
    rw [hlit, List.mem_cons] at hx
    rcases hx with rfl | hx
    · decide
    · exact hdigits ds hds x hx
  case h_3 =>
    have hds : lit.toList.all Char.isDigit = true := by
      cases hall : lit.toList.all Char.isDigit <;> simp_all
    exact hdigits _ hds x hx

theorem accountName_trimmed {v : Option Json.Value} {a : String} (h : accountName v = .ok a) :
    trim a = a := by
  unfold accountName at h
  split at h
  · cases h; rfl
  · cases h; rfl
  · cases h; exact trim_trim _
  · split at h
    · rename_i hnum
      cases h
      exact trim_of_no_blank (no_blank_of_parseInt64 hnum)
    · cases h
  · cases h

theorem payloadOctets_error {seg : String} {e : Fault} (h : payloadOctets seg = .error e) :
    e.isKind .malformed = true := by
  unfold payloadOctets at h
  split at h
  · cases h
  · cases h
    rfl

/-- What decoding a token can end with: a malformed failure, or a complete identity whose two
halves are trimmed. -/
def Decoded : Except Fault Auth.PendingIdentity → Prop
  | .error e => e.isKind .malformed = true
  | .ok i => i.isZero = false ∧ trim i.provider = i.provider ∧ trim i.providerId = i.providerId

theorem decode_decoded (token : String) : Decoded (decode token) := by
  by_cases h3 : ((trim token).splitOn ".").length = 3
  · unfold decode
    dsimp only
    simp only [h3, bne_self_eq_false, Bool.false_eq_true, if_false]
    -- the payload is read in stages, and each stage fails as malformed
    cases hp : payloadOctets (((trim token).splitOn ".").getD 1 "") with
    | error e => exact payloadOctets_error hp
    | ok octets =>
      simp only [bind, Except.bind, pure, Except.pure, throw, throwThe, MonadExceptOf.throw]
      cases hr : Json.readAll octets with
      | error re => rfl
      | ok payload =>
        dsimp only
        cases hm : (Claims.layout.bind ⟨"", none⟩ payload).2 with
        | some msg => rfl
        | none =>
          dsimp only
          cases ha : accountName (Claims.layout.bind ⟨"", none⟩ payload).1.providerId with
          | error e => exact accountName_error ha
          | ok account =>
            dsimp only
            generalize (Claims.layout.bind ⟨"", none⟩ payload).1 = claims at ha ⊢
            -- the identity is built before it is tested; a case split on the test keeps the
            -- identity itself from being evaluated
            cases hz : Auth.PendingIdentity.isZero ⟨trim claims.provider, account⟩
            · simp only [Bool.false_eq_true, if_false]
              exact ⟨hz, trim_trim _, accountName_trimmed ha⟩
            · rfl
  · rw [decode_of_length_ne rfl h3]
    rfl

/-! ### Decoding is all or malformed -/

theorem decode_set_outer (t x : String) (i : Nat) (hi : i = 0 ∨ i = 2) (hx : '.' ∉ x.toList) :
    decode (".".intercalate ((t.splitOn ".").set i x)) = decode t := by
  have hseg := splitOn_dot_intercalate_set t x i hx
  apply decode_congr
  · rw [trim_splitOn_dot, trim_splitOn_dot, hseg]
    simp [length_modifyLast]
  · intro h3
    rw [trim_splitOn_dot, hseg] at h3 ⊢
    rw [trim_splitOn_dot]
    have hL : (t.toList.splitOn '.').length = 3 := by simpa [length_modifyLast] using h3
    obtain ⟨a, b, d, hL⟩ := List.length_eq_three.mp hL
    rw [hL]
    rcases hi with rfl | rfl
    · simp [modifyLast_triple]
    · simp [modifyLast_triple]

theorem ne_empty_of_not_isBlankText {s : String} (h : isBlankText s = false) : s ≠ "" := by
  rintro rfl
  simp [isBlankText] at h

theorem decode_all_or_malformed (token : String) :
    ((∃ i, decode token = .ok i ∧ i.provider ≠ "" ∧ i.providerId ≠ "" ∧
        trim i.provider = i.provider ∧ trim i.providerId = i.providerId) ∨
      ∃ e, decode token = .error e ∧ e.isKind .malformed = true) ∧
    ∀ (i : Nat) (x : String), (i = 0 ∨ i = 2) → '.' ∉ x.toList →
      decode (".".intercalate ((token.splitOn ".").set i x)) = decode token := by
  refine ⟨?_, fun i x hi hx => decode_set_outer token x i hi hx⟩
  have hd := decode_decoded token
  cases h : decode token with
  | error e =>
    rw [h] at hd
    exact Or.inr ⟨e, rfl, hd⟩
  | ok i =>
    rw [h] at hd
    obtain ⟨hz, hprovider, haccount⟩ := hd
    simp only [Auth.PendingIdentity.isZero, Bool.or_eq_false_iff] at hz
    exact Or.inl ⟨i, rfl, ne_empty_of_not_isBlankText hz.1, ne_empty_of_not_isBlankText hz.2,
      hprovider, haccount⟩

theorem decode_ignores_replaced_header :
    decode (".".intercalate (("h.e30.g".splitOn ".").set 0 "other")) = decode "h.e30.g" :=
  (decode_all_or_malformed "h.e30.g").2 0 "other" (Or.inl rfl) (by decide)

end Vestibule.ProviderToken
