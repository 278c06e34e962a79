import Mathlib.Data.List.Sort
import Mathlib.Data.String.Basic
import Vestibule.Proofs.TokenSegments
import Vestibule.Proofs.Utf8Codec
import Vestibule.Text.NormalSet

/-!
Sets of labels in normal form.

Texts are kept in code point order, and the UTF-8 writer keeps that order: one text comes before
another exactly when its octets do, compared octet by octet, since a character's first octet
says how many follow and the rest give its code point six bits at a time. So the normal form of a
list of labels, strictly increasing by code point, is strictly increasing octet by octet too.
Its labels are exactly the trimmed labels of the list that are not empty; lists with the same
such labels, in any order and with any repetition, have the same normal form, and normalising a
normal form changes nothing.
-/

namespace Vestibule.Text.Utf8

def OctetsLt (a b : String) : Prop := List.Lex (· < ·) (encode a) (encode b)

theorem lex_octets {x y : Nat} {s t : List UInt8} (hy : y < 256) (hxy : x ≤ y)
    (hrest : x = y → List.Lex (· < ·) s t) :
    List.Lex (· < ·) (x.toUInt8 :: s) (y.toUInt8 :: t) := by
  rcases Nat.lt_or_eq_of_le hxy with hlt | heq
  · apply List.Lex.rel
    rw [UInt8.lt_iff_toNat_lt, toNat_toUInt8 hy, toNat_toUInt8 (by omega)]
    exact hlt
  · rw [heq]
    exact List.Lex.cons (hrest heq)

theorem lex_encodeChar {c d : Char} (h : c.toNat < d.toNat) (s t : List UInt8) :
    List.Lex (· < ·) (encodeChar c ++ s) (encodeChar d ++ t) := by
  have hd := toNat_valid d
  unfold encodeChar
  dsimp only
  split_ifs <;> simp only [List.cons_append, List.nil_append]
  -- width by width: the octets agree up to the first place where those of `c` are smaller, and
  -- they cannot agree everywhere
  all_goals repeat' refine lex_octets (by omega) (by omega) fun _ => ?_
  all_goals exfalso; omega

theorem encodeChar_ne_nil (c : Char) : encodeChar c ≠ [] := by
  unfold encodeChar
  dsimp only
  split_ifs <;> simp

theorem lex_encodeChars {cs ds : List Char} (h : List.Lex (· < ·) cs ds) :
    List.Lex (· < ·) (encodeChars cs) (encodeChars ds) := by
  induction h with
  | nil =>
    obtain ⟨b, bs, hb⟩ := List.exists_cons_of_ne_nil (encodeChar_ne_nil _)
    simp only [encodeChars, List.flatMap_nil, List.flatMap_cons]
    rw [hb, List.cons_append]
    exact List.Lex.nil
  | rel h =>
    simp only [encodeChars, List.flatMap_cons]
    exact lex_encodeChar h _ _
  | cons _ ih =>
    simp only [encodeChars, List.flatMap_cons]
    exact List.Lex.append_left _ ih _

theorem lt_iff_octetsLt (a b : String) : a < b ↔ OctetsLt a b := by
  have hasymm : ∀ {x y : UInt8}, x < y → ¬ y < x := fun h₁ h₂ => by
    rw [UInt8.lt_iff_toNat_lt] at h₁ h₂
    omega
  constructor
  · intro h
    exact lex_encodeChars (String.lt_iff_toList_lt.mp h)
  · intro h
    rcases lt_trichotomy a b with hab | rfl | hba
    · exact hab
    · exact absurd h (List.lex_irrefl (fun _ hx => hasymm hx hx) _)
    · exact absurd h (List.lex_asymm hasymm (lex_encodeChars (String.lt_iff_toList_lt.mp hba)))

end Vestibule.Text.Utf8

namespace Vestibule.Text

/-! ### Normal forms -/

theorem labelLe_iff {a b : String} : labelLe a b = true ↔ a ≤ b := by
  rw [labelLe, Bool.not_eq_true', decide_eq_false_iff_not, not_lt]

theorem labelLe_trans (a b c : String) (hab : labelLe a b = true) (hbc : labelLe b c = true) :
    labelLe a c = true :=
  labelLe_iff.2 (le_trans (labelLe_iff.1 hab) (labelLe_iff.1 hbc))

theorem labelLe_total (a b : String) : (labelLe a b || labelLe b a) = true := by
  rcases le_total a b with h | h <;> simp [labelLe_iff.2 h]

def IsLabelOf (xs : List String) (y : String) : Prop := ∃ x ∈ xs, trim x = y ∧ y ≠ ""

theorem isLabelOf_append_singleton {xs : List String} {v y : String} :
    IsLabelOf (xs ++ [v]) y ↔ IsLabelOf xs y ∨ (trim v = y ∧ y ≠ "") := by
  constructor
  · rintro ⟨x, hx, hxy, hy⟩
    rcases List.mem_append.1 hx with hx | hx
    · exact .inl ⟨x, hx, hxy, hy⟩
    · rw [List.mem_singleton.1 hx] at hxy
      exact .inr ⟨hxy, hy⟩
  · rintro (⟨x, hx, hxy, hy⟩ | ⟨hxy, hy⟩)
    · exact ⟨x, List.mem_append_left _ hx, hxy, hy⟩
    · exact ⟨v, List.mem_append_right _ (List.mem_singleton_self v), hxy, hy⟩

/-- What the loop has gathered from the labels `xs`: each kept label once, a label seen exactly
when it is kept, and the labels kept exactly the trimmed labels of `xs` that are not empty. -/
structure LabelScan.Gathered (xs : List String) (s : LabelScan) : Prop where
  nodup : s.kept.Nodup
  seen : ∀ y, y ∈ s.seen ↔ y ∈ s.kept
  kept : ∀ y, y ∈ s.kept ↔ IsLabelOf xs y

theorem LabelScan.Gathered.step {xs : List String} {s : LabelScan} (h : Gathered xs s)
    (v : String) : Gathered (xs ++ [v]) (s.step v) := by
  unfold LabelScan.step
  dsimp only
  split
  · -- an empty label adds nothing
    rename_i hempty
    have hnone (y : String) : ¬ (trim v = y ∧ y ≠ "") :=
      fun ⟨hv, hy⟩ => hy (hv ▸ String.isEmpty_iff.1 hempty)
    refine ⟨h.nodup, h.seen, fun y => ?_⟩
    rw [h.kept, isLabelOf_append_singleton]
    exact (or_iff_left (hnone y)).symm
  split
  · -- a label seen before is kept already
    rename_i hseen
    have hkept : IsLabelOf xs (trim v) := (h.kept _).1 ((h.seen _).1 (List.contains_iff_mem.1 hseen))
    refine ⟨h.nodup, h.seen, fun y => ?_⟩
    rw [h.kept, isLabelOf_append_singleton]
    constructor
    · exact .inl
    · rintro (hy | ⟨rfl, -⟩)
      · exact hy
      · exact hkept
  · rename_i hempty hseen
    have hnew : trim v ∉ s.kept := fun hk => hseen (List.contains_iff_mem.2 ((h.seen _).2 hk))
    refine ⟨?_, fun y => ?_, fun y => ?_⟩
    · exact List.nodup_append.2 ⟨h.nodup, List.nodup_singleton _,
        fun a ha b hb => by rw [List.mem_singleton.1 hb]; exact fun he => hnew (he ▸ ha)⟩
    · simp [h.seen, or_comm]
    · rw [List.mem_append, List.mem_singleton, h.kept, isLabelOf_append_singleton]
      have hne : trim v ≠ "" := fun he => hempty (String.isEmpty_iff.2 he)
      constructor
      · rintro (hy | rfl)
        · exact .inl hy
        · exact .inr ⟨rfl, hne⟩
      · rintro (hy | ⟨rfl, -⟩)
        · exact .inl hy
        · exact .inr rfl

theorem LabelScan.gathered_foldl (xs : List String) :
    Gathered xs (xs.foldl LabelScan.step ⟨[], []⟩) := by
  induction xs using List.reverseRecOn with
  | nil => exact ⟨List.nodup_nil, fun _ => Iff.rfl, fun y => by simp [IsLabelOf]⟩
  | append_singleton xs v ih =>
    rw [List.foldl_append, List.foldl_cons, List.foldl_nil]
    exact ih.step v

theorem mem_normalSet {xs : List String} {y : String} : y ∈ normalSet xs ↔ IsLabelOf xs y := by
  unfold normalSet
  rw [(List.mergeSort_perm _ _).mem_iff]
  exact (LabelScan.gathered_foldl xs).kept y

theorem pairwise_normalSet (xs : List String) : (normalSet xs).Pairwise (· < ·) := by
  have hsorted : (normalSet xs).Pairwise (labelLe · · = true) :=
    List.pairwise_mergeSort labelLe_trans labelLe_total _
  have hnodup : (normalSet xs).Nodup :=
    (List.mergeSort_perm _ _).nodup_iff.2 (LabelScan.gathered_foldl xs).nodup
  -- sorted and without repetition, so strictly increasing
  exact (hsorted.and hnodup).imp fun ⟨hle, hne⟩ => lt_of_le_of_ne (labelLe_iff.1 hle) hne

theorem trim_of_mem_normalSet {xs : List String} {y : String} (h : y ∈ normalSet xs) :
    y ≠ "" ∧ trim y = y := by
  obtain ⟨x, -, rfl, hne⟩ := mem_normalSet.mp h
  exact ⟨hne, trim_trim x⟩

theorem normalSet_eq_iff {xs ys : List String} :
    normalSet ys = normalSet xs ↔ ∀ y, IsLabelOf ys y ↔ IsLabelOf xs y := by
  constructor
  · intro h y
    rw [← mem_normalSet, ← mem_normalSet, h]
  · intro h
    refine List.Pairwise.eq_of_mem_iff (pairwise_normalSet ys) (pairwise_normalSet xs) fun y => ?_
    rw [mem_normalSet, mem_normalSet]
    exact h y

theorem isLabelOf_normalSet (xs : List String) (y : String) :
    IsLabelOf (normalSet xs) y ↔ IsLabelOf xs y := by
  constructor
  · rintro ⟨x, hx, rfl, -⟩
    rw [(trim_of_mem_normalSet hx).2]
    exact mem_normalSet.mp hx
  · intro h
    have hy := mem_normalSet.mpr h
    exact ⟨y, hy, (trim_of_mem_normalSet hy).2, (trim_of_mem_normalSet hy).1⟩

/-- The normal form of a list of labels: strictly increasing octet by octet, so without
repetition; its labels trimmed and not empty, and exactly the trimmed labels of the list that are
not empty; normalising it again changes nothing, and another list has the same normal form
exactly when it has the same such labels. -/
theorem normalSet_canonical (xs : List String) :
    (normalSet xs).Pairwise Utf8.OctetsLt ∧ (normalSet xs).Nodup ∧
    (∀ y ∈ normalSet xs, y ≠ "" ∧ trim y = y) ∧
    (∀ y, y ∈ normalSet xs ↔ IsLabelOf xs y) ∧
    normalSet (normalSet xs) = normalSet xs ∧
    ∀ ys, normalSet ys = normalSet xs ↔ ∀ y, IsLabelOf ys y ↔ IsLabelOf xs y := by
  have hsorted := pairwise_normalSet xs
  refine ⟨hsorted.imp fun h => (Utf8.lt_iff_octetsLt _ _).mp h, hsorted.nodup,
    fun _ hy => trim_of_mem_normalSet hy, fun _ => mem_normalSet, ?_, fun _ => normalSet_eq_iff⟩
  exact normalSet_eq_iff.mpr (isLabelOf_normalSet xs)

example : normalSet [" marketing ", "terms", "marketing", ""] = ["marketing", "terms"] := by
  simp +decide [normalSet, LabelScan.step, List.mergeSort]

end Vestibule.Text
