/-!
Length-limited prefix codes, built the way the deflate encoder builds them.

Code lengths come from the package-merge construction. The symbols that occur are sorted by
count, ties by symbol. The deepest list holds them as leaves; each list above merges the leaves
with the pairs of consecutive items of the list below, an odd last item left out, and a leaf
goes before a pair only when it is strictly lighter. The first `2n - 2` items of the top list,
unfolded through their pairs, use a prefix of the leaves on every level, and a leaf's code
length is the number of levels that use it. With `limit` levels (never more than `n - 1`) no
code is longer than `limit`. One or two symbols get one bit each.

Codes are canonical: shorter codes come first, and codes of one length follow the order of the
symbols. A code is kept bit-reversed, since a stream writes a code from its first bit and the
sink fills octets from the least significant bit.
-/

namespace Vestibule.Compress.Huffman

/-- An item of a package-merge list: its weight, and whether it is a leaf or a pair. -/
structure Item where
  weight : Nat
  leaf : Bool
  deriving Repr, DecidableEq

/-- Merges leaves and pairs, both sorted by weight; a leaf goes first only when it is strictly
lighter. -/
def mergeItems : List Item → List Item → List Item
  | [], ps => ps
  | ls, [] => ls
  | l :: ls, p :: ps =>
    if l.weight < p.weight then l :: mergeItems ls (p :: ps) else p :: mergeItems (l :: ls) ps

def pairUp : List Item → List Item
  | a :: b :: rest => ⟨a.weight + b.weight, false⟩ :: pairUp rest
  | _ => []

/-- The lists of `k` levels, the top one first and the deepest, the leaves alone, last. -/
def levelLists (leaves : List Item) : Nat → List (List Item)
  | 0 => []
  | k + 1 =>
    match levelLists leaves k with
    | [] => [leaves]
    | below :: rest => mergeItems leaves (pairUp below) :: below :: rest

/-- How many leaves each level uses when the first `m` items of the top list are unfolded: a
level uses the leaves among its first `m` items, and its pairs use twice as many items of the
level below. -/
def leafUse : List (List Item) → Nat → List Nat
  | [], _ => []
  | l :: below, m =>
    let c := ((l.take m).filter (·.leaf)).length
    c :: leafUse below (2 * (m - c))

def byCount (counts : List Nat) : List (Nat × Nat) :=
  (counts.zipIdx.filter (·.1 != 0)).mergeSort fun a b => a.1 < b.1 || (a.1 == b.1 && a.2 ≤ b.2)

/-- The code length of each symbol, zero for a symbol that does not occur; `counts[s]` is how
often symbol `s` occurs, and no code is longer than `limit`. -/
def codeLengths (counts : List Nat) (limit : Nat) : List Nat :=
  let sorted := byCount counts
  let n := sorted.length
  if n ≤ 2 then counts.map fun c => if c = 0 then 0 else 1 else
  let leaves := sorted.map fun (c, _) => Item.mk c true
  let uses := leafUse (levelLists leaves (min limit (n - 1))) (2 * n - 2)
  let lengthOf := sorted.zipIdx.map fun ((_, sym), i) => (sym, (uses.filter (i < ·)).length)
  counts.zipIdx.map fun (_, s) => ((lengthOf.find? (·.1 == s)).map (·.2)).getD 0

/-- A code word: its bits in the order they are written, lowest first, and its length. -/
structure Code where
  bits : Nat
  length : Nat
  deriving Repr, DecidableEq

def reverseBits (v : Nat) : Nat → Nat
  | 0 => 0
  | n + 1 => v % 2 * Nat.pow 2 n + reverseBits (v / 2) n

def firstCode (lengths : List Nat) : Nat → Nat
  | 0 => 0
  | b + 1 => (firstCode lengths b + (if b = 0 then 0 else lengths.count b)) * 2

def codes (lengths : List Nat) : Array Code :=
  (lengths.zipIdx.map fun (len, s) =>
    if len = 0 then Code.mk 0 0 else
    ⟨reverseBits (firstCode lengths len + (lengths.take s).count len) len, len⟩).toArray

theorem pairUp_length (xs : List Item) : (pairUp xs).length = xs.length / 2 := by
  induction xs using pairUp.induct with
  | case1 a b rest ih => simp only [pairUp, List.length_cons, ih]; omega
  | case2 xs h =>
    match xs, h with
    | [], _ => simp [pairUp]
    | [_], _ => simp [pairUp]
    | _ :: _ :: _, h => exact absurd rfl (h _ _ _)

theorem levelLists_length (leaves : List Item) (k : Nat) :
    (levelLists leaves k).length = k := by
  induction k with
  | zero => rfl
  | succ k ih =>
    simp only [levelLists]
    split <;> simp_all

theorem codeLengths_length (counts : List Nat) (limit : Nat) :
    (codeLengths counts limit).length = counts.length := by
  unfold codeLengths
  dsimp only
  split <;> simp

theorem reverseBits_lt (v n : Nat) : reverseBits v n < Nat.pow 2 n := by
  induction n generalizing v with
  | zero => exact Nat.zero_lt_one
  | succ n ih =>
    have h := ih (v / 2)
    have e : Nat.pow 2 (n + 1) = Nat.pow 2 n * 2 := rfl
    simp only [reverseBits, e]
    rcases Nat.mod_two_eq_zero_or_one v with h2 | h2 <;> rw [h2] <;> omega

end Vestibule.Compress.Huffman
