/-!
An unstable in-place sort of an array: pattern-defeating quicksort.

The sort needs only a "less than" test and makes no assumption about it, so an order that is not
a strict weak order still gets a definite answer. That answer depends on every comparison the sort
makes, which is why each step here is spelled out.

* A range of at most 12 elements is sorted by insertion: each element moves left while it is less
  than its left neighbour.
* Otherwise a pivot is chosen as the median of three elements at a quarter, a half and three
  quarters of the range, each first replaced by the median of itself and its two neighbours when
  the range has 50 elements or more. The pivot choice counts the exchanges it makes; none hints
  that the range is increasing, all twelve that it is decreasing, and a decreasing range is
  reversed first.
* A range that looks increasing, after a balanced and already partitioned one, is checked by a
  partial insertion sort, which gives up at the first element out of place when the range has
  fewer than 50 elements and otherwise repairs at most five such places.
* When the element just before the range is not less than the pivot, the range is split into the
  elements not greater than the pivot and the rest, and only the rest is sorted further.
* Otherwise the range is partitioned around the pivot and the shorter side is sorted first. A side
  shorter than an eighth of the range makes the partition unbalanced; the next round then swaps
  three elements chosen by a xorshift generator seeded with the length, and after as many
  unbalanced rounds as the length has bits, a heap sort finishes the range.
-/

namespace Vestibule.Sorting

section

variable {α : Type} (less : α → α → Bool)

def lessAt (xs : Array α) (i j : Nat) : Bool :=
  match xs[i]?, xs[j]? with
  | some x, some y => less x y
  | _, _ => false

/-- Moves the element at `j` towards `a` while it is less than the element before it. -/
def shiftDown (a : Nat) : (j : Nat) → Array α → Array α
  | 0, xs => xs
  | j + 1, xs =>
    if a < j + 1 && lessAt less xs (j + 1) j then shiftDown a j (xs.swapIfInBounds (j + 1) j)
    else xs

/-- Moves the element before `j` towards `b` while the element after it is less, looking at no
more than `fuel` places. -/
def shiftUp (b : Nat) : (fuel j : Nat) → Array α → Array α
  | 0, _, xs => xs
  | fuel + 1, j, xs =>
    if j < b && lessAt less xs j (j - 1) then shiftUp b fuel (j + 1) (xs.swapIfInBounds j (j - 1))
    else xs

def insertionSort (xs : Array α) (a b : Nat) : Array α :=
  (List.range' (a + 1) (b - (a + 1))).foldl (fun xs i => shiftDown less a i xs) xs

/-- Restores the heap order from `root` down in the heap of `hi` elements stored from `first`;
every step moves the root deeper, so `hi` steps are enough. -/
def siftDown (hi first : Nat) : (fuel root : Nat) → Array α → Array α
  | 0, _, xs => xs
  | fuel + 1, root, xs =>
    let child := 2 * root + 1
    if hi ≤ child then xs else
    let child :=
      if child + 1 < hi && lessAt less xs (first + child) (first + child + 1) then child + 1
      else child
    if !lessAt less xs (first + root) (first + child) then xs else
    siftDown hi first fuel child (xs.swapIfInBounds (first + root) (first + child))

/-- Heap sort of the positions from `a` to before `b`. -/
def heapSort (xs : Array α) (a b : Nat) : Array α :=
  let hi := b - a
  let xs := (List.range ((hi - 1) / 2 + 1)).reverse.foldl
    (fun xs i => siftDown less hi a hi i xs) xs
  (List.range hi).reverse.foldl
    (fun xs i => siftDown less i a i 0 (xs.swapIfInBounds a (a + i))) xs

end

def advance (p : Nat → Bool) (j : Nat) : (fuel i : Nat) → Nat
  | 0, i => i
  | fuel + 1, i => if i ≤ j && p i then advance p j fuel (i + 1) else i

def retreat (p : Nat → Bool) (i : Nat) : (fuel j : Nat) → Nat
  | 0, j => j
  | fuel + 1, j => if i ≤ j && p j then retreat p i fuel (j - 1) else j

section

variable {α : Type} (less : α → α → Bool)

/-- The rounds of a partition around the pivot at `a`, with `i` and `j` the first and last
positions not yet placed. -/
def partitionRounds (a : Nat) : (fuel i j : Nat) → Array α → Nat × Array α
  | 0, _, j, xs => (j, xs)
  | fuel + 1, i, j, xs =>
    let i := advance (fun k => lessAt less xs k a) j (xs.size + 1) i
    let j := retreat (fun k => !lessAt less xs k a) i (xs.size + 1) j
    if j < i then (j, xs)
    else partitionRounds a fuel (i + 1) (j - 1) (xs.swapIfInBounds i j)

/-- Partitions the positions from `a` to before `b` around the element at `pivot`: the elements
less than it, then it, then the rest. Gives the new place of the pivot, and whether nothing had
to move. -/
def partition (xs : Array α) (a b pivot : Nat) : Nat × Bool × Array α :=
  let xs := xs.swapIfInBounds a pivot
  let i := advance (fun k => lessAt less xs k a) (b - 1) (xs.size + 1) (a + 1)
  let j := retreat (fun k => !lessAt less xs k a) i (xs.size + 1) (b - 1)
  if j < i then (j, true, xs.swapIfInBounds j a) else
  let (j, xs) := partitionRounds less a (b - a) (i + 1) (j - 1) (xs.swapIfInBounds i j)
  (j, false, xs.swapIfInBounds j a)

/-- The rounds of a partition into the elements not greater than the pivot at `a` and the rest. -/
def equalRounds (a : Nat) : (fuel i j : Nat) → Array α → Nat × Array α
  | 0, i, _, xs => (i, xs)
  | fuel + 1, i, j, xs =>
    let i := advance (fun k => !lessAt less xs a k) j (xs.size + 1) i
    let j := retreat (fun k => lessAt less xs a k) i (xs.size + 1) j
    if j < i then (i, xs)
    else equalRounds a fuel (i + 1) (j - 1) (xs.swapIfInBounds i j)

/-- Splits the positions from `a` to before `b` into the elements not greater than the element at
`pivot` and the rest; gives where the rest starts. -/
def partitionEqual (xs : Array α) (a b pivot : Nat) : Nat × Array α :=
  equalRounds less a (b - a) (a + 1) (b - 1) (xs.swapIfInBounds a pivot)

/-- The steps of a partial insertion sort from position `i`, with `steps` repairs left; true when
the range turns out sorted. The repair moves the smaller element down as far as position zero,
not only to the start of the range. -/
def partialSteps (a b : Nat) : (steps i : Nat) → Array α → Bool × Array α
  | 0, _, xs => (false, xs)
  | steps + 1, i, xs =>
    let i := advance (fun k => !lessAt less xs k (k - 1)) (b - 1) (xs.size + 1) i
    if i == b then (true, xs) else
    if b - a < 50 then (false, xs) else
    let xs := xs.swapIfInBounds i (i - 1)
    let xs := if 2 ≤ i - a then shiftDown less 0 (i - 1) xs else xs
    let xs := if 2 ≤ b - i then shiftUp less b b (i + 1) xs else xs
    partialSteps a b steps i xs

def partialInsertionSort (xs : Array α) (a b : Nat) : Bool × Array α :=
  partialSteps less a b 5 (a + 1) xs

def order2 (xs : Array α) (a b swaps : Nat) : Nat × Nat × Nat :=
  if lessAt less xs b a then (b, a, swaps + 1) else (a, b, swaps)

/-- The position of the median of the elements at `a`, `b` and `c`, and the exchanges counted. -/
def median (xs : Array α) (a b c swaps : Nat) : Nat × Nat :=
  let (a, b, swaps) := order2 less xs a b swaps
  let (b, _, swaps) := order2 less xs b c swaps
  let (_, b, swaps) := order2 less xs a b swaps
  (b, swaps)

end

/-- What the pivot choice suggests about the order of a range. -/
inductive Hint where
  | unknown
  | increasing
  | decreasing
  deriving DecidableEq

section

variable {α : Type} (less : α → α → Bool)

/-- The pivot of the positions from `a` to before `b`, and the hint from its choice. -/
def choosePivot (xs : Array α) (a b : Nat) : Nat × Hint :=
  let l := b - a
  let i := a + l / 4 * 1
  let j := a + l / 4 * 2
  let k := a + l / 4 * 3
  let (j, swaps) :=
    if 8 ≤ l then
      if 50 ≤ l then
        let (i, s) := median less xs (i - 1) i (i + 1) 0
        let (j, s) := median less xs (j - 1) j (j + 1) s
        let (k, s) := median less xs (k - 1) k (k + 1) s
        median less xs i j k s
      else median less xs i j k 0
    else (j, 0)
  (j, if swaps == 0 then .increasing else if swaps == 12 then .decreasing else .unknown)

end

def reverseRange {α : Type} (xs : Array α) (a b : Nat) : Array α :=
  (List.range ((b - a) / 2)).foldl (fun xs t => xs.swapIfInBounds (a + t) (b - 1 - t)) xs

def bitLength (n : Nat) : Nat := if n = 0 then 0 else Nat.log2 n + 1

def xorshift (r : UInt64) : UInt64 :=
  let r := r ^^^ (r <<< 13)
  let r := r ^^^ (r >>> 7)
  r ^^^ (r <<< 17)

/-- One swap of pattern breaking in a range from `a` of `length` elements: the generator moves on,
and the element at `idx + i` trades places with one at a place it draws. A draw is taken modulo
the power of two above the length, and brought below the length by one subtraction. -/
def breakStep {α : Type} (a length idx : Nat) (st : UInt64 × Array α) (i : Nat) :
    UInt64 × Array α :=
  let r := xorshift st.1
  let other := r.toNat % Nat.pow 2 (bitLength length)
  let other := if length ≤ other then other - length else other
  (r, st.2.swapIfInBounds (idx + i) (a + other))

/-- Swaps the three elements around the middle of the positions from `a` to before `b` with
elements at places drawn from a generator seeded with the length. -/
def breakPatterns {α : Type} (xs : Array α) (a b : Nat) : Array α :=
  let length := b - a
  if length < 8 then xs else
  ((List.range 3).foldl (breakStep a length (a + length / 4 * 2 - 1)) (length.toUInt64, xs)).2

section

variable {α : Type} (less : α → α → Bool)

/-- What a round has settled before it splits its range: the elements, the unbalanced rounds
left, the pivot, and whether the range turned out sorted. -/
structure Round (α : Type) where
  xs : Array α
  limit : Nat
  pivot : Nat
  done : Bool

/-- The start of a round on the positions from `a` to before `b`: after an unbalanced round the
patterns are broken and one unbalanced round is used up; the pivot is chosen and a range that
looks decreasing is reversed, its pivot moving along; a range that looks increasing after a
balanced, partitioned round is given to the partial insertion sort. -/
def prepare (xs : Array α) (a b limit : Nat) (balanced partitioned : Bool) : Round α :=
  let broken := if balanced then xs else breakPatterns xs a b
  let chosen := choosePivot less broken a b
  let turned := decide (chosen.2 = .decreasing)
  let xs := if turned then reverseRange broken a b else broken
  let hint := if turned then Hint.increasing else chosen.2
  let tried :=
    if balanced && partitioned && hint = .increasing then partialInsertionSort less xs a b
    else (false, xs)
  { xs := tried.2, limit := if balanced then limit else limit - 1,
    pivot := if turned then b - 1 - (chosen.1 - a) else chosen.1, done := tried.1 }

/-- Sorts the positions from `a` to before `b`, with `limit` unbalanced rounds left before heap
sort, and whether the round before was balanced and found the range partitioned. Every round
either finishes or leaves a shorter range, so one round per element is enough. -/
def pdqsort : (fuel a b limit : Nat) → (balanced partitioned : Bool) → Array α → Array α
  | 0, _, _, _, _, _, xs => xs
  | fuel + 1, a, b, limit, balanced, partitioned, xs =>
    let length := b - a
    if length ≤ 12 then insertionSort less xs a b else
    if limit = 0 then heapSort less xs a b else
    let r := prepare less xs a b limit balanced partitioned
    if r.done then r.xs else
    if 0 < a && !lessAt less r.xs (a - 1) r.pivot then
      let rest := partitionEqual less r.xs a b r.pivot
      pdqsort fuel rest.1 b r.limit balanced partitioned rest.2
    else
    let parts := partition less r.xs a b r.pivot
    let mid := parts.1
    if mid - a < b - mid then
      pdqsort fuel (mid + 1) b r.limit (decide (length / 8 ≤ mid - a)) parts.2.1
        (pdqsort fuel a mid r.limit true true parts.2.2)
    else
      pdqsort fuel a mid r.limit (decide (length / 8 ≤ b - mid)) parts.2.1
        (pdqsort fuel (mid + 1) b r.limit true true parts.2.2)

def sort (xs : Array α) : Array α :=
  if xs.size ≤ 1 then xs else pdqsort less (xs.size + 1) 0 xs.size (bitLength xs.size) true true xs

end

section

variable {α : Type} (less : α → α → Bool)

theorem size_foldl {β : Type} (f : Array α → β → Array α) (h : ∀ xs b, (f xs b).size = xs.size)
    (bs : List β) (xs : Array α) : (bs.foldl f xs).size = xs.size := by
  induction bs generalizing xs with
  | nil => rfl
  | cons b bs ih => rw [List.foldl_cons, ih, h]

theorem size_shiftDown (a j : Nat) (xs : Array α) : (shiftDown less a j xs).size = xs.size := by
  induction j generalizing xs with
  | zero => rfl
  | succ j ih =>
    simp only [shiftDown]
    split
    · rw [ih]
      exact Array.size_swapIfInBounds
    · rfl

theorem size_shiftUp (b fuel j : Nat) (xs : Array α) :
    (shiftUp less b fuel j xs).size = xs.size := by
  induction fuel generalizing j xs with
  | zero => rfl
  | succ fuel ih =>
    simp only [shiftUp]
    split
    · rw [ih]
      exact Array.size_swapIfInBounds
    · rfl

theorem size_insertionSort (xs : Array α) (a b : Nat) :
    (insertionSort less xs a b).size = xs.size :=
  size_foldl _ (fun xs i => size_shiftDown less a i xs) _ xs

theorem size_siftDown (hi first fuel root : Nat) (xs : Array α) :
    (siftDown less hi first fuel root xs).size = xs.size := by
  induction fuel generalizing root xs with
  | zero => rfl
  | succ fuel ih =>
    simp only [siftDown]
    split
    · rfl
    · split <;> split <;> first | rfl | (rw [ih]; exact Array.size_swapIfInBounds)

theorem size_heapSort (xs : Array α) (a b : Nat) : (heapSort less xs a b).size = xs.size := by
  simp only [heapSort]
  rw [size_foldl, size_foldl]
  · intro xs i
    exact size_siftDown less _ _ _ _ xs
  · intro xs i
    rw [size_siftDown]
    exact Array.size_swapIfInBounds

theorem size_partitionRounds (a fuel i j : Nat) (xs : Array α) :
    (partitionRounds less a fuel i j xs).2.size = xs.size := by
  induction fuel generalizing i j xs with
  | zero => rfl
  | succ fuel ih =>
    simp only [partitionRounds]
    split
    · rfl
    · rw [ih]
      exact Array.size_swapIfInBounds

theorem size_partition (xs : Array α) (a b pivot : Nat) :
    (partition less xs a b pivot).2.2.size = xs.size := by
  simp only [partition]
  split
  · simp
  · simp [size_partitionRounds]

theorem size_equalRounds (a fuel i j : Nat) (xs : Array α) :
    (equalRounds less a fuel i j xs).2.size = xs.size := by
  induction fuel generalizing i j xs with
  | zero => rfl
  | succ fuel ih =>
    simp only [equalRounds]
    split
    · rfl
    · rw [ih]
      exact Array.size_swapIfInBounds

theorem size_partitionEqual (xs : Array α) (a b pivot : Nat) :
    (partitionEqual less xs a b pivot).2.size = xs.size := by
  simp [partitionEqual, size_equalRounds]

theorem size_partialSteps (a b steps i : Nat) (xs : Array α) :
    (partialSteps less a b steps i xs).2.size = xs.size := by
  induction steps generalizing i xs with
  | zero => rfl
  | succ steps ih =>
    simp only [partialSteps]
    split
    · rfl
    · split
      · rfl
      · rw [ih]
        split <;> split <;> simp [size_shiftDown, size_shiftUp]

theorem size_reverseRange (xs : Array α) (a b : Nat) : (reverseRange xs a b).size = xs.size :=
  size_foldl _ (fun _ _ => Array.size_swapIfInBounds) _ xs

theorem size_breakSteps (a length idx : Nat) (is : List Nat) (st : UInt64 × Array α) :
    (is.foldl (breakStep a length idx) st).2.size = st.2.size := by
  induction is generalizing st with
  | nil => rfl
  | cons i is ih =>
    rw [List.foldl_cons, ih]
    exact Array.size_swapIfInBounds

theorem size_breakPatterns (xs : Array α) (a b : Nat) : (breakPatterns xs a b).size = xs.size := by
  simp only [breakPatterns]
  split
  · rfl
  · exact size_breakSteps _ _ _ _ _

theorem size_tried (ys : Array α) (a b : Nat) (c : Prop) [Decidable c] :
    (if c then partialInsertionSort less ys a b else (false, ys)).2.size = ys.size := by
  split
  · exact size_partialSteps less a b 5 (a + 1) ys
  · rfl

theorem size_prepare (xs : Array α) (a b limit : Nat) (balanced partitioned : Bool) :
    (prepare less xs a b limit balanced partitioned).xs.size = xs.size := by
  simp only [prepare, size_tried, apply_ite Array.size, size_reverseRange, size_breakPatterns,
    ite_self]

theorem size_pdqsort (fuel a b limit : Nat) (balanced partitioned : Bool) (xs : Array α) :
    (pdqsort less fuel a b limit balanced partitioned xs).size = xs.size := by
  induction fuel generalizing a b limit balanced partitioned xs with
  | zero => rfl
  | succ fuel ih =>
    simp only [pdqsort]
    split
    · exact size_insertionSort less xs a b
    · split
      · exact size_heapSort less xs a b
      · split
        · exact size_prepare less xs a b limit balanced partitioned
        · split
          · rw [ih, size_partitionEqual, size_prepare]
          · split <;> rw [ih, ih, size_partition, size_prepare]

theorem size_sort (xs : Array α) : (sort less xs).size = xs.size := by
  unfold sort
  split
  · rfl
  · exact size_pdqsort less _ _ _ _ _ _ xs

end

end Vestibule.Sorting
