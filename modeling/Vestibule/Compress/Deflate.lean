import Vestibule.Compress.Bits
import Vestibule.Compress.Huffman
import Vestibule.Compress.Lz77

/-!
Writing blocks of tokens as a deflate stream.

Each block is written in the cheapest of three forms, counted in bits: with the fixed codes,
with codes built for the block, or stored as its octets. The codes built for the block are
used when they cost strictly less than the fixed ones. The stored form is used when it is
strictly cheaper than both and the block covers at most 65535 octets. The cost of a block
with its own codes includes its header. That header writes the code lengths, zero runs and
repeats as short symbols, under a code of at most 7 bits. A block with no copies still
declares one distance code. The fixed form then pays for that code too.

A stream is the blocks of the token scan, then an empty last block, which is cheapest with the
fixed codes.
-/

namespace Vestibule.Compress.Deflate

open Huffman

def lengthBases : List Nat :=
  [0, 1, 2, 3, 4, 5, 6, 7, 8, 10, 12, 14, 16, 20, 24, 28, 32, 40, 48, 56, 64, 80, 96, 112, 128,
   160, 192, 224, 255]

def lengthExtra : List Nat :=
  [0, 0, 0, 0, 0, 0, 0, 0, 1, 1, 1, 1, 2, 2, 2, 2, 3, 3, 3, 3, 4, 4, 4, 4, 5, 5, 5, 5, 0]

def distanceBases : List Nat :=
  [0, 1, 2, 3, 4, 6, 8, 12, 16, 24, 32, 48, 64, 96, 128, 192, 256, 384, 512, 768, 1024, 1536,
   2048, 3072, 4096, 6144, 8192, 12288, 16384, 24576]

def distanceExtra : List Nat :=
  [0, 0, 0, 0, 1, 1, 2, 2, 3, 3, 4, 4, 5, 5, 6, 6, 7, 7, 8, 8, 9, 9, 10, 10, 11, 11, 12, 12, 13,
   13]

def classOf (bases : List Nat) (x : Nat) : Nat := (bases.filter (· ≤ x)).length - 1

def literalSymbols : Nat := 286

def distanceSymbols : Nat := 30

def endOfBlock : Nat := 256

def symbolOf : Token → Nat
  | .literal b => b.toNat
  | .copy length _ => 257 + classOf lengthBases (length - 3)

def distanceClassOf : Token → Option Nat
  | .literal _ => none
  | .copy _ distance => some (classOf distanceBases (distance - 1))

def bump (counts : Array Nat) (i : Nat) : Array Nat := counts.modify i (· + 1)

def literalCounts (tokens : List Token) : List Nat :=
  (bump (tokens.foldl (fun a t => bump a (symbolOf t)) (Array.replicate literalSymbols 0)) endOfBlock).toList

def distanceCounts (tokens : List Token) : List Nat :=
  (tokens.foldl (fun a t => match distanceClassOf t with | some d => bump a d | none => a)
    (Array.replicate distanceSymbols 0)).toList

def usedPrefix (counts : List Nat) : Nat := counts.length - (counts.reverse.takeWhile (· = 0)).length

def cost (counts lengths : List Nat) : Nat :=
  (List.zipWith (· * ·) counts lengths).foldl (· + ·) 0

def fixedLiteralLengths : List Nat :=
  (List.range 288).map fun s => if s < 144 then 8 else if s < 256 then 9 else if s < 280 then 7 else 8

def fixedDistanceLengths : List Nat := List.replicate distanceSymbols 5

/-- One symbol of the code-length alphabet, with the value and width of its extra bits. -/
structure LengthOp where
  symbol : Nat
  extra : Nat
  width : Nat
  deriving Repr, DecidableEq

/-- Repeats of a nonzero length after it was written once: up to six at a time, the last one or
two written plainly. -/
def repeatLength (v r : Nat) : List LengthOp :=
  if _h : 3 ≤ r then
    ⟨16, min r 6 - 3, 2⟩ :: repeatLength v (r - min r 6)
  else List.replicate r ⟨v, 0, 0⟩
termination_by r
decreasing_by omega

/-- A run of zero lengths: up to 138 at a time, then one shorter run of 3 to 10, the last one
or two written plainly. -/
def zeroRun (r : Nat) : List LengthOp :=
  if h : 11 ≤ r then
    ⟨18, min r 138 - 11, 7⟩ :: zeroRun (r - min r 138)
  else if 3 ≤ r then [⟨17, r - 3, 3⟩]
  else List.replicate r ⟨0, 0, 0⟩
termination_by r
decreasing_by omega

/-- The maximal runs of equal entries, with their lengths. -/
def runs : List Nat → List (Nat × Nat)
  | [] => []
  | x :: xs =>
    match runs xs with
    | (y, c) :: rest => if x = y then (y, c + 1) :: rest else (x, 1) :: (y, c) :: rest
    | [] => [(x, 1)]

def lengthOps (lengths : List Nat) : List LengthOp :=
  (runs lengths).flatMap fun (v, c) =>
    if v = 0 then zeroRun c else ⟨v, 0, 0⟩ :: repeatLength v (c - 1)

def lengthOrder : List Nat := [16, 17, 18, 0, 8, 7, 9, 6, 10, 5, 11, 4, 12, 3, 13, 2, 14, 1, 15]

/-- How many of the code-length code's lengths a header writes: up to the last one in use, and
at least four. -/
def headerCount (counts : List Nat) : Nat :=
  let present := lengthOrder.map fun s => counts.getD s 0 != 0
  max 4 (present.length - (present.reverse.takeWhile (!·)).length)

def codeOf (table : Array Code) (s : Nat) : Code := table.getD s ⟨0, 0⟩

def putCode (sink : BitSink) (c : Code) : BitSink := sink.put c.bits c.length

/-- Writes the tokens and the end of the block under the given codes. -/
def putTokens (lit dist : Array Code) (sink : BitSink) (tokens : List Token) : BitSink :=
  let sink := tokens.foldl (fun sink t =>
    match t with
    | .literal b => putCode sink (codeOf lit b.toNat)
    | .copy length distance =>
      let lc := classOf lengthBases (length - 3)
      let dc := classOf distanceBases (distance - 1)
      let sink := putCode sink (codeOf lit (257 + lc))
      let sink := sink.put (length - 3 - lengthBases.getD lc 0) (lengthExtra.getD lc 0)
      let sink := putCode sink (codeOf dist dc)
      sink.put (distance - 1 - distanceBases.getD dc 0) (distanceExtra.getD dc 0)) sink
  putCode sink (codeOf lit endOfBlock)

/-- The three forms a block can be written in. -/
inductive Form where
  | fixed
  | dynamic
  | stored
  deriving Repr, DecidableEq

/-- What the writer works out about a block before choosing its form: symbol counts, table
sizes, the block's own code lengths, and the code-length symbols of its header. -/
structure Plan where
  litCounts : List Nat
  distCounts : List Nat
  numLit : Nat
  numDist : Nat
  litLengths : List Nat
  distLengths : List Nat
  ops : List LengthOp
  opCounts : List Nat
  opLengths : List Nat
  numOps : Nat

/-- The plan of a block of tokens. A block without copies counts one use of the first distance
class, so that its distance table is not empty. -/
def plan (tokens : List Token) : Plan :=
  let litCounts := literalCounts tokens
  let numLit := usedPrefix litCounts
  let counted := distanceCounts tokens
  let (distCounts, numDist) :=
    if usedPrefix counted = 0 then (counted.set 0 1, 1) else (counted, usedPrefix counted)
  let litLengths := codeLengths litCounts 15
  let distLengths := codeLengths distCounts 15
  let ops := lengthOps (litLengths.take numLit ++ distLengths.take numDist)
  let opCounts := (ops.foldl (fun a o => bump a o.symbol) (Array.replicate 19 0)).toList
  ⟨litCounts, distCounts, numLit, numDist, litLengths, distLengths, ops, opCounts,
   codeLengths opCounts 7, headerCount opCounts⟩

def Plan.extraBits (p : Plan) : Nat :=
  cost (p.litCounts.drop 257) lengthExtra + cost p.distCounts distanceExtra

def Plan.fixedSize (p : Plan) (extra : Nat) : Nat :=
  3 + cost p.litCounts fixedLiteralLengths + cost p.distCounts fixedDistanceLengths + extra

def Plan.dynamicSize (p : Plan) (extra : Nat) : Nat :=
  3 + 5 + 5 + 4 + 3 * p.numOps + cost p.opCounts p.opLengths +
    p.opCounts.getD 16 0 * 2 + p.opCounts.getD 17 0 * 3 + p.opCounts.getD 18 0 * 7 +
    cost p.litCounts p.litLengths + cost p.distCounts p.distLengths + extra

def storable : Option (List UInt8) → Bool
  | some bs => bs.length ≤ 65535
  | none => false

/-- The cheapest form of a block; the extra bits count only when the stored form is possible,
and a tie keeps the fixed codes over the block's own and either over storing. -/
def Plan.form (p : Plan) (source : Option (List UInt8)) : Form :=
  let extra := if storable source then p.extraBits else 0
  let coded := min (p.fixedSize extra) (p.dynamicSize extra)
  let storedSize := ((source.map List.length).getD 0 + 5) * 8
  if storable source && storedSize < coded then .stored
  else if p.dynamicSize extra < p.fixedSize extra then .dynamic
  else .fixed

/-- A stored block: the header bits, the octet boundary, the length and its complement, then
the octets. -/
def putStored (sink : BitSink) (final : Nat) (bs : List UInt8) : BitSink :=
  let sink := (sink.put final 3).align
  ((sink.put bs.length 16).put (65535 - bs.length) 16).putOctets bs

def putFixed (sink : BitSink) (final : Nat) (tokens : List Token) : BitSink :=
  putTokens (codes fixedLiteralLengths) (codes fixedDistanceLengths) (sink.put (final + 2) 3) tokens

/-- A block under its own codes: the table sizes, the code-length code, the code lengths, then
the tokens. -/
def putDynamic (sink : BitSink) (final : Nat) (p : Plan) (tokens : List Token) : BitSink :=
  let sink := sink.put (final + 4) 3
  let sink := ((sink.put (p.numLit - 257) 5).put (p.numDist - 1) 5).put (p.numOps - 4) 4
  let sink := (lengthOrder.take p.numOps).foldl (fun s k => s.put (p.opLengths.getD k 0) 3) sink
  let opCodes := codes p.opLengths
  let sink := p.ops.foldl (fun s o => (putCode s (codeOf opCodes o.symbol)).put o.extra o.width) sink
  putTokens (codes p.litLengths) (codes p.distLengths) sink tokens

/-- Writes a block in its cheapest form; `last` marks the last block of the stream, and
`source` holds the octets of the block when it may be stored. -/
def putBlock (sink : BitSink) (last : Bool) (tokens : List Token) (source : Option (List UInt8)) :
    BitSink :=
  let final := if last then 1 else 0
  let p := plan tokens
  match p.form source, source with
  | .stored, some bs => putStored sink final bs
  | .dynamic, _ => putDynamic sink final p tokens
  | _, _ => putFixed sink final tokens

def deflate (data : List UInt8) : List UInt8 :=
  let sink := (Lz77.blocks data.toArray).foldl
    (fun sink b => putBlock sink false b.tokens (some b.source)) BitSink.empty
  (putBlock sink true [] none).octets

theorem usedPrefix_le (counts : List Nat) : usedPrefix counts ≤ counts.length := by
  unfold usedPrefix; omega

theorem classOf_lengthBases_lt (x : Nat) : classOf lengthBases x < 29 := by
  unfold classOf
  have h : (lengthBases.filter (· ≤ x)).length ≤ lengthBases.length := List.length_filter_le _ _
  simp only [lengthBases, List.length_cons, List.length_nil] at h ⊢
  omega

theorem form_none_ne_stored (p : Plan) : p.form none ≠ .stored := by
  unfold Plan.form
  simp only [storable, Bool.false_and, Bool.false_eq_true, if_false]
  split <;> simp

end Vestibule.Compress.Deflate
