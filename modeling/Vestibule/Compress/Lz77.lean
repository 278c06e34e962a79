/-!
Finding repeated strings: the token stream of a deflate compressor at its default level.

Every position whose four octets are all in the input is entered into a hash chain. The hash of
four octets read as a big-endian word is the top 17 bits of the word times `0x1E35A7BD`, taken
modulo `2 ^ 32`. A chain links each position to the previous one with the same hash, looking
back at most 32768 positions.

The search at a position walks its chain for at most 128 candidates. A candidate is compared
only when it agrees at the octet just past the best match so far. It counts when it is longer
than the best so far, and when it is longer than four octets or lies at most 4096 back. The
walk stops at a match of 128 octets, or of every octet left when fewer remain. A match is at
most 258 octets long.

Matching is lazy. A match found at a position is held back for one step. The next position
searches too, unless the held match is already 16 octets or more, or fewer octets remain than
it covers. The held match is written when the next position finds nothing longer. Its octets
are then entered into the chains and skipped. Otherwise the octet before goes out as a literal,
and the newer match is held instead. The chain head of the last position that was entered
stays in use for the last three positions, which are not entered.

Tokens are cut into blocks of at most 16384; each block remembers the octets it covers.
-/

namespace Vestibule.Compress

/-- A piece of a compressed block: an octet as it is, or a copy of `length` octets from
`distance` back. -/
inductive Token where
  | literal (b : UInt8)
  | copy (length distance : Nat)
  deriving Repr, DecidableEq

/-- Tokens for one block, and the octets they stand for. -/
structure Block where
  tokens : List Token
  source : List UInt8
  deriving Repr

namespace Lz77

def windowSize : Nat := 32768

def maxMatch : Nat := 258

def lazyLength : Nat := 16

def niceLength : Nat := 128

def chainLimit : Nat := 128

def blockTokens : Nat := 16384

def buckets : Nat := 131072

def octetAt (data : Array UInt8) (p : Nat) : Nat := (data.getD p 0).toNat

def hashAt (data : Array UInt8) (p : Nat) : Nat :=
  let word := octetAt data p * 16777216 + octetAt data (p + 1) * 65536 +
    octetAt data (p + 2) * 256 + octetAt data (p + 3)
  word * 0x1E35A7BD % 4294967296 / 32768

def agree (data : Array UInt8) (a b : Nat) : (limit : Nat) → Nat
  | 0 => 0
  | limit + 1 => if octetAt data a == octetAt data b then agree data (a + 1) (b + 1) limit + 1 else 0

/-- Walks the chain at `pos` from the candidate `cand`, with `tries` candidates left, `look`
octets to compare at most and a match of `nice` octets enough; `length` and `distance` are the
best match so far, distance zero for none. -/
def chase (data : Array UInt8) (prev : Array Nat) (pos look nice : Nat) :
    (tries cand length distance : Nat) → Nat × Nat
  | 0, _, length, distance => (length, distance)
  | tries + 1, cand, length, distance =>
    let (length, distance, enough) :=
      if octetAt data (pos + length) == octetAt data (cand + length) then
        let n := agree data cand pos look
        if n > length && (n > 4 || pos - cand ≤ 4096) then (n, pos - cand, decide (nice ≤ n))
        else (length, distance, false)
      else (length, distance, false)
    if enough || cand + windowSize = pos then (length, distance) else
    let link := prev.getD (cand % windowSize) 0
    if link = 0 || link - 1 + windowSize < pos then (length, distance)
    else chase data prev pos look nice tries (link - 1) length distance

/-- The state of the scan over the input. -/
structure Scan where
  head : Array Nat
  prev : Array Nat
  chain : Nat
  index : Nat
  length : Nat
  distance : Nat
  waiting : Bool
  tokens : Array Token
  blockStart : Nat
  blocks : Array Block

def Scan.start : Scan :=
  ⟨Array.replicate buckets 0, Array.replicate windowSize 0, 0, 0, 3, 0, false, #[], 0, #[]⟩

def enter (data : Array UInt8) (s : Scan) (p : Nat) : Scan :=
  let h := hashAt data p
  let old := s.head.getD h 0
  { s with prev := s.prev.setIfInBounds (p % windowSize) old, head := s.head.setIfInBounds h (p + 1) }

/-- Enters the positions from `p` on, `n` of them, that have four octets of input. -/
def enterRun (data : Array UInt8) (s : Scan) (p : Nat) : (n : Nat) → Scan
  | 0 => s
  | n + 1 =>
    let s := if p + 3 < data.size then enter data s p else s
    enterRun data s (p + 1) n

def cut (data : Array UInt8) (s : Scan) (stop : Nat) : Scan :=
  { s with blocks := s.blocks.push ⟨s.tokens.toList, (data.extract s.blockStart stop).toList⟩,
           tokens := #[], blockStart := stop }

def emit (data : Array UInt8) (s : Scan) (t : Token) (stop : Nat) : Scan :=
  let s := { s with tokens := s.tokens.push t }
  if s.tokens.size = blockTokens then cut data s stop else s

/-- One step of the scan at `s.index`, which is inside the input. -/
def advance (data : Array UInt8) (s : Scan) : Scan :=
  let look := data.size - s.index
  let s := if s.index + 3 < data.size then
      { enter data s s.index with chain := s.head.getD (hashAt data s.index) 0 }
    else s
  let held := s.length
  let heldDistance := s.distance
  let (length, distance) :=
    if s.chain ≠ 0 && s.chain - 1 ≥ s.index - windowSize && look > held && held < lazyLength then
      let reach := min maxMatch look
      match chase data s.prev s.index reach (min reach niceLength) chainLimit (s.chain - 1) 3 0 with
      | (l, d) => if d = 0 then (3, 0) else (l, d)
    else (3, 0)
  if held ≥ 4 && length ≤ held then
    let stop := s.index + held - 1
    let s := enterRun data s (s.index + 1) (held - 2)
    let s := { s with index := stop, waiting := false, length := 3, distance := 0 }
    emit data s (.copy held heldDistance) stop
  else
    let s := { s with length, distance }
    let s := if s.waiting then emit data s (.literal (data.getD (s.index - 1) 0)) s.index else s
    { s with index := s.index + 1, waiting := true }

/-- Ends the scan: the waiting octet becomes a literal and the last block is closed. -/
def finish (data : Array UInt8) (s : Scan) : Scan :=
  let s := if s.waiting then
      { s with tokens := s.tokens.push (.literal (data.getD (s.index - 1) 0)), waiting := false }
    else s
  if s.tokens.isEmpty then s else cut data s s.index

def scan (data : Array UInt8) : (fuel : Nat) → Scan → Scan
  | 0, s => finish data s
  | fuel + 1, s => if s.index < data.size then scan data fuel (advance data s) else finish data s

/-- The blocks of tokens for the input. Every step moves at least one position on, so one step
per octet is enough. -/
def blocks (data : Array UInt8) : List Block :=
  (scan data (data.size + 1) Scan.start).blocks.toList

theorem agree_le (data : Array UInt8) (a b limit : Nat) : agree data a b limit ≤ limit := by
  induction limit generalizing a b with
  | zero => simp [agree]
  | succ n ih =>
    simp only [agree]
    split
    · have := ih (a + 1) (b + 1); omega
    · omega

theorem blocks_empty : blocks #[] = [] := by
  simp [blocks, scan, finish, Scan.start]

end Lz77

end Vestibule.Compress
