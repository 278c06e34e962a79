import Vestibule.Fault
import Vestibule.Json.Value

/-!
The cached point balance of one browser.

The cache holds a value and a dirty flag. A refresh fetches only when the cache is dirty. A fetch
is a flight: it starts by noting two epochs, and when it lands it commits only if no reset
happened in between, and clears the dirty flag only if nothing marked the cache dirty in
between. A failed or negative fetch commits nothing, so the value is never negative.
-/

namespace Vestibule.Balance

open Vestibule.Json

/-- What a reader sees of the cache. -/
structure Record where
  value : Int
  needsRefresh : Bool
  deriving Repr, DecidableEq, Inhabited

def Record.toValue (r : Record) : Value :=
  .object [("value", .ofInt r.value), ("needsRefresh", .bool r.needsRefresh)]

/-- The cache: value, dirty flag and the two epochs, which count modulo 2^64. -/
structure Cache where
  value : Int
  dirty : Bool
  dirtyEpoch : UInt64
  resetEpoch : UInt64
  deriving Repr, DecidableEq, Inhabited

/-- What a refresh hands its caller: a value, and why the refresh failed if it did. -/
structure Reply where
  value : Int
  failure : Option Fault

/-- A fetch in flight: the epochs when it started. -/
structure Flight where
  dirtyEpoch : UInt64
  resetEpoch : UInt64
  deriving Repr, DecidableEq

/-- How a landed flight ended, as counted by metrics. -/
inductive Landing where
  | committed
  | discarded
  | failed
  deriving Repr, DecidableEq

def Landing.label : Landing → String
  | .committed => "ok"
  | .discarded => "discarded"
  | .failed => "error"

namespace Cache

def initial : Cache := ⟨0, true, 0, 0⟩

def markDirty (c : Cache) : Cache := { c with dirty := true, dirtyEpoch := c.dirtyEpoch + 1 }

def reset (c : Cache) : Cache :=
  { value := 0, dirty := true, dirtyEpoch := c.dirtyEpoch + 1, resetEpoch := c.resetEpoch + 1 }

def snapshot (c : Cache) : Record := ⟨c.value, c.dirty⟩

def start (c : Cache) : Option Flight :=
  if c.dirty then some ⟨c.dirtyEpoch, c.resetEpoch⟩ else none

def negative (v : Int) : Fault := .wrap s!"negative balance {v}" (.kind .malformed)

/-- Lands flight `f` with what the fetch gave: what the caller gets, how the flight landed, and
the cache after. A failure leaves the cache as it is and hands out the held value. -/
def land (c : Cache) (f : Flight) (fetched : Except Fault Int) : Reply × Landing × Cache :=
  match fetched with
  | .error e => (⟨c.value, some e⟩, .failed, c)
  | .ok v =>
    if v < 0 then (⟨c.value, some (negative v)⟩, .failed, c)
    else if f.resetEpoch != c.resetEpoch then (⟨c.value, none⟩, .discarded, c)
    else
      let c2 := { c with value := v, dirty := if f.dirtyEpoch == c.dirtyEpoch then false else c.dirty }
      (⟨v, none⟩, .committed, c2)

/-- Refreshes through `fetch`, which may itself change the cache while it runs: a clean cache
answers at once, a dirty one starts a flight and lands it. Also tells how a flight landed, if
one ran. -/
def refresh (c : Cache) (fetch : Cache → Except Fault Int × Cache) :
    Reply × Option Landing × Cache :=
  match c.start with
  | none => (⟨c.value, none⟩, none, c)
  | some f =>
    let (got, c1) := fetch c
    let (r, l, c2) := c1.land f got
    (r, some l, c2)

/-- A refresh whose caller stops waiting before the flight lands: the caller gets the held value
and the cancellation, and the flight still lands for the cache. -/
def refreshUnwaited (c : Cache) (fetch : Cache → Except Fault Int × Cache) :
    Reply × Option Landing × Cache :=
  match c.start with
  | none => (⟨c.value, none⟩, none, c)
  | some f =>
    let (got, c1) := fetch c
    let (_, l, c2) := c1.land f got
    (⟨c.value, some (.kind .canceled)⟩, some l, c2)

end Cache

end Vestibule.Balance
