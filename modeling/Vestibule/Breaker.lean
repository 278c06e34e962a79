import Vestibule.Clock

/-!
A circuit breaker counting consecutive outcomes.

A closed breaker lets every call through and counts failures in a row; when the count reaches
the failure threshold it opens. An open breaker lets one probe through per cooldown and counts
successes in a row; when that count reaches the success threshold it closes. Each opening or
closing starts its count afresh. Time is read from the caller, in nanoseconds, and may go
backwards.
-/

namespace Vestibule

/-- How a breaker is tuned. -/
structure Breaker.Config where
  name : String
  failureThreshold : Nat
  successThreshold : Nat
  cooldown : Int
  deriving Repr, DecidableEq

def Breaker.Config.standard (name : String) : Breaker.Config := ⟨name, 5, 2, 5000000000⟩

/-- Tuning from optional settings; a threshold that is not positive keeps its default, a
cooldown is taken as given. -/
def Breaker.Config.make (name : String) (failures successes : Option Int) (cooldown : Option Int) :
    Breaker.Config :=
  let base := Breaker.Config.standard name
  let pick (given : Option Int) (dflt : Nat) : Nat :=
    match given with
    | some n => if n > 0 then n.toNat else dflt
    | none => dflt
  { base with failureThreshold := pick failures base.failureThreshold,
              successThreshold := pick successes base.successThreshold,
              cooldown := cooldown.getD base.cooldown }

/-- Whether a breaker lets calls through freely or only probes. -/
inductive Breaker.Position where
  | closed
  | opened
  deriving Repr, DecidableEq

def Breaker.Position.name : Breaker.Position → String
  | .closed => "closed"
  | .opened => "open"

/-- Which transition a recorded outcome caused. -/
structure Breaker.Change where
  opened : Bool
  closed : Bool
  deriving Repr, DecidableEq

/-- A breaker: its tuning, position, the counts of consecutive outcomes and the time of the last
probe or opening. -/
structure Breaker where
  config : Breaker.Config
  position : Breaker.Position
  failures : Nat
  successes : Nat
  lastProbe : Int
  deriving Repr, DecidableEq

namespace Breaker

def new (config : Config) : Breaker := ⟨config, .closed, 0, 0, 0⟩

def isOpen (b : Breaker) : Bool := b.position == .opened

/-- Asks to make a call at time `now`: always yes when closed; when open, yes only once the
span since the last probe, held within the 64-bit range, reaches the cooldown; the call then
counts as the new probe. -/
def allow (now : Int) (b : Breaker) : Bool × Breaker :=
  match b.position with
  | .closed => (true, b)
  | .opened =>
    if Clock.between now b.lastProbe < b.config.cooldown then (false, b)
    else (true, { b with lastProbe := now })

/-- Records a failed call at time `now`. The flag tells whether the breaker is open after it. -/
def recordFailure (now : Int) (b : Breaker) : (Bool × Change) × Breaker :=
  let b := { b with successes := 0 }
  match b.position with
  | .opened => ((true, ⟨false, false⟩), b)
  | .closed =>
    if b.failures + 1 ≥ b.config.failureThreshold then
      ((true, ⟨true, false⟩), { b with position := .opened, failures := 0, lastProbe := now })
    else ((false, ⟨false, false⟩), { b with failures := b.failures + 1 })

/-- Records a successful call. The flag tells whether the breaker is closed after it. -/
def recordSuccess (b : Breaker) : (Bool × Change) × Breaker :=
  let b := { b with failures := 0 }
  match b.position with
  | .closed => ((true, ⟨false, false⟩), b)
  | .opened =>
    if b.successes + 1 ≥ b.config.successThreshold then
      ((true, ⟨false, true⟩), { b with position := .closed, successes := 0 })
    else ((false, ⟨false, false⟩), { b with successes := b.successes + 1 })

def reset (b : Breaker) : Breaker := new b.config

section Calls

variable {b : Breaker} {now : Int}

theorem allow_closed (h : b.position = .closed) : b.allow now = (true, b) := by
  simp [allow, h]

theorem allow_opened (h : b.position = .opened) :
    b.allow now = if Clock.between now b.lastProbe < b.config.cooldown then (false, b)
      else (true, { b with lastProbe := now }) := by
  simp [allow, h]

theorem allow_refused (h : (b.allow now).1 = false) : b.allow now = (false, b) := by
  cases hp : b.position with
  | closed => rw [allow_closed hp] at h; cases h
  | opened =>
    rw [allow_opened hp] at h ⊢
    split at h
    · rename_i hwait
      rw [if_pos hwait]
    · cases h

theorem allow_granted (hp : b.position = .opened) (h : (b.allow now).1 = true) :
    (b.allow now).2 = { b with lastProbe := now } := by
  rw [allow_opened hp] at h ⊢
  split at h
  · cases h
  · rename_i hwait
    rw [if_neg hwait]

theorem allow_snd (b : Breaker) (now : Int) :
    (b.allow now).2 = { b with lastProbe := (b.allow now).2.lastProbe } := by
  unfold allow
  split
  · rfl
  · split <;> rfl

@[simp] theorem allow_config (b : Breaker) (now : Int) : (b.allow now).2.config = b.config := by
  rw [allow_snd]

@[simp] theorem allow_position (b : Breaker) (now : Int) :
    (b.allow now).2.position = b.position := by
  rw [allow_snd]

@[simp] theorem allow_failures (b : Breaker) (now : Int) :
    (b.allow now).2.failures = b.failures := by
  rw [allow_snd]

@[simp] theorem allow_successes (b : Breaker) (now : Int) :
    (b.allow now).2.successes = b.successes := by
  rw [allow_snd]

theorem recordFailure_closed (h : b.position = .closed) :
    b.recordFailure now =
      if b.failures + 1 ≥ b.config.failureThreshold then
        ((true, ⟨true, false⟩),
          { b with position := .opened, failures := 0, successes := 0, lastProbe := now })
      else ((false, ⟨false, false⟩), { b with failures := b.failures + 1, successes := 0 }) := by
  simp [recordFailure, h]

theorem recordFailure_opened (h : b.position = .opened) :
    b.recordFailure now = ((true, ⟨false, false⟩), { b with successes := 0 }) := by
  simp [recordFailure, h]

theorem recordSuccess_closed (h : b.position = .closed) :
    b.recordSuccess = ((true, ⟨false, false⟩), { b with failures := 0 }) := by
  simp [recordSuccess, h]

theorem recordSuccess_opened (h : b.position = .opened) :
    b.recordSuccess =
      if b.successes + 1 ≥ b.config.successThreshold then
        ((true, ⟨false, true⟩), { b with position := .closed, failures := 0, successes := 0 })
      else ((false, ⟨false, false⟩), { b with failures := 0, successes := b.successes + 1 }) := by
  simp [recordSuccess, h]

end Calls

end Breaker

end Vestibule
