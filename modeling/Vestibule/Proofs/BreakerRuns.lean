import Mathlib.Data.List.Induction
import Vestibule.Remote.Client

/-!
Runs of calls on a circuit breaker.

A breaker's counts are the lengths of the latest runs of like outcomes. Closed, it counts the
failures recorded in a row since its last reset and stays below the failure threshold; open, it
counts the successes in a row and stays below the success threshold. So a closed breaker opens on
the failure that completes a run as long as the failure threshold, an open one closes on the
success that completes a run as long as the success threshold, and those are the only calls that
report the change.

An open breaker lets a call through only once a cooldown has passed since it opened or since the
last call it let through, whichever came later, however the clock moves. With a clock that never
goes back, a call it lets through comes at least a cooldown after the opening and after every
other call it let through. A call it does not let through sends nothing.
-/

namespace Vestibule.Breaker

/-- One call made on a breaker, with the clock reading it is made at. -/
inductive Op where
  | allow (now : Int)
  | failure (now : Int)
  | success
  | reset
  deriving Repr, DecidableEq

/-- The breaker after a call. -/
def apply (b : Breaker) : Op → Breaker
  | .allow now => (b.allow now).2
  | .failure now => (b.recordFailure now).2
  | .success => b.recordSuccess.2
  | .reset => b.reset

def change (b : Breaker) : Op → Change
  | .failure now => (b.recordFailure now).1.2
  | .success => b.recordSuccess.1.2
  | _ => ⟨false, false⟩

def run (b : Breaker) (ops : List Op) : Breaker := ops.foldl apply b

theorem run_concat (b : Breaker) (ops : List Op) (op : Op) :
    b.run (ops ++ [op]) = (b.run ops).apply op := by
  simp [run]

@[simp] theorem apply_config (b : Breaker) (op : Op) : (b.apply op).config = b.config := by
  cases op with
  | allow now => rw [apply, allow_snd]
  | failure now => simp only [apply, recordFailure]; split <;> (try split) <;> rfl
  | success => simp only [apply, recordSuccess]; split <;> (try split) <;> rfl
  | reset => rfl

@[simp] theorem run_config (b : Breaker) (ops : List Op) : (b.run ops).config = b.config := by
  induction ops using List.reverseRecOn with
  | nil => rfl
  | append_singleton ops op ih => rw [run_concat, apply_config, ih]

/-! ### Runs of like outcomes -/

def Op.outcome? : Op → Option Bool
  | .failure _ => some true
  | .success => some false
  | _ => none

def recent (ops : List Op) : List Bool :=
  (ops.reverse.takeWhile (· != .reset)).filterMap Op.outcome?

def streak (x : Bool) (ops : List Op) : Nat := ((recent ops).takeWhile (· == x)).length

section Streak

variable (ops : List Op) (x : Bool) (now : Int)

@[simp] theorem streak_nil : streak x [] = 0 := rfl

@[simp] theorem streak_concat_reset : streak x (ops ++ [.reset]) = 0 := by
  simp [streak, recent]

@[simp] theorem streak_concat_allow : streak x (ops ++ [.allow now]) = streak x ops := by
  simp [streak, recent, Op.outcome?, List.filterMap_cons]

@[simp] theorem streak_concat_failure :
    streak x (ops ++ [.failure now]) = if x then streak x ops + 1 else 0 := by
  cases x <;> simp [streak, recent, Op.outcome?]

@[simp] theorem streak_concat_success :
    streak x (ops ++ [.success]) = if x then 0 else streak x ops + 1 := by
  cases x <;> simp [streak, recent, Op.outcome?]

end Streak

/-! ### The counts follow the runs -/

/-- The counts of a breaker agree with the calls made on it: closed, it holds no successes and
counts the latest failures in a row, fewer than its threshold; open, it holds no failures and
counts the latest successes in a row, fewer than its threshold. -/
structure Tracks (b : Breaker) (ops : List Op) : Prop where
  closed : b.position = .closed →
    b.successes = 0 ∧ b.failures = streak true ops ∧ b.failures < b.config.failureThreshold
  opened : b.position = .opened →
    b.failures = 0 ∧ b.successes = streak false ops ∧ b.successes < b.config.successThreshold

namespace Tracks

variable {b : Breaker} {ops : List Op}

theorem of_fresh (b : Breaker) (hb : b.position = .closed) (hf : b.failures = 0)
    (hs : b.successes = 0) (hpos : 1 ≤ b.config.failureThreshold) (h : streak true ops = 0) :
    Tracks b ops where
  closed _ := ⟨hs, by rw [hf, h], by omega⟩
  opened ho := by rw [hb] at ho; cases ho

theorem of_opened (b : Breaker) (hb : b.position = .opened) (hf : b.failures = 0)
    (hs : b.successes = 0) (hpos : 1 ≤ b.config.successThreshold) (h : streak false ops = 0) :
    Tracks b ops where
  closed hc := by rw [hb] at hc; cases hc
  opened _ := ⟨hf, by rw [hs, h], by omega⟩

variable (hf : 1 ≤ b.config.failureThreshold) (hs : 1 ≤ b.config.successThreshold)
include hf hs

theorem apply (h : Tracks b ops) (op : Op) : Tracks (b.apply op) (ops ++ [op]) := by
  cases op with
  | allow now =>
    rw [Breaker.apply]
    exact ⟨fun hc => by simpa using h.closed (by simpa using hc),
      fun ho => by simpa using h.opened (by simpa using ho)⟩
  | reset => exact of_fresh _ rfl rfl rfl hf (by simp)
  | failure now =>
    rw [Breaker.apply]
    cases hp : b.position with
    | closed =>
      obtain ⟨-, hcount, hlt⟩ := h.closed hp
      rw [recordFailure_closed hp]
      split
      · -- the failure that completes the run opens the breaker with fresh counts
        exact of_opened _ rfl rfl rfl hs (by simp)
      · refine ⟨fun _ => ⟨rfl, by simp [hcount], by dsimp only; omega⟩, fun ho => ?_⟩
        dsimp only at ho
        rw [hp] at ho
        cases ho
    | opened =>
      obtain ⟨hzero, -, -⟩ := h.opened hp
      rw [recordFailure_opened hp]
      exact of_opened _ hp hzero rfl hs (by simp)
  | success =>
    rw [Breaker.apply]
    cases hp : b.position with
    | closed =>
      obtain ⟨hzero, -, -⟩ := h.closed hp
      rw [recordSuccess_closed hp]
      exact of_fresh _ hp rfl hzero hf (by simp)
    | opened =>
      obtain ⟨-, hcount, hlt⟩ := h.opened hp
      rw [recordSuccess_opened hp]
      split
      · -- the success that completes the run closes the breaker with fresh counts
        exact of_fresh _ rfl rfl rfl hf (by simp)
      · refine ⟨fun hc => ?_, fun _ => ⟨rfl, by simp [hcount], by dsimp only; omega⟩⟩
        dsimp only at hc
        rw [hp] at hc
        cases hc

theorem run (h : Tracks b ops) (more : List Op) : Tracks (b.run more) (ops ++ more) := by
  induction more using List.reverseRecOn with
  | nil => simpa [Breaker.run] using h
  | append_singleton more op ih =>
    rw [run_concat, ← List.append_assoc]
    exact ih.apply (by simpa using hf) (by simpa using hs) op

end Tracks

theorem change_opened_iff (b : Breaker) (op : Op) :
    (b.change op).opened = true ↔ b.position = .closed ∧ (b.apply op).position = .opened := by
  cases op with
  | allow now => cases hp : b.position <;> simp [change, apply, hp]
  | reset => simp [change, apply, reset, new]
  | failure now =>
    cases hp : b.position with
    | closed => rw [change, apply, recordFailure_closed hp]; split <;> simp [hp]
    | opened => simp [change, apply, recordFailure_opened hp]
  | success =>
    cases hp : b.position with
    | closed => simp [change, apply, recordSuccess_closed hp, hp]
    | opened => rw [change, apply, recordSuccess_opened hp]; split <;> simp

theorem change_closed_iff (b : Breaker) (op : Op) :
    (b.change op).closed = true ↔
      op ≠ .reset ∧ b.position = .opened ∧ (b.apply op).position = .closed := by
  cases op with
  | allow now => cases hp : b.position <;> simp [change, apply, hp]
  | reset => simp [change]
  | failure now =>
    cases hp : b.position with
    | closed => rw [change, recordFailure_closed hp]; split <;> simp
    | opened => simp [change, apply, recordFailure_opened hp, hp]
  | success =>
    cases hp : b.position with
    | closed => simp [change, recordSuccess_closed hp]
    | opened => rw [change, apply, recordSuccess_opened hp]; split <;> simp [hp]

section Transitions

variable {b : Breaker} {ops : List Op} (h : Tracks b ops)
include h

theorem opens_iff (op : Op) :
    b.position = .closed ∧ (b.apply op).position = .opened ↔
      (∃ now, op = .failure now) ∧ b.position = .closed ∧
        streak true (ops ++ [op]) = b.config.failureThreshold := by
  cases op with
  | allow now => cases hp : b.position <;> simp [apply, hp]
  | reset => simp [apply, reset, new]
  | success =>
    cases hp : b.position with
    | closed => simp [apply, recordSuccess_closed hp, hp]
    | opened => simp
  | failure now =>
    cases hp : b.position with
    | opened => simp
    | closed =>
      obtain ⟨-, hcount, hlt⟩ := h.closed hp
      rw [apply, recordFailure_closed hp, streak_concat_failure, ← hcount]
      split <;> simp [hp] <;> omega

theorem closes_iff (op : Op) (hr : op ≠ .reset) :
    b.position = .opened ∧ (b.apply op).position = .closed ↔
      op = .success ∧ b.position = .opened ∧
        streak false (ops ++ [op]) = b.config.successThreshold := by
  cases op with
  | allow now => cases hp : b.position <;> simp [apply, hp]
  | reset => exact absurd rfl hr
  | failure now =>
    cases hp : b.position with
    | closed => simp
    | opened => simp [apply, recordFailure_opened hp, hp]
  | success =>
    cases hp : b.position with
    | closed => simp
    | opened =>
      obtain ⟨-, hcount, hlt⟩ := h.opened hp
      rw [apply, recordSuccess_opened hp, streak_concat_success, ← hcount]
      split <;> simp [hp] <;> omega

end Transitions

/-- Along every run of calls from a new breaker whose thresholds are at least one, after each
call: closed, the breaker holds no successes and counts the failures recorded in a row since the
last reset, fewer than the failure threshold; open, it holds no failures and counts the successes
in a row, fewer than the success threshold. The next call opens a closed breaker exactly when it
is the failure that completes a run as long as the failure threshold, and only that call reports
an opening; a recorded outcome closes an open breaker exactly when it is the success that
completes a run as long as the success threshold, and only that call reports a closing. -/
theorem counts_follow_consecutive_runs (cfg : Config) (hf : 1 ≤ cfg.failureThreshold)
    (hs : 1 ≤ cfg.successThreshold) (ops : List Op) :
    let b := (new cfg).run ops
    (b.position = .closed →
        b.successes = 0 ∧ b.failures = streak true ops ∧ b.failures < cfg.failureThreshold) ∧
      (b.position = .opened →
        b.failures = 0 ∧ b.successes = streak false ops ∧ b.successes < cfg.successThreshold) ∧
      ∀ op,
        ((b.change op).opened = true ↔ b.position = .closed ∧ (b.apply op).position = .opened) ∧
        (b.position = .closed ∧ (b.apply op).position = .opened ↔
          (∃ now, op = .failure now) ∧ b.position = .closed ∧
            streak true (ops ++ [op]) = cfg.failureThreshold) ∧
        ((b.change op).closed = true ↔
          op ≠ .reset ∧ b.position = .opened ∧ (b.apply op).position = .closed) ∧
        (op ≠ .reset → (b.position = .opened ∧ (b.apply op).position = .closed ↔
          op = .success ∧ b.position = .opened ∧
            streak false (ops ++ [op]) = cfg.successThreshold)) := by
  intro b
  have hfresh : Tracks (new cfg) [] := Tracks.of_fresh _ rfl rfl rfl hf rfl
  have h : Tracks b ops := by simpa using hfresh.run hf hs ops
  have hcfg : b.config = cfg := run_config _ _
  refine ⟨fun hc => hcfg ▸ h.closed hc, fun ho => hcfg ▸ h.opened ho, fun op => ?_⟩
  refine ⟨change_opened_iff b op, ?_, change_closed_iff b op, fun hr => ?_⟩
  · rw [← hcfg]
    exact opens_iff h op
  · rw [← hcfg]
    exact closes_iff h op hr

/-- The standard tuning has thresholds of at least one, so its runs follow the runs of outcomes:
five failures in a row open it, and the fifth reports the opening. -/
theorem standard_counts_follow_consecutive_runs :
    1 ≤ (Config.standard "remote-api").failureThreshold ∧
      1 ≤ (Config.standard "remote-api").successThreshold ∧
      ((new (Config.standard "remote-api")).run
          [.failure 1, .failure 2, .failure 3, .failure 4]).position = .closed ∧
      (((new (Config.standard "remote-api")).run
          [.failure 1, .failure 2, .failure 3, .failure 4]).change (.failure 5)).opened = true ∧
      ((new (Config.standard "remote-api")).run
          [.failure 1, .failure 2, .failure 3, .failure 4]).failures =
        streak true [.failure 1, .failure 2, .failure 3, .failure 4] :=
  have h := counts_follow_consecutive_runs (Config.standard "remote-api") (by decide) (by decide)
    [.failure 1, .failure 2, .failure 3, .failure 4]
  ⟨by decide, by decide, by decide, by decide, (h.1 (by decide)).2.1⟩

/-! ### Probes of an open breaker -/

def Op.reading : Op → Option Int
  | .allow now => some now
  | .failure now => some now
  | _ => none

/-- The clock reading from which a call makes an open breaker wait, when the call starts a wait:
the failure that opens the breaker, or a call let through while the breaker is open. -/
def waitFrom (b : Breaker) : Op → Option Int
  | .allow now => if b.position = .opened ∧ (b.allow now).1 = true then some now else none
  | .failure now => if (b.recordFailure now).1.2.opened = true then some now else none
  | _ => none

section Waits

variable {b : Breaker} {op : Op} {t : Int}

theorem reading_of_waitFrom (h : b.waitFrom op = some t) : op.reading = some t := by
  cases op with
  | allow now => simp only [waitFrom] at h; split at h <;> simp_all [Op.reading]
  | failure now => simp only [waitFrom] at h; split at h <;> simp_all [Op.reading]
  | success => cases h
  | reset => cases h

theorem cooldown_le_of_allow (ho : b.position = .opened) (h : (b.allow t).1 = true) :
    b.config.cooldown ≤ Clock.between t b.lastProbe := by
  rw [allow_opened ho] at h
  split at h
  · cases h
  · omega

theorem apply_of_waitFrom (h : b.waitFrom op = some t) :
    (b.apply op).position = .opened ∧ (b.apply op).lastProbe = t := by
  cases op with
  | allow now =>
    simp only [waitFrom] at h
    split at h
    · rename_i hlet
      obtain ⟨ho, hlet⟩ := hlet
      cases h
      rw [apply, allow_granted ho hlet]
      exact ⟨ho, rfl⟩
    · cases h
  | failure now =>
    simp only [waitFrom] at h
    split at h
    · rename_i hopen
      cases h
      cases hp : b.position with
      | opened => rw [recordFailure_opened hp] at hopen; cases hopen
      | closed =>
        rw [recordFailure_closed hp] at hopen
        rw [apply, recordFailure_closed hp]
        split at hopen
        · rename_i hrun
          rw [if_pos hrun]
          exact ⟨rfl, rfl⟩
        · cases hopen
    · cases h
  | success => cases h
  | reset => cases h

theorem apply_of_waitFrom_none (h : b.waitFrom op = none) (ho : (b.apply op).position = .opened) :
    b.position = .opened ∧ (b.apply op).lastProbe = b.lastProbe := by
  cases op with
  | allow now =>
    have hb : b.position = .opened := by simpa [apply] using ho
    refine ⟨hb, ?_⟩
    -- a call refused leaves the breaker as it was
    have hlet : (b.allow now).1 = false := by simpa [waitFrom, hb] using h
    rw [apply, allow_refused hlet]
  | failure now =>
    cases hp : b.position with
    | opened =>
      rw [apply, recordFailure_opened hp]
      exact ⟨rfl, rfl⟩
    | closed =>
      -- a failure on a closed breaker either opens it, and starts a wait, or keeps it closed
      rw [apply, recordFailure_closed hp] at ho
      simp only [waitFrom, recordFailure_closed hp] at h
      split at ho
      · rename_i hrun
        simp [hrun] at h
      · simp [hp] at ho
  | success =>
    cases hp : b.position with
    | closed => simp [apply, recordSuccess_closed hp, hp] at ho
    | opened =>
      rw [apply, recordSuccess_opened hp] at ho ⊢
      split
      · rename_i hrun
        rw [if_pos hrun] at ho
        cases ho
      · exact ⟨rfl, rfl⟩
  | reset => cases ho

end Waits

theorem cooldown_le_of_run_allow {cfg : Config} {ops : List Op} {t : Int}
    (ho : ((new cfg).run ops).position = .opened) (h : (((new cfg).run ops).allow t).1 = true) :
    cfg.cooldown ≤ Clock.between t ((new cfg).run ops).lastProbe := by
  have hwait := cooldown_le_of_allow ho h
  rwa [run_config] at hwait

theorem lastProbe_latest_wait (cfg : Config) (ops : List Op)
    (h : ((new cfg).run ops).position = .opened) :
    ∃ pre e post t0, ops = pre ++ e :: post ∧ ((new cfg).run pre).waitFrom e = some t0 ∧
      (∀ ys y, ys ++ [y] <+: post → ((new cfg).run (pre ++ e :: ys)).waitFrom y = none) ∧
      ((new cfg).run ops).lastProbe = t0 := by
  induction ops using List.reverseRecOn with
  | nil => cases h
  | append_singleton ops op ih =>
    rw [run_concat] at h ⊢
    rcases hw : ((new cfg).run ops).waitFrom op with _ | t0
    · -- the call starts no wait: the latest wait is the one before it
      obtain ⟨hb, hl⟩ := apply_of_waitFrom_none hw h
      obtain ⟨pre, e, post, t0, rfl, he, hpost, hlp⟩ := ih hb
      refine ⟨pre, e, post ++ [op], t0, by simp, he, fun ys y hys => ?_, hl.trans hlp⟩
      rcases List.prefix_concat_iff.mp hys with heq | hys
      · obtain ⟨rfl, hy⟩ := List.append_inj' heq rfl
        obtain rfl := List.singleton_inj.mp hy
        exact hw
      · exact hpost ys y hys
    · -- the call starts a wait, and is the latest to do so
      refine ⟨ops, op, [], t0, rfl, hw, fun ys y hys => ?_, (apply_of_waitFrom hw).2⟩
      simp at hys

theorem waitFrom_le_lastProbe (cfg : Config) (pre : List Op) (e : Op) (t0 : Int)
    (he : ((new cfg).run pre).waitFrom e = some t0) (mid : List Op)
    (hclock : ((pre ++ e :: mid).filterMap Op.reading).Pairwise (· ≤ ·))
    (hopen : ((new cfg).run (pre ++ e :: mid)).position = .opened) :
    t0 ≤ ((new cfg).run (pre ++ e :: mid)).lastProbe := by
  induction mid using List.reverseRecOn with
  | nil =>
    rw [run_concat]
    exact Int.le_of_eq (apply_of_waitFrom he).2.symm
  | append_singleton mid op ih =>
    have hsplit : pre ++ e :: (mid ++ [op]) = (pre ++ e :: mid) ++ [op] := by simp
    rw [hsplit, List.filterMap_append, List.pairwise_append] at hclock
    rw [hsplit, run_concat] at hopen ⊢
    rcases hw : ((new cfg).run (pre ++ e :: mid)).waitFrom op with _ | t1
    · obtain ⟨hb, hl⟩ := apply_of_waitFrom_none hw hopen
      rw [hl]
      exact ih hclock.1 hb
    · -- the new wait starts at a reading no earlier than that of `e`
      rw [(apply_of_waitFrom hw).2]
      have h0 : t0 ∈ (pre ++ e :: mid).filterMap Op.reading :=
        List.mem_filterMap.mpr ⟨e, by simp, reading_of_waitFrom he⟩
      exact hclock.2.2 t0 h0 t1 (by simp [reading_of_waitFrom hw])

theorem call_refused_sends_nothing {σ α : Type} (c : Remote.Client) (env : Remote.Env (StateM σ))
    (ep : Remote.Endpoint) (read : List UInt8 → Except String α) (b : Breaker) (w : σ)
    (hb : c.breaker = some b) (hrefused : (b.allow (env.clock.run w).1).1 = false) :
    (c.call env ep read).run w =
      ((.error (.wrap (ep.method ++ " " ++ ep.path ++ ": circuit " ++ b.config.name ++ " open")
        (.kind .unavailable)), c), (env.clock.run w).2) := by
  have hkeep : b.allow (env.clock.run w).1 = (false, b) := allow_refused hrefused
  have hc : { c with breaker := some b } = c := by
    cases c
    cases hb
    rfl
  -- the clock is read first, and the refusal is answered from its reading alone
  have hrun : ∀ f : Int → StateM σ (Except Fault α × Remote.Client),
      (env.clock >>= f).run w = (f (env.clock.run w).1).run (env.clock.run w).2 := fun _ => rfl
  simp only [Remote.Client.call, hb]
  rw [hrun, hkeep]
  simp only [Bool.not_false, if_true, hc]
  rfl

/-- An open breaker lets a call through at reading `t` only when `t` is at least a cooldown, as
a span held within the 64-bit range, after the reading of the latest call that started a wait:
the later of the failure that opened it and the last call it let through since, however the
clock moved. With a clock that never goes back, a call let through while the breaker is open
comes at least a cooldown after the failure that opened it and after every call let through
while it was open. A call the breaker refuses sends nothing and fails as unavailable. -/
theorem open_breaker_admits_one_probe_per_cooldown (cfg : Config) :
    (∀ ops t, ((new cfg).run ops).position = .opened → (((new cfg).run ops).allow t).1 = true →
      ∃ pre e post t0, ops = pre ++ e :: post ∧ ((new cfg).run pre).waitFrom e = some t0 ∧
        (∀ ys y, ys ++ [y] <+: post → ((new cfg).run (pre ++ e :: ys)).waitFrom y = none) ∧
        cfg.cooldown ≤ Clock.between t t0) ∧
    (∀ pre e mid t0 t, ((pre ++ e :: mid).filterMap Op.reading ++ [t]).Pairwise (· ≤ ·) →
      ((new cfg).run pre).waitFrom e = some t0 →
      ((new cfg).run (pre ++ e :: mid)).position = .opened →
      (((new cfg).run (pre ++ e :: mid)).allow t).1 = true →
      t0 + cfg.cooldown ≤ t) ∧
    (∀ {σ α : Type} (c : Remote.Client) (env : Remote.Env (StateM σ)) (ep : Remote.Endpoint)
      (read : List UInt8 → Except String α) (b : Breaker) (w : σ),
      c.breaker = some b → (b.allow (env.clock.run w).1).1 = false →
      (c.call env ep read).run w =
        ((.error (.wrap (ep.method ++ " " ++ ep.path ++ ": circuit " ++ b.config.name ++ " open")
          (.kind .unavailable)), c), (env.clock.run w).2)) := by
  refine ⟨fun ops t hopen hlet => ?_, fun pre e mid t0 t hclock he hopen hlet => ?_,
    fun c env ep read b w hb hrefused => call_refused_sends_nothing c env ep read b w hb hrefused⟩
  · obtain ⟨pre, e, post, t0, hops, he, hpost, hlp⟩ := lastProbe_latest_wait cfg ops hopen
    refine ⟨pre, e, post, t0, hops, he, hpost, ?_⟩
    rw [← hlp]
    exact cooldown_le_of_run_allow hopen hlet
  · rw [List.pairwise_append] at hclock
    have hwait := cooldown_le_of_run_allow hopen hlet
    -- the last probe is the reading of a call of the run, so no later than `t`
    obtain ⟨pre', e', post', t1, hops, he', -, hlp⟩ := lastProbe_latest_wait cfg _ hopen
    have hmem : t1 ∈ (pre ++ e :: mid).filterMap Op.reading :=
      List.mem_filterMap.mpr ⟨e', by simp [hops], reading_of_waitFrom he'⟩
    have hle : ((new cfg).run (pre ++ e :: mid)).lastProbe ≤ t := by
      rw [hlp]
      exact hclock.2.2 t1 hmem t (List.mem_singleton_self t)
    have h0 := waitFrom_le_lastProbe cfg pre e t0 he mid hclock.1 hopen
    have hspan := Clock.between_le_sub hle
    omega

/-- Five failures open the standard breaker at reading 5, and a call five seconds later is let
through: its wait started at the opening. -/
theorem standard_probe_after_cooldown :
    ((new (Config.standard "remote-api")).run
        [.failure 1, .failure 2, .failure 3, .failure 4, .failure 5]).position = .opened ∧
      (((new (Config.standard "remote-api")).run
        [.failure 1, .failure 2, .failure 3, .failure 4, .failure 5]).allow 5000000005).1 = true ∧
      ∃ pre e post t0,
        [.failure 1, .failure 2, .failure 3, .failure 4, .failure 5] = pre ++ e :: post ∧
        ((new (Config.standard "remote-api")).run pre).waitFrom e = some t0 ∧
        (∀ ys y, ys ++ [y] <+: post →
          ((new (Config.standard "remote-api")).run (pre ++ e :: ys)).waitFrom y = none) ∧
        (Config.standard "remote-api").cooldown ≤ Clock.between 5000000005 t0 :=
  ⟨by decide, by decide,
    (open_breaker_admits_one_probe_per_cooldown (Config.standard "remote-api")).1 _ _
      (by decide) (by decide)⟩

end Vestibule.Breaker
