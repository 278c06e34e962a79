import Mathlib.Data.List.Induction
import Vestibule.Balance

/-!
The balance cache under interleaving.

Between the calls of its readers a cache can be marked stale, reset or read, a refresh can start
a fetch when the cache is stale, and the fetch in flight can land with whatever it fetched; at
most one fetch is in flight at a time. The two epochs a fetch notes when it starts decide what
its landing may do. As long as fewer than 2^64 markings and resets happen while any one fetch is
in flight: the value is never negative; a clean cache holds the value of the latest fetch that
committed, and that fetch started after the latest marking and the latest reset; a fetch that
started before a reset changes nothing when it lands; a failed fetch changes nothing, and its
caller gets the value held with the failure. A refresh runs its fetch exactly when the cache is
stale.
-/

namespace Vestibule.Balance

/-- What can happen to a cache between its readers. -/
inductive Event where
  | markDirty
  | reset
  | snapshot
  | start
  | land (got : Except Fault Int)

namespace Event

def bumps : Event → Bool
  | .markDirty | .reset => true
  | _ => false

def resets : Event → Bool
  | .reset => true
  | _ => false

def lands : Event → Bool
  | .land _ => true
  | _ => false

end Event

/-- A cache and the fetch in flight, if one is. -/
structure Machine where
  cache : Cache
  flight : Option Flight

def Machine.initial : Machine := ⟨Cache.initial, none⟩

/-- One event. A fetch starts only on a stale cache with nothing in flight, noting the epochs;
it lands as `Cache.land` says. -/
inductive Step : Machine → Event → Machine → Prop where
  | markDirty (c : Cache) (fl : Option Flight) : Step ⟨c, fl⟩ .markDirty ⟨c.markDirty, fl⟩
  | reset (c : Cache) (fl : Option Flight) : Step ⟨c, fl⟩ .reset ⟨c.reset, fl⟩
  | snapshot (m : Machine) : Step m .snapshot m
  | start (c : Cache) (f : Flight) (h : c.start = some f) : Step ⟨c, none⟩ .start ⟨c, some f⟩
  | land (c : Cache) (f : Flight) (got : Except Fault Int) :
      Step ⟨c, some f⟩ (.land got) ⟨(c.land f got).2.2, none⟩

/-- A run of events from `m`, the latest last. -/
inductive Run (m : Machine) : List Event → Machine → Prop where
  | nil : Run m [] m
  | snoc {evs : List Event} {e : Event} {m₁ m₂ : Machine} :
      Run m evs m₁ → Step m₁ e m₂ → Run m (evs ++ [e]) m₂

def Bounded (evs : List Event) : Prop :=
  ∀ pre mid post, evs = pre ++ .start :: (mid ++ post) → (∀ e ∈ mid, e.lands = false) →
    mid.countP Event.bumps < UInt64.size

theorem bounded_of_length_lt {evs : List Event} (h : evs.length < UInt64.size) : Bounded evs := by
  intro pre mid post hevs _
  have hle : mid.countP Event.bumps ≤ evs.length := by
    rw [hevs]
    simp only [List.length_append, List.length_cons]
    have := List.countP_le_length (p := Event.bumps) (l := mid)
    omega
  omega

theorem Bounded.of_concat {evs : List Event} {e : Event} (h : Bounded (evs ++ [e])) :
    Bounded evs := by
  intro pre mid post hevs hl
  exact h pre mid (post ++ [e]) (by simp [hevs]) hl

/-! ### What a fetch does -/

theorem start_eq_some {c : Cache} {f : Flight} (h : c.start = some f) :
    c.dirty = true ∧ f = ⟨c.dirtyEpoch, c.resetEpoch⟩ := by
  unfold Cache.start at h
  split at h
  · exact ⟨‹_›, (Option.some.inj h).symm⟩
  · cases h

section Landing

variable (c : Cache) (f : Flight)

theorem land_error (e : Fault) : c.land f (.error e) = (⟨c.value, some e⟩, .failed, c) := rfl

theorem land_negative {v : Int} (hv : v < 0) :
    c.land f (.ok v) = (⟨c.value, some (Cache.negative v)⟩, .failed, c) := by
  simp [Cache.land, hv]

theorem land_ok {v : Int} (hv : 0 ≤ v) :
    (c.land f (.ok v)).2.2 =
      if f.resetEpoch = c.resetEpoch then
        { c with value := v, dirty := if f.dirtyEpoch = c.dirtyEpoch then false else c.dirty }
      else c := by
  have hn : ¬ v < 0 := by omega
  by_cases hr : f.resetEpoch = c.resetEpoch
  · by_cases hd : f.dirtyEpoch = c.dirtyEpoch <;> simp [Cache.land, hn, hr, hd]
  · simp [Cache.land, hn, hr]

theorem land_value_nonneg (got : Except Fault Int) (h : 0 ≤ c.value) :
    0 ≤ (c.land f got).2.2.value := by
  rcases got with e | v
  · exact h
  by_cases hv : v < 0
  · rw [land_negative c f hv]
    exact h
  · rw [land_ok c f (by omega)]
    split
    · simp only
      omega
    · exact h

end Landing

/-! ### Runs -/

theorem eq_zero_of_add_ofNat {a : UInt64} {n : Nat} (h : a = a + UInt64.ofNat n)
    (hn : n < UInt64.size) : n = 0 := by
  have h0 : UInt64.ofNat n = 0 := by simpa using h.symm
  have h1 := congrArg UInt64.toNat h0
  simp only [UInt64.toNat_ofNat', Nat.reducePow, UInt64.toNat_zero] at h1
  have hsize : UInt64.size = 18446744073709551616 := rfl
  omega

theorem Run.value_nonneg {m m' : Machine} {evs : List Event} (h : Run m evs m')
    (h₀ : 0 ≤ m.cache.value) : 0 ≤ m'.cache.value := by
  induction h with
  | nil => exact h₀
  | snoc _ hstep ih =>
    cases hstep with
    | markDirty c fl => exact ih
    | reset c fl => exact Int.le_refl 0
    | snapshot => exact ih
    | start c f _ => exact ih
    | land c f got => exact land_value_nonneg c f got ih

theorem Run.in_flight {m m' : Machine} {mid : List Event} {f : Flight} (h : Run m mid m')
    (hf : m.flight = some f) (hl : ∀ e ∈ mid, e.lands = false) :
    m'.flight = some f ∧
      m'.cache.dirtyEpoch = m.cache.dirtyEpoch + UInt64.ofNat (mid.countP Event.bumps) ∧
      m'.cache.resetEpoch = m.cache.resetEpoch + UInt64.ofNat (mid.countP Event.resets) ∧
      (mid.countP Event.bumps = 0 → m'.cache = m.cache) ∧
      (mid.countP Event.bumps ≠ 0 → m'.cache.dirty = true) := by
  induction h with
  | nil => simp [hf]
  | @snoc evs e m₁ m₂ hrun hstep ih =>
    obtain ⟨hf₁, hd, hr, hsame, hstale⟩ := ih fun e he => hl e (by simp [he])
    cases hstep with
    | markDirty c fl =>
      dsimp only at hd hr
      refine ⟨hf₁, ?_, by simpa [Event.resets, Cache.markDirty] using hr, by simp [Event.bumps],
        fun _ => rfl⟩
      simp [Event.bumps, Cache.markDirty, hd, UInt64.ofNat_add, UInt64.add_assoc]
    | reset c fl =>
      dsimp only at hd hr
      refine ⟨hf₁, ?_, ?_, by simp [Event.bumps], fun _ => rfl⟩
      · simp [Event.bumps, Cache.reset, hd, UInt64.ofNat_add, UInt64.add_assoc]
      · simp [Event.resets, Cache.reset, hr, UInt64.ofNat_add, UInt64.add_assoc]
    | snapshot =>
      exact ⟨hf₁, by simpa [Event.bumps] using hd, by simpa [Event.resets] using hr,
        fun h0 => hsame (by simpa [Event.bumps] using h0),
        fun h0 => hstale (by simpa [Event.bumps] using h0)⟩
    | start c f' _ => cases hf₁
    | land c f' got => exact absurd (hl (.land got) (by simp)) (by simp [Event.lands])

theorem Run.flight_started {m m' : Machine} {evs : List Event} {f : Flight} (h : Run m evs m')
    (h₀ : m.flight = none) (hf : m'.flight = some f) :
    ∃ pre mid c₀, evs = pre ++ .start :: mid ∧ Run m pre ⟨c₀, none⟩ ∧ c₀.start = some f ∧
      Run ⟨c₀, some f⟩ mid m' ∧ ∀ e ∈ mid, e.lands = false := by
  induction h with
  | nil => rw [h₀] at hf; cases hf
  | @snoc evs e m₁ m₂ hrun hstep ih =>
    -- an event other than a start or a landing keeps the flight: it started before
    have keep (hf₁ : m₁.flight = some f) (hs : Step m₁ e m₂) (he : e.lands = false) :
        ∃ pre mid c₀, evs ++ [e] = pre ++ .start :: mid ∧ Run m pre ⟨c₀, none⟩ ∧
          c₀.start = some f ∧ Run ⟨c₀, some f⟩ mid m₂ ∧ ∀ e ∈ mid, e.lands = false := by
      obtain ⟨pre, mid, c₀, rfl, hpre, hc₀, hmid, hl⟩ := ih hf₁
      refine ⟨pre, mid ++ [e], c₀, by simp, hpre, hc₀, .snoc hmid hs, fun x hx => ?_⟩
      rcases List.mem_append.mp hx with hx | hx
      · exact hl x hx
      · rw [List.mem_singleton.mp hx]
        exact he
    cases hstep with
    | markDirty c fl => exact keep hf (.markDirty c fl) rfl
    | reset c fl => exact keep hf (.reset c fl) rfl
    | snapshot => exact keep hf (.snapshot _) rfl
    | start c f' hstart =>
      cases hf
      exact ⟨evs, [], c, rfl, hrun, hstart, .nil, by simp⟩
    | land c f' got => cases hf

/-! ### A clean cache -/

/-- The latest fetch that landed with a value that is not negative landed `v` and started after
every marking and every reset: nothing landed while it was in flight, no marking or reset came
after its start, and every fetch that landed after it failed. -/
def LastCommit (evs : List Event) (v : Int) : Prop :=
  ∃ pre mid post, evs = pre ++ .start :: (mid ++ .land (.ok v) :: post) ∧ 0 ≤ v ∧
    (∀ e ∈ mid, e.lands = false) ∧ (∀ e ∈ mid ++ post, e.bumps = false) ∧
    ∀ x, Event.land (.ok x) ∈ post → x < 0

theorem LastCommit.concat {evs : List Event} {v : Int} (h : LastCommit evs v) {e : Event}
    (hb : e.bumps = false) (hl : ∀ x, e = .land (.ok x) → x < 0) : LastCommit (evs ++ [e]) v := by
  obtain ⟨pre, mid, post, rfl, hv, hmid, hquiet, hfail⟩ := h
  refine ⟨pre, mid, post ++ [e], by simp, hv, hmid, fun x hx => ?_, fun x hx => ?_⟩
  · rcases List.mem_append.mp hx with hx | hx
    · exact hquiet x (List.mem_append_left _ hx)
    rcases List.mem_append.mp hx with hx | hx
    · exact hquiet x (List.mem_append_right _ hx)
    · rw [List.mem_singleton.mp hx]
      exact hb
  · rcases List.mem_append.mp hx with hx | hx
    · exact hfail x hx
    · exact hl x (List.mem_singleton.mp hx).symm

theorem LastCommit.land {pre mid : List Event} {c₀ c : Cache} {f : Flight}
    (hrun : Run ⟨c₀, some f⟩ mid ⟨c, some f⟩) (hc₀ : c₀.start = some f)
    (hl : ∀ e ∈ mid, e.lands = false) (hb : mid.countP Event.bumps < UInt64.size)
    (got : Except Fault Int) (hclean : (c.land f got).2.2.dirty = false)
    (hprev : c.dirty = false → LastCommit (pre ++ .start :: mid) c.value) :
    LastCommit (pre ++ .start :: mid ++ [.land got]) (c.land f got).2.2.value := by
  obtain ⟨-, hd, -, hsame, hstale⟩ := hrun.in_flight rfl hl
  dsimp only at hd hsame hstale
  have hf := (start_eq_some hc₀).2
  -- a landing that leaves the cache as it was keeps the earlier account
  have kept (heq : (c.land f got).2.2 = c) (hfail : ∀ x, got = .ok x → x < 0) :
      LastCommit (pre ++ .start :: mid ++ [.land got]) (c.land f got).2.2.value := by
    rw [heq] at hclean ⊢
    exact (hprev hclean).concat rfl fun x hx => hfail x (by cases hx; rfl)
  rcases got with e | v
  · exact kept rfl fun x hx => by cases hx
  by_cases hv : v < 0
  · exact kept (by rw [land_negative c f hv]) fun x hx => by cases hx; exact hv
  have hv' : 0 ≤ v := by omega
  rw [land_ok c f hv'] at hclean ⊢
  by_cases hres : f.resetEpoch = c.resetEpoch
  · rw [if_pos hres] at hclean ⊢
    by_cases hdirty : f.dirtyEpoch = c.dirtyEpoch
    · -- the epochs agree: no marking or reset happened in flight, and this fetch is the latest
      have hzero : mid.countP Event.bumps = 0 := by
        rw [hd, hf] at hdirty
        exact eq_zero_of_add_ofNat hdirty hb
      refine ⟨pre, mid, [], by simp, hv', hl, fun x hx => ?_, by simp⟩
      rw [List.append_nil] at hx
      have hquiet := List.countP_eq_zero.mp hzero x hx
      simpa using hquiet
    · -- a marking or reset happened in flight, so the cache stayed stale
      have hbump : mid.countP Event.bumps ≠ 0 := fun h0 => hdirty (by rw [hsame h0, hf])
      simp [hdirty, hstale hbump] at hclean
  · -- a reset happened in flight: the value is discarded, and the cache is stale
    have hbump : mid.countP Event.bumps ≠ 0 := fun h0 => hres (by rw [hsame h0, hf])
    rw [if_neg hres] at hclean
    rw [hstale hbump] at hclean
    cases hclean

theorem Run.lastCommit {evs : List Event} {m : Machine} (h : Run Machine.initial evs m)
    (hb : Bounded evs) (hclean : m.cache.dirty = false) : LastCommit evs m.cache.value := by
  induction h with
  | nil => cases hclean
  | @snoc evs e m₁ m₂ hrun hstep ih =>
    have ih' := ih hb.of_concat
    cases hstep with
    | markDirty c fl => cases hclean
    | reset c fl => cases hclean
    | snapshot => exact (ih' hclean).concat rfl fun x hx => by cases hx
    | start c f hstart =>
      -- only a stale cache starts a fetch
      rw [(start_eq_some hstart).1] at hclean
      cases hclean
    | land c f got =>
      obtain ⟨pre, mid, c₀, rfl, -, hc₀, hmid, hl⟩ := hrun.flight_started rfl rfl
      have hbound := hb pre mid [.land got] (by simp) hl
      simpa using LastCommit.land hmid hc₀ hl hbound got hclean ih'

/-! ### A fetch across a reset -/

theorem land_after_reset_keeps {m₁ m₂ m₃ m₄ : Machine} {mid : List Event} {got : Except Fault Int}
    (hstart : Step m₁ .start m₂) (hrun : Run m₂ mid m₃) (hl : ∀ e ∈ mid, e.lands = false)
    (hreset : Event.reset ∈ mid) (hb : mid.countP Event.bumps < UInt64.size)
    (hland : Step m₃ (.land got) m₄) : m₄.cache = m₃.cache := by
  cases hstart with
  | start c f hc =>
    obtain ⟨hf, -, hr, -, -⟩ := hrun.in_flight rfl hl
    cases hland with
    | land c₃ f₃ got =>
      cases hf
      -- the reset epoch moved, by fewer than 2^64
      have hpos : 0 < mid.countP Event.resets := List.countP_pos_iff.mpr ⟨_, hreset, rfl⟩
      have hle : mid.countP Event.resets ≤ mid.countP Event.bumps :=
        List.countP_mono_left fun e _ he => by cases e <;> simp_all [Event.resets, Event.bumps]
      have hmoved : f.resetEpoch ≠ c₃.resetEpoch := by
        rw [hr, (start_eq_some hc).2]
        intro heq
        have h0 := eq_zero_of_add_ofNat heq (by omega)
        omega
      show (c₃.land f got).2.2 = c₃
      rcases got with e | v
      · rfl
      by_cases hv : v < 0
      · rw [land_negative c₃ f hv]
      · rw [land_ok c₃ f (by omega), if_neg hmoved]

/-! ### A refresh -/

theorem refresh_fetches_iff_stale (c : Cache) (fetch : Cache → Except Fault Int × Cache)
    (hkeep : (fetch c).2 = c) :
    (c.refresh fetch).2.1.isSome = c.snapshot.needsRefresh ∧
      (c.snapshot.needsRefresh = false → c.refresh fetch = (⟨c.value, none⟩, none, c)) ∧
      (c.snapshot.needsRefresh = true → ∀ v, (fetch c).1 = .ok v → 0 ≤ v →
        (c.refresh fetch).1.value = v ∧ (c.refresh fetch).2.2.snapshot = ⟨v, false⟩) := by
  unfold Cache.refresh Cache.start
  cases hd : c.dirty
  · simp [Cache.snapshot, hd]
  · refine ⟨by simp [Cache.snapshot, hd], by simp [Cache.snapshot, hd], fun _ v hv hpos => ?_⟩
    simp only [if_true]
    rcases hfetch : fetch c with ⟨got, c₁⟩
    rw [hfetch] at hkeep hv
    dsimp only at hkeep hv
    subst hkeep hv
    have hn : ¬ v < 0 := by omega
    simp [Cache.land, Cache.snapshot, hn]

/-- The balance cache under any interleaving of markings, resets, reads, the start of a fetch on
a stale cache and the landing of the fetch in flight with any value or failure: the value is
never negative; when fewer than 2^64 markings and resets happen while any one fetch is in
flight, a clean cache holds the value of the latest fetch that committed, which started after
the latest marking and the latest reset; a fetch that started before a reset, with fewer than
2^64 markings and resets while in flight, changes nothing when it lands; a fetch that fails,
with a failure or a negative value, changes nothing, and its caller gets the value held with the
failure. A refresh during which nothing marks or resets the cache runs its fetch exactly when
the cache needs a refresh. -/
theorem epochs_guard_landings :
    (∀ evs m, Run Machine.initial evs m → 0 ≤ m.cache.value) ∧
    (∀ evs m, Run Machine.initial evs m → Bounded evs → m.cache.dirty = false →
      LastCommit evs m.cache.value) ∧
    (∀ m₁ m₂ mid m₃ got m₄, Step m₁ .start m₂ → Run m₂ mid m₃ → (∀ e ∈ mid, e.lands = false) →
      Event.reset ∈ mid → mid.countP Event.bumps < UInt64.size → Step m₃ (.land got) m₄ →
      m₄.cache = m₃.cache) ∧
    (∀ c f e, Cache.land c f (.error e) = (⟨c.value, some e⟩, .failed, c)) ∧
    (∀ c f v, v < 0 → Cache.land c f (.ok v) = (⟨c.value, some (Cache.negative v)⟩, .failed, c)) ∧
    (∀ c fetch, (fetch c).2 = c →
      (Cache.refresh c fetch).2.1.isSome = c.snapshot.needsRefresh ∧
      (c.snapshot.needsRefresh = false → Cache.refresh c fetch = (⟨c.value, none⟩, none, c)) ∧
      (c.snapshot.needsRefresh = true → ∀ v, (fetch c).1 = .ok v → 0 ≤ v →
        (Cache.refresh c fetch).1.value = v ∧ (Cache.refresh c fetch).2.2.snapshot = ⟨v, false⟩)) :=
  ⟨fun _ _ h => h.value_nonneg (Int.le_refl 0), fun _ _ h hb hclean => h.lastCommit hb hclean,
    fun _ _ _ _ _ _ hs hr hl hreset hb hland => land_after_reset_keeps hs hr hl hreset hb hland,
    land_error, fun c f _ hv => land_negative c f hv,
    fun c fetch hkeep => refresh_fetches_iff_stale c fetch hkeep⟩

/-- A new cache that fetches 7 is clean and holds 7, the value of its one commit. -/
theorem fetched_seven_is_last_commit :
    Run Machine.initial [.start, .land (.ok 7)] ⟨⟨7, false, 0, 0⟩, none⟩ ∧
      Bounded [.start, .land (.ok 7)] ∧ LastCommit [.start, .land (.ok 7)] 7 :=
  have hrun : Run Machine.initial [.start, .land (.ok 7)] ⟨⟨7, false, 0, 0⟩, none⟩ :=
    @Run.snoc _ [.start] (.land (.ok 7)) _ _
      (@Run.snoc _ [] .start _ _ .nil (.start _ _ rfl)) (.land _ _ _)
  have hb : Bounded [.start, .land (.ok 7)] := bounded_of_length_lt (by decide)
  ⟨hrun, hb, epochs_guard_landings.2.1 _ _ hrun hb rfl⟩

end Vestibule.Balance
