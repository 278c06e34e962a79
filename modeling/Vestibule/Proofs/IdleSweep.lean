import Mathlib.Data.List.Basic
import Vestibule.Proofs.SessionIsolation

/-!
Idle browser sessions are swept away, and only those.

A sweep at time `t` removes the sessions last seen strictly before the cutoff, `t` moved back by
the ttl, closes their callback pages and counts them; every other session stays where it was,
found under its id as before, and the service shows the count of those left. A session is last
seen at the time of its latest request: a request served by a session puts it back stamped with
the time the request was received at, whatever its handler did and whatever breaker it borrowed. So
when requests and sweeps read a clock that never goes back, the session that served a request at
time `r` outlives every sweep whose cutoff is at or before `r`, along any run of requests and
sweeps.
-/

namespace Vestibule.Registry

section Sweep

variable (r : Registry) (now : Int)

@[simp] theorem sessions_sweep :
    (r.sweep now).2.sessions = r.sessions.filter fun s => !r.isStale now s := rfl

theorem sweep_fst : (r.sweep now).1 = (r.sessions.filter (r.isStale now)).length := by
  simp [sweep, expire]

theorem sweep_fst_add_size : (r.sweep now).1 + (r.sweep now).2.size = r.size := by
  rw [sweep_fst, size, size, sessions_sweep]
  exact (List.length_eq_length_filter_add _).symm

theorem find?_sweep {id : String} {s : Session} (h : r.find? id = some s)
    (hs : r.isStale now s = false) : (r.sweep now).2.find? id = some s := by
  unfold find? at h ⊢
  split at h
  · cases h
  · rename_i hne
    rw [if_neg hne, sessions_sweep, List.find?_filter]
    -- the sessions before `s` have other ids, so the fresh ones among them are passed over too
    obtain ⟨hid, as, bs, hl, has⟩ := List.find?_eq_some_iff_append.mp h
    refine List.find?_eq_some_iff_append.mpr ⟨by simp [hs, hid], as, bs, hl, fun a ha => ?_⟩
    have hother : (a.id == id) = false := by simpa using has a ha
    simp [hother]

/-- At time 100 with a span of 60 the cutoff is 40: the session last seen then stays, and the one
seen just before goes. -/
example :
    let client := Remote.Client.new "" none
    let reg : Registry := ⟨[Session.new "a" "" 40 client .standard "/chat",
      Session.new "b" "" 39 client .standard "/chat"], 60⟩
    (reg.sweep 100).2.sessions.map (·.id) = ["a"] := by
  decide

end Sweep

section Update

variable {r : Registry} {s v : Session}

theorem mem_update_of_id (h : ∃ u ∈ r.sessions, u.id = s.id) :
    s ∈ (r.update s).sessions ∧ ∀ v ∈ (r.update s).sessions, v.id = s.id → v = s := by
  obtain ⟨u, hu, hus⟩ := h
  refine ⟨List.mem_map.mpr ⟨u, hu, by simp [hus]⟩, fun v hv hvs => ?_⟩
  obtain ⟨o, -, rfl⟩ := List.mem_map.mp hv
  split_ifs at hvs ⊢ with hos
  · rfl
  · exact absurd (by simpa using hvs) hos

theorem mem_update_of_ne (hv : v.id ≠ s.id) : v ∈ (r.update s).sessions ↔ v ∈ r.sessions := by
  constructor
  · intro hmem
    obtain ⟨o, ho, rfl⟩ := List.mem_map.mp hmem
    split_ifs at hv ⊢
    · exact absurd rfl hv
    · exact ho
  · intro hmem
    exact List.mem_map.mpr ⟨v, hmem, by simp [hv]⟩

end Update

end Vestibule.Registry

namespace Vestibule.Metrics

def Board.gauge (b : Board) (name : String) : Option Nat :=
  (List.find? (·.name == name) b).bind fun f => f.series.lookup []

theorem gauge_record_sessions (b : Board) (n : Nat)
    (h : List.any b (·.name == "parlor_browser_sessions") = true) :
    (b.record (.sessions n)).gauge "parlor_browser_sessions" = some n := by
  -- a board is its list of families
  change List Family at b
  obtain ⟨f, hf⟩ : ∃ f, List.find? (·.name == "parlor_browser_sessions") b = some f :=
    Option.isSome_iff_exists.mp (List.find?_isSome.mpr (List.any_eq_true.mp h))
  -- setting the count keeps every family's name, so the family is found where it was
  have hname : ((·.name == "parlor_browser_sessions") ∘
      fun g : Family => if (g.name == "parlor_browser_sessions") = true then g.put [] n else g) =
      (·.name == "parlor_browser_sessions") := by
    funext g
    simp only [Function.comp_apply]
    split <;> rfl
  show (List.find? (·.name == "parlor_browser_sessions") (List.map
      (fun g => if (g.name == "parlor_browser_sessions") = true then g.put [] n else g) b)).bind
      (fun f => f.series.lookup []) = some n
  have hfn : f.name = "parlor_browser_sessions" := by simpa using List.find?_some hf
  rw [List.find?_map, hname, hf]
  -- the count is put last, after every series under no labels is taken away
  have hgone : (f.series.filter (·.1 != [])).lookup [] = none :=
    List.lookup_eq_none_iff.mpr fun p hp => by
      have hne : p.1 ≠ [] := by simpa using (List.mem_filter.mp hp).2
      simpa using hne.symm
  simp [hfn, Family.put, List.lookup_append, hgone]

end Vestibule.Metrics

namespace Vestibule.Front

open Vestibule.Web

variable {σ : Type}

/-! ### What a sweep and a request do to the sessions -/

theorem exec_sweep (o : Outside (StateM σ)) (svc : Service) (w : σ) :
    exec (sweep o) svc w =
      let now := o.clock.run w
      let swept := svc.registry.sweep now.1
      let board := svc.board.record (.sessions swept.2.size)
      ((swept.1, { svc with registry := swept.2, board := board }), now.2) := rfl

theorem withSession_keeps_anchor {α : Type} {act : StateT Session (Serving (StateM σ)) α}
    (hact : SessionBlind act) (s : Session) (svc : Service) (w : σ) :
    anchor (exec (withSession s act) svc w).1.1.2 = anchor s ∧
      (exec (withSession s act) svc w).1.2.registry = svc.registry := by
  rw [exec_withSession_lent]
  have hs := hact { s with client := { s.client with breaker := svc.breaker } }
  obtain ⟨b, hb⟩ := hs.counts svc w
  refine ⟨(hs.post svc w).1, ?_⟩
  dsimp only
  rw [hb]

theorem dispatch_stamps (o : Outside (StateM σ)) (rid : String) (now : Int) (req : Request)
    (r : Route) (params : List (List UInt8)) (svc : Service) (w : σ)
    (h : r.action.usesSession = true) :
    let found := exec (sessionFor o req) svc w
    ∃ s, anchor s = (found.1.1.id, now) ∧
      (exec (dispatch o rid now req r params) svc w).1.2.registry = found.1.2.registry.update s := by
  rw [exec_dispatch_session o rid now req r params svc w h]
  dsimp only
  split
  · exact ⟨_, rfl, rfl⟩
  · obtain ⟨hanchor, hreg⟩ := withSession_keeps_anchor (answer_blind o rid req r.action params) _ _ _
    exact ⟨_, hanchor, by rw [hreg]⟩

/-- The sessions `reg` that looking up the session of a request leaves, from those of `r`, when
the session has id `x`: all of them and perhaps one more, opened under `x`, with a session under
`x` among them. -/
structure Looked (r : Registry) (x : String) (reg : Registry) : Prop where
  ttl : reg.ttl = r.ttl
  kept : ∀ u ∈ r.sessions, u ∈ reg.sessions
  opened : ∀ u ∈ reg.sessions, u ∈ r.sessions ∨ u.id = x
  held : ∃ u ∈ reg.sessions, u.id = x

theorem looked_sessionFor (o : Outside (StateM σ)) (req : Request) (svc : Service) (w : σ) :
    Looked svc.registry (exec (sessionFor o req) svc w).1.1.id
      (exec (sessionFor o req) svc w).1.2.registry := by
  rcases sessionFor_cases o req svc w with ⟨hfound, hsvc⟩ | ⟨-, -, -, -, -, hreg⟩
  · -- the cookie found the session among those of the service
    rw [hsvc]
    refine ⟨rfl, fun _ hu => hu, fun _ hu => .inl hu, _, ?_, rfl⟩
    obtain ⟨id, -, hfind⟩ := Option.bind_eq_some_iff.mp hfound
    unfold Registry.find? at hfind
    split at hfind
    · cases hfind
    · exact List.mem_of_find?_eq_some hfind
  · rw [hreg]
    refine ⟨rfl, fun _ hu => List.mem_append_left _ hu, fun u hu => ?_, _,
      List.mem_append_right _ (List.mem_singleton_self _), rfl⟩
    rcases List.mem_append.mp hu with hu | hu
    · exact .inl hu
    · exact .inr (by rw [List.mem_singleton.mp hu])

/-- The session a request is served by and the time it is stamped with: the session its cookie
finds, or the one opened for it, and the time the request was received at. A request outside the
session group is served by none. -/
def stamp (o : Outside (StateM σ)) (req : Request) (svc : Service) (w : σ) :
    Option (String × Int) :=
  match route (routes svc.settings.metricsServed) req.method (routedPath req) with
  | .found r _ =>
    if r.action.usesSession then
      let start := requestStart o req w
      some ((exec (sessionFor o req) svc start.2).1.1.id, start.1.2)
    else none
  | _ => none

theorem serve_stamped (o : Outside (StateM σ)) (req : Request) (svc : Service) (w : σ)
    {x : String} {t : Int} (h : stamp o req svc w = some (x, t)) :
    ∃ s reg, s.id = x ∧ s.lastSeen = t ∧ Looked svc.registry x reg ∧
      (exec (serve o req) svc w).1.2.registry = reg.update s := by
  unfold stamp at h
  split at h
  case h_2 => cases h
  case h_1 r params hr =>
    split at h
    case isFalse => cases h
    case isTrue hu =>
      simp only [Option.some.injEq, Prod.mk.injEq] at h
      obtain ⟨rfl, rfl⟩ := h
      obtain ⟨s, hs, hreg⟩ := dispatch_stamps o _ _ req r params svc (requestStart o req w).2 hu
      obtain ⟨hsx, hst⟩ := Prod.mk.inj hs
      rw [exec_serve_found o req svc w hr]
      exact ⟨s, _, hsx, hst, looked_sessionFor o req svc _, hreg⟩

theorem serve_unstamped (o : Outside (StateM σ)) (req : Request) (svc : Service) (w : σ)
    (h : stamp o req svc w = none) : (exec (serve o req) svc w).1.2.registry = svc.registry := by
  unfold stamp at h
  split at h
  case h_1 r params hr =>
    split at h
    case isTrue => cases h
    case isFalse hu =>
      rw [exec_serve_found o req svc w hr]
      dsimp only
      rw [(exec_dispatch_plain o _ _ req r params svc _ (by simpa using hu)).1]
  case h_2 hr =>
    obtain ⟨-, b, hb⟩ := exec_serve_unrouted o req svc w fun r params hf => hr r params hf
    rw [hb]

theorem serve_stamps (o : Outside (StateM σ)) (req : Request) (svc : Service) (w : σ)
    {x : String} {t : Int} (h : stamp o req svc w = some (x, t)) :
    (exec (serve o req) svc w).1.2.registry.ttl = svc.registry.ttl ∧
      ∃ s ∈ (exec (serve o req) svc w).1.2.registry.sessions, s.id = x ∧ s.lastSeen = t ∧
        ∀ u ∈ (exec (serve o req) svc w).1.2.registry.sessions, u.id = x → u = s := by
  obtain ⟨s, reg, rfl, rfl, hlook, hreg⟩ := serve_stamped o req svc w h
  obtain ⟨hmem, honly⟩ := Registry.mem_update_of_id hlook.held
  rw [hreg]
  exact ⟨hlook.ttl, s, hmem, rfl, rfl, honly⟩

/-! ### Runs of requests and sweeps -/

/-- What the service does next: serve a request, or sweep its sessions. -/
inductive Step where
  | request (req : Request)
  | sweep

def Step.run (o : Outside (StateM σ)) : Step → Service → σ → Service × σ
  | .request req, svc, w => ((exec (serve o req) svc w).1.2, (exec (serve o req) svc w).2)
  | .sweep, svc, w => ((exec (Front.sweep o) svc w).1.2, (exec (Front.sweep o) svc w).2)

/-- The time a step reads the clock at, if it reads one that matters: the time a request stamps
its session with, and the time a sweep sweeps at. -/
def Step.reading (o : Outside (StateM σ)) : Step → Service → σ → Option Int
  | .request req, svc, w => (stamp o req svc w).map Prod.snd
  | .sweep, _, w => some (o.clock.run w).1

def runSteps (o : Outside (StateM σ)) : List Step → Service → σ → Service × σ
  | [], svc, w => (svc, w)
  | st :: sts, svc, w => runSteps o sts (st.run o svc w).1 (st.run o svc w).2

def readings (o : Outside (StateM σ)) : List Step → Service → σ → List (Step × Int)
  | [], _, _ => []
  | st :: sts, svc, w =>
    ((st.reading o svc w).map (st, ·)).toList ++ readings o sts (st.run o svc w).1 (st.run o svc w).2

/-- The sessions hold one under `x`, every one they hold under `x` was last seen at `since` or
later, and they are swept with the span `ttl`. -/
structure SeenSince (x : String) (since ttl : Int) (r : Registry) : Prop where
  ttl : r.ttl = ttl
  held : ∃ s ∈ r.sessions, s.id = x
  recent : ∀ s ∈ r.sessions, s.id = x → since ≤ s.lastSeen

namespace SeenSince

variable {x : String} {since ttl : Int} {svc : Service}

theorem find? {r : Registry} (h : SeenSince x since ttl r) (hx : x ≠ "") :
    ∃ s, r.find? x = some s ∧ since ≤ s.lastSeen := by
  obtain ⟨u, hu, hux⟩ := h.held
  obtain ⟨s, hs⟩ : ∃ s, r.sessions.find? (·.id == x) = some s :=
    Option.isSome_iff_exists.mp (List.find?_isSome.mpr ⟨u, hu, by simp [hux]⟩)
  have hsx : s.id = x := by simpa using List.find?_some hs
  refine ⟨s, ?_, h.recent s (List.mem_of_find?_eq_some hs) hsx⟩
  unfold Registry.find?
  rw [if_neg (by simpa using hx), hs]

theorem of_stamp (o : Outside (StateM σ)) (req : Request) (w : σ) {t : Int}
    (h : stamp o req svc w = some (x, t)) :
    SeenSince x t svc.registry.ttl (exec (serve o req) svc w).1.2.registry := by
  obtain ⟨httl, s, hs, hsx, hst, honly⟩ := serve_stamps o req svc w h
  refine ⟨httl, ⟨s, hs, hsx⟩, fun u hu hux => ?_⟩
  rw [honly u hu hux]
  exact Int.le_of_eq hst.symm

theorem request (h : SeenSince x since ttl svc.registry) (o : Outside (StateM σ)) (req : Request)
    (w : σ) (hread : ∀ y t, stamp o req svc w = some (y, t) → since ≤ t) :
    SeenSince x since ttl (exec (serve o req) svc w).1.2.registry := by
  rcases hst : stamp o req svc w with _ | ⟨y, t⟩
  · rw [serve_unstamped o req svc w hst]
    exact h
  obtain ⟨s, reg, rfl, rfl, hlook, hreg⟩ := serve_stamped o req svc w hst
  have ht := hread s.id s.lastSeen hst
  rw [hreg]
  refine ⟨hlook.ttl.trans h.ttl, ?_, ?_⟩
  all_goals by_cases hsx : s.id = x
  · -- the request was served by the session under `x`: it is put back, last seen at `t`
    subst hsx
    exact ⟨s, (Registry.mem_update_of_id hlook.held).1, rfl⟩
  · obtain ⟨u, hu, hux⟩ := h.held
    refine ⟨u, (Registry.mem_update_of_ne ?_).mpr (hlook.kept u hu), hux⟩
    rw [hux]
    exact Ne.symm hsx
  · subst hsx
    intro v hv hvx
    rw [(Registry.mem_update_of_id hlook.held).2 v hv hvx]
    exact ht
  · -- another session was served; those under `x` are as they were
    intro v hv hvx
    have hvs : v.id ≠ s.id := by rw [hvx]; exact Ne.symm hsx
    rcases hlook.opened v ((Registry.mem_update_of_ne hvs).mp hv) with hold | hopened
    · exact h.recent v hold hvx
    · exact absurd hopened hvs

theorem sweep (h : SeenSince x since ttl svc.registry) (o : Outside (StateM σ)) (w : σ)
    (hcut : (o.clock.run w).1 + Clock.negate ttl ≤ since) :
    SeenSince x since ttl (exec (Front.sweep o) svc w).1.2.registry := by
  rw [exec_sweep]
  -- every session under `x` was seen at or after the cutoff, so none of them is idle
  have hfresh : ∀ u ∈ svc.registry.sessions, u.id = x →
      svc.registry.isStale (o.clock.run w).1 u = false := by
    intro u hu hux
    have hseen := h.recent u hu hux
    simp only [Registry.isStale, h.ttl, decide_eq_false_iff_not]
    omega
  refine ⟨h.ttl, ?_, fun u hu hux => h.recent u (List.mem_filter.mp hu).1 hux⟩
  obtain ⟨u, hu, hux⟩ := h.held
  exact ⟨u, List.mem_filter.mpr ⟨hu, by simp [hfresh u hu hux]⟩, hux⟩

theorem step (h : SeenSince x since ttl svc.registry) (o : Outside (StateM σ)) (st : Step) (w : σ)
    (hread : ∀ t ∈ st.reading o svc w, since ≤ t)
    (hsweep : ∀ t ∈ st.reading o svc w, st = .sweep → t + Clock.negate ttl ≤ since) :
    SeenSince x since ttl (st.run o svc w).1.registry := by
  cases st with
  | request req =>
    dsimp only [Step.run]
    exact h.request o req w fun y t hst => hread t (by simp [Step.reading, hst])
  | sweep =>
    dsimp only [Step.run]
    exact h.sweep o w (hsweep _ rfl rfl)

theorem run (o : Outside (StateM σ)) (sts : List Step) (h : SeenSince x since ttl svc.registry)
    (w : σ) (hread : ∀ p ∈ readings o sts svc w, since ≤ p.2)
    (hsweep : ∀ t, (Step.sweep, t) ∈ readings o sts svc w → t + Clock.negate ttl ≤ since) :
    SeenSince x since ttl (runSteps o sts svc w).1.registry := by
  induction sts generalizing svc w with
  | nil => exact h
  | cons st sts ih =>
    simp only [readings, List.mem_append] at hread hsweep
    refine ih (h.step o st w (fun t ht => ?_) fun t ht hst => ?_) _
      (fun p hp => hread p (.inr hp)) fun t ht => hsweep t (.inr ht)
    · exact hread (st, t) (.inl (by simp [Option.mem_def.mp ht]))
    · subst hst
      exact hsweep t (.inl (by simp [Option.mem_def.mp ht]))

end SeenSince

theorem runSteps_request (o : Outside (StateM σ)) (req : Request) (sts : List Step)
    (svc : Service) (w : σ) :
    runSteps o (.request req :: sts) svc w =
      runSteps o sts (exec (serve o req) svc w).1.2 (exec (serve o req) svc w).2 := by
  simp only [runSteps, Step.run]

theorem readings_request (o : Outside (StateM σ)) (req : Request) (sts : List Step)
    (svc : Service) (w : σ) {x : String} {t : Int} (h : stamp o req svc w = some (x, t)) :
    readings o (.request req :: sts) svc w =
      (.request req, t) ::
        readings o sts (exec (serve o req) svc w).1.2 (exec (serve o req) svc w).2 := by
  simp [readings, Step.reading, Step.run, h]

/-- The sweep removes exactly the idle sessions. At a clock reading `t`, sweeping any registry
removes the sessions last seen strictly before the cutoff, `t` moved back by the ttl, and keeps
the others in their order; it closes the callback page of each session it removes, counts them,
and leaves as many as it did not remove, each found under its id as before. The service sweeps at
the time its clock reads and sets the count of live sessions it shows to what is left. A request
served by a session puts it back last seen at the request's time, the only session under its id.
So along any run of requests and sweeps whose readings of the clock never go back, the session
that served a request at time `r` outlives every sweep whose cutoff is at or before `r`. -/
theorem sweep_removes_exactly_idle_sessions (o : Outside (StateM σ)) :
    (∀ (reg : Registry) (t : Int),
      (reg.sweep t).2.sessions =
        reg.sessions.filter (fun s => ¬ s.lastSeen < t + Clock.negate reg.ttl) ∧
      (reg.expire t).1 =
        (reg.sessions.filter fun s => s.lastSeen < t + Clock.negate reg.ttl).map Session.close ∧
      (∀ s ∈ (reg.expire t).1, s.mount = none) ∧
      (reg.sweep t).1 =
        (reg.sessions.filter fun s => s.lastSeen < t + Clock.negate reg.ttl).length ∧
      (reg.sweep t).1 + (reg.sweep t).2.size = reg.size ∧
      ∀ id s, reg.find? id = some s → ¬ s.lastSeen < t + Clock.negate reg.ttl →
        (reg.sweep t).2.find? id = some s) ∧
    (∀ svc w,
      (exec (sweep o) svc w).1.1 = (svc.registry.sweep (o.clock.run w).1).1 ∧
      (exec (sweep o) svc w).1.2.registry = (svc.registry.sweep (o.clock.run w).1).2 ∧
      (List.any svc.board (·.name == "parlor_browser_sessions") = true →
        (exec (sweep o) svc w).1.2.board.gauge "parlor_browser_sessions" =
          some (exec (sweep o) svc w).1.2.registry.size)) ∧
    (∀ req svc w x t, stamp o req svc w = some (x, t) →
      ∃ s ∈ (exec (serve o req) svc w).1.2.registry.sessions, s.id = x ∧ s.lastSeen = t ∧
        ∀ u ∈ (exec (serve o req) svc w).1.2.registry.sessions, u.id = x → u = s) ∧
    ∀ req sts svc w x r, stamp o req svc w = some (x, r) →
      ((readings o (.request req :: sts) svc w).map Prod.snd).Pairwise (· ≤ ·) →
      (∀ t, (Step.sweep, t) ∈ readings o (.request req :: sts) svc w →
        t + Clock.negate svc.registry.ttl ≤ r) →
      (∃ s ∈ (runSteps o (.request req :: sts) svc w).1.registry.sessions,
        s.id = x ∧ r ≤ s.lastSeen) ∧
      (x ≠ "" → ∃ s, (runSteps o (.request req :: sts) svc w).1.registry.find? x = some s ∧
        r ≤ s.lastSeen) := by
  refine ⟨fun reg t => ⟨by simp only [Registry.sessions_sweep, Registry.isStale, decide_not], rfl,
    fun s hs => ?_, Registry.sweep_fst reg t, reg.sweep_fst_add_size t,
    fun id s hs hkept => reg.find?_sweep t hs (by simpa [Registry.isStale] using hkept)⟩,
    fun svc w => ?_, fun req svc w x t hst => (serve_stamps o req svc w hst).2,
    fun req sts svc w x r hst hmono hcut => ?_⟩
  · obtain ⟨u, -, rfl⟩ := List.mem_map.mp hs
    rfl
  · rw [exec_sweep]
    exact ⟨rfl, rfl, Metrics.gauge_record_sessions _ _⟩
  -- from the request on, every reading is no earlier than its time `r`
  rw [readings_request o req sts svc w hst] at hmono hcut
  rw [List.map_cons, List.pairwise_cons] at hmono
  have hread : ∀ p ∈ readings o sts (exec (serve o req) svc w).1.2 (exec (serve o req) svc w).2,
      r ≤ p.2 := fun p hp => hmono.1 p.2 (List.mem_map_of_mem hp)
  have hseen := (SeenSince.of_stamp o req w hst).run o sts _ hread
    fun t ht => hcut t (List.mem_cons_of_mem _ ht)
  rw [runSteps_request]
  obtain ⟨s, hs, hsx⟩ := hseen.held
  exact ⟨⟨s, hs, hsx, hseen.recent s hs hsx⟩, hseen.find?⟩

theorem balance_visit_outlives_sweep :
    let steps := [Step.request balanceRequest, .sweep]
    stamp fixedOutside balanceRequest openingService 0 = some ("sid-1", 0) ∧
      ((readings fixedOutside steps openingService 0).map Prod.snd).Pairwise (· ≤ ·) ∧
      (∀ t, (Step.sweep, t) ∈ readings fixedOutside steps openingService 0 →
        t + Clock.negate openingService.registry.ttl ≤ 0) ∧
      ∃ s ∈ (runSteps fixedOutside steps openingService 0).1.registry.sessions,
        s.id = "sid-1" ∧ 0 ≤ s.lastSeen := by
  intro steps
  -- the request opens the session `sid-1` at the fixed time 0, and the sweep reads 0 too
  have hroute : route (routes openingService.settings.metricsServed) balanceRequest.method
      (routedPath balanceRequest) = .found ⟨"/me/balance", some "GET", .balance⟩ [] :=
    balanceRequest_routed
  have hstamp : stamp fixedOutside balanceRequest openingService 0 = some ("sid-1", 0) := by
    unfold stamp
    rw [hroute]
    rfl
  have hreadings : readings fixedOutside steps openingService 0 =
      [(.request balanceRequest, 0), (.sweep, 0)] := by
    rw [readings_request fixedOutside balanceRequest [.sweep] openingService 0 hstamp]
    rfl
  have hmono : ((readings fixedOutside steps openingService 0).map Prod.snd).Pairwise (· ≤ ·) := by
    rw [hreadings]
    decide
  have hcut : ∀ t, (Step.sweep, t) ∈ readings fixedOutside steps openingService 0 →
      t + Clock.negate openingService.registry.ttl ≤ 0 := by
    rw [hreadings]
    intro t ht
    obtain rfl : t = 0 := by simpa using ht
    decide
  exact ⟨hstamp, hmono, hcut, ((sweep_removes_exactly_idle_sessions fixedOutside).2.2.2
    balanceRequest [.sweep] openingService 0 "sid-1" 0 hstamp hmono hcut).1⟩

end Vestibule.Front
