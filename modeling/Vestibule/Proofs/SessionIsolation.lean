import Vestibule.Proofs.ServiceFrame
import Vestibule.Proofs.SignInGate

/-!
Browser sessions are isolated from each other.

The service keeps its browser sessions in one registry and shares with them its counts and, when
it has one, its circuit breaker. Without a shared breaker nothing one browser does reaches the
session of another. A request of the browser holding cookie `a` puts back only the session under
`a`; a request of the browser holding cookie `b` reads of the service only its settings and the
session under `b`. So along any interleaving of the two browsers' requests, the session under `b`
and the outside effects of `b`'s requests (among them every request its client sends, when the
world records them) are what they are when `b`'s requests are served alone, provided the outside
answers `b`'s requests the same way.
-/

namespace Vestibule

namespace Registry

theorem find?_id {r : Registry} {id : String} {s : Session} (h : r.find? id = some s) :
    s.id = id := by
  unfold find? at h
  split at h
  · cases h
  · simpa using List.find?_some h

theorem find?_map_replace (s : Session) (id : String) (l : List Session) :
    (l.map fun o => if o.id == s.id then s else o).find? (·.id == id) =
      if s.id = id then (l.find? (·.id == id)).map fun _ => s else l.find? (·.id == id) := by
  induction l with
  | nil => split <;> rfl
  | cons o l ih =>
    rw [List.map_cons]
    by_cases ho : o.id = s.id
    · -- the session under the id put back is replaced, and found where it was
      rw [if_pos (by simp [ho])]
      by_cases hs : s.id = id
      · rw [List.find?_cons_of_pos (by simp [hs]), if_pos hs,
          List.find?_cons_of_pos (by simp [ho, hs])]
        rfl
      · rw [List.find?_cons_of_neg (by simp [hs]), ih, if_neg hs, if_neg hs,
          List.find?_cons_of_neg (by simp [ho, hs])]
    · rw [if_neg (by simp [ho])]
      by_cases hoi : o.id = id
      · have hs : s.id ≠ id := fun h => ho (hoi.trans h.symm)
        rw [List.find?_cons_of_pos (by simp [hoi]), if_neg hs,
          List.find?_cons_of_pos (by simp [hoi])]
      · rw [List.find?_cons_of_neg (by simp [hoi]), ih, List.find?_cons_of_neg (by simp [hoi])]

theorem find?_update (r : Registry) (s : Session) (id : String) :
    (r.update s).find? id = if s.id = id then (r.find? id).map fun _ => s else r.find? id := by
  unfold find? update
  split
  · split <;> rfl
  · exact find?_map_replace s id r.sessions

end Registry

namespace Front

open Vestibule.Web

variable {σ : Type}

/-! ### What one request changes -/

/-- The service `svc'` is `svc` with the session `kept` put back, if there is one, and with other
counts. -/
def Moved (kept : Option Session) (svc svc' : Service) : Prop :=
  ∃ board,
    svc' = { svc with registry := kept.elim svc.registry svc.registry.update, board := board }

namespace Moved

variable {kept : Option Session} {svc svc' : Service}

theorem settings (h : Moved kept svc svc') : svc'.settings = svc.settings := by
  obtain ⟨_, rfl⟩ := h
  rfl

theorem breaker (h : Moved kept svc svc') : svc'.breaker = svc.breaker := by
  obtain ⟨_, rfl⟩ := h
  rfl

theorem count (h : Moved kept svc svc') (board : Metrics.Board) :
    Moved kept svc { svc' with board := board } := by
  obtain ⟨_, rfl⟩ := h
  exact ⟨board, rfl⟩

theorem find? (h : Moved kept svc svc') (id : String) :
    svc'.registry.find? id =
      kept.elim (svc.registry.find? id) fun s =>
        if s.id = id then (svc.registry.find? id).map fun _ => s else svc.registry.find? id := by
  obtain ⟨_, rfl⟩ := h
  cases kept with
  | none => rfl
  | some s => exact Registry.find?_update _ s id

theorem find?_other (h : Moved kept svc svc') {id : String} (hk : ∀ s ∈ kept, s.id ≠ id) :
    svc'.registry.find? id = svc.registry.find? id := by
  rw [h.find?]
  cases kept with
  | none => rfl
  | some s => exact if_neg (hk s rfl)

theorem isSome_find? (h : Moved kept svc svc') {id : String}
    (hs : (svc.registry.find? id).isSome) : (svc'.registry.find? id).isSome := by
  obtain ⟨_, rfl⟩ := h
  cases kept with
  | none => exact hs
  | some s =>
    show ((svc.registry.update s).find? id).isSome
    rw [Registry.find?_update]
    split <;> simpa using hs

end Moved

/-- Services that look alike to the browser holding cookie `id`: the same settings, no shared
breaker, and one session under `id`. -/
structure Alike (id : String) (svc₁ svc₂ : Service) : Prop where
  settings : svc₁.settings = svc₂.settings
  breaker₁ : svc₁.breaker = none
  breaker₂ : svc₂.breaker = none
  seat : svc₁.registry.find? id = svc₂.registry.find? id
  seated : (svc₁.registry.find? id).isSome

theorem exec_serve_unrouted (o : Outside (StateM σ)) (req : Request) (svc : Service) (w : σ)
    (h : ∀ r params,
      route (routes svc.settings.metricsServed) req.method (routedPath req) ≠ .found r params) :
    (exec (serve o req) svc w).2 = (requestStart o req w).2 ∧
      ∃ board, (exec (serve o req) svc w).1.2 = { svc with board := board } := by
  unfold routedPath at h
  unfold serve requestStart requestIdOf
  dsimp only at h ⊢
  split
  all_goals
    rw [exec_bind]
    simp only [exec_lift, exec_pure]
    rw [exec_bind]
    simp only [exec_lift]
    rw [exec_get_bind]
    split
    · exact ⟨rfl, _, rfl⟩
    · exact ⟨rfl, _, rfl⟩
    · exact absurd ‹_› (h _ _)

theorem exec_dispatch_plain (o : Outside (StateM σ)) (rid : String) (now : Int) (req : Request)
    (r : Route) (params : List (List UInt8)) (svc : Service) (w : σ)
    (h : r.action.usesSession = false) :
    (exec (dispatch o rid now req r params) svc w).1.2 = svc ∧
      (exec (dispatch o rid now req r params) svc w).2 = w := by
  unfold dispatch
  generalize r.action = action at h ⊢
  split
  case h_1 =>
    rw [exec_get_bind]
    split <;> exact ⟨rfl, rfl⟩
  case h_2 => exact ⟨rfl, rfl⟩
  case h_3 => cases action <;> simp_all [Action.usesSession]

theorem exec_withSession_lent {α : Type} (s : Session)
    (act : StateT Session (Serving (StateM σ)) α) (svc : Service) (w : σ) :
    exec (withSession s act) svc w =
      let out := exec (act.run { s with client := { s.client with breaker := svc.breaker } }) svc w
      ((out.1.1, { out.1.2 with breaker := out.1.1.2.client.breaker }), out.2) := by
  unfold withSession
  rw [exec_get_bind]
  rfl

theorem exec_withSession {α : Type} (s : Session) (act : StateT Session (Serving (StateM σ)) α)
    {svc : Service} (hb : svc.breaker = none) (w : σ) :
    exec (withSession s act) svc w =
      let out := exec (act.run { s with client := { s.client with breaker := none } }) svc w
      ((out.1.1, { out.1.2 with breaker := out.1.1.2.client.breaker }), out.2) := by
  rw [exec_withSession_lent, hb]

theorem withSession_alike {α : Type} {act : StateT Session (Serving (StateM σ)) α}
    (hact : SessionBlind act) (s : Session) {svc₁ svc₂ : Service} (hb₁ : svc₁.breaker = none)
    (hb₂ : svc₂.breaker = none) (w : σ) :
    (exec (withSession s act) svc₁ w).1.1 = (exec (withSession s act) svc₂ w).1.1 ∧
      (exec (withSession s act) svc₁ w).2 = (exec (withSession s act) svc₂ w).2 ∧
      (exec (withSession s act) svc₁ w).1.1.2.id = s.id ∧
      (∃ b, (exec (withSession s act) svc₁ w).1.2 = { svc₁ with board := b }) ∧
      ∃ b, (exec (withSession s act) svc₂ w).1.2 = { svc₂ with board := b } := by
  rw [exec_withSession s act hb₁, exec_withSession s act hb₂]
  have hs := hact { s with client := { s.client with breaker := none } }
  dsimp only at hs ⊢
  obtain ⟨hv, hw⟩ := hs.same svc₁ svc₂ w
  obtain ⟨b₁, h₁⟩ := hs.counts svc₁ w
  obtain ⟨b₂, h₂⟩ := hs.counts svc₂ w
  obtain ⟨hid, hbrk⟩ := hs.post svc₁ w
  refine ⟨hv, hw, congrArg Prod.fst hid, ⟨b₁, ?_⟩, ⟨b₂, ?_⟩⟩
  · rw [h₁, hbrk rfl, ← hb₁]
  · rw [h₂, ← hv, hbrk rfl, ← hb₂]

theorem dispatch_alike (o : Outside (StateM σ)) (rid : String) (now : Int) {req : Request}
    (r : Route) (params : List (List UInt8)) {id : String}
    (hc : req.cookie? sessionCookie = some id) {svc₁ svc₂ : Service} (h : Alike id svc₁ svc₂)
    (w : σ) :
    (exec (dispatch o rid now req r params) svc₁ w).2 =
        (exec (dispatch o rid now req r params) svc₂ w).2 ∧
      ∃ kept : Option Session, (∀ s ∈ kept, s.id = id) ∧
        Moved kept svc₁ (exec (dispatch o rid now req r params) svc₁ w).1.2 ∧
        Moved kept svc₂ (exec (dispatch o rid now req r params) svc₂ w).1.2 := by
  cases hu : r.action.usesSession
  case false =>
    obtain ⟨h₁, w₁⟩ := exec_dispatch_plain o rid now req r params svc₁ w hu
    obtain ⟨h₂, w₂⟩ := exec_dispatch_plain o rid now req r params svc₂ w hu
    exact ⟨w₁.trans w₂.symm, none, by simp, ⟨svc₁.board, h₁⟩, ⟨svc₂.board, h₂⟩⟩
  case true =>
    obtain ⟨s, hs₁⟩ := Option.isSome_iff_exists.mp h.seated
    have hs₂ : svc₂.registry.find? id = some s := h.seat ▸ hs₁
    have hid : s.id = id := Registry.find?_id hs₁
    rw [exec_dispatch_session o rid now req r params svc₁ w hu,
      exec_dispatch_session o rid now req r params svc₂ w hu,
      exec_sessionFor_found o (show sessionOf svc₁ req = some s by simp [sessionOf, hc, hs₁]),
      exec_sessionFor_found o (show sessionOf svc₂ req = some s by simp [sessionOf, hc, hs₂])]
    dsimp only
    split
    · exact ⟨rfl, some _, fun _ h => by cases h; exact hid, ⟨_, rfl⟩, ⟨_, rfl⟩⟩
    obtain ⟨hv, hw, hkid, ⟨b₁, h₁⟩, ⟨b₂, h₂⟩⟩ :=
      withSession_alike (answer_blind o rid req r.action params)
        { s with lastSeen := now } h.breaker₁ h.breaker₂ w
    refine ⟨hw, some _, fun _ h => by cases h; exact hkid.trans hid, ⟨b₁, ?_⟩, ⟨b₂, ?_⟩⟩
    · rw [h₁]
      rfl
    · rw [h₂, ← hv]
      rfl


theorem serve_alike (o : Outside (StateM σ)) {req : Request} {id : String}
    (hc : req.cookie? sessionCookie = some id) {svc₁ svc₂ : Service} (h : Alike id svc₁ svc₂)
    (w : σ) :
    (exec (serve o req) svc₁ w).2 = (exec (serve o req) svc₂ w).2 ∧
      ∃ kept : Option Session, (∀ s ∈ kept, s.id = id) ∧
        Moved kept svc₁ (exec (serve o req) svc₁ w).1.2 ∧
        Moved kept svc₂ (exec (serve o req) svc₂ w).1.2 := by
  -- both services route the request alike, by their common settings
  have hroute : route (routes svc₂.settings.metricsServed) req.method (routedPath req) =
      route (routes svc₁.settings.metricsServed) req.method (routedPath req) := by
    rw [h.settings]
  rcases hr : route (routes svc₁.settings.metricsServed) req.method (routedPath req) with
    ⟨r, params⟩ | allowed | _
  case found =>
    rw [exec_serve_found o req svc₁ w hr, exec_serve_found o req svc₂ w (hroute.trans hr)]
    obtain ⟨hw, kept, hk, h₁, h₂⟩ := dispatch_alike o _ _ r params hc h _
    exact ⟨hw, kept, hk, h₁.count _, h₂.count _⟩
  all_goals
    obtain ⟨w₁, b₁, h₁⟩ := exec_serve_unrouted o req svc₁ w (by simp [hr])
    obtain ⟨w₂, b₂, h₂⟩ := exec_serve_unrouted o req svc₂ w (by simp [hroute, hr])
    exact ⟨w₁.trans w₂.symm, none, by simp, ⟨b₁, h₁⟩, ⟨b₂, h₂⟩⟩

namespace Alike

variable {id : String} {svc₁ svc₂ svc₁' svc₂' : Service} {kept : Option Session}

theorem moved (h : Alike id svc₁ svc₂) (h₁ : Moved kept svc₁ svc₁') (h₂ : Moved kept svc₂ svc₂') :
    Alike id svc₁' svc₂' where
  settings := h₁.settings.trans (h.settings.trans h₂.settings.symm)
  breaker₁ := h₁.breaker.trans h.breaker₁
  breaker₂ := h₂.breaker.trans h.breaker₂
  seat := by rw [h₁.find?, h₂.find?, h.seat]
  seated := h₁.isSome_find? h.seated

theorem moved_other (h : Alike id svc₁ svc₂) (hk : ∀ s ∈ kept, s.id ≠ id)
    (h₁ : Moved kept svc₁ svc₁') : Alike id svc₁' svc₂ where
  settings := h₁.settings.trans h.settings
  breaker₁ := h₁.breaker.trans h.breaker₁
  breaker₂ := h.breaker₂
  seat := (h₁.find?_other hk).trans h.seat
  seated := by rw [h₁.find?_other hk]; exact h.seated

end Alike

/-! ### Runs of two browsers -/

/-- A request, the outside it is served against, and the state of the world it meets there. -/
structure Visit (σ : Type) where
  req : Request
  outside : Outside (StateM σ)
  world : σ

def Visit.run (v : Visit σ) (svc : Service) : Service × σ :=
  let out := exec (serve v.outside v.req) svc v.world
  (out.1.2, out.2)

theorem Visit.run_fst (v : Visit σ) (svc : Service) :
    (v.run svc).1 = (exec (serve v.outside v.req) svc v.world).1.2 := by
  simp only [Visit.run]

theorem Visit.run_snd (v : Visit σ) (svc : Service) :
    (v.run svc).2 = (exec (serve v.outside v.req) svc v.world).2 := by
  simp only [Visit.run]

def Visit.cookie (v : Visit σ) : Option String := v.req.cookie? sessionCookie

def serveVisits (svc : Service) (vs : List (Visit σ)) : Service :=
  vs.foldl (fun svc v => (v.run svc).1) svc

theorem serveVisits_cons (svc : Service) (v : Visit σ) (vs : List (Visit σ)) :
    serveVisits svc (v :: vs) = serveVisits (v.run svc).1 vs := by
  simp only [serveVisits, List.foldl_cons]

/-- A service along a run of the browsers holding cookies `a` and `b`, and one along the run of
`b` alone: they look alike to `b`, and the first still holds the session under `a`. -/
structure Twin (a b : String) (svc₁ svc₂ : Service) : Prop where
  alike : Alike b svc₁ svc₂
  other : (svc₁.registry.find? a).isSome

namespace Twin

variable {a b : String} {svc₁ svc₂ : Service}

theorem visit_b (h : Twin a b svc₁ svc₂) (hab : a ≠ b) {v : Visit σ} (hv : v.cookie = some b) :
    Twin a b (v.run svc₁).1 (v.run svc₂).1 ∧ (v.run svc₁).2 = (v.run svc₂).2 := by
  obtain ⟨hw, kept, hk, h₁, h₂⟩ := serve_alike v.outside hv h.alike v.world
  have hother : ∀ s ∈ kept, s.id ≠ a := fun s hs he => hab (he.symm.trans (hk s hs))
  rw [Visit.run_fst, Visit.run_fst, Visit.run_snd, Visit.run_snd]
  refine ⟨⟨h.alike.moved h₁ h₂, ?_⟩, hw⟩
  rw [h₁.find?_other hother]
  exact h.other

theorem visit_a (h : Twin a b svc₁ svc₂) (hab : a ≠ b) {v : Visit σ} (hv : v.cookie = some a) :
    Twin a b (v.run svc₁).1 svc₂ := by
  have ha : Alike a svc₁ svc₁ := ⟨rfl, h.alike.breaker₁, h.alike.breaker₁, rfl, h.other⟩
  obtain ⟨-, kept, hk, h₁, -⟩ := serve_alike v.outside hv ha v.world
  have hother : ∀ s ∈ kept, s.id ≠ b := fun s hs he => hab ((hk s hs).symm.trans he)
  rw [Visit.run_fst]
  exact ⟨h.alike.moved_other hother h₁, h₁.isSome_find? h.other⟩

theorem serveVisits (h : Twin a b svc₁ svc₂) (hab : a ≠ b) (xs : List (Visit σ))
    (hxs : ∀ x ∈ xs, x.cookie = some a ∨ x.cookie = some b) :
    Twin a b (Front.serveVisits svc₁ xs)
      (Front.serveVisits svc₂ (xs.filter (·.cookie == some b))) := by
  induction xs generalizing svc₁ svc₂ with
  | nil => exact h
  | cons x xs ih =>
    have hrest : ∀ y ∈ xs, y.cookie = some a ∨ y.cookie = some b :=
      fun y hy => hxs y (List.mem_cons_of_mem _ hy)
    rcases hxs x List.mem_cons_self with hx | hx
    · -- a visit of `a`, left out of the run of `b` alone
      rw [List.filter_cons_of_neg (by simp [hx, hab]), serveVisits_cons]
      exact ih (h.visit_a hab hx) hrest
    · rw [List.filter_cons_of_pos (by simp [hx]), serveVisits_cons, serveVisits_cons]
      exact ih (h.visit_b hab hx).1 hrest

end Twin

/-- Browser sessions are isolated. Take a service without a shared breaker holding the sessions
of two browsers, under the cookies `a` and `b`, and any interleaving of their visits. The session
under `b` is the same as after `b`'s visits alone, and so is the world after each visit of `b`,
when the outside answers that visit the same way. A world that records every request sent on
the wire sees by this that `b`'s client sends the same requests, with the same credentials and
cookies, whatever `a` does. -/
theorem sessions_isolated (svc : Service) {a b : String} (hab : a ≠ b)
    (hbrk : svc.breaker = none) (ha : (svc.registry.find? a).isSome)
    (hb : (svc.registry.find? b).isSome) (xs : List (Visit σ))
    (hxs : ∀ x ∈ xs, x.cookie = some a ∨ x.cookie = some b) :
    (serveVisits svc xs).registry.find? b =
        (serveVisits svc (xs.filter (·.cookie == some b))).registry.find? b ∧
      ∀ pre x post, xs = pre ++ x :: post → x.cookie = some b →
        (x.run (serveVisits svc pre)).2 =
          (x.run (serveVisits svc (pre.filter (·.cookie == some b)))).2 := by
  have h₀ : Twin a b svc svc := ⟨⟨rfl, hbrk, hbrk, rfl, hb⟩, ha⟩
  refine ⟨(h₀.serveVisits hab xs hxs).alike.seat, fun pre x post hsplit hx => ?_⟩
  have hpre : ∀ y ∈ pre, y.cookie = some a ∨ y.cookie = some b :=
    fun y hy => hxs y (hsplit ▸ List.mem_append_left _ hy)
  exact ((h₀.serveVisits hab pre hpre).visit_b hab hx).2

/-- A service without a shared breaker holding the sessions of two browsers. -/
def twoBrowsers : Service :=
  let client := Remote.Client.new "http://api.test" none
  ⟨⟨"http://api.test", Completion.Routes.standard, "/chat", 0, false, none, false⟩,
    ⟨[Session.new "sid-a" "" 0 client Completion.Routes.standard "/chat",
      Session.new "sid-b" "" 0 client Completion.Routes.standard "/chat"], 0⟩,
    Metrics.Board.empty, none⟩

def cookieRequest (id : String) : Request :=
  ⟨"GET", { Url.empty with path := "/me/balance".toUTF8.toList },
    ⟨[("Cookie", ["parlor_sid=" ++ id])]⟩, ""⟩

def twoBrowserVisits : List (Visit Nat) :=
  [⟨cookieRequest "sid-a", fixedOutside, 0⟩, ⟨cookieRequest "sid-b", fixedOutside, 0⟩,
    ⟨cookieRequest "sid-a", fixedOutside, 0⟩]

theorem twoBrowsers_isolated :
    ("sid-a" ≠ "sid-b" ∧ twoBrowsers.breaker = none ∧
        (twoBrowsers.registry.find? "sid-a").isSome ∧
        (twoBrowsers.registry.find? "sid-b").isSome ∧
        ∀ x ∈ twoBrowserVisits, x.cookie = some "sid-a" ∨ x.cookie = some "sid-b") ∧
      (serveVisits twoBrowsers twoBrowserVisits).registry.find? "sid-b" =
          (serveVisits twoBrowsers
            (twoBrowserVisits.filter (·.cookie == some "sid-b"))).registry.find? "sid-b" ∧
        ∀ pre x post, twoBrowserVisits = pre ++ x :: post → x.cookie = some "sid-b" →
          (x.run (serveVisits twoBrowsers pre)).2 =
            (x.run (serveVisits twoBrowsers (pre.filter (·.cookie == some "sid-b")))).2 := by
  -- the cookie lines are read at their semicolons and their equals signs
  have ha : (cookieRequest "sid-a").cookie? sessionCookie = some "sid-a" := by
    have hparts : "parlor_sid=sid-a".splitOn ";" = ["parlor_sid=sid-a"] := by
      simp +decide [String.splitOn, String.splitOnAux]
    have hpair : "parlor_sid=sid-a".splitOn "=" = ["parlor_sid", "sid-a"] := by
      simp +decide [String.splitOn, String.splitOnAux]
    have hlines : (cookieRequest "sid-a").headers.values "Cookie" = ["parlor_sid=sid-a"] := by
      decide
    have htrim : trimLine "parlor_sid=sid-a" = "parlor_sid=sid-a" := by decide
    simp only [Request.cookie?, hlines, List.findSome?_cons, List.findSome?_nil, htrim, hparts, hpair]
    decide
  have hb : (cookieRequest "sid-b").cookie? sessionCookie = some "sid-b" := by
    have hparts : "parlor_sid=sid-b".splitOn ";" = ["parlor_sid=sid-b"] := by
      simp +decide [String.splitOn, String.splitOnAux]
    have hpair : "parlor_sid=sid-b".splitOn "=" = ["parlor_sid", "sid-b"] := by
      simp +decide [String.splitOn, String.splitOnAux]
    have hlines : (cookieRequest "sid-b").headers.values "Cookie" = ["parlor_sid=sid-b"] := by
      decide
    have htrim : trimLine "parlor_sid=sid-b" = "parlor_sid=sid-b" := by decide
    simp only [Request.cookie?, hlines, List.findSome?_cons, List.findSome?_nil, htrim, hparts, hpair]
    decide
  have hxs : ∀ x ∈ twoBrowserVisits, x.cookie = some "sid-a" ∨ x.cookie = some "sid-b" := by
    simp [twoBrowserVisits, Visit.cookie, ha, hb]
  exact ⟨⟨by decide, rfl, by decide, by decide, hxs⟩,
    sessions_isolated twoBrowsers (by decide : "sid-a" ≠ "sid-b") rfl (by decide) (by decide)
      twoBrowserVisits hxs⟩

end Front

end Vestibule
