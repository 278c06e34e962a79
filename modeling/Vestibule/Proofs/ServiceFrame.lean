import Vestibule.Proofs.ServiceSteps

/-!
What the work of a request on its browser session reads of the service.

A session's handlers reach the outside only through lifted calls (the wire, the clock, the
browser giving up) and count events on the board the service shares. So they read nothing of
the service's state and write only its counts: from any state of the service they give the same
answer, leave the session and the world the same, and leave the service as it was but for its
counts. No handler changes the id of its session or the time it was last seen, whatever breaker
its client holds, and a client without a breaker stays without one.
-/

namespace Vestibule.Front

open Vestibule.Web

variable {σ : Type}

/-- A computation of the service whose value satisfies `P`, that reads nothing of the service's
state and writes only its counts. -/
structure Blind {α : Type} (P : α → Prop) (x : Serving (StateM σ) α) : Prop where
  same : ∀ svc₁ svc₂ w,
    (exec x svc₁ w).1.1 = (exec x svc₂ w).1.1 ∧ (exec x svc₁ w).2 = (exec x svc₂ w).2
  counts : ∀ svc w, ∃ b, (exec x svc w).1.2 = { svc with board := b }
  post : ∀ svc w, P (exec x svc w).1.1

namespace Blind

variable {α β : Type} {P : α → Prop} {Q : β → Prop}

theorem of_pure {a : α} (h : P a) : Blind P (pure a : Serving (StateM σ) α) :=
  ⟨fun _ _ _ => ⟨rfl, rfl⟩, fun svc _ => ⟨svc.board, rfl⟩, fun _ _ => h⟩

theorem of_lift (y : StateM σ α) (h : ∀ w, P (y.run w).1) :
    Blind P (StateT.lift y : Serving (StateM σ) α) :=
  ⟨fun _ _ _ => ⟨rfl, rfl⟩, fun svc _ => ⟨svc.board, rfl⟩, fun _ w => h w⟩

theorem of_note (e : Metrics.Event) : Blind (fun _ => True) (note e : Serving (StateM σ) Unit) :=
  ⟨fun _ _ _ => ⟨rfl, rfl⟩, fun svc _ => ⟨svc.board.record e, rfl⟩, fun _ _ => trivial⟩

theorem bind {x : Serving (StateM σ) α} {f : α → Serving (StateM σ) β} (hx : Blind P x)
    (hf : ∀ a, P a → Blind Q (f a)) : Blind Q (x >>= f) where
  same svc₁ svc₂ w := by
    obtain ⟨ha, hw⟩ := hx.same svc₁ svc₂ w
    rw [exec_bind, exec_bind, ← ha, ← hw]
    exact (hf _ (hx.post svc₁ w)).same _ _ _
  counts svc w := by
    obtain ⟨b, hb⟩ := hx.counts svc w
    obtain ⟨b', hb'⟩ := (hf _ (hx.post svc w)).counts (exec x svc w).1.2 (exec x svc w).2
    rw [exec_bind, hb', hb]
    exact ⟨b', rfl⟩
  post svc w := by
    rw [exec_bind]
    exact (hf _ (hx.post svc w)).post _ _

theorem mono {x : Serving (StateM σ) α} (h : Blind P x) {P' : α → Prop} (hP : ∀ a, P a → P' a) :
    Blind P' x :=
  ⟨h.same, h.counts, fun svc w => hP _ (h.post svc w)⟩

theorem ite {c : Prop} [Decidable c] {x y : Serving (StateM σ) α} (hx : Blind P x)
    (hy : Blind P y) : Blind P (if c then x else y) := by
  split
  · exact hx
  · exact hy

end Blind

/-! ### Transfers and remote calls -/

/-- A wire whose sending and reading of the time read nothing of the service. -/
structure WireBlind (wr : Wire (Serving (StateM σ))) : Prop where
  send : ∀ req, Blind (fun _ => True) (wr.send req)
  now : Blind (fun _ => True) wr.now

variable {wr : Wire (Serving (StateM σ))}

theorem sendOne_blind (hw : WireBlind wr) (jar : Jar) (req : Web.Request) :
    Blind (fun _ => True) (sendOne wr jar req) := by
  unfold sendOne
  refine Blind.bind hw.now fun now _ => ?_
  refine Blind.bind (hw.send _) fun got _ => ?_
  split <;> exact Blind.of_pure trivial

theorem follow_blind (hw : WireBlind wr) (first : Web.Request) (fuel : Nat) :
    ∀ hop jar, Blind (fun _ => True) (follow wr first fuel hop jar) := by
  -- every stop is an answer handed back; every hop is one more request on the wire
  induction fuel with
  | zero =>
    intro hop jar
    unfold follow
    dsimp only
    repeat' split
    all_goals exact Blind.of_pure trivial
  | succ fuel ih =>
    intro hop jar
    unfold follow
    dsimp only
    repeat' split
    all_goals try exact Blind.of_pure trivial
    all_goals
      refine Blind.bind (sendOne_blind hw _ _) fun got _ => ?_
      split
      · exact Blind.of_pure trivial
      · exact ih _ _

theorem fetch_blind (hw : WireBlind wr) (jar : Jar) (req : Web.Request) :
    Blind (fun _ => True) (fetch wr jar req) := by
  unfold fetch
  refine Blind.bind (sendOne_blind hw _ _) fun got _ => ?_
  split
  · exact Blind.of_pure trivial
  · exact follow_blind hw _ _ _ _

/-- An outside for remote calls none of whose effects reads anything of the service. -/
structure EnvBlind (env : Remote.Env (Serving (StateM σ))) : Prop where
  wire : WireBlind env.wire
  clock : Blind (fun _ => True) env.clock
  gaveUp : Blind (fun _ => True) env.gaveUp
  credential : ∀ read ∈ env.credential, Blind (fun _ => True) read

variable {env : Remote.Env (Serving (StateM σ))}

theorem send_blind {α : Type} (henv : EnvBlind env) (c : Remote.Client) (ep : Remote.Endpoint)
    (read : List UInt8 → Except String α) :
    Blind (fun r => r.2.breaker = c.breaker) (c.send env ep read) := by
  unfold Remote.Client.send
  dsimp only
  split
  · exact Blind.of_pure rfl
  simp only [pure_bind]
  -- authorizing fails with the client as it was, or leaves a request to carry
  split
  case' isFalse =>
    split
    case' h_1 => exact Blind.of_pure rfl
    case' h_2 rd hrd =>
      refine Blind.bind (henv.credential rd (by simp [hrd])) fun got _ => ?_
      split
      case' h_1 => exact Blind.of_pure rfl
      case' h_2 => exact Blind.of_pure rfl
  -- however it was authorized, the request is carried the same way
  all_goals
    refine Blind.bind (fetch_blind henv.wire _ _) fun got _ => ?_
    split
    · refine Blind.bind henv.gaveUp fun why _ => ?_
      split <;> exact Blind.of_pure rfl
    · split
      · exact Blind.of_pure rfl
      · split <;> exact Blind.of_pure rfl

theorem call_blind {α : Type} (henv : EnvBlind env) (c : Remote.Client)
    (ep : Remote.Endpoint) (read : List UInt8 → Except String α) :
    Blind (fun r => c.breaker = none → r.2.breaker = none) (c.call env ep read) := by
  unfold Remote.Client.call
  split
  case h_1 hc => exact (send_blind henv c ep read).mono fun r hr _ => hr.trans hc
  case h_2 b hc =>
    -- the breaker reads the time around the send and is fed the answer; nothing of it is the
    -- service's
    refine (?_ : Blind (fun _ => True) _).mono fun _ _ hnone => absurd (hc.symm.trans hnone) (by simp)
    refine Blind.bind henv.clock fun now _ => ?_
    dsimp only
    refine Blind.ite (Blind.of_pure trivial) ?_
    refine Blind.bind (send_blind henv _ ep read) fun ⟨got, c'⟩ _ => ?_
    refine Blind.bind henv.clock fun later _ => ?_
    simp only [pure_bind]
    split
    · exact Blind.of_pure trivial
    · refine Blind.ite (Blind.of_pure trivial) ?_
      refine Blind.bind henv.gaveUp fun why _ => ?_
      split <;> exact Blind.of_pure trivial

/-- The calls of a client that, made in an outside blind to the service, are blind and hand back
a client without a breaker when they were made with one without. -/
def CallBlind {α : Type}
    (call : Remote.Client → Remote.Env (Serving (StateM σ)) →
      Serving (StateM σ) (Except Fault α × Remote.Client)) : Prop :=
  ∀ c env, EnvBlind env → Blind (fun r => c.breaker = none → r.2.breaker = none) (call c env)

theorem endpoint_call_blind {α : Type} (ep : Remote.Endpoint)
    (read : List UInt8 → Except String α) : CallBlind (σ := σ) fun c env => c.call env ep read :=
  fun c _ henv => call_blind henv c ep read

theorem balance_call_blind : CallBlind (σ := σ) fun c env => c.balance env := by
  intro c env henv
  unfold Remote.Client.balance
  refine Blind.bind (call_blind henv c _ _) fun ⟨got, c'⟩ hc' => ?_
  dsimp only at hc' ⊢
  split <;> exact Blind.of_pure hc'

theorem createSession_call_blind (id : Int) :
    CallBlind (σ := σ) fun c env => c.createSession env id := by
  intro c env henv
  unfold Remote.Client.createSession
  exact Blind.bind (call_blind henv c _ _) fun ⟨got, c'⟩ hc' => Blind.of_pure hc'

theorem chatSession_call_blind (id : List UInt8) :
    CallBlind (σ := σ) fun c env => c.chatSession env id := by
  intro c env henv
  unfold Remote.Client.chatSession
  exact Blind.bind (call_blind henv c _ _) fun ⟨got, c'⟩ hc' => Blind.of_pure hc'

/-! ### Work on a session -/

def anchor (s : Session) : String × Int := (s.id, s.lastSeen)

/-- The session `s'` is the session `s` still, by its id and the time it was last seen, and its
client has no breaker if that of `s` had none. -/
def Anchored (s s' : Session) : Prop :=
  anchor s' = anchor s ∧ (s.client.breaker = none → s'.client.breaker = none)

theorem Anchored.trans {s s' s'' : Session} (h : Anchored s s') (h' : Anchored s' s'') :
    Anchored s s'' :=
  ⟨h'.1.trans h.1, fun hb => h'.2 (h.2 hb)⟩

def BlindAt {α : Type} (s : Session) (x : StateT Session (Serving (StateM σ)) α) : Prop :=
  Blind (fun r => Anchored s r.2) (x.run s)

def SessionBlind {α : Type} (x : StateT Session (Serving (StateM σ)) α) : Prop :=
  ∀ s, BlindAt s x

section Closure

variable {α β : Type} {s : Session}

theorem BlindAt.bind {x : StateT Session (Serving (StateM σ)) α}
    {f : α → StateT Session (Serving (StateM σ)) β} (hx : BlindAt s x)
    (hf : ∀ a s', Anchored s s' → BlindAt s' (f a)) : BlindAt s (x >>= f) := by
  unfold BlindAt
  rw [StateT.run_bind]
  exact Blind.bind hx fun p hp => (hf p.1 p.2 hp).mono fun _ hr => hp.trans hr

theorem BlindAt.lift_bind {P : α → Prop} {y : Serving (StateM σ) α}
    {f : α → StateT Session (Serving (StateM σ)) β} (hy : Blind P y)
    (hf : ∀ a, P a → BlindAt s (f a)) : BlindAt s (StateT.lift y >>= f) := by
  unfold BlindAt
  rw [StateT.run_bind_lift]
  exact Blind.bind hy hf

theorem BlindAt.set {s' : Session} (h : Anchored s s') :
    BlindAt s (set s' : StateT Session (Serving (StateM σ)) PUnit) :=
  Blind.of_pure h

theorem BlindAt.modify {f : Session → Session} (h : Anchored s (f s)) :
    BlindAt s (modify f : StateT Session (Serving (StateM σ)) PUnit) :=
  Blind.of_pure h

theorem SessionBlind.of_pure (a : α) :
    SessionBlind (pure a : StateT Session (Serving (StateM σ)) α) :=
  fun _ => Blind.of_pure ⟨rfl, id⟩

theorem SessionBlind.bind {x : StateT Session (Serving (StateM σ)) α}
    {f : α → StateT Session (Serving (StateM σ)) β} (hx : SessionBlind x)
    (hf : ∀ a, SessionBlind (f a)) : SessionBlind (x >>= f) :=
  fun s => (hx s).bind fun a s' _ => hf a s'

theorem SessionBlind.get_bind_at {f : Session → StateT Session (Serving (StateM σ)) α}
    (hf : ∀ s, BlindAt s (f s)) : SessionBlind (get >>= f) :=
  hf

theorem SessionBlind.get_bind {f : Session → StateT Session (Serving (StateM σ)) α}
    (hf : ∀ s, SessionBlind (f s)) : SessionBlind (get >>= f) :=
  fun s => hf s s

theorem SessionBlind.lift {P : α → Prop} {y : Serving (StateM σ) α} (hy : Blind P y) :
    SessionBlind (StateT.lift y : StateT Session (Serving (StateM σ)) α) :=
  fun _ => Blind.bind hy fun _ _ => Blind.of_pure ⟨rfl, id⟩

theorem SessionBlind.modify {f : Session → Session} (hkeep : ∀ s, anchor (f s) = anchor s)
    (hc : ∀ s, (f s).client = s.client) :
    SessionBlind (modify f : StateT Session (Serving (StateM σ)) PUnit) :=
  fun s => BlindAt.modify ⟨hkeep s, fun hs => (hc s).symm ▸ hs⟩

theorem modify_pure_blind {f : Session → Session} (hkeep : ∀ s, anchor (f s) = anchor s)
    (hc : ∀ s, (f s).client = s.client) (a : α) :
    SessionBlind (modify f >>= fun _ => pure a : StateT Session (Serving (StateM σ)) α) :=
  SessionBlind.bind (SessionBlind.modify hkeep hc) fun _ => SessionBlind.of_pure a

theorem SessionBlind.ite {c : Prop} [Decidable c] {x y : StateT Session (Serving (StateM σ)) α}
    (hx : SessionBlind x) (hy : SessionBlind y) : SessionBlind (if c then x else y) := by
  split
  · exact hx
  · exact hy

end Closure

/-! ### The outside of a session -/

/-- What a session reaches the outside through, none of it reading anything of the service. -/
structure ReachBlind (r : Reach (Serving (StateM σ))) : Prop where
  wire : WireBlind r.wire
  clock : Blind (fun _ => True) r.clock
  gaveUp : Blind (fun _ => True) r.gaveUp
  note : ∀ e, Blind (fun _ => True) (r.note e)

theorem reachOf_blind (o : Outside (StateM σ)) (rid : String) : ReachBlind (reachOf o rid) where
  wire := ⟨fun _ => Blind.of_lift _ fun _ => trivial, Blind.of_lift _ fun _ => trivial⟩
  clock := Blind.of_lift _ fun _ => trivial
  gaveUp := Blind.of_lift _ fun _ => trivial
  note := Blind.of_note

variable {r : Reach (Serving (StateM σ))}

theorem remoteEnv_blind (hr : ReachBlind r) (s : Session)
    {gaveUp : Serving (StateM σ) (Option Fault)} (hg : Blind (fun _ => True) gaveUp) : EnvBlind (Session.remoteEnv r s gaveUp) where
  wire := hr.wire
  clock := hr.clock
  gaveUp := hg
  credential read h := by
    cases Option.mem_some_iff.mp h
    exact Blind.of_pure trivial

theorem remote_blind (hr : ReachBlind r) {α : Type}
    {call : Remote.Client → Remote.Env (Serving (StateM σ)) →
      Serving (StateM σ) (Except Fault α × Remote.Client)}
    (hcall : CallBlind call) : SessionBlind (Session.remote r call) := by
  unfold Session.remote
  refine SessionBlind.get_bind_at fun s => ?_
  refine BlindAt.lift_bind (hcall _ _ (remoteEnv_blind hr s hr.gaveUp)) fun ⟨got, c⟩ hc => ?_
  exact BlindAt.bind (BlindAt.modify ⟨rfl, hc⟩) fun _ s' _ => SessionBlind.of_pure got s'

theorem storeCredential_blind {α : Type} (s : Session) (c : CredentialStore) (a : α) :
    BlindAt s (set { s with cred := c } >>= fun _ => pure a :
      StateT Session (Serving (StateM σ)) α) :=
  BlindAt.bind (BlindAt.set ⟨rfl, id⟩) fun _ s' _ => SessionBlind.of_pure a s'

theorem commitCredential_blind (t : Auth.TokenResult) :
    SessionBlind (Session.commitCredential t : StateT Session (Serving (StateM σ)) _) := by
  unfold Session.commitCredential
  refine SessionBlind.ite (SessionBlind.of_pure _) (SessionBlind.get_bind_at fun s => ?_)
  split
  · exact storeCredential_blind s _ _
  · exact SessionBlind.of_pure _ s

/-! ### The callback page -/

/-- Work of the callback page that is blind on every session; an abort is a value like any
other. -/
def PageBlind {α : Type} (x : ExceptT String (StateT Session (Serving (StateM σ))) α) : Prop :=
  SessionBlind x.run

section Page

variable {α β : Type}

theorem PageBlind.of_pure (a : α) :
    PageBlind (pure a : ExceptT String (StateT Session (Serving (StateM σ))) α) :=
  SessionBlind.of_pure _

theorem PageBlind.bind {x : ExceptT String (StateT Session (Serving (StateM σ))) α}
    {f : α → ExceptT String (StateT Session (Serving (StateM σ))) β} (hx : PageBlind x)
    (hf : ∀ a, PageBlind (f a)) : PageBlind (x >>= f) := by
  unfold PageBlind
  rw [ExceptT.run_bind]
  refine SessionBlind.bind hx fun got => ?_
  cases got with
  | ok a => exact hf a
  | error e => exact SessionBlind.of_pure _

theorem PageBlind.lift {y : StateT Session (Serving (StateM σ)) α} (hy : SessionBlind y) :
    PageBlind (liftM y : ExceptT String (StateT Session (Serving (StateM σ))) α) := by
  unfold PageBlind
  rw [ExceptT.run_liftM, map_eq_pure_bind]
  exact SessionBlind.bind hy fun _ => SessionBlind.of_pure _

theorem PageBlind.ite {c : Prop} [Decidable c]
    {x y : ExceptT String (StateT Session (Serving (StateM σ))) α}
    (hx : PageBlind x) (hy : PageBlind y) : PageBlind (if c then x else y) := by
  split
  · exact hx
  · exact hy

end Page

/-- Effects of the callback page none of which reads anything of the service. -/
structure PageEnvBlind
    (env : Completion.Env (ExceptT String (StateT Session (Serving (StateM σ))))) : Prop where
  live : PageBlind env.live
  refreshToken : PageBlind env.refreshToken
  pendingEmail : PageBlind env.pendingEmail
  storeCredential : ∀ t, PageBlind (env.storeCredential t)
  authenticate : ∀ u, PageBlind (env.authenticate u)
  awaitSignup : ∀ p, PageBlind (env.awaitSignup p)

theorem completionEnv_blind (hr : ReachBlind r) : PageEnvBlind (Session.completionEnv r) where
  live := PageBlind.bind (PageBlind.lift (SessionBlind.lift hr.gaveUp)) fun _ =>
    PageBlind.of_pure _
  refreshToken := PageBlind.lift (remote_blind hr (endpoint_call_blind _ _))
  pendingEmail := PageBlind.lift (remote_blind hr (endpoint_call_blind _ _))
  storeCredential _ := PageBlind.lift <| SessionBlind.get_bind_at fun s => by
    split
    · exact storeCredential_blind s _ _
    · exact SessionBlind.of_pure _ s
  authenticate _ := PageBlind.lift (SessionBlind.modify (fun _ => rfl) fun _ => rfl)
  awaitSignup _ := PageBlind.lift (SessionBlind.modify (fun _ => rfl) fun _ => rfl)

section Flow

variable {env : Completion.Env (ExceptT String (StateT Session (Serving (StateM σ))))}
  (henv : PageEnvBlind env) (routes : Completion.Routes)
include henv

theorem completeSuccess_blind : PageBlind (Completion.completeSuccess env routes) := by
  unfold Completion.completeSuccess
  refine PageBlind.bind henv.refreshToken fun token => ?_
  refine PageBlind.bind henv.live fun live => PageBlind.ite (PageBlind.of_pure _) ?_
  split
  · exact PageBlind.of_pure _
  refine PageBlind.ite (PageBlind.of_pure _) (PageBlind.bind (henv.storeCredential _) fun got => ?_)
  split
  · exact PageBlind.of_pure _
  · exact PageBlind.bind (henv.authenticate _) fun _ => PageBlind.of_pure _

theorem completeSignup_blind (info : String) :
    PageBlind (Completion.completeSignup env routes info) := by
  unfold Completion.completeSignup
  split
  · exact PageBlind.of_pure _
  refine PageBlind.bind (henv.awaitSignup _) fun _ => ?_
  refine PageBlind.bind henv.pendingEmail fun email => ?_
  exact PageBlind.bind henv.live fun _ => PageBlind.ite (PageBlind.of_pure _) (PageBlind.of_pure _)

theorem flow_blind (signals : Completion.Signals) :
    PageBlind (Completion.flow env routes signals) := by
  unfold Completion.flow
  refine PageBlind.bind henv.live fun _ => PageBlind.ite (PageBlind.of_pure _) ?_
  exact PageBlind.ite (completeSuccess_blind henv routes)
    (PageBlind.ite (completeSignup_blind henv routes _) (PageBlind.of_pure _))

theorem runOnce_blind (mt : Completion.Mount) : SessionBlind (mt.runOnce env routes) := by
  unfold Completion.Mount.runOnce
  split
  · exact SessionBlind.of_pure _
  refine SessionBlind.bind ?_ fun _ => SessionBlind.of_pure _
  unfold Completion.run
  exact SessionBlind.bind (flow_blind henv routes _) fun got => by
    split <;> exact SessionBlind.of_pure _

end Flow

/-! ### The handlers of a session -/

section Handlers

variable (hr : ReachBlind r)
include hr

theorem completeOAuth_blind (signals : Completion.Signals) :
    SessionBlind (Session.completeOAuth r signals) := by
  unfold Session.completeOAuth
  refine SessionBlind.get_bind fun s => ?_
  refine SessionBlind.bind (runOnce_blind (completionEnv_blind hr) _ _)
    fun ⟨⟨result, ran⟩, mt⟩ => ?_
  refine SessionBlind.bind (SessionBlind.modify (fun _ => rfl) fun _ => rfl) fun _ => ?_
  refine SessionBlind.ite (SessionBlind.of_pure _) ?_
  refine SessionBlind.bind (SessionBlind.lift (hr.note _)) fun _ => ?_
  split
  -- every outcome settles the session by one change that keeps its anchor and client, the failure
  -- by none at all
  all_goals
    dsimp only
    exact modify_pure_blind (fun _ => by rfl) (fun _ => by rfl) _

theorem login_blind (email password : String) :
    SessionBlind (Session.login r email password) := by
  unfold Session.login
  refine SessionBlind.ite (SessionBlind.of_pure _) ?_
  refine SessionBlind.bind (remote_blind hr (endpoint_call_blind _ _)) fun got => ?_
  split
  · exact SessionBlind.ite (SessionBlind.of_pure _) (SessionBlind.of_pure _)
  refine SessionBlind.bind (commitCredential_blind _) fun got => ?_
  split
  · exact SessionBlind.of_pure _
  · exact modify_pure_blind (fun _ => by rfl) (fun _ => by rfl) _

theorem signup_blind (form : Session.Form) : SessionBlind (Session.signup r form) := by
  unfold Session.signup
  refine SessionBlind.get_bind fun s => ?_
  split
  · exact SessionBlind.of_pure _
  refine SessionBlind.ite (SessionBlind.of_pure _) ?_
  refine SessionBlind.bind (SessionBlind.modify (fun _ => rfl) fun _ => rfl) fun _ => ?_
  refine SessionBlind.get_bind fun s' => SessionBlind.ite (SessionBlind.of_pure _) ?_
  refine SessionBlind.bind (remote_blind hr (endpoint_call_blind _ _)) fun got => ?_
  split
  · exact SessionBlind.of_pure _
  refine SessionBlind.bind (commitCredential_blind _) fun got => ?_
  split
  · exact SessionBlind.of_pure _
  refine SessionBlind.bind (SessionBlind.modify (fun _ => rfl) fun _ => rfl) fun _ => ?_
  exact modify_pure_blind (fun _ => by rfl) (fun _ => by rfl) _

theorem logout_blind : SessionBlind (Session.logout r) := by
  unfold Session.logout
  refine SessionBlind.get_bind fun s => ?_
  dsimp only
  -- signed in or not, the session is then cleared the same way
  refine SessionBlind.ite
    (SessionBlind.bind (remote_blind hr (endpoint_call_blind _ _)) fun _ => ?_) ?_
  all_goals
    refine SessionBlind.bind (SessionBlind.modify (fun _ => rfl) fun _ => rfl) fun _ => ?_
    refine SessionBlind.bind (SessionBlind.modify (fun _ => rfl) fun _ => rfl) fun _ => ?_
    refine SessionBlind.bind (SessionBlind.modify (fun _ => rfl) fun _ => rfl) fun _ => ?_
    exact SessionBlind.lift (hr.note _)

theorem readBalance_blind : SessionBlind (Session.readBalance r) := by
  unfold Session.readBalance
  refine SessionBlind.get_bind_at fun s => ?_
  split
  · exact SessionBlind.of_pure _ s
  split
  · exact SessionBlind.of_pure _ s
  -- the fetch is made with the client of the session read at the start, which it still is
  have henv := remoteEnv_blind hr s
    (Blind.of_pure trivial : Blind (fun _ => True) (pure none : Serving (StateM σ) (Option Fault)))
  refine BlindAt.lift_bind (balance_call_blind _ _ henv) fun ⟨got, c⟩ hc => ?_
  refine BlindAt.bind (BlindAt.modify ⟨rfl, hc⟩) fun _ s₂ _ => ?_
  refine SessionBlind.get_bind (fun s₃ => ?_) s₂
  refine SessionBlind.bind (SessionBlind.modify (fun _ => rfl) fun _ => rfl) fun _ => ?_
  refine SessionBlind.bind (SessionBlind.lift (hr.note _)) fun _ => ?_
  split <;> exact SessionBlind.of_pure _

end Handlers

/-! ### The chat hand-off -/

/-- Remote calls of the chat hand-off that are blind on every session. -/
structure ApiBlind (api : Handoff.Api (StateT Session (Serving (StateM σ)))) : Prop where
  createSession : ∀ id, SessionBlind (api.createSession id)
  chatSession : ∀ id, SessionBlind (api.chatSession id)

theorem handoffApi_blind (hr : ReachBlind r) : ApiBlind (Session.handoffApi r) where
  -- each call read off the record first, so that it is not matched against the unfolded remote
  createSession id := by
    dsimp only [Session.handoffApi]
    exact remote_blind hr (createSession_call_blind id)
  chatSession id := by
    dsimp only [Session.handoffApi]
    exact remote_blind hr (chatSession_call_blind id)

section Handoff

variable {api : Handoff.Api (StateT Session (Serving (StateM σ)))} (ha : ApiBlind api)
include ha

theorem handoff_select_blind (chatRoute : String) (id : Int) (slot : Handoff.Slot) :
    SessionBlind (Handoff.select api chatRoute id slot) := by
  unfold Handoff.select
  refine SessionBlind.ite (SessionBlind.of_pure _) ?_
  refine SessionBlind.bind (ha.createSession id) fun got => ?_
  split
  · exact SessionBlind.of_pure _
  · exact SessionBlind.ite (SessionBlind.of_pure _) (SessionBlind.of_pure _)

theorem handoff_fetch_blind (id : List UInt8) (slot : Handoff.Slot) :
    SessionBlind (Handoff.resolve.fetch api id slot) := by
  unfold Handoff.resolve.fetch
  refine SessionBlind.bind (ha.chatSession id) fun got => ?_
  split <;> exact SessionBlind.of_pure _

theorem handoff_resolve_blind (sessionId : List UInt8) (slot : Handoff.Slot) :
    SessionBlind (Handoff.resolve api sessionId slot) := by
  unfold Handoff.resolve
  refine SessionBlind.ite (SessionBlind.of_pure _) ?_
  split
  split
  · exact SessionBlind.ite (SessionBlind.of_pure _) (handoff_fetch_blind ha _ _)
  · exact handoff_fetch_blind ha _ _

end Handoff

section Rooms

variable (hr : ReachBlind r)
include hr

theorem select_blind (id : Int) : SessionBlind (Session.select r id) := by
  unfold Session.select
  refine SessionBlind.get_bind fun _ => SessionBlind.ite (SessionBlind.of_pure _) ?_
  refine SessionBlind.get_bind fun _ => SessionBlind.get_bind fun _ => ?_
  refine SessionBlind.bind (handoff_select_blind (handoffApi_blind hr) _ _ _) fun ⟨got, slot⟩ => ?_
  exact modify_pure_blind (fun _ => by rfl) (fun _ => by rfl) _

theorem resolve_blind (sessionId : List UInt8) : SessionBlind (Session.resolve r sessionId) := by
  unfold Session.resolve
  refine SessionBlind.get_bind fun _ => SessionBlind.ite (SessionBlind.of_pure _) ?_
  refine SessionBlind.get_bind fun _ => ?_
  refine SessionBlind.bind (handoff_resolve_blind (handoffApi_blind hr) _ _) fun ⟨got, slot⟩ => ?_
  refine SessionBlind.bind (SessionBlind.modify (fun _ => by rfl) fun _ => by rfl) fun _ => ?_
  dsimp only
  split
  · exact SessionBlind.bind (SessionBlind.lift (hr.note _)) fun _ => SessionBlind.of_pure _
  · exact SessionBlind.of_pure _

end Rooms

theorem answer_blind (o : Outside (StateM σ)) (rid : String) (req : Front.Request) (action : Action)
    (params : List (List UInt8)) : SessionBlind (answer o rid req action params) := by
  have hr := reachOf_blind o rid
  unfold answer
  split
  case h_1 =>
    refine SessionBlind.bind (completeOAuth_blind hr _) fun _ => ?_
    exact SessionBlind.ite (SessionBlind.of_pure _) (SessionBlind.of_pure _)
  case h_2 =>
    split
    · exact SessionBlind.of_pure _
    refine SessionBlind.bind (login_blind hr _ _) fun got => ?_
    split <;> exact SessionBlind.of_pure _
  case h_3 => exact SessionBlind.bind (logout_blind hr) fun _ => SessionBlind.of_pure _
  case h_4 => exact SessionBlind.get_bind fun _ => SessionBlind.of_pure _
  case h_5 =>
    refine SessionBlind.get_bind fun s => ?_
    split <;> exact SessionBlind.of_pure _
  case h_6 =>
    split
    · exact SessionBlind.of_pure _
    refine SessionBlind.bind (signup_blind hr _) fun got => ?_
    split <;> exact SessionBlind.of_pure _
  case h_7 =>
    refine SessionBlind.bind (readBalance_blind hr) fun ⟨got, rec⟩ => ?_
    dsimp only
    split
    · exact SessionBlind.of_pure _
    · exact SessionBlind.ite (SessionBlind.of_pure _) (SessionBlind.of_pure _)
  case h_8 => exact modify_pure_blind (fun _ => by rfl) (fun _ => by rfl) _
  case h_9 =>
    split
    · exact SessionBlind.of_pure _
    refine SessionBlind.bind (select_blind hr _) fun got => ?_
    split <;> exact SessionBlind.of_pure _
  case h_10 =>
    refine SessionBlind.bind (resolve_blind hr _) fun got => ?_
    split <;> exact SessionBlind.of_pure _
  all_goals exact SessionBlind.of_pure _

end Vestibule.Front
