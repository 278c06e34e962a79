import Vestibule.Proofs.SessionEffects

/-!
Requests of one browser that overlap a logout. An operation that waits on the service is cut at
its remote call: the request goes out from the session as the operation finds it, and the rest of
the operation runs on the session as it is when the answer arrives, after whatever the browser's
other requests did meanwhile. With nothing in between, the two halves make up the operation
(`exec_readBalance_split`, `exec_select_split`, `completeSuccess_eq`, `completeSignup_eq`).

When a logout completes while the operation waits:
* a balance read lands nothing, since the logout started the balance afresh and the flight is
  stale;
* a sign-in callback's run abandons and commits nothing, since the logout closed its page and the
  run asks whether its page is live before anything else;
* opening a chat room still writes the room it was given into the hand-off slot the logout had
  emptied: nothing in the opening looks at the session once the room arrives.
-/

namespace Vestibule.Completion

open Vestibule.Auth

variable {m : Type → Type} [Monad m]

/-- The environment of a page that has been closed: the page is no longer live. A logout closes
the page it finds open, and a page that another callback replaced was closed then. -/
def Env.closed (env : Env m) : Env m := { env with live := pure false }

/-- The rest of the success path once the credential request answered `token`. -/
def successResume (env : Env m) (routes : Routes) (token : Except Fault TokenResult) :
    m Result := do
  if !(← env.live) then return abandon "mount closed during token refresh"
  match token with
  | .error e => return failed routes ("token refresh failed: " ++ e.message)
  | .ok t =>
    if credentialIsZero t.accessToken then return failed routes "token refresh returned no credential"
    match ← env.storeCredential t.accessToken with
    | .error e => return failed routes ("store credential: " ++ e.message)
    | .ok () =>
      env.authenticate t.user
      return ⟨.success, routes.landing, "", ""⟩

/-- The rest of the registration path once the e-mail request answered `email`. -/
def signupResume (env : Env m) (routes : Routes) (email : Except Fault String) : m Result := do
  if !(← env.live) then return abandon "mount closed during email lookup"
  let email := match email with
    | .ok e => Text.trim e
    | .error _ => ""
  return ⟨.signup, routes.signup, email, ""⟩

theorem completeSuccess_eq (env : Env m) (routes : Routes) :
    completeSuccess env routes = env.refreshToken >>= successResume env routes := rfl

theorem completeSignup_eq (env : Env m) (routes : Routes) (info : String) :
    completeSignup env routes info =
      match ProviderToken.decode info with
      | .error e => pure (failed routes e.message)
      | .ok identity =>
        env.awaitSignup identity >>= fun _ => env.pendingEmail >>= signupResume env routes := by
  unfold completeSignup
  cases ProviderToken.decode info <;> rfl

variable [LawfulMonad m]

theorem successResume_closed (env : Env m) (routes : Routes) (token : Except Fault TokenResult) :
    successResume env.closed routes token = pure (abandon "mount closed during token refresh") := by
  simp [successResume, Env.closed]

theorem signupResume_closed (env : Env m) (routes : Routes) (email : Except Fault String) :
    signupResume env.closed routes email = pure (abandon "mount closed during email lookup") := by
  simp [signupResume, Env.closed]

end Vestibule.Completion

namespace Vestibule.Handoff

def Api.answered {m : Type → Type} [Monad m] (got : Except Fault Record) : Api m :=
  ⟨fun _ => pure got, fun _ => pure got⟩

def Record.forCounterpart (id : Int) (r : Record) : Record :=
  if r.counterpartId == 0 then { r with counterpartId := id } else r

section Answered

variable {m : Type → Type} [Monad m] [LawfulMonad m]

theorem select_answered (api : Api m) (chatRoute : String) {id : Int} (hid : 0 < id) (slot : Slot) :
    select api chatRoute id slot =
      api.createSession id >>= fun got => select (Api.answered got) chatRoute id slot := by
  have h : ¬ id ≤ 0 := by omega
  simp [select, h, Api.answered]

theorem select_answered_room {id : Int} (hid : 0 < id) (room : Record) (hz : room.isZero = false)
    (chatRoute : String) (slot : Slot) :
    (select (Api.answered (.ok room)) chatRoute id slot : m _) =
      pure (.ok (destination chatRoute (room.forCounterpart id).sessionId),
        slot.write (room.forCounterpart id)) := by
  have h : ¬ id ≤ 0 := by omega
  simp [select, h, Api.answered, hz, Record.forCounterpart]

end Answered

end Vestibule.Handoff

namespace Vestibule.Balance.Cache

theorem start_stale_after_reset {c : Cache} {f : Flight} (h : c.start = some f) :
    f.resetEpoch ≠ c.reset.resetEpoch := by
  unfold start at h
  split at h
  · cases h
    intro he
    -- the reset epoch moved by one, which no count modulo 2^64 undoes
    have := congrArg UInt64.toNat he
    simp [reset, UInt64.toNat_add] at this
    omega
  · cases h

end Vestibule.Balance.Cache

namespace Vestibule.Session

open Vestibule.Auth

variable {σ : Type}

section Resume

variable {m : Type → Type} [Monad m]

/-- The rest of a balance read once its request answered `got` through the client `c`: the
flight lands on the balance the session holds then. -/
def balanceResume (r : Reach m) (flight : Balance.Flight) (got : Except Fault Int)
    (c : Remote.Client) : StateT Session m (Except Fault Balance.Record × Balance.Record) := do
  modify fun s => { s with client := c }
  let cache := (← get).balance
  let (reply, landing, cache) := cache.land flight got
  modify fun s => { s with balance := cache }
  StateT.lift (r.note (.balanceFetch landing.label))
  match reply.failure with
  | some e => return (.error (remoteError e "failed to load balance"), cache.snapshot)
  | none => return (.ok cache.snapshot, cache.snapshot)

/-- The rest of opening a chat room once the room request answered `got`: the answer is checked
and written against the hand-off slot the session holds then. -/
def selectResume (id : Int) (got : Except Fault Handoff.Record) :
    StateT Session m (Except Fault String) := do
  let (res, slot) ← Handoff.select (Handoff.Api.answered got) (← get).chatRoute id (← get).slot
  modify fun s => { s with slot := slot }
  return res

end Resume

theorem exec_readBalance_split (r : Reach (StateM σ)) (s : Session) (w : σ)
    {flight : Balance.Flight} (ha : s.auth.isAuthenticated = true)
    (hf : s.balance.start = some flight) :
    let call := (s.client.balance (remoteEnv r s (pure none))).run w
    exec (readBalance r) s w = exec (balanceResume r flight call.1.1 call.1.2) s call.2 := by
  unfold readBalance
  rw [exec_get_bind]
  simp only [ha, Bool.not_true, Bool.false_eq_true, if_false, hf]
  rfl

theorem exec_select_split (r : Reach (StateM σ)) (s : Session) (w : σ) {id : Int}
    (ha : s.auth.isAuthenticated = true) (hid : 0 < id) :
    let call := exec (remote r fun c env => c.createSession env id) s w
    exec (select r id) s w = exec (selectResume id call.1.1) call.1.2 call.2 := by
  unfold select
  rw [exec_get_bind]
  simp only [ha, Bool.not_true, Bool.false_eq_true, if_false]
  -- the request only moved the client, so the slot read before it is the slot read after
  rw [exec_get_bind, exec_get_bind, Handoff.select_answered _ _ hid]
  rfl

theorem exec_balanceResume_stale (r : Reach (StateM σ)) {flight : Balance.Flight}
    (got : Except Fault Int) (c : Remote.Client) (s : Session) (w : σ)
    (h : flight.resetEpoch ≠ s.balance.resetEpoch) :
    (exec (balanceResume r flight got c) s w).1.2 = { s with client := c } := by
  unfold balanceResume
  rw [exec_bind, exec_modify, exec_get_bind]
  dsimp only
  have hland := Balance.Cache.land_after_reset h got
  generalize s.balance.land flight got = l at hland
  obtain ⟨reply, landing, cache⟩ := l
  dsimp only at hland ⊢
  subst hland
  rw [exec_bind, exec_modify, exec_bind, exec_lift]
  rcases reply.failure with _ | e <;> rfl

theorem exec_selectResume_room {id : Int} (hid : 0 < id) (room : Handoff.Record)
    (hz : room.isZero = false) (s : Session) (w : σ) :
    (exec (selectResume id (.ok room)) s w).1.2 =
      { s with slot := s.slot.write (room.forCounterpart id) } := by
  unfold selectResume
  rw [exec_get_bind, exec_get_bind, Handoff.select_answered_room hid room hz]
  rfl

theorem balance_read_lands_nothing_after_logout (r r' : Reach (StateM σ)) (s : Session)
    (w w' : σ) {flight : Balance.Flight} (hf : s.balance.start = some flight)
    (got : Except Fault Int) (c : Remote.Client) :
    let s' := (exec (logout r') s w').1.2
    (exec (balanceResume r flight got c) s' w).1.2 = { s' with client := c } := by
  intro s'
  have hs' : s' = _ := exec_logout_state r' s w'
  apply exec_balanceResume_stale
  rw [hs']
  exact Balance.Cache.start_stale_after_reset hf

theorem callback_commits_nothing_after_logout (r r' : Reach (StateM σ)) (s : Session) (w w' : σ)
    (routes : Completion.Routes) (signals : Completion.Signals)
    (token : Except Fault TokenResult) (email : Except Fault String) :
    let s' := (exec (logout r') s w').1.2
    let env := (completionEnv r).closed
    exec (Completion.successResume env routes token).run s' w =
        ((.ok (Completion.abandon "mount closed during token refresh"), s'), w) ∧
      exec (Completion.signupResume env routes email).run s' w =
        ((.ok (Completion.abandon "mount closed during email lookup"), s'), w) ∧
      ∀ reason, settleRun signals (Completion.abandon reason) s' = s' := by
  intro s' env
  refine ⟨by rw [Completion.successResume_closed]; rfl, by rw [Completion.signupResume_closed]; rfl,
    fun reason => ?_⟩
  -- the logout already dropped the page, which is all an abandoned run settles
  have hs' : s' = _ := exec_logout_state r' s w'
  rw [hs']
  rfl

theorem late_room_refills_slot_after_logout (r' : Reach (StateM σ)) (s : Session) (w w' : σ)
    {id : Int} (hid : 0 < id) (room : Handoff.Record) (hz : room.isZero = false) :
    let s' := (exec (logout r') s w').1.2
    s'.slot = Handoff.Slot.empty ∧
      (exec (selectResume id (.ok room)) s' w).1.2 =
        { s' with slot := ⟨some (room.forCounterpart id)⟩ } := by
  intro s'
  have hs' : s' = _ := exec_logout_state r' s w'
  exact ⟨by rw [hs'], exec_selectResume_room hid room hz s' w⟩

end Vestibule.Session
