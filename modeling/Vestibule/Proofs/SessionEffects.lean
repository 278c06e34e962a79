import Vestibule.Proofs.SessionSteps

/-!
What each operation of a browser session may change, said once per operation so that the
statements about runs of operations never open the operations again.

Most operations change a few parts of the session and keep the rest: `Keeps f x` says that
serving `x` leaves the view `f` of the session as it was, and is built up along the operation's
steps. The operations whose effect depends on an answer (a login, a registration, a balance read)
get an inversion lemma that lists every way the session can end. The sign-in callback gets an
exact equation: a page that already ran hands back its result and changes nothing, and otherwise
the flow runs on a fresh page and the session settles according to the outcome.
-/

namespace Vestibule.Balance.Cache

theorem land_start {c : Cache} {f : Flight} (h : c.start = some f) (got : Except Fault Int) :
    (c.land f got).2.2 = c ∨
      ∃ v, got = .ok v ∧ 0 ≤ v ∧ (c.land f got).2.2 = { c with value := v, dirty := false } := by
  unfold start at h
  split at h
  · cases h
    unfold land
    rcases got with e | v
    · exact .inl rfl
    by_cases hv : v < 0
    · simp [hv]
    · right
      refine ⟨v, rfl, by omega, ?_⟩
      simp [hv]
  · cases h

theorem land_after_reset {c : Cache} {f : Flight} (h : f.resetEpoch ≠ c.resetEpoch)
    (got : Except Fault Int) : (c.land f got).2.2 = c := by
  unfold land
  rcases got with e | v
  · rfl
  by_cases hv : v < 0
  · simp [hv]
  · simp [hv, h]

end Vestibule.Balance.Cache

namespace Vestibule.Session

open Vestibule.Auth

variable {σ β : Type}

def Keeps {α : Type} (f : Session → β) (x : StateT Session (StateM σ) α) : Prop :=
  ∀ s w, f (exec x s w).1.2 = f s

namespace Keeps

variable {f : Session → β}

theorem bind {α γ : Type} {x : StateT Session (StateM σ) α} {g : α → StateT Session (StateM σ) γ}
    (hx : Keeps f x) (hg : ∀ a, Keeps f (g a)) : Keeps f (x >>= g) := by
  intro s w
  rw [exec_bind, hg, hx]

theorem of_pure {α : Type} (a : α) : Keeps f (pure a : StateT Session (StateM σ) α) :=
  fun _ _ => rfl

theorem of_get : Keeps f (get : StateT Session (StateM σ) Session) := fun _ _ => rfl

theorem of_lift {α : Type} (y : StateM σ α) :
    Keeps f (StateT.lift y : StateT Session (StateM σ) α) :=
  fun _ _ => rfl

theorem of_modify {g : Session → Session} (h : ∀ s, f (g s) = f s) :
    Keeps f (modify g : StateT Session (StateM σ) PUnit) := fun s _ => h s

theorem of_remote {α : Type} (h : ∀ s c, f { s with client := c } = f s) (r : Reach (StateM σ))
    (call : Remote.Client → Remote.Env (StateM σ) → StateM σ (Except Fault α × Remote.Client)) :
    Keeps f (remote r call) :=
  fun s _ => h s _

theorem ite {α : Type} {c : Prop} [Decidable c] {x y : StateT Session (StateM σ) α}
    (hx : Keeps f x) (hy : Keeps f y) : Keeps f (if c then x else y) := by
  split
  · exact hx
  · exact hy

theorem run_bind {α γ : Type} {x : ExceptT String (StateT Session (StateM σ)) α}
    {g : α → ExceptT String (StateT Session (StateM σ)) γ} (hx : Keeps f x.run)
    (hg : ∀ a, Keeps f (g a).run) : Keeps f (x >>= g).run := by
  intro s w
  rw [exec_run_bind]
  have h := hx s w
  rcases hrun : exec x.run s w with ⟨⟨_ | a, s'⟩, w'⟩ <;> rw [hrun] at h
  · exact h
  · exact (hg a s' w').trans h

end Keeps

@[simp] theorem exec_lift {α : Type} (y : StateM σ α) (s : Session) (w : σ) :
    exec (StateT.lift y : StateT Session (StateM σ) α) s w = (((y.run w).1, s), (y.run w).2) := rfl

section Callback

variable (r : Reach (StateM σ))

/-! ### The sign-in callback -/

/-- The page a sign-in callback for `signals` runs on from `s`: the open page when it is for the
same signals, else a fresh one. -/
def pageFor (s : Session) (signals : Completion.Signals) : Completion.Mount :=
  match s.mount with
  | some mt => if mt.signals == signals then mt else Completion.Mount.fresh signals
  | none => Completion.Mount.fresh signals

theorem pageFor_result (s : Session) (signals : Completion.Signals) :
    (pageFor s signals).result = keptResult s signals := by
  unfold pageFor keptResult
  rcases s.mount with _ | mt
  · rfl
  · by_cases h : mt.signals = signals <;> simp [h, Completion.Mount.fresh]

theorem pageFor_signals (s : Session) (signals : Completion.Signals) :
    (pageFor s signals).signals = signals := by
  unfold pageFor
  rcases s.mount with _ | mt
  · rfl
  · by_cases h : mt.signals = signals <;> simp [h, Completion.Mount.fresh]

theorem mount_eq_pageFor {s : Session} {signals : Completion.Signals} {kept : Completion.Result}
    (h : (pageFor s signals).result = some kept) : s.mount = some (pageFor s signals) := by
  unfold pageFor at h ⊢
  rcases hm : s.mount with _ | mt
  · simp [hm, Completion.Mount.fresh] at h
  · by_cases hs : mt.signals = signals
    · simp [hs]
    · simp [hm, hs, Completion.Mount.fresh] at h

def runsFlow (signals : Completion.Signals) (s : Session) (w : σ) : Bool :=
  (exec ((pageFor s signals).runOnce (completionEnv r) s.routes) s w).1.1.1.2

theorem exec_runOnce_kept (mt : Completion.Mount) (routes : Completion.Routes)
    {kept : Completion.Result} (h : mt.result = some kept) (s : Session) (w : σ) :
    exec (mt.runOnce (completionEnv r) routes) s w = ((((kept, false), mt), s), w) := by
  simp [Completion.Mount.runOnce, h]

theorem exec_runOnce_fresh (mt : Completion.Mount) (routes : Completion.Routes)
    (h : mt.result = none) (s : Session) (w : σ) :
    exec (mt.runOnce (completionEnv r) routes) s w =
      let out := exec (Completion.run (completionEnv r) routes mt.signals) s w
      ((((out.1.1, true), { mt with result := some out.1.1 }), out.1.2), out.2) := by
  simp [Completion.Mount.runOnce, h]
  rfl

theorem runsFlow_eq (signals : Completion.Signals) (s : Session) (w : σ) :
    runsFlow r signals s w = (keptResult s signals).isNone := by
  unfold runsFlow
  rw [← pageFor_result]
  rcases h : (pageFor s signals).result with _ | kept
  · rw [exec_runOnce_fresh r _ _ h]
    rfl
  · rw [exec_runOnce_kept r _ _ h]
    rfl

/-- What a session keeps once a callback run for `signals` ended with `result`: the page with
its result, unless the run was abandoned; a success starts the balance afresh and a
registration keeps the suggested e-mail. -/
def settleRun (signals : Completion.Signals) (result : Completion.Result) (s : Session) : Session :=
  match result.outcome with
  | .abandoned => { s with mount := none }
  | .success => { s with mount := some ⟨signals, some result⟩, balance := s.balance.reset }
  | .signup => { s with mount := some ⟨signals, some result⟩, signupEmail := result.email }
  | .failure => { s with mount := some ⟨signals, some result⟩ }

section Settle

variable (signals : Completion.Signals) (result : Completion.Result) (s : Session)

@[simp] theorem settleRun_auth : (settleRun signals result s).auth = s.auth := by
  unfold settleRun
  split <;> rfl

@[simp] theorem settleRun_cred : (settleRun signals result s).cred = s.cred := by
  unfold settleRun
  split <;> rfl

@[simp] theorem settleRun_slot : (settleRun signals result s).slot = s.slot := by
  unfold settleRun
  split <;> rfl

theorem settleRun_balance : (settleRun signals result s).balance =
    if result.outcome = .success then s.balance.reset else s.balance := by
  unfold settleRun
  split <;> simp_all

theorem settleRun_signupEmail : (settleRun signals result s).signupEmail =
    if result.outcome = .signup then result.email else s.signupEmail := by
  unfold settleRun
  split <;> simp_all

theorem settleRun_mount : (settleRun signals result s).mount =
    if result.outcome = .abandoned then none else some ⟨signals, some result⟩ := by
  unfold settleRun
  split <;> simp_all

end Settle

theorem exec_completeOAuth (signals : Completion.Signals) (s : Session) (w : σ) :
    exec (completeOAuth r signals) s w =
      match keptResult s signals with
      | some kept => ((kept, s), w)
      | none =>
        let out := exec (Completion.run (completionEnv r) s.routes signals) s w
        ((out.1.1, settleRun signals out.1.1 out.1.2),
          ((r.note (.completion out.1.1.outcome.name)).run out.2).2) := by
  unfold completeOAuth
  rw [exec_get_bind]
  show exec ((pageFor s signals).runOnce (completionEnv r) s.routes >>= _) s w = _
  rw [exec_bind, ← pageFor_result]
  rcases hp : (pageFor s signals).result with _ | kept
  · rw [exec_runOnce_fresh r _ _ hp, pageFor_signals]
    dsimp only
    generalize exec (Completion.run (completionEnv r) s.routes signals) s w = out
    obtain ⟨⟨result, s₁⟩, w₁⟩ := out
    cases h : result.outcome <;> simp [settleRun, h, exec_bind] <;> rfl
  · rw [exec_runOnce_kept r _ _ hp]
    dsimp only
    rw [exec_bind, exec_modify, ← mount_eq_pageFor hp]
    rfl

/-! ### What the flow of a callback changes -/

section Frame

variable {f : Session → β} (hc : ∀ s c, f { s with client := c } = f s)
  (ha : ∀ s a, f { s with auth := a } = f s) (hk : ∀ s k, f { s with cred := k } = f s)

include hk in
theorem keeps_storeCredential (tok : String) :
    Keeps f ((completionEnv r).storeCredential tok).run := by
  intro s w
  rw [exec_storeCredential]
  split
  · rfl
  · exact hk s _

include hc ha hk in
theorem keeps_completeSuccess (routes : Completion.Routes) :
    Keeps f (Completion.completeSuccess (completionEnv r) routes).run := by
  unfold Completion.completeSuccess
  refine Keeps.run_bind (fun s _ => hc s _) fun token => ?_
  refine Keeps.run_bind (fun _ _ => rfl) fun live => ?_
  split
  · exact Keeps.of_pure _
  split
  · exact Keeps.of_pure _
  split
  · exact Keeps.of_pure _
  refine Keeps.run_bind (keeps_storeCredential r hk _) fun stored => ?_
  split
  · exact Keeps.of_pure _
  exact Keeps.run_bind (fun s _ => ha s _) fun _ => Keeps.of_pure _

include hc ha in
theorem keeps_completeSignup (routes : Completion.Routes) (info : String) :
    Keeps f (Completion.completeSignup (completionEnv r) routes info).run := by
  unfold Completion.completeSignup
  split
  · exact Keeps.of_pure _
  refine Keeps.run_bind (fun s _ => ha s _) fun _ => ?_
  refine Keeps.run_bind (fun s _ => hc s _) fun email => ?_
  refine Keeps.run_bind (fun _ _ => rfl) fun live => ?_
  split <;> exact Keeps.of_pure _

include hc ha hk in
theorem keeps_run (routes : Completion.Routes) (signals : Completion.Signals) :
    Keeps f (Completion.run (completionEnv r) routes signals) := by
  have hflow : Keeps f (Completion.flow (completionEnv r) routes signals).run := by
    unfold Completion.flow
    refine Keeps.run_bind (fun _ _ => rfl) fun live => ?_
    split
    · exact Keeps.of_pure _
    split
    · exact keeps_completeSuccess r hc ha hk routes
    split
    · exact keeps_completeSignup r hc ha routes _
    · exact Keeps.of_pure _
  unfold Completion.run
  refine Keeps.bind hflow fun out => ?_
  split <;> exact Keeps.of_pure _

end Frame

theorem completeSuccess_succeeds_or_keeps_cred (routes : Completion.Routes) (s : Session) (w : σ) :
    let out := exec (Completion.completeSuccess (completionEnv r) routes).run s w
    (∃ res : Completion.Result, out.1.1 = .ok res ∧ res.outcome = .success) ∨
      out.1.2.cred = s.cred := by
  unfold Completion.completeSuccess
  rw [exec_run_bind, exec_refresh]
  obtain ⟨c, hc⟩ : ∃ c, (exec (remote r fun c env => c.refreshToken env) s w).1.2 =
      { s with client := c } := ⟨_, rfl⟩
  generalize exec (remote r fun c env => c.refreshToken env) s w = call at hc
  obtain ⟨⟨got, s₁⟩, w₁⟩ := call
  dsimp only at hc ⊢
  subst hc
  rw [exec_run_bind, exec_live]
  dsimp only
  cases (StateT.run r.gaveUp w₁).1.isNone
  · exact .inr rfl
  rcases got with e | t
  · exact .inr rfl
  -- only a credential that is stored leads on, and then to a success
  cases hz : credentialIsZero t.accessToken
  · simp only [Bool.not_true, hz, Bool.false_eq_true, if_false]
    rw [exec_run_bind, exec_storeCredential, hz]
    simp only [Bool.false_eq_true, if_false]
    rw [exec_run_bind, exec_authenticate]
    exact .inl ⟨_, rfl, rfl⟩
  · simp only [Bool.not_true, hz, if_true]
    exact .inr rfl

theorem run_succeeds_or_keeps_cred (routes : Completion.Routes) (signals : Completion.Signals)
    (s : Session) (w : σ) :
    let out := exec (Completion.run (completionEnv r) routes signals) s w
    out.1.1.outcome = .success ∨ out.1.2.cred = s.cred := by
  have hflow : let out := exec (Completion.flow (completionEnv r) routes signals).run s w
      (∃ res : Completion.Result, out.1.1 = .ok res ∧ res.outcome = .success) ∨
        out.1.2.cred = s.cred := by
    unfold Completion.flow
    rw [exec_run_bind, exec_live]
    dsimp only
    cases (StateT.run r.gaveUp w).1.isNone
    · exact .inr rfl
    by_cases h₁ : signals.status = "success"
    · simpa [h₁] using completeSuccess_succeeds_or_keeps_cred r routes s _
    by_cases h₂ : signals.status = "continue"
    · simp only [h₂, Bool.not_true, Bool.false_eq_true, if_false, beq_self_eq_true, if_true]
      exact .inr (keeps_completeSignup r (fun _ _ => rfl) (fun _ _ => rfl) routes _ s _)
    · simp [h₁, h₂]
  unfold Completion.run
  rw [exec_bind]
  -- an aborted flow is reported as a failure, with the session the flow left
  rcases hx : exec (Completion.flow (completionEnv r) routes signals).run s w with
    ⟨⟨_ | res, s'⟩, w'⟩
  · rw [hx] at hflow
    exact .inr (by simpa using hflow)
  · rw [hx] at hflow
    simpa using hflow

end Callback

/-! ### The other operations -/

section Operations

variable (r : Reach (StateM σ))

theorem exec_remote_bind {α γ : Type}
    (call : Remote.Client → Remote.Env (StateM σ) → StateM σ (Except Fault α × Remote.Client))
    (g : Except Fault α → StateT Session (StateM σ) γ) (s : Session) (w : σ) :
    exec (remote r call >>= g) s w =
      exec (g (exec (remote r call) s w).1.1)
        { s with client := (exec (remote r call) s w).1.2.client } (exec (remote r call) s w).2 :=
  rfl

theorem exec_login_cases (email password : String) (s : Session) (w : σ) :
    let out := exec (login r email password) s w
    (∃ e, out.1.1 = .error e ∧ out.1.2 = { s with client := out.1.2.client }) ∨
      ∃ t : TokenResult, out.1.1 = .ok t.user ∧
        out.1.2 = { s with client := out.1.2.client, cred := ⟨t.accessToken⟩,
                           auth := s.auth.authenticate t.user, balance := s.balance.reset } := by
  unfold login
  dsimp only
  rw [exec_ite]
  split
  · exact .inl ⟨_, rfl, rfl⟩
  rw [exec_remote_bind]
  split
  · rw [exec_ite]
    split <;> exact .inl ⟨_, rfl, rfl⟩
  rename_i t _
  rw [exec_bind, exec_commitCredential]
  cases hz : credentialIsZero t.accessToken
  · simp only [Bool.false_eq_true, if_false]
    rw [exec_bind]
    exact .inr ⟨t, rfl, rfl⟩
  · exact .inl ⟨_, rfl, rfl⟩

theorem exec_signup_cases (form : Form) (s : Session) (w : σ) :
    let out := exec (signup r form) s w
    (∃ e, out.1.1 = .error e ∧
        out.1.2 = { s with client := out.1.2.client, auth := out.1.2.auth }) ∨
      ∃ t : TokenResult, out.1.1 = .ok t.user ∧
        out.1.2 = { s with client := out.1.2.client, cred := ⟨t.accessToken⟩, auth := out.1.2.auth,
                           balance := s.balance.reset, signupEmail := "" } := by
  unfold signup
  rw [exec_get_bind]
  rcases s.auth.pending? with _ | i
  · exact .inl ⟨_, rfl, rfl⟩
  dsimp only
  rw [exec_ite]
  split
  · exact .inl ⟨_, rfl, rfl⟩
  rw [exec_bind, exec_modify]
  dsimp only
  rw [exec_get_bind, exec_ite]
  split
  · exact .inl ⟨_, rfl, rfl⟩
  rw [exec_remote_bind]
  split
  · exact .inl ⟨_, rfl, rfl⟩
  rename_i t _
  rw [exec_bind, exec_commitCredential]
  cases hz : credentialIsZero t.accessToken
  · simp only [Bool.false_eq_true, if_false]
    rw [exec_bind, exec_modify, exec_bind, exec_modify]
    exact .inr ⟨t, rfl, rfl⟩
  · exact .inl ⟨_, rfl, rfl⟩

def balanceAnswer (s : Session) (w : σ) : Except Fault Int :=
  ((s.client.balance (remoteEnv r s (pure none))).run w).1.1

theorem exec_readBalance_cases (s : Session) (w : σ) :
    let out := exec (readBalance r) s w
    out.1.2 = { s with client := out.1.2.client, balance := out.1.2.balance } ∧
      (out.1.2.balance = s.balance ∨
        s.auth.isAuthenticated = true ∧ s.balance.dirty = true ∧
          ∃ v, balanceAnswer r s w = .ok v ∧ 0 ≤ v ∧
            out.1.2.balance = { s.balance with value := v, dirty := false }) := by
  unfold readBalance
  rw [exec_get_bind]
  cases hauth : s.auth.isAuthenticated
  · exact ⟨rfl, .inl rfl⟩
  simp only [Bool.not_true, Bool.false_eq_true, if_false, true_and]
  rcases hstart : s.balance.start with _ | flight
  · exact ⟨rfl, .inl rfl⟩
  have hdirty : s.balance.dirty = true := by
    unfold Balance.Cache.start at hstart
    split at hstart <;> simp_all
  rw [exec_bind, exec_lift]
  have hans : balanceAnswer r s w = ((s.client.balance (remoteEnv r s (pure none))).run w).1.1 :=
    rfl
  generalize (s.client.balance (remoteEnv r s (pure none))).run w = call at hans
  obtain ⟨⟨got, c⟩, w₁⟩ := call
  dsimp only at hans ⊢
  rw [exec_bind, exec_modify, exec_get_bind]
  dsimp only
  -- the flight lands on the cache it started from: only the client changed meanwhile
  have hland := Balance.Cache.land_start hstart got
  generalize s.balance.land flight got = l at hland
  obtain ⟨reply, landing, cache⟩ := l
  dsimp only at hland ⊢
  rw [exec_bind, exec_modify]
  dsimp only
  rw [exec_bind, exec_lift]
  dsimp only
  -- whatever the reply, the session keeps the new client and the landed cache
  rcases reply.failure with _ | e <;> dsimp only <;>
    exact ⟨rfl, hland.imp (fun h => h) fun ⟨v, hv, hpos, h⟩ => ⟨hdirty, v, hans.trans hv, hpos, h⟩⟩

section Frame

variable {f : Session → β} (hc : ∀ s c, f { s with client := c } = f s)
  (hs : ∀ s sl, f { s with slot := sl } = f s)
include hc

theorem keeps_handoffSelect (route : String) (id : Int) (slot : Handoff.Slot) :
    Keeps f (Handoff.select (handoffApi r) route id slot) := by
  unfold Handoff.select
  refine Keeps.ite (Keeps.of_pure _) ?_
  -- naming the request spares Lean from running it to find it
  refine Keeps.bind (Keeps.of_remote hc r fun c env => c.createSession env id) fun got => ?_
  split
  · exact Keeps.of_pure _
  · exact Keeps.ite (Keeps.of_pure _) (Keeps.of_pure _)

include hs in
theorem keeps_select (id : Int) : Keeps f (select r id) := by
  unfold select
  refine Keeps.bind Keeps.of_get fun _ => Keeps.ite (Keeps.of_pure _) ?_
  refine Keeps.bind Keeps.of_get fun _ => Keeps.bind Keeps.of_get fun _ => ?_
  refine Keeps.bind (keeps_handoffSelect r hc _ _ _) fun ⟨got, slot⟩ => ?_
  exact Keeps.bind (Keeps.of_modify fun s => hs s _) fun _ => Keeps.of_pure _

theorem keeps_handoffResolve (sessionId : List UInt8) (slot : Handoff.Slot) :
    Keeps f (Handoff.resolve (handoffApi r) sessionId slot) := by
  have fetch (id : List UInt8) (slot : Handoff.Slot) :
      Keeps f (Handoff.resolve.fetch (handoffApi r) id slot) := by
    unfold Handoff.resolve.fetch
    refine Keeps.bind (Keeps.of_remote hc r fun c env => c.chatSession env id) fun got => ?_
    split <;> exact Keeps.of_pure _
  unfold Handoff.resolve
  dsimp only
  refine Keeps.ite (Keeps.of_pure _) ?_
  split
  · exact Keeps.ite (Keeps.of_pure _) (fetch _ _)
  · exact fetch _ _

include hs in
theorem keeps_resolve (sessionId : List UInt8) : Keeps f (resolve r sessionId) := by
  unfold resolve
  refine Keeps.bind Keeps.of_get fun _ => Keeps.ite (Keeps.of_pure _) ?_
  refine Keeps.bind Keeps.of_get fun _ => ?_
  refine Keeps.bind (keeps_handoffResolve r hc _ _) fun ⟨got, slot⟩ => ?_
  refine Keeps.bind (Keeps.of_modify fun s => hs s _) fun _ => ?_
  dsimp only
  split
  · exact Keeps.bind (Keeps.of_lift _) fun _ => Keeps.of_pure _
  · exact Keeps.of_pure _

end Frame

theorem exec_logout_state (s : Session) (w : σ) :
    (exec (logout r) s w).1.2 =
      { s with client := (exec (logout r) s w).1.2.client, auth := State.initial,
               cred := CredentialStore.empty, balance := s.balance.reset, slot := Handoff.Slot.empty,
               mount := none, signupEmail := "" } := by
  unfold logout
  rw [exec_get_bind]
  split <;> rfl

end Operations

end Vestibule.Session
