import Vestibule.Session

/-!
Serving requests of one browser session against an outside world that is any state `σ`: the
remote service, the clock and the browser's giving up are whatever a `Reach` over `StateM σ`
makes of that state, so every answer the service may give is covered. The lemmas below say, one
operation at a time, what serving it does to the sign-in state and the credential store.
-/

namespace Vestibule.Session

open Vestibule.Auth

variable {σ : Type}

def exec {α : Type} (x : StateT Session (StateM σ) α) (s : Session) (w : σ) :
    (α × Session) × σ :=
  (x.run s).run w

@[simp] theorem exec_pure {α : Type} (a : α) (s : Session) (w : σ) :
    exec (pure a : StateT Session (StateM σ) α) s w = ((a, s), w) := rfl

theorem exec_bind {α β : Type} (x : StateT Session (StateM σ) α)
    (f : α → StateT Session (StateM σ) β) (s : Session) (w : σ) :
    exec (x >>= f) s w = exec (f (exec x s w).1.1) (exec x s w).1.2 (exec x s w).2 := rfl

theorem exec_get_bind {α : Type} (f : Session → StateT Session (StateM σ) α) (s : Session) (w : σ) :
    exec (get >>= f) s w = exec (f s) s w := rfl

@[simp] theorem exec_modify (f : Session → Session) (s : Session) (w : σ) :
    exec (modify f : StateT Session (StateM σ) PUnit) s w = ((⟨⟩, f s), w) := rfl

theorem exec_ite {α : Type} {c : Prop} [Decidable c] (x y : StateT Session (StateM σ) α)
    (s : Session) (w : σ) :
    exec (if c then x else y) s w = if c then exec x s w else exec y s w := by
  split <;> rfl

def Settled (s s' : Session) : Prop := s'.auth = s.auth ∧ s'.cred = s.cred

theorem Settled.refl (s : Session) : Settled s s := ⟨rfl, rfl⟩

theorem Settled.trans {s₁ s₂ s₃ : Session} (h₁ : Settled s₁ s₂) (h₂ : Settled s₂ s₃) :
    Settled s₁ s₃ :=
  ⟨h₂.1.trans h₁.1, h₂.2.trans h₁.2⟩

/-- A computation that, served from any session at any world, leaves the sign-in state and the
credential store as they were. -/
def Steady {α : Type} (x : StateT Session (StateM σ) α) : Prop :=
  ∀ s w, Settled s (exec x s w).1.2

namespace Steady

theorem bind {α β : Type} {x : StateT Session (StateM σ) α}
    {f : α → StateT Session (StateM σ) β} (hx : Steady x) (hf : ∀ a, Steady (f a)) :
    Steady (x >>= f) := by
  intro s w
  have first := hx s w
  have rest := hf (exec x s w).1.1 (exec x s w).1.2 (exec x s w).2
  exact first.trans rest

theorem of_pure {α : Type} (a : α) : Steady (pure a : StateT Session (StateM σ) α) :=
  fun s _ => Settled.refl s

theorem of_get : Steady (get : StateT Session (StateM σ) Session) :=
  fun s _ => Settled.refl s

theorem of_lift {α : Type} (y : StateM σ α) :
    Steady (StateT.lift y : StateT Session (StateM σ) α) :=
  fun s _ => Settled.refl s

theorem of_modify {f : Session → Session} (h : ∀ s, Settled s (f s)) :
    Steady (modify f : StateT Session (StateM σ) PUnit) :=
  fun s _ => h s

theorem of_remote {α : Type} (r : Reach (StateM σ))
    (call : Remote.Client → Remote.Env (StateM σ) → StateM σ (Except Fault α × Remote.Client)) :
    Steady (Session.remote r call) :=
  fun s _ => Settled.refl s

theorem ite {α : Type} {c : Prop} [Decidable c] {x y : StateT Session (StateM σ) α}
    (hx : Steady x) (hy : Steady y) : Steady (if c then x else y) := by
  split
  · exact hx
  · exact hy

end Steady

def signIn (s : Session) : Option User × CredentialStore := (s.auth.user?, s.cred)

theorem Settled.signIn_eq {s s' : Session} (h : Settled s s') : s'.signIn = s.signIn := by
  simp [signIn, h.1, h.2]

/-- How serving one call may leave the sign-in: as it was, with nobody signed in, or signed in
as the user of a token result `t` the service granted the call, holding `t`'s credential, which
is not blank. -/
def Moves (s s' : Session) (grant : Option (Except Fault TokenResult)) : Prop :=
  s'.signIn = s.signIn ∨ s'.auth.user? = none ∨
    ∃ t, grant = some (.ok t) ∧ credentialIsZero t.accessToken = false ∧
      s'.signIn = (some t.user, ⟨t.accessToken⟩)

namespace Moves

variable {s s₁ s' : Session} {g : Option (Except Fault TokenResult)}

theorem of_settled (h : Settled s s') : Moves s s' g := .inl h.signIn_eq

theorem of_signOut (h : s'.auth.user? = none) : Moves s s' g := .inr (.inl h)

theorem of_grant {t : TokenResult} (hg : g = some (.ok t)) (hz : credentialIsZero t.accessToken = false)
    (hu : s'.auth.user? = some t.user) (hc : s'.cred = ⟨t.accessToken⟩) : Moves s s' g :=
  .inr (.inr ⟨t, hg, hz, by simp [signIn, hu, hc]⟩)

theorem settle (hm : Moves s s₁ g) (h : Settled s₁ s') : Moves s s' g := by
  rcases hm with hs | hn | ⟨t, hg, hz, hs⟩
  · exact .inl (h.signIn_eq.trans hs)
  · exact .inr (.inl (h.1 ▸ hn))
  · exact .inr (.inr ⟨t, hg, hz, h.signIn_eq.trans hs⟩)

theorem bind {α β : Type} {x : StateT Session (StateM σ) α} {f : α → StateT Session (StateM σ) β}
    {w : σ} (hx : Moves s (exec x s w).1.2 g) (hf : ∀ a, Steady (f a)) :
    Moves s (exec (x >>= f) s w).1.2 g := by
  rw [exec_bind]
  exact hx.settle (hf _ _ _)

end Moves

theorem steady_readBalance (r : Reach (StateM σ)) : Steady (readBalance r) := by
  unfold readBalance
  refine Steady.bind Steady.of_get fun s => Steady.ite (Steady.of_pure _) ?_
  split
  · exact Steady.of_pure _
  refine Steady.bind (Steady.of_lift _) fun ⟨got, c⟩ => ?_
  refine Steady.bind (Steady.of_modify fun _ => ⟨rfl, rfl⟩) fun _ => ?_
  refine Steady.bind Steady.of_get fun s' => ?_
  dsimp only
  refine Steady.bind (Steady.of_modify fun _ => ⟨rfl, rfl⟩) fun _ => ?_
  refine Steady.bind (Steady.of_lift _) fun _ => ?_
  split <;> exact Steady.of_pure _

theorem steady_handoffSelect (r : Reach (StateM σ)) (route : String) (id : Int)
    (slot : Handoff.Slot) : Steady (Handoff.select (handoffApi r) route id slot) := by
  unfold Handoff.select
  refine Steady.ite (Steady.of_pure _) ?_
  -- naming the request spares Lean from running it to find it
  refine Steady.bind (Steady.of_remote r fun c env => c.createSession env id) fun got => ?_
  split
  · exact Steady.of_pure _
  · exact Steady.ite (Steady.of_pure _) (Steady.of_pure _)

theorem steady_select (r : Reach (StateM σ)) (id : Int) : Steady (select r id) := by
  unfold select
  refine Steady.bind Steady.of_get fun s => Steady.ite (Steady.of_pure _) ?_
  refine Steady.bind Steady.of_get fun s₁ => Steady.bind Steady.of_get fun s₂ => ?_
  refine Steady.bind (steady_handoffSelect _ _ _ _) fun ⟨got, slot⟩ => ?_
  exact Steady.bind (Steady.of_modify fun _ => ⟨rfl, rfl⟩) fun _ => Steady.of_pure _

theorem steady_handoffResolve (r : Reach (StateM σ)) (sessionId : List UInt8)
    (slot : Handoff.Slot) : Steady (Handoff.resolve (handoffApi r) sessionId slot) := by
  have fetch (id : List UInt8) (slot : Handoff.Slot) :
      Steady (Handoff.resolve.fetch (handoffApi r) id slot) := by
    unfold Handoff.resolve.fetch
    refine Steady.bind (Steady.of_remote r fun c env => c.chatSession env id) fun got => ?_
    split <;> exact Steady.of_pure _
  unfold Handoff.resolve
  dsimp only
  refine Steady.ite (Steady.of_pure _) ?_
  split
  · exact Steady.ite (Steady.of_pure _) (fetch _ _)
  · exact fetch _ _

theorem steady_resolve (r : Reach (StateM σ)) (sessionId : List UInt8) :
    Steady (resolve r sessionId) := by
  unfold resolve
  refine Steady.bind Steady.of_get fun s => Steady.ite (Steady.of_pure _) ?_
  refine Steady.bind Steady.of_get fun s₁ => ?_
  refine Steady.bind (steady_handoffResolve _ _ _) fun ⟨got, slot⟩ => ?_
  refine Steady.bind (Steady.of_modify fun _ => ⟨rfl, rfl⟩) fun _ => ?_
  dsimp only
  split
  · exact Steady.bind (Steady.of_lift _) fun _ => Steady.of_pure _
  · exact Steady.of_pure _

theorem steady_invalidate : Steady (modify invalidate : StateT Session (StateM σ) PUnit) :=
  Steady.of_modify fun _ => ⟨rfl, rfl⟩

theorem steady_close : Steady (modify close : StateT Session (StateM σ) PUnit) :=
  Steady.of_modify fun _ => ⟨rfl, rfl⟩

theorem exec_logout (r : Reach (StateM σ)) (s : Session) (w : σ) :
    (exec (logout r) s w).1.2.auth = State.initial ∧
      (exec (logout r) s w).1.2.cred = CredentialStore.empty := by
  unfold logout
  rw [exec_get_bind]
  split <;> exact ⟨rfl, rfl⟩

theorem logout_moves (r : Reach (StateM σ)) (s : Session) (w : σ) (g : Option (Except Fault TokenResult)) :
    Moves s (exec (logout r) s w).1.2 g :=
  Moves.of_signOut (by rw [(exec_logout r s w).1]; rfl)

theorem exec_commitCredential (t : TokenResult) (s : Session) (w : σ) :
    exec (commitCredential t : StateT Session (StateM σ) _) s w =
      if credentialIsZero t.accessToken then
        ((.error (Fault.fresh "unavailable" "remote returned no credential"), s), w)
      else ((.ok (), { s with cred := ⟨t.accessToken⟩ }), w) := by
  unfold commitCredential
  cases h : credentialIsZero t.accessToken
  · simp [h, exec_get_bind, CredentialStore.set]
    rfl
  · simp

/-- The answer the service gives to the request of a login from `s` at `w`, when the login
gets as far as asking. -/
def loginGrant (r : Reach (StateM σ)) (email password : String) (s : Session) (w : σ) :
    Option (Except Fault TokenResult) :=
  if (Text.trim email).isEmpty || password.isEmpty then none
  else some (exec (remote r fun c env => c.login env (Text.trim email) password) s w).1.1

theorem exec_login (r : Reach (StateM σ)) (email password : String) (s : Session) (w : σ) :
    let out := exec (login r email password) s w
    (∀ u, out.1.1 = .ok u → ∃ t, loginGrant r email password s w = some (.ok t) ∧ t.user = u ∧
      credentialIsZero t.accessToken = false ∧ out.1.2.cred = ⟨t.accessToken⟩ ∧
      out.1.2.auth = s.auth.authenticate t.user) ∧
    ((∃ e, out.1.1 = .error e) → Settled s out.1.2) := by
  unfold login loginGrant
  dsimp only
  rw [exec_ite]
  split
  · simp [Settled.refl]
  rw [exec_bind]
  -- the login call changes only the client; what follows depends on its answer alone
  have hs₁ := Steady.of_remote r (fun c env => c.login env (Text.trim email) password) s w
  generalize exec (remote r fun c env => c.login env (Text.trim email) password) s w = call at hs₁
  obtain ⟨⟨got, s₁⟩, w₁⟩ := call
  dsimp only at hs₁ ⊢
  rcases got with e | t
  · dsimp only
    rw [exec_ite]
    split <;> simpa using hs₁
  rw [exec_bind, exec_commitCredential]
  cases hz : credentialIsZero t.accessToken
  · simp only [Bool.false_eq_true, if_false]
    rw [exec_bind]
    simp [hs₁.1, hz]
  · simpa using hs₁

theorem login_moves (r : Reach (StateM σ)) (email password : String) (s : Session) (w : σ) :
    Moves s (exec (login r email password) s w).1.2 (loginGrant r email password s w) := by
  obtain ⟨hok, herr⟩ := exec_login r email password s w
  rcases hout : (exec (login r email password) s w).1.1 with e | u
  · exact Moves.of_settled (herr ⟨e, hout⟩)
  · obtain ⟨t, hg, rfl, hz, hc, ha⟩ := hok u hout
    exact Moves.of_grant hg hz (by rw [ha]; rfl) hc

def signupRequest (i : PendingIdentity) (form : Form) : Remote.SignupForm :=
  ⟨i.provider, i.providerId, Text.trim form.email, Text.trim form.displayName,
    some (Text.normalSet form.agreements)⟩

/-- The answer the service gives to the request of a registration from `s` at `w`, when the
registration gets as far as asking. The request is made once the agreements are recorded. -/
def signupGrant (r : Reach (StateM σ)) (form : Form) (s : Session) (w : σ) :
    Option (Except Fault TokenResult) :=
  match s.auth.pending? with
  | none => none
  | some i =>
    if (Text.trim form.email).isEmpty || (Text.trim form.displayName).isEmpty ||
        (Text.normalSet form.agreements).isEmpty then none
    else some (exec (remote r fun c env => c.signup env (signupRequest i form))
      { s with auth := s.auth.recordConsent form.agreements } w).1.1

theorem exec_signup (r : Reach (StateM σ)) (form : Form) (s : Session) (w : σ) :
    let out := exec (signup r form) s w
    (∀ u, out.1.1 = .ok u → ∃ t, signupGrant r form s w = some (.ok t) ∧ t.user = u ∧
      credentialIsZero t.accessToken = false ∧ out.1.2.cred = ⟨t.accessToken⟩ ∧
      out.1.2.auth = (s.auth.recordConsent form.agreements).authenticate t.user) ∧
    ((∃ e, out.1.1 = .error e) → out.1.2.cred = s.cred ∧
      (out.1.2.auth = s.auth ∨ out.1.2.auth = s.auth.recordConsent form.agreements)) := by
  unfold signup signupGrant
  rw [exec_get_bind]
  rcases hp : s.auth.pending? with _ | i
  · simp
  dsimp only
  rw [exec_ite]
  split
  · simp
  rename_i hf
  rw [exec_bind, exec_modify]
  dsimp only
  rw [exec_get_bind, exec_ite]
  -- the consent checked is the one just recorded, and it is what the request carries
  have hconsent : (s.auth.recordConsent form.agreements).consent = Text.normalSet form.agreements :=
    rfl
  have hreq : (⟨i.provider, i.providerId, Text.trim form.email, Text.trim form.displayName,
      some (Text.normalSet form.agreements)⟩ : Remote.SignupForm) = signupRequest i form := rfl
  rw [hconsent, hreq]
  by_cases hc : (Text.normalSet form.agreements).isEmpty = true
  · simp [hc]
  simp only [Bool.not_eq_true] at hf hc
  simp only [hf, hc, Bool.false_or, Bool.false_eq_true, if_false]
  rw [exec_bind]
  -- the registration call changes only the client
  have hs₁ := Steady.of_remote r (fun c env => c.signup env (signupRequest i form))
    { s with auth := s.auth.recordConsent form.agreements } w
  generalize exec (remote r fun c env => c.signup env (signupRequest i form))
    { s with auth := s.auth.recordConsent form.agreements } w = call at hs₁
  obtain ⟨⟨got, s₁⟩, w₁⟩ := call
  obtain ⟨ha, hcred⟩ := hs₁
  dsimp only at ha hcred ⊢
  rcases got with e | t
  · simp [ha, hcred]
  rw [exec_bind, exec_commitCredential]
  cases hz : credentialIsZero t.accessToken
  · simp only [Bool.false_eq_true, if_false]
    rw [exec_bind, exec_modify, exec_bind]
    simp [ha, hz]
  · simp [ha, hcred]

theorem signup_moves (r : Reach (StateM σ)) (form : Form) (s : Session) (w : σ) :
    Moves s (exec (signup r form) s w).1.2 (signupGrant r form s w) := by
  obtain ⟨hok, herr⟩ := exec_signup r form s w
  rcases hout : (exec (signup r form) s w).1.1 with e | u
  · obtain ⟨hc, ha⟩ := herr ⟨e, hout⟩
    -- recording the agreements leaves the standing as it was
    have hu : (exec (signup r form) s w).1.2.auth.user? = s.auth.user? := by
      rcases ha with ha | ha
      · rw [ha]
      · rw [ha]
        rfl
    exact .inl (by rw [signIn, signIn, hu, hc])
  · obtain ⟨t, hg, rfl, hz, hc, ha⟩ := hok u hout
    exact Moves.of_grant hg hz (by rw [ha]; rfl) hc

section Callback

variable (r : Reach (StateM σ))

theorem exec_run_bind {α β : Type} (x : ExceptT String (StateT Session (StateM σ)) α)
    (f : α → ExceptT String (StateT Session (StateM σ)) β) (s : Session) (w : σ) :
    exec (x >>= f).run s w = match exec x.run s w with
      | ((.ok a, s'), w') => exec (f a).run s' w'
      | ((.error e, s'), w') => ((.error e, s'), w') := by
  simp only [exec, ExceptT.run_bind, StateT.run_bind]
  rcases (x.run.run s).run w with ⟨⟨_ | a, s'⟩, w'⟩ <;> rfl

theorem exec_live (s : Session) (w : σ) :
    exec (completionEnv r).live.run s w =
      ((.ok (r.gaveUp.run w).1.isNone, s), (r.gaveUp.run w).2) := rfl

theorem exec_refresh (s : Session) (w : σ) :
    exec (completionEnv r).refreshToken.run s w =
      let out := exec (remote r fun c env => c.refreshToken env) s w
      ((.ok out.1.1, out.1.2), out.2) := rfl

theorem exec_pendingEmail (s : Session) (w : σ) :
    exec (completionEnv r).pendingEmail.run s w =
      let out := exec (remote r fun c env => c.pendingEmail env) s w
      ((.ok out.1.1, out.1.2), out.2) := rfl

theorem exec_storeCredential (tok : String) (s : Session) (w : σ) :
    exec ((completionEnv r).storeCredential tok).run s w =
      if credentialIsZero tok then ((.ok (.error (.kind .emptyCredential)), s), w)
      else ((.ok (.ok ()), { s with cred := ⟨tok⟩ }), w) := by
  cases h : credentialIsZero tok <;> simp [completionEnv, exec, CredentialStore.set, h] <;> rfl

theorem exec_authenticate (u : User) (s : Session) (w : σ) :
    exec ((completionEnv r).authenticate u).run s w =
      ((.ok (), { s with auth := s.auth.authenticate u }), w) := rfl

theorem exec_awaitSignup (p : PendingIdentity) (s : Session) (w : σ) :
    exec ((completionEnv r).awaitSignup p).run s w =
      ((.ok (), { s with auth := s.auth.awaitSignup p }), w) := rfl

def refreshAnswer (s : Session) (w : σ) : Except Fault TokenResult :=
  (exec (remote r fun c env => c.refreshToken env) s w).1.1

theorem exec_completeSuccess (routes : Completion.Routes) (s : Session) (w : σ) :
    let s' := (exec (Completion.completeSuccess (completionEnv r) routes).run s w).1.2
    Settled s s' ∨ ∃ t, refreshAnswer r s w = .ok t ∧ credentialIsZero t.accessToken = false ∧
      s'.cred = ⟨t.accessToken⟩ ∧ s'.auth = s.auth.authenticate t.user := by
  unfold Completion.completeSuccess
  rw [exec_run_bind, exec_refresh]
  have hs₁ := Steady.of_remote r (fun c env => c.refreshToken env) s w
  have ha : refreshAnswer r s w = (exec (remote r fun c env => c.refreshToken env) s w).1.1 := rfl
  generalize exec (remote r fun c env => c.refreshToken env) s w = call at hs₁ ha
  obtain ⟨⟨got, s₁⟩, w₁⟩ := call
  dsimp only at hs₁ ha ⊢
  rw [exec_run_bind, exec_live]
  dsimp only
  generalize (StateT.run r.gaveUp w₁).1.isNone = live
  generalize (StateT.run r.gaveUp w₁).2 = w₂
  -- a mount given up during the refresh, or a refresh that brings no credential, commits nothing
  cases live
  · simp [hs₁]
  rcases got with e | t
  · simp [hs₁]
  cases hz : credentialIsZero t.accessToken
  · simp only [Bool.not_true, hz, Bool.false_eq_true, if_false]
    rw [exec_run_bind, exec_storeCredential, hz]
    simp only [Bool.false_eq_true, if_false]
    rw [exec_run_bind, exec_authenticate]
    simp [ha, hz, hs₁.1]
  · simp [hz, hs₁]

theorem exec_completeSignup (routes : Completion.Routes) (info : String) (s : Session) (w : σ) :
    let s' := (exec (Completion.completeSignup (completionEnv r) routes info).run s w).1.2
    Settled s s' ∨ ∃ i, ProviderToken.decode info = .ok i ∧ s'.auth = s.auth.awaitSignup i ∧
      s'.cred = s.cred := by
  unfold Completion.completeSignup
  rcases hi : ProviderToken.decode info with e | i
  · simp [Settled.refl]
  dsimp only
  rw [exec_run_bind, exec_awaitSignup]
  dsimp only
  rw [exec_run_bind, exec_pendingEmail]
  have hs₁ := Steady.of_remote r (fun c env => c.pendingEmail env)
    { s with auth := s.auth.awaitSignup i } w
  generalize exec (remote r fun c env => c.pendingEmail env)
    { s with auth := s.auth.awaitSignup i } w = call at hs₁
  obtain ⟨⟨got, s₁⟩, w₁⟩ := call
  obtain ⟨ha, hc⟩ := hs₁
  dsimp only at ha hc ⊢
  rw [exec_run_bind, exec_live]
  dsimp only
  generalize (StateT.run r.gaveUp w₁).1.isNone = live
  right
  cases live <;> simp [ha, hc]

/-- The answer to the token refresh a callback flow for `signals` makes from `s` at `w`, when
the flow gets as far as asking: the mount is live and the status is a success. -/
def flowGrant (signals : Completion.Signals) (s : Session) (w : σ) :
    Option (Except Fault TokenResult) :=
  if (r.gaveUp.run w).1.isNone && signals.status == "success" then
    some (refreshAnswer r s (r.gaveUp.run w).2)
  else none

theorem flow_moves (routes : Completion.Routes) (signals : Completion.Signals) (s : Session)
    (w : σ) :
    Moves s (exec (Completion.flow (completionEnv r) routes signals).run s w).1.2
      (flowGrant r signals s w) := by
  unfold Completion.flow flowGrant
  rw [exec_run_bind, exec_live]
  dsimp only
  generalize (StateT.run r.gaveUp w).1.isNone = live
  generalize (StateT.run r.gaveUp w).2 = w₁
  cases live
  · simpa using Moves.of_settled (Settled.refl s)
  by_cases h₁ : signals.status = "success"
  · simp only [h₁, Bool.not_true, Bool.false_eq_true, if_false, beq_self_eq_true, if_true,
      Bool.and_self]
    rcases exec_completeSuccess r routes s w₁ with h | ⟨t, ht, hz, hc, ha⟩
    · exact Moves.of_settled h
    · exact Moves.of_grant (by rw [ht]) hz (by simp [ha, State.user?, State.authenticate]) hc
  by_cases h₂ : signals.status = "continue"
  · simp only [h₂, Bool.not_true, Bool.false_eq_true, if_false, beq_self_eq_true, if_true]
    rcases exec_completeSignup r routes (Text.trim signals.providerInfo) s w₁ with h | ⟨i, -, ha, -⟩
    · exact Moves.of_settled h
    · exact Moves.of_signOut (by simp [ha, State.user?, State.awaitSignup])
  · simpa [h₁, h₂] using Moves.of_settled (Settled.refl s)

theorem runOnce_moves (mt : Completion.Mount) (routes : Completion.Routes) (s : Session) (w : σ) :
    Moves s (exec (mt.runOnce (completionEnv r) routes) s w).1.2
      (if mt.result.isSome then none else flowGrant r mt.signals s w) := by
  unfold Completion.Mount.runOnce
  rcases hr : mt.result with _ | kept
  · have hrun : (exec (Completion.run (completionEnv r) routes mt.signals) s w).1.2 =
        (exec (Completion.flow (completionEnv r) routes mt.signals).run s w).1.2 := by
      simp only [Completion.run, exec, StateT.run_bind]
      rcases ((Completion.flow (completionEnv r) routes mt.signals).run.run s).run w with
        ⟨⟨_ | a, s'⟩, w'⟩ <;> rfl
    simp only [Option.isSome_none, Bool.false_eq_true, if_false]
    rw [exec_bind]
    simpa [hrun] using flow_moves r routes mt.signals s w
  · simpa using Moves.of_settled (Settled.refl s)

/-- The result a session keeps for `signals`: that of its open callback page, when the page is
for the same signals and has run. -/
def keptResult (s : Session) (signals : Completion.Signals) : Option Completion.Result :=
  match s.mount with
  | some mt => if mt.signals == signals then mt.result else none
  | none => none

/-- The answer to the token refresh a sign-in callback for `signals` makes from `s` at `w`, when
it gets as far as asking: no result is kept for the signals, and its flow asks. -/
def callbackGrant (signals : Completion.Signals) (s : Session) (w : σ) :
    Option (Except Fault TokenResult) :=
  if (keptResult s signals).isSome then none else flowGrant r signals s w

theorem completeOAuth_moves (signals : Completion.Signals) (s : Session) (w : σ) :
    Moves s (exec (completeOAuth r signals) s w).1.2 (callbackGrant r signals s w) := by
  unfold completeOAuth
  rw [exec_get_bind]
  dsimp only
  refine Moves.bind ?_ fun out => ?_
  · -- the page run is the one open for the same signals, or a fresh one
    unfold callbackGrant keptResult
    rcases hm : s.mount with _ | mt
    · simpa [Completion.Mount.fresh] using runOnce_moves r (Completion.Mount.fresh signals) s.routes s w
    by_cases hs : mt.signals = signals
    · simpa [hs] using runOnce_moves r mt s.routes s w
    · simpa [hs, Completion.Mount.fresh] using
        runOnce_moves r (Completion.Mount.fresh signals) s.routes s w
  · -- what follows the run keeps the page, the balance and the e-mail, not the sign-in
    obtain ⟨⟨result, ran⟩, mt⟩ := out
    refine Steady.bind (Steady.of_modify fun _ => ⟨rfl, rfl⟩) fun _ => ?_
    refine Steady.ite (Steady.of_pure _) ?_
    refine Steady.bind (Steady.of_lift _) fun _ => ?_
    split <;> first
      | exact Steady.of_pure _
      | exact Steady.bind (Steady.of_modify fun _ => ⟨rfl, rfl⟩) fun _ => Steady.of_pure _

end Callback

end Vestibule.Session
