import Vestibule.Auth.State
import Vestibule.Completion
import Vestibule.Credential

/-!
Runs of the sign-in callback against a scripted service. The service answers each remote call
as the script says and the mount may be given up while a call is outstanding; the credential
store is the one a browser session keeps, and may be made to refuse. A run leaves a trace of its
effects in the order it makes them, so the statements below speak of what was called and
committed, and when.
-/

namespace Vestibule.Completion

open Vestibule.Auth

inductive Effect where
  | refresh
  | pendingEmail
  | store (credential : String)
  | authenticate (u : User)
  | awaitSignup (p : PendingIdentity)
  deriving DecidableEq

/-- What a run touches: the sign-in state, the credential store, whether the mount is still
wanted, and the effects so far. -/
structure Desk where
  auth : Auth.State
  cred : CredentialStore
  live : Bool
  trace : List Effect

def Desk.start (auth : Auth.State) (cred : CredentialStore) : Desk := ⟨auth, cred, true, []⟩

/-- The answers of the two remote calls, whether the mount is given up while each is
outstanding, and why the store refuses a credential, if it does. -/
structure Script where
  refresh : Except Fault TokenResult
  email : Except Fault String
  dropDuringRefresh : Bool
  dropDuringEmail : Bool
  storeFault : Option Fault

def Script.live (refresh : Except Fault TokenResult) (email : Except Fault String)
    (storeFault : Option Fault) : Script :=
  ⟨refresh, email, false, false, storeFault⟩

abbrev DeskM := ExceptT String (StateM Desk)

def exec {α : Type} (x : DeskM α) (d : Desk) : Except String α × Desk := x.run.run d

@[simp] theorem exec_pure {α : Type} (a : α) (d : Desk) : exec (pure a) d = (.ok a, d) := rfl

@[simp] theorem exec_bind {α β : Type} (x : DeskM α) (f : α → DeskM β) (d : Desk) :
    exec (x >>= f) d = match exec x d with
      | (.ok a, d') => exec (f a) d'
      | (.error e, d') => (.error e, d') := by
  simp only [exec, ExceptT.run_bind, StateT.run_bind]
  rcases x.run.run d with ⟨_ | a, d'⟩ <;> rfl

@[simp] theorem exec_map {α β : Type} (x : DeskM α) (f : α → β) (d : Desk) :
    exec (f <$> x) d = match exec x d with
      | (.ok a, d') => (.ok (f a), d')
      | (.error e, d') => (.error e, d') := by
  simp only [exec, ExceptT.run_map, StateT.run_map]
  rcases x.run.run d with ⟨_ | a, d'⟩ <;> rfl

@[simp] theorem exec_get (d : Desk) : exec (get : DeskM Desk) d = (.ok d, d) := rfl

@[simp] theorem exec_set (d d' : Desk) : exec (set d' : DeskM PUnit) d = (.ok ⟨⟩, d') := rfl

@[simp] theorem exec_modify (f : Desk → Desk) (d : Desk) :
    exec (modify f : DeskM PUnit) d = (.ok ⟨⟩, f d) := rfl

@[simp] theorem failed_outcome (routes : Routes) (reason : String) :
    (failed routes reason).outcome = .failure := rfl

@[simp] theorem failed_destination (routes : Routes) (reason : String) :
    (failed routes reason).destination = routes.login := rfl

@[simp] theorem abandon_outcome (reason : String) : (abandon reason).outcome = .abandoned := rfl

@[simp] theorem abandon_destination (reason : String) : (abandon reason).destination = "" := rfl

namespace Script

/-- A remote call: its effect is recorded, the mount may be given up meanwhile, and the
scripted answer comes back. -/
def call {α : Type} (e : Effect) (drop : Bool) (answer : α) : DeskM α := do
  modify fun d => { d with trace := d.trace ++ [e], live := d.live && !drop }
  return answer

/-- Storing a credential: the store refuses as scripted, else as the store of a session does. -/
def store (sc : Script) (tok : String) : DeskM (Except Fault Unit) := do
  modify fun d => { d with trace := d.trace ++ [.store tok] }
  match sc.storeFault with
  | some e => return .error e
  | none =>
    let d ← get
    match d.cred.set tok with
    | .ok c => do set { d with cred := c }; return .ok ()
    | .error e => return .error e

def env (sc : Script) : Env DeskM where
  live := do return (← get).live
  refreshToken := call .refresh sc.dropDuringRefresh sc.refresh
  pendingEmail := call .pendingEmail sc.dropDuringEmail sc.email
  storeCredential := sc.store
  authenticate u := modify fun d =>
    { d with auth := d.auth.authenticate u, trace := d.trace ++ [.authenticate u] }
  awaitSignup p := modify fun d =>
    { d with auth := d.auth.awaitSignup p, trace := d.trace ++ [.awaitSignup p] }

def run (sc : Script) (routes : Routes) (signals : Signals) (d : Desk) : Result × Desk :=
  let out := ((Mount.fresh signals).runOnce sc.env routes).run d
  (out.1.1.1, out.2)

@[simp] theorem exec_live (sc : Script) (d : Desk) : exec sc.env.live d = (.ok d.live, d) := rfl

@[simp] theorem exec_refreshToken (sc : Script) (d : Desk) :
    exec sc.env.refreshToken d =
      (.ok sc.refresh, { d with trace := d.trace ++ [.refresh], live := d.live && !sc.dropDuringRefresh }) :=
  rfl

@[simp] theorem exec_pendingEmail (sc : Script) (d : Desk) :
    exec sc.env.pendingEmail d =
      (.ok sc.email, { d with trace := d.trace ++ [.pendingEmail], live := d.live && !sc.dropDuringEmail }) :=
  rfl

@[simp] theorem exec_authenticate (sc : Script) (u : User) (d : Desk) :
    exec (sc.env.authenticate u) d =
      (.ok ⟨⟩, { d with auth := d.auth.authenticate u, trace := d.trace ++ [.authenticate u] }) := rfl

@[simp] theorem exec_awaitSignup (sc : Script) (p : PendingIdentity) (d : Desk) :
    exec (sc.env.awaitSignup p) d =
      (.ok ⟨⟩, { d with auth := d.auth.awaitSignup p, trace := d.trace ++ [.awaitSignup p] }) := rfl

theorem exec_storeCredential (sc : Script) (tok : String) (d : Desk)
    (h : credentialIsZero tok = false) :
    exec (sc.env.storeCredential tok) d =
      match sc.storeFault with
      | some e => (.ok (.error e), { d with trace := d.trace ++ [.store tok] })
      | none => (.ok (.ok ()), { d with trace := d.trace ++ [.store tok], cred := ⟨tok⟩ }) := by
  rcases hf : sc.storeFault with _ | e <;> simp [env, store, CredentialStore.set, h, hf]

theorem run_eq (sc : Script) (routes : Routes) (signals : Signals) (d : Desk) :
    sc.run routes signals d =
      match exec (flow sc.env routes signals) d with
      | (.ok r, d') => (r, d')
      | (.error why, d') => (failed routes ("panic: " ++ why), d') := by
  simp only [run, Mount.runOnce, Mount.fresh, Completion.run, exec, StateT.run_bind]
  rcases (flow sc.env routes signals).run.run d with ⟨_ | r, d'⟩ <;> rfl

end Script

open Script

section Flow

variable (sc : Script) (routes : Routes) (signals : Signals) (d : Desk)

theorem exec_flow_dead (h : d.live = false) :
    exec (flow sc.env routes signals) d = (.ok (abandon "mount closed before run"), d) := by
  simp [flow, h]

theorem exec_flow_success (hl : d.live = true) (h : signals.status = "success") :
    exec (flow sc.env routes signals) d = exec (completeSuccess sc.env routes) d := by
  simp [flow, hl, h]

theorem exec_flow_continue (hl : d.live = true) (h : signals.status = "continue") :
    exec (flow sc.env routes signals) d =
      exec (completeSignup sc.env routes (Text.trim signals.providerInfo)) d := by
  simp [flow, hl, h]

theorem exec_flow_other (hl : d.live = true) (h₁ : signals.status ≠ "success")
    (h₂ : signals.status ≠ "continue") :
    exec (flow sc.env routes signals) d =
      (.ok (failed routes ("missing or unrecognized status " ++ Text.Quote.quote signals.status)), d) := by
  simp [flow, hl, h₁, h₂]

theorem exec_completeSuccess :
    exec (completeSuccess sc.env routes) d =
      let d := { d with trace := d.trace ++ [.refresh], live := d.live && !sc.dropDuringRefresh }
      if d.live = false then (.ok (abandon "mount closed during token refresh"), d) else
      match sc.refresh with
      | .error e => (.ok (failed routes ("token refresh failed: " ++ e.message)), d)
      | .ok t =>
        if credentialIsZero t.accessToken then
          (.ok (failed routes "token refresh returned no credential"), d)
        else
          let d := { d with trace := d.trace ++ [.store t.accessToken] }
          match sc.storeFault with
          | some e => (.ok (failed routes ("store credential: " ++ e.message)), d)
          | none =>
            let d := { d with cred := ⟨t.accessToken⟩, auth := d.auth.authenticate t.user }
            (.ok ⟨.success, routes.landing, "", ""⟩, { d with trace := d.trace ++ [.authenticate t.user] }) := by
  cases hl : (d.live && !sc.dropDuringRefresh)
  · simp [completeSuccess, hl]
  rcases hr : sc.refresh with e | t
  · simp [completeSuccess, hl, hr]
  cases hz : credentialIsZero t.accessToken
  · rcases hf : sc.storeFault with _ | e <;>
      simp [completeSuccess, hl, hr, hz, hf, exec_storeCredential _ _ _ hz]
  · simp [completeSuccess, hl, hr, hz]

theorem exec_completeSignup (info : String) :
    exec (completeSignup sc.env routes info) d =
      match ProviderToken.decode info with
      | .error e => (.ok (failed routes e.message), d)
      | .ok i =>
        let d := { d with auth := d.auth.awaitSignup i, trace := d.trace ++ [Effect.awaitSignup i] }
        let d : Desk :=
          { d with trace := d.trace ++ [Effect.pendingEmail], live := d.live && !sc.dropDuringEmail }
        if d.live = false then (.ok (abandon "mount closed during email lookup"), d) else
        let email := match sc.email with
          | .ok e => Text.trim e
          | .error _ => ""
        (.ok ⟨.signup, routes.signup, email, ""⟩, d) := by
  rcases hi : ProviderToken.decode info with e | i
  · simp [completeSignup, hi]
  cases hl : (d.live && !sc.dropDuringEmail)
  · simp [completeSignup, hi, hl]
  · rcases he : sc.email with e | a <;> simp [completeSignup, hi, hl, he]

theorem completeSuccess_abandoned {r : Result} {d' : Desk}
    (h : exec (completeSuccess sc.env routes) d = (.ok r, d')) (ha : r.outcome = .abandoned) :
    r.destination = "" ∧ d'.auth = d.auth ∧ d'.cred = d.cred ∧ d'.trace = d.trace ++ [.refresh] := by
  rw [exec_completeSuccess] at h
  cases hl : (d.live && !sc.dropDuringRefresh)
  · simp only [hl, if_true] at h
    cases h
    exact ⟨rfl, rfl, rfl, rfl⟩
  -- with the mount live, every branch answers a failure or a success
  rcases hr : sc.refresh with e | t
  · simp [hl, hr] at h
    rw [← h.1] at ha
    simp at ha
  cases hz : credentialIsZero t.accessToken
  · rcases hf : sc.storeFault with _ | e <;> simp [hl, hr, hz, hf] at h <;> rw [← h.1] at ha <;>
      simp at ha
  · simp [hl, hr, hz] at h
    rw [← h.1] at ha
    simp at ha

theorem completeSignup_abandoned (info : String) {r : Result} {d' : Desk}
    (h : exec (completeSignup sc.env routes info) d = (.ok r, d')) (ha : r.outcome = .abandoned) :
    r.destination = "" ∧ ∃ i, ProviderToken.decode info = .ok i ∧
      d'.auth = d.auth.awaitSignup i ∧ d'.cred = d.cred ∧
      d'.trace = d.trace ++ [.awaitSignup i, .pendingEmail] := by
  rw [exec_completeSignup] at h
  rcases hi : ProviderToken.decode info with e | i
  · simp [hi] at h
    rw [← h.1] at ha
    simp at ha
  · simp only [hi] at h
    split at h
    · cases h
      exact ⟨rfl, i, rfl, rfl, rfl, by simp⟩
    · cases h
      simp at ha

end Flow

def Script.commits (sc : Script) : Prop :=
  ∃ t, sc.refresh = .ok t ∧ credentialIsZero t.accessToken = false ∧ sc.storeFault = none

section Table

variable (refresh : Except Fault TokenResult) (email : Except Fault String)
  (storeFault : Option Fault) (routes : Routes) (signals : Signals) (auth : Auth.State)
  (cred : CredentialStore)

theorem success_row (h : signals.status = "success") :
    let out := (Script.live refresh email storeFault).run routes signals (Desk.start auth cred)
    out.2.trace.count .refresh = 1 ∧ .pendingEmail ∉ out.2.trace ∧
      ((out.1.outcome = .success ∧ out.1.destination = routes.landing) ↔
        (Script.live refresh email storeFault).commits) ∧
      (∀ t, refresh = .ok t → credentialIsZero t.accessToken = false → storeFault = none →
        out.2.cred.get = some t.accessToken ∧ out.2.auth = auth.authenticate t.user) ∧
      (¬ (Script.live refresh email storeFault).commits →
        out.1.outcome = .failure ∧ out.1.destination = routes.login ∧ out.2.cred = cred ∧
          out.2.auth = auth) := by
  intro out
  have hout : out = _ := run_eq _ _ _ _
  rw [exec_flow_success _ _ _ _ rfl h, exec_completeSuccess] at hout
  clear_value out
  simp only [Script.live, Desk.start, Bool.not_false, Bool.and_true] at hout
  rcases hr : refresh with e | t
  · simp [hr] at hout
    subst hout
    simp [Script.commits, Script.live]
  cases hz : credentialIsZero t.accessToken
  · rcases hf : storeFault with _ | e
    · simp [hr, hz, hf] at hout
      subst hout
      simp [Script.commits, Script.live, hz, CredentialStore.get]
    · simp [hr, hz, hf] at hout
      subst hout
      simp [Script.commits, Script.live]
  · simp [hr, hz] at hout
    subst hout
    simp [Script.commits, Script.live, hz]

theorem continue_row (h : signals.status = "continue") :
    let out := (Script.live refresh email storeFault).run routes signals (Desk.start auth cred)
    .refresh ∉ out.2.trace ∧
      (∀ e, ProviderToken.decode (Text.trim signals.providerInfo) = .error e →
        out.1.outcome = .failure ∧ out.1.destination = routes.login ∧ out.2.trace = [] ∧
          out.2.cred = cred ∧ out.2.auth = auth) ∧
      (∀ i, ProviderToken.decode (Text.trim signals.providerInfo) = .ok i →
        out.2.trace = [.awaitSignup i, .pendingEmail] ∧
          out.1 = ⟨.signup, routes.signup, (match email with
            | .ok e => Text.trim e
            | .error _ => ""), ""⟩ ∧
          out.2.cred = cred ∧ out.2.auth = auth.awaitSignup i) := by
  intro out
  have hout : out = _ := run_eq _ _ _ _
  rw [exec_flow_continue _ _ _ _ rfl h, exec_completeSignup] at hout
  clear_value out
  simp only [Script.live, Desk.start, Bool.not_false, Bool.and_true] at hout
  rcases hi : ProviderToken.decode (Text.trim signals.providerInfo) with e | i
  · simp [hi] at hout
    subst hout
    simp
  · simp [hi] at hout
    subst hout
    simp

theorem other_row (h₁ : signals.status ≠ "success") (h₂ : signals.status ≠ "continue") :
    let out := (Script.live refresh email storeFault).run routes signals (Desk.start auth cred)
    out.1.outcome = .failure ∧ out.1.destination = routes.login ∧ out.2.trace = [] ∧
      out.2.cred = cred ∧ out.2.auth = auth := by
  intro out
  have hout : out = _ := run_eq _ _ _ _
  rw [exec_flow_other _ _ _ _ rfl h₁ h₂] at hout
  clear_value out
  subst hout
  simp [Desk.start]

end Table

theorem run_follows_decision_table (refresh : Except Fault TokenResult) (email : Except Fault String)
    (storeFault : Option Fault) (routes : Routes) (signals : Signals) (auth : Auth.State)
    (cred : CredentialStore) :
    let out := (Script.live refresh email storeFault).run routes signals (Desk.start auth cred)
    (signals.status = "success" →
      out.2.trace.count .refresh = 1 ∧ .pendingEmail ∉ out.2.trace ∧
        ((out.1.outcome = .success ∧ out.1.destination = routes.landing) ↔
          (Script.live refresh email storeFault).commits) ∧
        (∀ t, refresh = .ok t → credentialIsZero t.accessToken = false → storeFault = none →
          out.2.cred.get = some t.accessToken ∧ out.2.auth = auth.authenticate t.user) ∧
        (¬ (Script.live refresh email storeFault).commits →
          out.1.outcome = .failure ∧ out.1.destination = routes.login ∧ out.2.cred = cred ∧
            out.2.auth = auth)) ∧
    (signals.status = "continue" →
      .refresh ∉ out.2.trace ∧
        (∀ e, ProviderToken.decode (Text.trim signals.providerInfo) = .error e →
          out.1.outcome = .failure ∧ out.1.destination = routes.login ∧ out.2.trace = [] ∧
            out.2.cred = cred ∧ out.2.auth = auth) ∧
        (∀ i, ProviderToken.decode (Text.trim signals.providerInfo) = .ok i →
          out.2.trace = [.awaitSignup i, .pendingEmail] ∧
            out.1 = ⟨.signup, routes.signup, (match email with
              | .ok e => Text.trim e
              | .error _ => ""), ""⟩ ∧
            out.2.cred = cred ∧ out.2.auth = auth.awaitSignup i)) ∧
    (signals.status ≠ "success" → signals.status ≠ "continue" →
      out.1.outcome = .failure ∧ out.1.destination = routes.login ∧ out.2.trace = [] ∧
        out.2.cred = cred ∧ out.2.auth = auth) :=
  ⟨success_row refresh email storeFault routes signals auth cred,
    continue_row refresh email storeFault routes signals auth cred,
    other_row refresh email storeFault routes signals auth cred⟩

theorem abandoned_run_keeps_credential (sc : Script) (routes : Routes) (signals : Signals)
    (auth : Auth.State) (cred : CredentialStore) (live : Bool) :
    let out := sc.run routes signals ⟨auth, cred, live, []⟩
    out.1.outcome = .abandoned →
      out.1.destination = "" ∧ out.2.cred = cred ∧
        (∀ c, Effect.store c ∉ out.2.trace) ∧ (∀ u, Effect.authenticate u ∉ out.2.trace) ∧
        (out.2.auth = auth ∨
          ∃ i, signals.status = "continue" ∧
            ProviderToken.decode (Text.trim signals.providerInfo) = .ok i ∧
            out.2.trace = [.awaitSignup i, .pendingEmail] ∧ out.2.auth = auth.awaitSignup i) := by
  intro out ha
  have hout : out = _ := run_eq _ _ _ _
  clear_value out
  -- an aborted flow is reported as a failure, so the flow itself answered
  rcases hx : exec (flow sc.env routes signals) ⟨auth, cred, live, []⟩ with ⟨_ | r, d'⟩
  · rw [hx] at hout
    subst hout
    simp at ha
  rw [hx] at hout
  subst hout
  cases live
  · rw [exec_flow_dead _ _ _ _ rfl] at hx
    cases hx
    simp
  by_cases h₁ : signals.status = "success"
  · rw [exec_flow_success _ _ _ _ rfl h₁] at hx
    obtain ⟨hd, ha, hc, ht⟩ := completeSuccess_abandoned _ _ _ hx ha
    simp [hd, ha, hc, ht]
  by_cases h₂ : signals.status = "continue"
  · rw [exec_flow_continue _ _ _ _ rfl h₂] at hx
    obtain ⟨hd, i, hi, ha, hc, ht⟩ := completeSignup_abandoned _ _ _ _ hx ha
    refine ⟨hd, hc, ?_, ?_, .inr ⟨i, h₂, hi, ?_, ha⟩⟩ <;> simp [ht]
  · rw [exec_flow_other _ _ _ _ rfl h₁ h₂] at hx
    cases hx
    simp at ha

def sampleToken : String := "h.eyJwcm92aWRlciI6IngiLCJwcm92aWRlcklkIjoieSJ9.s"

set_option maxRecDepth 20000 in
theorem sampleToken_segments :
    sampleToken.splitOn "." = ["h", "eyJwcm92aWRlciI6IngiLCJwcm92aWRlcklkIjoieSJ9", "s"] := by
  simp +decide [sampleToken, String.splitOn, String.splitOnAux]

theorem decode_sampleToken : ProviderToken.decode (Text.trim sampleToken) = .ok ⟨"x", "y"⟩ := by
  have ht : Text.trim sampleToken = sampleToken := by decide +kernel
  have hd : (ProviderToken.decode sampleToken).toOption = some ⟨"x", "y"⟩ := by
    simp only [ProviderToken.decode, ht, sampleToken_segments]
    decide +kernel
  rw [ht]
  cases h : ProviderToken.decode sampleToken <;> simp_all [Except.toOption]

def lateLookup : Script := ⟨.error (.kind .unavailable), .ok "", false, true, none⟩

theorem lateLookup_run :
    lateLookup.run Routes.standard ⟨"continue", sampleToken⟩
        (Desk.start State.initial CredentialStore.empty) =
      (abandon "mount closed during email lookup",
        ⟨State.initial.awaitSignup ⟨"x", "y"⟩, CredentialStore.empty, false,
          [.awaitSignup ⟨"x", "y"⟩, .pendingEmail]⟩) := by
  rw [run_eq, exec_flow_continue _ _ _ _ rfl rfl, exec_completeSignup, decode_sampleToken]
  rfl

theorem abandoned_lookup_keeps_credential :
    let out := lateLookup.run Routes.standard ⟨"continue", sampleToken⟩
      (Desk.start State.initial CredentialStore.empty)
    out.1.outcome = .abandoned ∧
      (out.1.destination = "" ∧ out.2.cred = CredentialStore.empty ∧
        (∀ c, Effect.store c ∉ out.2.trace) ∧ (∀ u, Effect.authenticate u ∉ out.2.trace) ∧
        (out.2.auth = State.initial ∨
          ∃ i, "continue" = "continue" ∧ ProviderToken.decode (Text.trim sampleToken) = .ok i ∧
            out.2.trace = [.awaitSignup i, .pendingEmail] ∧
            out.2.auth = State.initial.awaitSignup i)) := by
  have ha : (lateLookup.run Routes.standard ⟨"continue", sampleToken⟩
      (Desk.start State.initial CredentialStore.empty)).1.outcome = .abandoned := by
    rw [lateLookup_run]
    rfl
  exact ⟨ha, abandoned_run_keeps_credential _ _ _ _ _ _ ha⟩

theorem abandoned_lookup_changes_standing :
    let out := lateLookup.run Routes.standard ⟨"continue", sampleToken⟩
      (Desk.start State.initial CredentialStore.empty)
    out.1.outcome = .abandoned ∧ out.2.auth ≠ State.initial := by
  rw [lateLookup_run]
  decide

end Vestibule.Completion
