import Mathlib
import Vestibule.Session

/-!
Failures that come from below the service. The wire, the reason a browser gave up and a failed
read of the credential fail as the transport or the platform fails, never with a failure the
service describes to a browser: no node of them carries a code. The client of the remote
service only wraps such failures and adds its own undescribed ones (a status the service answered
with, an answer that could not be read, an open breaker), so every failure of a remote call is
undescribed too, whatever the remote service answers. The statements are `SatisfiesM`
postconditions over any lawful monad, so they hold for every world the calls run in.
-/

namespace Vestibule

def Fault.Uncoded (e : Fault) : Prop := e.firstCoded = none

def FailsWith {α : Type} (P : Fault → Prop) (r : Except Fault α) : Prop :=
  ∀ e, r = .error e → P e

def UncodedReason (r : Option Fault) : Prop := ∀ e, r = some e → e.Uncoded

namespace Fault

@[simp] theorem uncoded_kind (k : Kind) : (kind k).Uncoded := rfl

@[simp] theorem uncoded_text (msg : String) : (text msg).Uncoded := rfl

@[simp] theorem uncoded_status (n : Nat) (msg : String) (k : Kind) :
    (status n msg k).Uncoded := rfl

@[simp] theorem uncoded_wrap (c : String) (e : Fault) : (wrap c e).Uncoded ↔ e.Uncoded := Iff.rfl

@[simp] theorem uncoded_transport (v a : String) (e : Fault) :
    (transport v a e).Uncoded ↔ e.Uncoded := Iff.rfl

@[simp] theorem uncoded_wrapBoth (c : String) (a b : Fault) :
    (wrapBoth c a b).Uncoded ↔ a.Uncoded ∧ b.Uncoded := by
  simp only [Uncoded, firstCoded]
  cases a.firstCoded <;> simp

end Fault

@[simp] theorem failsWith_ok {α : Type} (P : Fault → Prop) (a : α) :
    FailsWith P (.ok a : Except Fault α) := by
  intro e h
  cases h

@[simp] theorem failsWith_error {α : Type} (P : Fault → Prop) (e : Fault) :
    FailsWith P (.error e : Except Fault α) ↔ P e := by
  constructor
  · intro h
    exact h e rfl
  · rintro h _ ⟨⟩
    exact h

@[simp] theorem uncodedReason_none : UncodedReason none := by
  intro e h
  cases h

theorem failsWith_map {α β : Type} {P : Fault → Prop} {r : Except Fault α} (f : α → β)
    (h : FailsWith P r) : FailsWith P (r.map f) := by
  cases r with
  | error e => simpa [Except.map] using h
  | ok a => simp [Except.map]

end Vestibule

namespace Vestibule.Web

variable {m : Type → Type} [Monad m] [LawfulMonad m]

/-- A property of failures that carrying a request keeps: it holds of a plain message, and a
failure wrapped as a failed transfer has it when the cause has it. -/
structure Carried (P : Fault → Prop) : Prop where
  text : ∀ msg, P (.text msg)
  transport : ∀ verb address e, P e → P (.transport verb address e)

/-- A wire whose failures are undescribed: a request that could not be carried fails as the
transport fails, never with a failure of the service's own. -/
def Wire.Quiet (w : Wire m) : Prop := ∀ req, SatisfiesM (FailsWith Fault.Uncoded) (w.send req)

variable {w : Wire m} {P : Fault → Prop}

theorem sendOne_failsWith (hw : ∀ req, SatisfiesM (FailsWith P) (w.send req)) (jar : Jar)
    (req : Request) : SatisfiesM (fun r => FailsWith P r.1) (sendOne w jar req) := by
  unfold sendOne
  apply SatisfiesM.bind SatisfiesM.trivial
  intro now _
  apply SatisfiesM.bind (hw _)
  intro got hgot
  split
  · exact SatisfiesM.pure hgot
  · exact SatisfiesM.pure (failsWith_ok _ _)

theorem follow_failsWith (hP : Carried P) (hw : ∀ req, SatisfiesM (FailsWith P) (w.send req))
    (first : Request) (fuel : Nat) :
    ∀ hop jar, SatisfiesM (fun r => FailsWith P r.1) (follow w first fuel hop jar) := by
  -- every stop is an answer or a transport failure over text or over what the wire said
  have hstop : ∀ verb address msg,
      FailsWith P (.error (.transport verb address (.text msg)) : Except Fault Response) :=
    fun verb address msg => (failsWith_error _ _).mpr (hP.transport _ _ _ (hP.text msg))
  induction fuel with
  | zero =>
    intro hop jar
    unfold follow
    dsimp only
    repeat' split
    all_goals first
      | exact SatisfiesM.pure (failsWith_ok _ _)
      | exact SatisfiesM.pure (hstop _ _ _)
  | succ fuel ih =>
    intro hop jar
    unfold follow
    dsimp only
    repeat' split
    all_goals try first
      | exact SatisfiesM.pure (failsWith_ok _ _)
      | exact SatisfiesM.pure (hstop _ _ _)
    all_goals
      apply SatisfiesM.bind (sendOne_failsWith hw _ _)
      rintro ⟨got, jar⟩ hgot
      cases got with
      | error e => exact SatisfiesM.pure ((failsWith_error _ _).mpr (hP.transport _ _ _ (hgot e rfl)))
      | ok resp => exact ih _ _

theorem fetch_failsWith (hP : Carried P) (hw : ∀ req, SatisfiesM (FailsWith P) (w.send req))
    (jar : Jar) (req : Request) : SatisfiesM (fun r => FailsWith P r.1) (fetch w jar req) := by
  unfold fetch
  apply SatisfiesM.bind (sendOne_failsWith hw _ _)
  rintro ⟨got, jar⟩ hgot
  cases got with
  | error e => exact SatisfiesM.pure ((failsWith_error _ _).mpr (hP.transport _ _ _ (hgot e rfl)))
  | ok resp => exact follow_failsWith hP hw _ _ _ _

theorem fetch_quiet (hw : w.Quiet) (jar : Jar) (req : Request) :
    SatisfiesM (fun r => FailsWith Fault.Uncoded r.1) (fetch w jar req) :=
  fetch_failsWith ⟨fun _ => rfl, fun _ _ _ h => h⟩ hw jar req

end Vestibule.Web

namespace Vestibule.Remote

open Vestibule.Web

variable {m : Type → Type} [Monad m] [LawfulMonad m]

/-- An outside for calls whose failures are all undescribed: the wire's, the reason for giving
up, and a failed read of the credential. -/
structure Env.Quiet (env : Env m) : Prop where
  wire : env.wire.Quiet
  gaveUp : SatisfiesM UncodedReason env.gaveUp
  credential : ∀ read ∈ env.credential, SatisfiesM (FailsWith Fault.Uncoded) read

variable {env : Env m}

theorem send_quiet {α : Type} (henv : env.Quiet) (c : Client) (ep : Endpoint)
    (read : List UInt8 → Except String α) :
    SatisfiesM (fun r => FailsWith Fault.Uncoded r.1) (c.send env ep read) := by
  unfold Client.send
  dsimp only
  split
  · exact SatisfiesM.pure (by simp)
  simp only [pure_bind]
  -- authorizing fails with a wrapped kind or a failed read, or leaves a request to carry
  split
  case' isFalse =>
    split
    case' h_1 => exact SatisfiesM.pure (by simp)
    case' h_2 rd hrd =>
      apply SatisfiesM.bind (henv.credential rd (by simp [hrd]))
      intro got hgot
      split
      case' h_1 => exact SatisfiesM.pure (by simpa using hgot _ rfl)
      case' h_2 => exact SatisfiesM.pure (by simp)
  -- however it was authorized, the request is carried the same way
  all_goals
    apply SatisfiesM.bind (fetch_quiet henv.wire _ _)
    intro got hgot
    split
    · rename_i e he
      apply SatisfiesM.bind henv.gaveUp
      intro why hwhy
      split
      · exact SatisfiesM.pure (by simpa using hwhy _ rfl)
      · exact SatisfiesM.pure (by simpa using hgot e he)
    · split
      · exact SatisfiesM.pure (by simp)
      · split
        · exact SatisfiesM.pure (by simp)
        · exact SatisfiesM.pure (by simp)

theorem call_quiet {α : Type} (henv : env.Quiet) (c : Client) (ep : Endpoint)
    (read : List UInt8 → Except String α) :
    SatisfiesM (fun r => FailsWith Fault.Uncoded r.1) (c.call env ep read) := by
  unfold Client.call
  split
  · exact send_quiet henv c ep read
  -- the breaker only adds its own failure and keeps whatever the call answered
  apply SatisfiesM.bind SatisfiesM.trivial
  intro now _
  dsimp only
  split
  · exact SatisfiesM.pure (by simp)
  apply SatisfiesM.bind (send_quiet henv _ ep read)
  rintro ⟨got, c⟩ hgot
  apply SatisfiesM.bind SatisfiesM.trivial
  intro now' _
  dsimp only at hgot ⊢
  simp only [pure_bind]
  -- whichever way the breaker records it, the answer handed back is the call's
  split
  · exact SatisfiesM.pure hgot
  · split
    · exact SatisfiesM.pure hgot
    · apply SatisfiesM.bind SatisfiesM.trivial
      intro why _
      split
      · exact SatisfiesM.pure hgot
      · exact SatisfiesM.pure hgot

theorem balance_quiet (henv : env.Quiet) (c : Client) :
    SatisfiesM (fun r => FailsWith Fault.Uncoded r.1) (c.balance env) := by
  unfold Client.balance
  apply SatisfiesM.bind (call_quiet henv c _ _)
  rintro ⟨got, c⟩ hgot
  dsimp only at hgot ⊢
  split
  · exact SatisfiesM.pure (by simpa using hgot)
  · exact SatisfiesM.pure (by simp [missingBalance])
  · exact SatisfiesM.pure (by simp)

theorem createSession_quiet (henv : env.Quiet) (c : Client) (id : Int) :
    SatisfiesM (fun r => FailsWith Fault.Uncoded r.1) (c.createSession env id) := by
  unfold Client.createSession
  apply SatisfiesM.bind (call_quiet henv c _ _)
  rintro ⟨got, c⟩ hgot
  exact SatisfiesM.pure (failsWith_map _ hgot)

theorem chatSession_quiet (henv : env.Quiet) (c : Client) (id : List UInt8) :
    SatisfiesM (fun r => FailsWith Fault.Uncoded r.1) (c.chatSession env id) := by
  unfold Client.chatSession
  apply SatisfiesM.bind (call_quiet henv c _ _)
  rintro ⟨got, c⟩ hgot
  exact SatisfiesM.pure (failsWith_map _ hgot)

end Vestibule.Remote

namespace Vestibule

variable {m : Type → Type} [Monad m] [LawfulMonad m]

theorem satisfiesM_stateT_lift {ρ α : Type} {p : α → Prop} {x : m α} (h : SatisfiesM p x) :
    SatisfiesM p (StateT.lift x : StateT ρ m α) := by
  rw [SatisfiesM_StateT_eq]
  intro s
  exact h.bind fun a ha => SatisfiesM.pure ha

/-- What a session reaches whose failures are all undescribed: the wire's and the reason for
giving up. -/
structure Reach.Quiet (r : Reach m) : Prop where
  wire : r.wire.Quiet
  gaveUp : SatisfiesM UncodedReason r.gaveUp

namespace Session

variable {r : Reach m}

theorem remoteEnv_quiet (hr : r.Quiet) (s : Session) {gaveUp : m (Option Fault)}
    (hg : SatisfiesM UncodedReason gaveUp) : (remoteEnv r s gaveUp).Quiet :=
  ⟨hr.wire, hg, fun read hread => by
    cases hread
    exact SatisfiesM.pure (by simp)⟩

theorem remote_quiet {α : Type} (hr : r.Quiet)
    {call : Remote.Client → Remote.Env m → m (Except Fault α × Remote.Client)}
    (hcall : ∀ c env, env.Quiet →
      SatisfiesM (fun x => FailsWith Fault.Uncoded x.1) (call c env)) :
    SatisfiesM (FailsWith Fault.Uncoded) (remote r call) := by
  unfold remote
  apply SatisfiesM.bind SatisfiesM.trivial
  intro s _
  apply SatisfiesM.bind (satisfiesM_stateT_lift (hcall _ _ (remoteEnv_quiet hr s hr.gaveUp)))
  rintro ⟨got, c⟩ hgot
  apply SatisfiesM.bind SatisfiesM.trivial
  intro _ _
  exact SatisfiesM.pure hgot

end Session

end Vestibule
