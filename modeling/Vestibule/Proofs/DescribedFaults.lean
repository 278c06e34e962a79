import Vestibule.Proofs.QuietRemote

/-!
The failures the service describes itself. A browser is told a code and a description taken
from the first coded node of a failure; the service's own nodes carry one of a fixed set of codes
and one of a fixed set of descriptions. Every operation of a session fails with a failure whose
first coded node, if any, is one of these: the operations describe remote failures by their kind
under a fixed text, and the remote failures themselves carry no code.
-/

namespace Vestibule

def shownCodes : List String :=
  ["bad_request", "invalid_input", "invalid_state", "missing_consent", "unauthorized", "not_found",
    "timeout", "unavailable", "internal_error"]

/-- The descriptions the service gives its own failures. -/
def shownMessages : List String :=
  ["email and password are required", "invalid email or password", "no pending sign-up",
    "email and display name are required", "agreements are required",
    "remote returned no credential", "failed to store credential", "login required",
    "login failed", "sign-up failed", "failed to load balance", "invalid request body",
    "curator id must be numeric", "counterpart id must be positive",
    "chat session created without id", "session id required", "chat session not found",
    "failed to create chat session", "failed to load chat session"]

/-- A failure described, if at all, by the service itself: its first coded node carries one of
the service's codes and descriptions. -/
def Fault.Described (e : Fault) : Prop :=
  ∀ c msg cause, e.firstCoded = some (c, msg, cause) →
    c ∈ shownCodes ∧ msg ∈ shownMessages

namespace Fault

@[simp] theorem described_coded (c msg : String) (cause : Option Fault) :
    (coded c msg cause).Described ↔ c ∈ shownCodes ∧ msg ∈ shownMessages := by
  constructor
  · intro h
    exact h c msg cause rfl
  · rintro h _ _ _ ⟨⟩
    exact h

@[simp] theorem described_fresh (c msg : String) :
    (fresh c msg).Described ↔ c ∈ shownCodes ∧ msg ∈ shownMessages :=
  described_coded c msg none

end Fault

theorem remoteError_described {e : Fault} (he : e.Uncoded) {msg : String}
    (hmsg : msg ∈ shownMessages) : (remoteError e msg).Described := by
  have hnone : e.firstCoded.isSome = false := by
    rw [he]
    rfl
  unfold remoteError
  simp only [hnone, Bool.false_eq_true, if_false]
  -- each branch codes the failure by its kind and describes it by `msg` or a fixed text
  split_ifs
  all_goals
    rw [Fault.described_coded]
    exact ⟨by simp [shownCodes], by first | exact hmsg | simp [shownMessages]⟩

theorem translate_described {e : Fault} {msg : String} (hmsg : msg ∈ shownMessages) :
    (Handoff.translate e msg).Described := by
  unfold Handoff.translate
  split_ifs
  all_goals
    rw [Fault.described_coded]
    exact ⟨by simp [shownCodes], by first | exact hmsg | simp [shownMessages]⟩

end Vestibule

namespace Vestibule.Handoff

variable {m : Type → Type} [Monad m] [LawfulMonad m]

/-- Calls of the chat service whose failures are all undescribed. -/
structure Api.Quiet (api : Api m) : Prop where
  createSession : ∀ id, SatisfiesM (FailsWith Fault.Uncoded) (api.createSession id)
  chatSession : ∀ p, SatisfiesM (FailsWith Fault.Uncoded) (api.chatSession p)

variable {api : Api m}

theorem select_described (hapi : api.Quiet) (chatRoute : String) (id : Int) (slot : Slot) :
    SatisfiesM (fun r => FailsWith Fault.Described r.1) (select api chatRoute id slot) := by
  unfold select
  split
  · exact SatisfiesM.pure (by simp [shownCodes, shownMessages])
  apply SatisfiesM.bind (hapi.createSession id)
  intro got hgot
  split
  · exact SatisfiesM.pure (by simpa using translate_described (by simp [shownMessages]))
  · split
    · exact SatisfiesM.pure (by simp [shownCodes, shownMessages])
    · exact SatisfiesM.pure (by simp)

theorem resolve_described (hapi : api.Quiet) (p : List UInt8) (slot : Slot) :
    SatisfiesM (fun r => FailsWith Fault.Described r.1) (resolve api p slot) := by
  have hfetch (id : List UInt8) (slot : Slot) :
      SatisfiesM (fun r => FailsWith Fault.Described r.1) (resolve.fetch api id slot) := by
    unfold resolve.fetch
    apply SatisfiesM.bind (hapi.chatSession id)
    intro got hgot
    split
    · exact SatisfiesM.pure (by simpa using translate_described (by simp [shownMessages]))
    · exact SatisfiesM.pure (by simp)
  unfold resolve
  dsimp only
  split
  · exact SatisfiesM.pure (by simp [shownCodes, shownMessages])
  · split
    · split
      · exact SatisfiesM.pure (by simp)
      · exact hfetch _ _
    · exact hfetch _ _

end Vestibule.Handoff

namespace Vestibule.Balance.Cache

theorem land_failure_uncoded (c : Cache) (f : Flight) {got : Except Fault Int}
    (hgot : FailsWith Fault.Uncoded got) : UncodedReason (c.land f got).1.failure := by
  unfold land
  split
  · exact fun e he => hgot e (by simp_all)
  · split
    · intro e he
      cases he
      simp [negative]
    · split <;> simp [UncodedReason]

end Vestibule.Balance.Cache

namespace Vestibule.Session

variable {m : Type → Type} [Monad m] [LawfulMonad m] {r : Reach m}

theorem handoffApi_quiet (hr : r.Quiet) : (handoffApi r).Quiet :=
  ⟨fun id => remote_quiet hr fun c _ henv => Remote.createSession_quiet henv c id,
    fun p => remote_quiet hr fun c _ henv => Remote.chatSession_quiet henv c p⟩

theorem commitCredential_described (t : Auth.TokenResult) :
    SatisfiesM (FailsWith Fault.Described) (commitCredential t : StateT Session m _) := by
  unfold commitCredential
  split
  · exact SatisfiesM.pure (by simp [shownCodes, shownMessages])
  apply SatisfiesM.bind SatisfiesM.trivial
  intro s _
  split
  · apply SatisfiesM.bind SatisfiesM.trivial
    intro _ _
    exact SatisfiesM.pure (by simp)
  · exact SatisfiesM.pure (by simp [shownCodes, shownMessages])

theorem login_described (hr : r.Quiet) (email password : String) :
    SatisfiesM (FailsWith Fault.Described) (login r email password) := by
  unfold login
  dsimp only
  split
  · exact SatisfiesM.pure (by simp [shownCodes, shownMessages])
  apply SatisfiesM.bind (remote_quiet hr fun c _ henv => Remote.call_quiet henv c _ _)
  intro got hgot
  split
  · rename_i e
    have he : e.Uncoded := hgot e rfl
    split
    · exact SatisfiesM.pure (by simp [shownCodes, shownMessages])
    · exact SatisfiesM.pure (by simpa using remoteError_described he (by simp [shownMessages]))
  · apply SatisfiesM.bind (commitCredential_described (m := m) _)
    intro stored hstored
    split
    · exact SatisfiesM.pure (by simpa using hstored)
    · apply SatisfiesM.bind SatisfiesM.trivial
      intro _ _
      exact SatisfiesM.pure (by simp)

theorem signup_described (hr : r.Quiet) (form : Form) :
    SatisfiesM (FailsWith Fault.Described) (signup r form) := by
  unfold signup
  apply SatisfiesM.bind SatisfiesM.trivial
  intro s _
  split
  · exact SatisfiesM.pure (by simp [shownCodes, shownMessages])
  dsimp only
  split
  · exact SatisfiesM.pure (by simp [shownCodes, shownMessages])
  apply SatisfiesM.bind SatisfiesM.trivial
  intro _ _
  apply SatisfiesM.bind SatisfiesM.trivial
  intro consent _
  split
  · exact SatisfiesM.pure (by simp [shownCodes, shownMessages])
  apply SatisfiesM.bind (remote_quiet hr fun c _ henv => Remote.call_quiet henv c _ _)
  intro got hgot
  split
  · rename_i e
    refine SatisfiesM.pure ?_
    simpa using remoteError_described (hgot e rfl) (by simp [shownMessages])
  · apply SatisfiesM.bind (commitCredential_described (m := m) _)
    intro stored hstored
    split
    · exact SatisfiesM.pure (by simpa using hstored)
    · apply SatisfiesM.bind SatisfiesM.trivial
      intro _ _
      apply SatisfiesM.bind SatisfiesM.trivial
      intro _ _
      exact SatisfiesM.pure (by simp)

theorem readBalance_described (hr : r.Quiet) :
    SatisfiesM (fun x => FailsWith Fault.Described x.1) (readBalance r) := by
  unfold readBalance
  apply SatisfiesM.bind SatisfiesM.trivial
  intro s _
  split
  · exact SatisfiesM.pure (by simp [loginRequired, shownCodes, shownMessages])
  split
  · exact SatisfiesM.pure (by simp)
  rename_i flight _
  -- the fetch runs on even if the browser gives up, so it never hears a reason
  have hfetch := Remote.balance_quiet (remoteEnv_quiet hr s (SatisfiesM.pure uncodedReason_none))
    s.client
  apply SatisfiesM.bind (satisfiesM_stateT_lift hfetch)
  rintro ⟨got, c⟩ hgot
  apply SatisfiesM.bind SatisfiesM.trivial
  intro _ _
  apply SatisfiesM.bind SatisfiesM.trivial
  intro s' _
  -- the landing hands out the fetch's own failure or one about a negative value
  have hland := Balance.Cache.land_failure_uncoded s'.balance flight hgot
  dsimp only
  generalize s'.balance.land flight got = landed at hland
  obtain ⟨reply, landing, cache⟩ := landed
  apply SatisfiesM.bind SatisfiesM.trivial
  intro _ _
  apply SatisfiesM.bind SatisfiesM.trivial
  intro _ _
  split
  · rename_i e he
    refine SatisfiesM.pure ?_
    simpa using remoteError_described (hland e he) (by simp [shownMessages])
  · exact SatisfiesM.pure (by simp)

theorem select_described (hr : r.Quiet) (id : Int) :
    SatisfiesM (FailsWith Fault.Described) (select r id) := by
  unfold select
  apply SatisfiesM.bind SatisfiesM.trivial
  intro s _
  split
  · exact SatisfiesM.pure (by simp [loginRequired, shownCodes, shownMessages])
  apply SatisfiesM.bind SatisfiesM.trivial
  intro s' _
  apply SatisfiesM.bind SatisfiesM.trivial
  intro s'' _
  apply SatisfiesM.bind (Handoff.select_described (handoffApi_quiet hr) _ id _)
  rintro ⟨got, slot⟩ hgot
  apply SatisfiesM.bind SatisfiesM.trivial
  intro _ _
  exact SatisfiesM.pure hgot

theorem resolve_described (hr : r.Quiet) (p : List UInt8) :
    SatisfiesM (FailsWith Fault.Described) (resolve r p) := by
  unfold resolve
  apply SatisfiesM.bind SatisfiesM.trivial
  intro s _
  split
  · exact SatisfiesM.pure (by simp [loginRequired, shownCodes, shownMessages])
  apply SatisfiesM.bind SatisfiesM.trivial
  intro s' _
  apply SatisfiesM.bind (Handoff.resolve_described (handoffApi_quiet hr) p _)
  rintro ⟨got, slot⟩ hgot
  apply SatisfiesM.bind SatisfiesM.trivial
  intro _ _
  dsimp only
  -- a resolution is counted, and the answer handed back is the resolver's
  split
  · apply SatisfiesM.bind SatisfiesM.trivial
    intro _ _
    exact SatisfiesM.pure hgot
  · exact SatisfiesM.pure hgot

end Vestibule.Session
