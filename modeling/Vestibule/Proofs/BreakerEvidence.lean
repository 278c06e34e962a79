import Mathlib
import Vestibule.Proofs.BreakerRuns
import Vestibule.Remote.Api

/-!
What a remote call tells its breaker.

A call asks its breaker to let it through, and once through it records at most one outcome: a
failure for a failure of the unavailable kind, a success for an answer, and for any other failure
a success, or nothing when its caller had given up. Sending leaves the breaker alone, so these
are the only calls made on it. A failure of the unavailable kind is not always news from the
service, and a success is not always an answer from it: a guarded call without a credential
fails before anything is sent, and still counts as a success.
-/

namespace Vestibule.Remote

open Vestibule.Breaker (Op)

variable {m : Type → Type} [Monad m] [LawfulMonad m]

/-- The outcome a call let through records for its answer `got`: a failure at some reading for a
failure of the unavailable kind, a success for an answer, and for any other failure a success,
or nothing when the caller may have given up (`live` false). -/
def Recorded {α : Type} (live : Bool) : Except Fault α → List Op → Prop
  | .ok _, ops => ops = [.success]
  | .error e, ops =>
    if e.isKind .unavailable then ∃ t, ops = [.failure t]
    else ops = [.success] ∨ (live = false ∧ ops = [])

def circuitOpen (ep : Endpoint) (b : Breaker) : Fault :=
  .wrap (ep.method ++ " " ++ ep.path ++ ": circuit " ++ b.config.name ++ " open") (.kind .unavailable)

/-- What a call through the breaker `b` of client `c` did to it: asked at some reading `t`,
refused, it failed with the client as it was; let through, the breaker it leaves is `b` run on
the request to pass and the outcome it recorded. -/
def Fed {α : Type} (live : Bool) (c : Client) (b : Breaker) (ep : Endpoint)
    (r : Except Fault α × Client) : Prop :=
  ∃ t, ((b.allow t).1 = false ∧ r = (.error (circuitOpen ep b), c)) ∨
    ((b.allow t).1 = true ∧ ∃ ops, r.2.breaker = some (b.run (.allow t :: ops)) ∧ Recorded live r.1 ops)

theorem send_keeps_breaker {α : Type} (c : Client) (env : Env m) (ep : Endpoint)
    (read : List UInt8 → Except String α) :
    SatisfiesM (fun r : Except Fault α × Client => r.2.breaker = c.breaker) (c.send env ep read) := by
  unfold Client.send
  dsimp only
  split
  · exact SatisfiesM.pure rfl
  simp only [pure_bind]
  split
  case' isFalse =>
    split
    case' h_1 => exact SatisfiesM.pure rfl
    case' h_2 rd hrd =>
      apply SatisfiesM.bind SatisfiesM.trivial
      intro got _
      split
      case' h_1 => exact SatisfiesM.pure rfl
      case' h_2 => exact SatisfiesM.pure rfl
  -- the request is carried the same way however it was authorized, and only the cookies change
  all_goals
    apply SatisfiesM.bind SatisfiesM.trivial
    intro got _
    split
    · apply SatisfiesM.bind SatisfiesM.trivial
      intro why _
      split <;> exact SatisfiesM.pure rfl
    · split
      · exact SatisfiesM.pure rfl
      · split <;> exact SatisfiesM.pure rfl

theorem call_feeds_breaker {α : Type} (live : Bool) {env : Env m}
    (hlive : live = true → SatisfiesM (· = none) env.gaveUp) (c : Client) (ep : Endpoint)
    (read : List UInt8 → Except String α) (b : Breaker) (hb : c.breaker = some b) :
    SatisfiesM (Fed live c b ep) (c.call env ep read) := by
  unfold Client.call
  rw [hb]
  dsimp only
  apply SatisfiesM.bind SatisfiesM.trivial
  intro t _
  cases hlet : (b.allow t).1
  · -- refused: the breaker keeps what it had, and the call fails at once
    have hkeep : b.allow t = (false, b) := Breaker.allow_refused hlet
    rw [hkeep]
    simp only [Bool.not_false, if_true]
    have hc : ({ base := c.base, breaker := some b, jar := c.jar } : Client) = c := by
      cases c
      cases hb
      rfl
    exact SatisfiesM.pure ⟨t, Or.inl ⟨hlet, by rw [hc]; rfl⟩⟩
  · simp only [Bool.not_true, Bool.false_eq_true, if_false]
    apply SatisfiesM.bind (send_keeps_breaker _ env ep read)
    rintro ⟨got, c'⟩ hc'
    apply SatisfiesM.bind SatisfiesM.trivial
    intro now _
    dsimp only at hc' ⊢
    rw [hc']
    simp only [Option.getD_some, pure_bind]
    -- sending left the breaker let through alone; the answer decides the one record
    cases got with
    | ok a => exact SatisfiesM.pure ⟨t, Or.inr ⟨hlet, [.success], rfl, rfl⟩⟩
    | error e =>
      dsimp only
      split
      · rename_i hu
        exact SatisfiesM.pure ⟨t, Or.inr ⟨hlet, [.failure now], rfl, by simp [Recorded, hu]⟩⟩
      · rename_i hu
        cases live with
        | false =>
          apply SatisfiesM.bind SatisfiesM.trivial
          intro why _
          split
          · exact SatisfiesM.pure ⟨t, Or.inr ⟨hlet, [.success], rfl, by simp [Recorded, hu]⟩⟩
          · exact SatisfiesM.pure ⟨t, Or.inr ⟨hlet, [], rfl, by simp [Recorded, hu]⟩⟩
        | true =>
          -- a caller that never gives up leaves no failure unrecorded
          apply SatisfiesM.bind (hlive rfl)
          rintro why rfl
          exact SatisfiesM.pure ⟨t, Or.inr ⟨hlet, [.success], rfl, by simp [Recorded, hu]⟩⟩

theorem send_without_credential {α : Type} (c : Client) (env : Env m) (ep : Endpoint)
    (read : List UInt8 → Except String α) (hguarded : ep.guarded = true)
    (hcred : env.credential = some (pure (.ok none))) :
    ∃ e, c.send env ep read = pure (.error e, c) ∧ e.isKind .unavailable = false := by
  unfold Client.send
  dsimp only
  split
  · exact ⟨_, rfl, rfl⟩
  · simp only [hguarded, hcred, Bool.not_true, Bool.false_eq_true, if_false, pure_bind]
    exact ⟨_, rfl, rfl⟩

theorem missing_credential_counts_as_success {α : Type} (c : Client) (env : Env m)
    (ep : Endpoint) (read : List UInt8 → Except String α) (b : Breaker) (t : Int)
    (hb : c.breaker = some b) (hguarded : ep.guarded = true) (hclock : env.clock = pure t)
    (hlive : env.gaveUp = pure none) (hcred : env.credential = some (pure (.ok none)))
    (hlet : (b.allow t).1 = true) :
    ∃ e, c.call env ep read =
      pure (.error e, { c with breaker := some (b.run [.allow t, .success]) }) := by
  obtain ⟨e, hsend, hu⟩ :=
    send_without_credential { c with breaker := some (b.allow t).2 } env ep read hguarded hcred
  refine ⟨e, ?_⟩
  unfold Client.call
  rw [hb, hclock]
  simp only [pure_bind, hlet, Bool.not_true, Bool.false_eq_true, if_false]
  rw [hsend]
  simp only [pure_bind, hu, Bool.false_eq_true, if_false, hlive]
  rfl

theorem unsigned_balance_counts_as_success :
    ∃ e, (⟨"http://api.test", some (Breaker.new (Breaker.Config.standard "remote-api")), Web.Jar.empty⟩ :
        Client).call
        (⟨⟨fun _ => pure (.error (.text "unreachable")), pure 0⟩, pure 0, pure none,
          some (pure (.ok none)), ""⟩ : Env Id)
        ⟨"GET", "/points/balance", none, true⟩ (decodeInto balanceLayout none) =
      pure (.error e, ⟨"http://api.test",
        some ((Breaker.new (Breaker.Config.standard "remote-api")).run [.allow 0, .success]),
        Web.Jar.empty⟩) :=
  missing_credential_counts_as_success _ _ _ _ _ 0 rfl rfl rfl rfl rfl (by decide)

end Vestibule.Remote
