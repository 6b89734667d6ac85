import Delegation.Proofs.Authority.Errands
import Delegation.Proofs.Authority.Replies
import Delegation.Proofs.Authority.Sending

/-!
# The outcome of a call

A call is decided by the first reply that does not pass, at the latest by the reply to its last
retry. If this reply ends within the time limit, one request was sent for it and for each reply
before it, and the reply concludes the call. Otherwise the call has timed out.
-/

namespace Delegation
namespace Authority

/-- When the reply to a request ends: after all replies up to it and the delays between them. -/
def Script.endOf
    (script : Script)
    (policy : Call.RetryPolicy)
    (number : Nat) : Nat :=
  (∑ each ∈ Finset.range (number + 1), (script each).takes.nanos) + number * policy.delay.nanos

/-- The reply to a request decides a call: all replies before it pass, and it does not or leaves
no retry. -/
def Script.Decides
    (script : Script)
    (policy : Call.RetryPolicy)
    (limit : Option Nat)
    (number : Nat) : Prop :=
  number ≤ policy.maxRetries ∧
    (∀ earlier < number, ∃ status, (script earlier).answer.Passes limit status) ∧
    (number = policy.maxRetries ∨ ∀ status, ¬ (script number).answer.Passes limit status)

namespace Client

variable {α : Type} {client : Client} {operation : Operation} {chain : Chain}
variable {includeRemote : Bool} {request : Request} {read : Json → Option α} {script : Script}

theorem attempt_of_isSendable
    (sendable : request.isSendable = true)
    (read : Json → Option α)
    (reply : Reply) :
    client.attempt read request reply = ⟨reply.takes, reply.answer.outcome client.maxBytes read⟩ :=
  if_pos sendable

/-- The reply that decides a call is the one whose attempt does. -/
theorem decides_deciding
    (sendable : request.isSendable = true)
    (policy : Call.RetryPolicy)
    (read : Json → Option α)
    (script : Script) :
    script.Decides policy client.maxBytes
      (policy.deciding Failure.isRetryable fun index =>
        client.attempt read request (script index)) := by
  have passes : ∀ number,
      (client.attempt read request (script number)).isTransient Failure.isRetryable = true ↔
        ∃ status, (script number).answer.Passes client.maxBytes status := by
    intro number
    have outcome : (client.attempt read request (script number)).outcome =
        (script number).answer.outcome client.maxBytes read := by
      rw [attempt_of_isSendable sendable]
    exact Answer.isTransient_iff outcome
  refine ⟨Call.RetryPolicy.deciding_le, fun earlier before => ?_, ?_⟩
  · exact (passes earlier).mp (Call.RetryPolicy.transient_of_lt_deciding before)
  · rcases policy.deciding_spec Failure.isRetryable fun index =>
      client.attempt read request (script index) with final | last
    · right
      rw [← Bool.not_eq_true, passes] at final
      exact not_exists.mp final
    · exact .inl last

theorem endOf_attempts
    (sendable : request.isSendable = true)
    (policy : Call.RetryPolicy)
    (read : Json → Option α)
    (script : Script)
    (number : Nat) :
    policy.endOf (fun index => client.attempt read request (script index)) number =
      script.endOf policy number := by
  simp only [Call.RetryPolicy.endOf, Script.endOf, attempt_of_isSendable sendable]

theorem call_eq
    {url : Url}
    (endpoint : Request.endpoint? client.baseUri operation includeRemote = some url)
    (sendable : (Request.forChain url chain).isSendable = true)
    (script : Script)
    (read : Json → Option α) :
    let run := client.exchange script operation read (Request.forChain url chain)
    client.call script operation chain includeRemote read =
      ⟨(resultOf run.ending).mapError (⟨chain.primary.dn.subject, operation, ·⟩),
        List.replicate run.attempts (Request.forChain url chain), run.elapsed⟩ := by
  simp only [call, endpoint, sentBy, if_pos sendable]

theorem mapError_inj
    {ε δ : Type}
    {change : ε → δ}
    (injective : Function.Injective change)
    {first second : Except ε α} :
    first.mapError change = second.mapError change ↔ first = second := by
  cases first <;> cases second <;> simp [injective.eq_iff]

/-- A call that a chain with proper names makes below a web address sends one request for each
reply up to the deciding one, and this reply concludes it, if it ends within the limit. Otherwise
the call times out at the limit. Each error names the principal and the operation. -/
theorem call_concludes
    (web : client.baseUri.IsWeb)
    (proper : HasHeaderNames chain)
    (bounded : (client.policy operation).retry.maxRetries < Call.RetryPolicy.countLimit)
    (includeRemote : Bool)
    (script : Script)
    (read : Json → Option α) :
    let policy := client.policy operation
    let call := client.call script operation chain includeRemote read
    let named (cause : Failure) : CallError := ⟨chain.primary.dn.subject, operation, cause⟩
    ∃ url last, Request.endpoint? client.baseUri operation includeRemote = some url ∧
      script.Decides policy.retry client.maxBytes last ∧
      (script.endOf policy.retry last ≤ policy.limit.nanos →
        call.requests = List.replicate (last + 1) (Request.forChain url chain) ∧
          call.elapsed = script.endOf policy.retry last ∧
          ∀ result : Except Failure α, call.result = result.mapError named ↔
            (script last).answer.Concludes client.maxBytes read policy.retry.maxRetries result) ∧
      (policy.limit.nanos < script.endOf policy.retry last →
        call.result = .error (named (.timedOut policy.limit)) ∧
          call.elapsed = policy.limit.nanos) := by
  intro policy call named
  obtain ⟨url, endpoint, sendable⟩ := exists_request web proper operation includeRemote
  have namedInjective : Function.Injective named := fun first second same =>
    (CallError.mk.inj same).2.2
  have called : call = _ := call_eq endpoint sendable script read
  let attempts (index : Nat) : Call.Attempt Failure α :=
    client.attempt read (Request.forChain url chain) (script index)
  let last := policy.retry.deciding Failure.isRetryable attempts
  have ends : policy.retry.endOf attempts last = script.endOf policy.retry last :=
    endOf_attempts sendable policy.retry read script last
  refine ⟨url, last, endpoint, decides_deciding sendable policy.retry read script, ?_, ?_⟩
  · intro inTime
    have run : client.exchange script operation read (Request.forChain url chain) = _ :=
      Call.Policy.run_of_inTime (ends ▸ inTime)
    rw [run] at called
    rw [called]
    refine ⟨rfl, ends, fun result => ?_⟩
    rw [mapError_inj namedInjective]
    refine Answer.resultOf_eq_iff bounded ?_
    exact congrArg Call.Attempt.outcome (attempt_of_isSendable sendable read (script last))
  · intro late
    obtain ⟨number, -, -, run, -⟩ := Call.Policy.run_of_tooLate (ends ▸ late)
    have cut : client.exchange script operation read (Request.forChain url chain) = _ := run
    rw [cut] at called
    rw [called]
    exact ⟨rfl, rfl⟩

end Client
namespace Sample

/-- The small call brings an empty list of authorizations. -/
theorem call_concludes_sample :
    client.baseUri.IsWeb ∧ HasHeaderNames (chain ∅) ∧
      (client.policy .listAuthorizations).retry.maxRetries < Call.RetryPolicy.countLimit ∧
      (client.call script .listAuthorizations (chain ∅) true AuthorizationSet.ofJson?).result =
        .ok {} := by
  have web : client.baseUri.IsWeb := ⟨by decide, [""], rfl⟩
  have proper : HasHeaderNames (chain ∅) := by decide +kernel
  have bounded : (client.policy .listAuthorizations).retry.maxRetries <
      Call.RetryPolicy.countLimit := by
    decide
  refine ⟨web, proper, bounded, ?_⟩
  obtain ⟨url, last, -, ⟨withinBudget, -⟩, inTime, -⟩ :=
    Client.call_concludes web proper bounded true script AuthorizationSet.ofJson?
  have soon : script.endOf (client.policy .listAuthorizations).retry last ≤
      (client.policy .listAuthorizations).limit.nanos := by
    have atOnce : ∑ each ∈ Finset.range (last + 1), (script each).takes.nanos = 0 :=
      Finset.sum_eq_zero fun _ _ => rfl
    have budget : (client.policy .listAuthorizations).retry.maxRetries = 5 := rfl
    have delay : (client.policy .listAuthorizations).retry.delay.nanos = 2000000000 := rfl
    have limit : (client.policy .listAuthorizations).limit.nanos = 30000000000 := rfl
    rw [Script.endOf, atOnce, delay, limit]
    omega
  obtain ⟨-, -, concluded⟩ := inTime soon
  have decoded : (Json.readBytes? (Body.bytes { chunks := [[0x7b, 0x7d]] })).bind
      AuthorizationSet.ofJson? = some ({} : AuthorizationSet) := by
    decide +kernel
  have fits : Body.Fits { chunks := [[0x7b, 0x7d]] } client.maxBytes := by
    simp [Body.Fits, client]
  exact (concluded (.ok {})).mpr
    (.delivered 200 _ ({} : AuthorizationSet) ⟨by decide, by decide⟩ fits rfl decoded)

end Sample

end Authority
end Delegation
