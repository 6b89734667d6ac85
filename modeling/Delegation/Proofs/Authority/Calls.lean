import Delegation.Authority.Task
import Delegation.Proofs.Call.Schedule
import Delegation.Proofs.Basic

/-!
# What calls send and what they bring

A call sends one and the same request once for each of its attempts, or none at all if the
request cannot be sent. It succeeds only with a document that the authority has given, with a
success, as its answer to one of these requests.
-/

namespace Delegation
namespace Authority

namespace Request

variable {first second : Chain}

/-- A request tells the members of a chain and nothing else about it. -/
theorem forChain_congr
    (same : first.members = second.members)
    (url : Url) :
    forChain url first = forChain url second := by
  simp only [forChain, Chain.subjects, Chain.issuers, Chain.canonical_eq, same]

end Request

namespace Answer

variable {α : Type} {limit : Option Nat} {read : Json → Option α} {answer : Answer} {value : α}

/-- An answer is a success whose body, read as far as allowed, is the document of a value. -/
def Delivers
    (limit : Option Nat)
    (read : Json → Option α)
    (value : α)
    (answer : Answer) : Prop :=
  ∃ status body bytes, answer = .given status body ∧ 200 ≤ status ∧ status < 300 ∧
    body.read limit = .ok bytes ∧ (Json.readBytes? bytes).bind read = some value

theorem document_eq_ok_iff {bytes : List UInt8} :
    document read bytes = .ok value ↔ (Json.readBytes? bytes).bind read = some value := by
  unfold document
  cases (Json.readBytes? bytes).bind read <;> simp

/-- The answers that mean a value are those that deliver it. -/
theorem outcome_eq_ok_iff :
    answer.outcome limit read = .ok value ↔ answer.Delivers limit read value := by
  constructor
  · intro outcome
    cases answer with
    | refused | lost => nomatch outcome
    | given status body =>
        simp only [Answer.outcome] at outcome
        split at outcome
        · nomatch outcome
        · split at outcome
          · rename_i success
            cases bytes : body.read limit with
            | error failure =>
                rw [bytes] at outcome
                nomatch outcome
            | ok held =>
                rw [bytes] at outcome
                exact ⟨status, body, held, rfl, success.1, success.2, bytes,
                  document_eq_ok_iff.mp outcome⟩
          · nomatch outcome
  · rintro ⟨status, body, bytes, rfl, atLeast, below, held, decoded⟩
    have noServerError : ¬ (500 ≤ status ∧ status < 600) := by omega
    simp only [Answer.outcome, if_neg noServerError, atLeast, below, and_self, if_true, held]
    exact document_eq_ok_iff.mpr decoded

end Answer

theorem resultOf_eq_ok_iff
    {α : Type}
    {ending : Call.Ending Failure α}
    {value : α} :
    resultOf ending = .ok value ↔ ending = .succeeded value := by
  cases ending <;> simp [resultOf]

namespace Client

variable {α : Type} {client : Client} {operation : Operation} {chain : Chain}
variable {includeRemote : Bool} {read : Json → Option α} {script : Script}

/-- The request of a call; none if there is no address for it or if it cannot be sent. -/
def request?
    (client : Client)
    (operation : Operation)
    (chain : Chain)
    (includeRemote : Bool) : Option Request :=
  ((Request.endpoint? client.baseUri operation includeRemote).map fun url =>
    Request.forChain url chain).filter Request.isSendable

theorem request?_congr
    {other : Chain}
    (same : chain.members = other.members) :
    client.request? operation chain includeRemote =
      client.request? operation other includeRemote := by
  simp only [request?, Request.forChain_congr same]

/-- A call sends its request once or more often, and nothing else. -/
theorem requests_call
    (client : Client)
    (script : Script)
    (operation : Operation)
    (chain : Chain)
    (includeRemote : Bool)
    (read : Json → Option α) :
    (client.request? operation chain includeRemote = none ∧
        (client.call script operation chain includeRemote read).requests = []) ∨
      ∃ request attempts,
        client.request? operation chain includeRemote = some request ∧
          (client.call script operation chain includeRemote read).requests =
            List.replicate (attempts + 1) request := by
  unfold call request?
  cases Request.endpoint? client.baseUri operation includeRemote with
  | none => exact .inl ⟨rfl, rfl⟩
  | some url =>
      cases sendable : (Request.forChain url chain).isSendable with
      | false => exact .inl (by simp [sendable, sentBy])
      | true =>
          have started := (client.policy operation).attempts_pos Failure.isRetryable fun index =>
            client.attempt read (Request.forChain url chain) (script index)
          obtain ⟨attempts, counted⟩ := Nat.exists_eq_add_one.mpr started
          refine .inr ⟨Request.forChain url chain, attempts, by simp [sendable], ?_⟩
          simp [sendable, sentBy, exchange, counted]

/-- A request that is answered with a value can be sent. -/
theorem delivers_of_attempt
    {request : Request}
    {reply : Reply}
    {value : α}
    (succeeds : (client.attempt read request reply).outcome = .ok value) :
    request.isSendable = true ∧ reply.answer.Delivers client.maxBytes read value := by
  unfold attempt at succeeds
  split at succeeds
  · rename_i sendable
    exact ⟨sendable, Answer.outcome_eq_ok_iff.mp succeeds⟩
  · nomatch succeeds

/-- A call that succeeds has sent its request, and the answer to the last one delivers what the
call brings. -/
theorem delivers_of_call_eq_ok
    {value : α}
    (succeeds : (client.call script operation chain includeRemote read).result = .ok value) :
    ∃ request attempts,
      client.request? operation chain includeRemote = some request ∧
        (client.call script operation chain includeRemote read).requests =
          List.replicate (attempts + 1) request ∧
        (script attempts).answer.Delivers client.maxBytes read value := by
  unfold call at succeeds ⊢
  unfold request?
  cases endpoint : Request.endpoint? client.baseUri operation includeRemote with
  | none =>
      rw [endpoint] at succeeds
      nomatch succeeds
  | some url =>
      rw [endpoint] at succeeds
      obtain ⟨attempts, counted, outcome⟩ := Call.Policy.outcome_of_succeeded
        (resultOf_eq_ok_iff.mp (mapError_eq_ok_iff.mp succeeds))
      obtain ⟨sendable, delivers⟩ := delivers_of_attempt outcome
      refine ⟨Request.forChain url chain, attempts, ?_, ?_, delivers⟩
      · simp [sendable]
      · simp [sendable, sentBy, exchange, counted]

end Client

namespace Session

variable {α : Type} {client : Client} {script : Script} {operation : Operation} {chain : Chain}
variable {includeRemote : Bool} {read : Json → Option α} {value : α} {session after : Session}

/-- The request for an operation was sent between two sessions, and the answer to it delivers a
value. -/
def Receives
    (client : Client)
    (script : Script)
    (operation : Operation)
    (chain : Chain)
    (includeRemote : Bool)
    (read : Json → Option α)
    (value : α)
    (session after : Session) : Prop :=
  ∃ request number,
    client.request? operation chain includeRemote = some request ∧
      session.sent.length ≤ number ∧ after.sent[number]? = some request ∧
      (script number).answer.Delivers client.maxBytes read value

/-- What is received for a chain is received for any other one with its members. -/
theorem Receives.congr
    {other : Chain}
    (receives : session.Receives client script operation chain includeRemote read value after)
    (same : chain.members = other.members) :
    session.Receives client script operation other includeRemote read value after := by
  obtain ⟨request, number, asked, rest⟩ := receives
  exact ⟨request, number, (Client.request?_congr same).symm.trans asked, rest⟩

/-- A call that succeeds has received its value. -/
theorem receives_of_call_eq_ok
    (succeeds : (session.call client script operation chain includeRemote read).1 = .ok value) :
    session.Receives client script operation chain includeRemote read value
      (session.call client script operation chain includeRemote read).2 := by
  obtain ⟨request, attempts, asked, sent, delivers⟩ := Client.delivers_of_call_eq_ok succeeds
  refine ⟨request, session.sent.length + attempts, asked, Nat.le_add_right _ _, ?_, delivers⟩
  rw [call, Session.after, sent, List.getElem?_append_right (Nat.le_add_right _ _)]
  simp

/-- A call sends nothing exactly if its request cannot be sent. -/
theorem sent_call_eq_iff :
    (session.call client script operation chain includeRemote read).2.sent = session.sent ↔
      client.request? operation chain includeRemote = none := by
  simp only [call, Session.after, List.append_right_eq_self]
  rcases client.requests_call _ operation chain includeRemote read with
    ⟨unsendable, none⟩ | ⟨request, attempts, sendable, some⟩
  · exact iff_of_true none unsendable
  · rw [some, sendable]
    simp

end Session
end Authority
end Delegation
