import Delegation.Proofs.Authority.Errands

/-!
# Histories of a client

A client that works off one errand after the other, with pauses and losses of kept answers
between them. A history also remembers when which labels arrived from the authority, so
that answers can be traced back to what was received.
-/

namespace Delegation
namespace Authority

/-- Labels that have arrived from the authority. -/
structure Receipt where
  /-- When they had arrived, in nanoseconds. -/
  time : Nat
  /-- The chain that they were asked for. -/
  chain : Chain
  /-- Further services were asked, too. -/
  includeRemote : Bool
  /-- The labels. -/
  set : AuthorizationSet

/-- The labels of a receipt were asked for members and a scope. -/
structure Receipt.For
    (receipt : Receipt)
    (members : List Identity)
    (includeRemote : Bool) : Prop where
  members : receipt.chain.members = members
  includeRemote : receipt.includeRemote = includeRemote

namespace Task

/-- The labels that arrive in the next step of a task. -/
def receipt? (client : Client) (script : Script) (session : Session) : Task → Option Receipt
  | askLabels chain includeRemote _ =>
      let answer := session.call client script .listAuthorizations chain includeRemote
        AuthorizationSet.ofJson?
      match answer.1 with
      | .ok set => some ⟨answer.2.now, chain, includeRemote, set⟩
      | .error _ => none
  | _ => none

/-- The labels that arrive while a task is run, in order. -/
def receipts (client : Client) (script : Script) (session : Session) (task : Task) :
    List Receipt :=
  match _found : task.result? with
  | some _ => []
  | none =>
      let next := task.step client script session
      (task.receipt? client script session).toList ++ next.1.receipts client script next.2
termination_by task.stepsLeft
decreasing_by exact stepsLeft_step_lt client script session _found

variable {client : Client} {script : Script} {session : Session} {task : Task}

/-- A finished task takes no step. -/
theorem run_of_finished
    {result : Except CallError Product}
    (finished : task.result? = some result) :
    task.run client script session = (result, session) := by
  unfold run
  split <;> simp_all

theorem run_of_unfinished
    (unfinished : task.result? = none) :
    task.run client script session =
      (task.step client script session).1.run client script
        (task.step client script session).2 := by
  rw [run]
  split <;> simp_all

theorem receipts_of_finished
    {result : Except CallError Product}
    (finished : task.result? = some result) :
    task.receipts client script session = [] := by
  unfold receipts
  split <;> simp_all

theorem receipts_of_unfinished
    (unfinished : task.result? = none) :
    task.receipts client script session =
      (task.receipt? client script session).toList ++
        (task.step client script session).1.receipts client script
          (task.step client script session).2 := by
  rw [receipts]
  split <;> simp_all

/-- What holds before a task, and survives each of its steps with the labels that arrive in
it, holds when the task is finished. -/
theorem run_induction
    {motive : Task → Session → List Receipt → Prop}
    (survives : ∀ task session received,
      motive task session received →
        motive (task.step client script session).1 (task.step client script session).2
          (received ++ (task.receipt? client script session).toList))
    {received : List Receipt}
    (initial : motive task session received) :
    motive (finished (task.run client script session).1)
      (task.run client script session).2
      (received ++ task.receipts client script session) := by
  -- The steps that are left bound the run, whatever the step leads to.
  generalize bound : task.stepsLeft = steps
  induction steps using Nat.strongRecOn generalizing task session received with
  | ind steps inductionHypothesis =>
      cases ended : task.result? with
      | some result =>
          rw [run_of_finished ended, receipts_of_finished ended, List.append_nil]
          cases task <;> simp_all [result?]
      | none =>
          rw [run_of_unfinished ended, receipts_of_unfinished ended, ← List.append_assoc]
          have fewer := stepsLeft_step_lt client script session ended
          rw [bound] at fewer
          exact inductionHypothesis _ fewer (survives task session received initial) rfl

end Task

/-- What a client has done so far: its session and the labels that it has received. -/
structure History where
  /-- The client's time, kept answers and requests. -/
  session : Session
  /-- The labels that have arrived, in order. -/
  received : List Receipt

namespace History

/-- What happens next to a client. -/
inductive Event
  /-- It works off an errand. -/
  | serve (errand : Errand)
  /-- Time passes. -/
  | wait (duration : Duration)
  /-- The cache drops entries. -/
  | lose (keeps : CacheEntry CacheKey CachedResponse → Bool)

/-- The history of a client that begins to work. -/
def start (client : Client) : History := ⟨.start client, []⟩

/-- The result of an errand and the session after it. -/
def serve (client : Client) (script : Script) (history : History) (errand : Errand) :
    Except CallError Product × Session :=
  errand.task.run client script history.session

/-- The labels that have arrived when an errand is done. -/
def receivedAfter (client : Client) (script : Script) (history : History) (errand : Errand) :
    List Receipt :=
  history.received ++ errand.task.receipts client script history.session

/-- The history after an event. -/
def next (client : Client) (script : Script) (history : History) : Event → History
  | .serve errand =>
      ⟨(history.serve client script errand).2, history.receivedAfter client script errand⟩
  | .wait duration => { history with session := history.session.wait duration }
  | .lose keeps => { history with session := history.session.lose keeps }

/-- The history after a number of events. -/
def run (client : Client) (script : Script) (events : List Event) : History :=
  events.foldl (next client script) (start client)

end History
end Authority
end Delegation
