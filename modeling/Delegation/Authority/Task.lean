import Delegation.Authority.Client

/-!
# Tasks of a client

What a client does for its users, as tasks that take one step at a time: a look into the
kept answers, a call, the keeping or dropping of answers. Between two steps of a task other
tasks of the same client may take theirs.
-/

namespace Delegation
namespace Authority

/-- What a finished task brings. -/
inductive Product
  /-- The labels of the members. -/
  | authorizations (set : AuthorizationSet)
  /-- The authority has forgotten the chain. -/
  | acknowledged (acknowledgement : Acknowledgement)
  /-- The chain with the labels of the authority. -/
  | remoteIdentity (chain : Chain)
  deriving DecidableEq

/-- What the labels of a chain are listed for. -/
inductive Purpose
  /-- The labels themselves. -/
  | labels
  /-- The chain with these labels. -/
  | identity
  deriving DecidableEq

/-- A task, by its next step. -/
inductive Task
  /-- Look for a kept chain with the labels of the authority. -/
  | findIdentity (chain : Chain)
  /-- Look for kept labels. -/
  | findLabels (chain : Chain) (includeRemote : Bool) (purpose : Purpose)
  /-- Ask the authority for the labels. -/
  | askLabels (chain : Chain) (includeRemote : Bool) (purpose : Purpose)
  /-- Keep the labels. -/
  | keepLabels (chain : Chain) (includeRemote : Bool) (purpose : Purpose)
      (set : AuthorizationSet)
  /-- Keep the chain with the labels of the authority. -/
  | keepIdentity (chain remote : Chain)
  /-- Ask the authority to forget the chain. -/
  | askFlush (chain : Chain) (includeRemote : Bool)
  /-- Drop what is kept for the chain. -/
  | dropKept (chain : Chain) (acknowledgement : Acknowledgement)
  /-- Nothing is left to do. -/
  | finished (result : Except CallError Product)

/-- A client at work: the time, what it keeps and what it has sent. -/
structure Session where
  /-- The time in nanoseconds. -/
  now : Nat := 0
  /-- The kept answers. -/
  cache : ResponseCache
  /-- The requests so far, in order. -/
  sent : List Request := []

namespace Session

/-- A client begins to work. -/
def start (client : Client) : Session := { cache := .empty client.cacheLimits }

/-- Let some time pass. -/
def wait (duration : Duration) (session : Session) : Session :=
  { session with now := session.now + duration.nanos }

/-- The session after a call. -/
def after {α : Type} (exchange : Exchange α) (session : Session) : Session :=
  { session with
    now := session.now + exchange.elapsed
    sent := session.sent ++ exchange.requests }

/-- Call an operation; the remote side goes on in its script where it was left. -/
def call {α : Type} (client : Client) (script : Script) (operation : Operation) (chain : Chain)
    (includeRemote : Bool) (read : Json → Option α) (session : Session) :
    Except CallError α × Session :=
  let rest : Script := fun index => script (session.sent.length + index)
  let exchange := client.call rest operation chain includeRemote read
  (exchange.result, session.after exchange)

/-- Look for a kept answer. -/
def find? (key : CacheKey) (session : Session) : Option CachedResponse × Session :=
  let found := session.cache.get? session.now key
  (found.1, { session with cache := found.2 })

/-- Keep an answer. -/
def keep (key : CacheKey) (response : CachedResponse) (session : Session) : Session :=
  { session with cache := session.cache.insert session.now key response }

/-- Drop what is kept for a chain. -/
def drop (chain : Chain) (session : Session) : Session :=
  { session with cache := ResponseCache.invalidateChain chain session.cache }

/-- The requests that have arrived at the remote side, in order. -/
def received (script : Script) (session : Session) : List Request :=
  (session.sent.zipIdx.filter fun sent => (script sent.2).answer.arrived).map (·.1)

/-- The number of kept answers. -/
def kept (session : Session) : Nat := session.cache.sizeAt session.now

end Session

namespace Task

/-- List the labels of the members of a chain. -/
def listLabels (chain : Chain) (includeRemote : Bool) : Task :=
  findLabels chain includeRemote .labels

/-- Flush what is held for a chain. -/
def flush (chain : Chain) (includeRemote : Bool) : Task := askFlush chain includeRemote

/-- Find the chain with the labels of the authority. -/
def remoteIdentity (chain : Chain) : Task := findIdentity chain

/-- The key of kept labels. -/
def labelsKey (chain : Chain) (includeRemote : Bool) : CacheKey :=
  .ofChain .listAuthorizations chain includeRemote

/-- The key of a kept chain. -/
def identityKey (chain : Chain) : CacheKey := .ofChain .remoteIdentity chain true

/-- A chain with the labels of an authority; members without an entry have none. -/
def withLabels (chain : Chain) (set : AuthorizationSet) : Chain :=
  chain.withMemberAuths fun member => (set.authsFor? member.dn).getD ∅

/-- What follows when the labels are known. -/
def withSet (chain : Chain) (set : AuthorizationSet) : Purpose → Task
  | .labels => finished (.ok (.authorizations set))
  | .identity => keepIdentity chain (withLabels chain set)

/-- What follows a look for a kept chain. -/
def afterIdentity (chain : Chain) : Option CachedResponse → Task
  | some (.remoteIdentity remote) => finished (.ok (.remoteIdentity remote))
  | _ => findLabels chain true .identity

/-- What follows a look for kept labels. -/
def afterLabels (chain : Chain) (includeRemote : Bool) (purpose : Purpose) :
    Option CachedResponse → Task
  | some (.authorizations set) => withSet chain set purpose
  | _ => askLabels chain includeRemote purpose

/-- What follows when the authority was asked for the labels. -/
def afterAnswer (chain : Chain) (includeRemote : Bool) (purpose : Purpose) :
    Except CallError AuthorizationSet → Task
  | .ok set => keepLabels chain includeRemote purpose set
  | .error error => finished (.error error)

/-- What follows when the authority was asked to forget the chain. -/
def afterFlush (chain : Chain) : Except CallError Acknowledgement → Task
  | .ok acknowledgement => dropKept chain acknowledgement
  | .error error => finished (.error error)

/-- Take the next step. -/
def step (client : Client) (script : Script) (session : Session) : Task → Task × Session
  | findIdentity chain =>
      let found := session.find? (identityKey chain)
      (afterIdentity chain found.1, found.2)
  | findLabels chain includeRemote purpose =>
      let found := session.find? (labelsKey chain includeRemote)
      (afterLabels chain includeRemote purpose found.1, found.2)
  | askLabels chain includeRemote purpose =>
      let answer := session.call client script .listAuthorizations chain includeRemote
        AuthorizationSet.ofJson?
      (afterAnswer chain includeRemote purpose answer.1, answer.2)
  | keepLabels chain includeRemote purpose set =>
      (withSet chain set purpose,
        session.keep (labelsKey chain includeRemote) (.authorizations set))
  | keepIdentity chain remote =>
      (finished (.ok (.remoteIdentity remote)),
        session.keep (identityKey chain) (.remoteIdentity remote))
  | askFlush chain includeRemote =>
      let answer := session.call client script .flushCredentials chain includeRemote
        Acknowledgement.ofJson?
      (afterFlush chain answer.1, answer.2)
  | dropKept chain acknowledgement =>
      (finished (.ok (.acknowledged acknowledgement)), session.drop chain)
  | finished result => (finished result, session)

/-- The result of a finished task. -/
def result? : Task → Option (Except CallError Product)
  | finished result => some result
  | _ => none

/-- A bound of the steps that a task still takes. -/
def stepsLeft : Task → Nat
  | findIdentity _ => 5
  | findLabels .. => 4
  | askLabels .. => 3
  | keepLabels .. => 2
  | keepIdentity .. => 1
  | askFlush .. => 2
  | dropKept .. => 1
  | finished _ => 0

theorem stepsLeft_withSet (chain : Chain) (set : AuthorizationSet) (purpose : Purpose) :
    (withSet chain set purpose).stepsLeft ≤ 1 := by
  cases purpose <;> simp [withSet, stepsLeft]

theorem stepsLeft_afterIdentity (chain : Chain) (found : Option CachedResponse) :
    (afterIdentity chain found).stepsLeft ≤ 4 := by
  unfold afterIdentity
  split <;> simp [stepsLeft]

theorem stepsLeft_afterLabels (chain : Chain) (includeRemote : Bool) (purpose : Purpose)
    (found : Option CachedResponse) :
    (afterLabels chain includeRemote purpose found).stepsLeft ≤ 3 := by
  unfold afterLabels
  split
  · exact Nat.le_trans (stepsLeft_withSet ..) (by decide)
  · simp [stepsLeft]

theorem stepsLeft_afterAnswer (chain : Chain) (includeRemote : Bool) (purpose : Purpose)
    (answer : Except CallError AuthorizationSet) :
    (afterAnswer chain includeRemote purpose answer).stepsLeft ≤ 2 := by
  cases answer <;> simp [afterAnswer, stepsLeft]

theorem stepsLeft_afterFlush (chain : Chain) (answer : Except CallError Acknowledgement) :
    (afterFlush chain answer).stepsLeft ≤ 1 := by
  cases answer <;> simp [afterFlush, stepsLeft]

/-- Every step of a task that is not finished brings it nearer to its end. -/
theorem stepsLeft_step_lt (client : Client) (script : Script) (session : Session) {task : Task}
    (unfinished : task.result? = none) :
    (task.step client script session).1.stepsLeft < task.stepsLeft := by
  cases task with
  | findIdentity => exact Nat.lt_succ_of_le (stepsLeft_afterIdentity ..)
  | findLabels => exact Nat.lt_succ_of_le (stepsLeft_afterLabels ..)
  | askLabels => exact Nat.lt_succ_of_le (stepsLeft_afterAnswer ..)
  | keepLabels => exact Nat.lt_succ_of_le (stepsLeft_withSet ..)
  | keepIdentity => exact Nat.zero_lt_one
  | askFlush => exact Nat.lt_succ_of_le (stepsLeft_afterFlush ..)
  | dropKept => exact Nat.zero_lt_one
  | finished => simp [result?] at unfinished

/-- Take steps until the task is finished. -/
def run (client : Client) (script : Script) (session : Session) (task : Task) :
    Except CallError Product × Session :=
  match _found : task.result? with
  | some result => (result, session)
  | none =>
      let next := task.step client script session
      next.1.run client script next.2
termination_by task.stepsLeft
decreasing_by exact stepsLeft_step_lt client script session _found

/-- Let every task of a list take one step, in order. -/
def stepAll (client : Client) (script : Script) : Session → List Task → List Task × Session
  | session, [] => ([], session)
  | session, task :: tasks =>
      let next := task.step client script session
      let others := stepAll client script next.2 tasks
      (next.1 :: others.1, others.2)

/-- Let the tasks of a list take a number of rounds of steps. -/
def runRounds (client : Client) (script : Script) : Nat → Session → List Task →
    List Task × Session
  | 0, session, tasks => (tasks, session)
  | rounds + 1, session, tasks =>
      let next := stepAll client script session tasks
      runRounds client script rounds next.2 next.1

/-- The number of rounds after which tasks that take their steps in turn are finished. -/
def roundsFor (tasks : List Task) : Nat :=
  (tasks.map stepsLeft).foldl max 0

/-- Let the tasks of a list take their steps in turn until all are finished. -/
def runTogether (client : Client) (script : Script) (session : Session) (tasks : List Task) :
    List Task × Session :=
  runRounds client script (roundsFor tasks) session tasks

end Task
end Authority
end Delegation
