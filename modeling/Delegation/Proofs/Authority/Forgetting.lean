import Delegation.Proofs.Authority.Sending
import Delegation.Proofs.Authority.Serving

/-!
# What a flush forgets

A flush that succeeds drops all that is kept for the members of its chain, whatever was asked and
in whichever scope, and nothing else. One that fails changes nothing that is kept. Once a flush has
succeeded, nothing comes back for these members before somebody asks for their labels again, so
whoever does so first makes the client send a request.
-/

namespace Delegation
namespace Authority

/-- Nothing is kept for some members. -/
def ResponseCache.Lacks (members : List Identity) (cache : ResponseCache) : Prop :=
  cache.Every fun key _ _ => key.members ≠ members

theorem ResponseCache.lacks_invalidateChain
    (chain : Chain)
    (cache : ResponseCache) :
    (invalidateChain chain cache).Lacks chain.members :=
  fun _ kept => (mem_invalidateChain.mp kept).2

/-- If a request for a chain can be sent, then so can those for other operations. -/
theorem Client.exists_request?
    {client : Client}
    {operation : Operation}
    {chain : Chain}
    {includeRemote : Bool}
    {request : Request}
    (asked : client.request? operation chain includeRemote = some request)
    (other : Operation)
    (scope : Bool) :
    ∃ further, client.request? other chain scope = some further :=
  exists_request?_iff.mpr (exists_request?_iff.mp ⟨request, asked⟩)

section Fillings

/-- An errand may bring answers for some members into the cache. -/
def Errand.Fills (members : List Identity) : Errand → Prop
  | listLabels chain _ => chain.members = members
  | remoteIdentity chain => chain.members = members
  | flush .. => False

/-- An event may bring answers for some members into the cache. -/
def History.Event.Fills (members : List Identity) : Event → Prop
  | serve errand => errand.Fills members
  | _ => False

variable {client : Client} {script : Script} {session : Session} {task : Task} {errand : Errand}
variable {members : List Identity}

theorem Purpose.Asks.fills
    {chain : Chain}
    {includeRemote : Bool}
    {purpose : Purpose}
    (asks : purpose.Asks errand chain includeRemote) :
    errand.Fills chain.members := by
  cases purpose with
  | labels =>
      obtain rfl : errand = _ := asks
      rfl
  | identity =>
      obtain ⟨rfl, -⟩ := asks
      rfl

/-- What is kept for an errand is kept for the members that the errand asks for. -/
theorem Task.Serves.fills
    {key : CacheKey}
    {response : CachedResponse}
    (serves : task.Serves errand)
    (keeps : task.keeps? = some (key, response)) :
    errand.Fills key.members := by
  cases task with
  | keepLabels chain includeRemote purpose set =>
      obtain ⟨rfl, -⟩ := Prod.mk.inj (Option.some.inj keeps)
      exact Purpose.Asks.fills serves
  | keepIdentity chain remote =>
      obtain ⟨rfl, -⟩ := Prod.mk.inj (Option.some.inj keeps)
      obtain rfl : errand = _ := serves
      rfl
  | _ => nomatch keeps

/-- Errands for other members bring nothing back. -/
theorem Task.lacks_run
    (lacks : session.cache.Lacks members)
    (spares : ¬ errand.Fills members) :
    (errand.task.run client script session).2.cache.Lacks members := by
  let motive (task : Task) (session : Session) (_ : List Receipt) : Prop :=
    task.Serves errand ∧ session.cache.Lacks members
  have survives (task : Task) (session : Session) (received : List Receipt) :
      motive task session received →
        motive (task.step client script session).1 (task.step client script session).2
          (received ++ (task.receipt? client script session).toList) := by
    rintro ⟨serves, lacks⟩
    refine ⟨serves.step client script session, every_step lacks ?_⟩
    rintro key response keeps rfl
    exact spares (serves.fills keeps)
  have ended := @run_induction client script session errand.task motive survives []
    ⟨serves_task errand, lacks⟩
  exact ended.2

theorem History.lacks_next
    {history : History}
    {event : Event}
    (lacks : history.session.cache.Lacks members)
    (spares : ¬ event.Fills members) :
    (history.next client script event).session.cache.Lacks members := by
  cases event with
  | serve errand => exact Task.lacks_run lacks spares
  | wait duration => exact lacks
  | lose keeps => exact Cache.Every.lose lacks keeps

theorem History.lacks_events
    {history : History}
    {events : List Event}
    (lacks : history.session.cache.Lacks members)
    (spare : ∀ event ∈ events, ¬ event.Fills members) :
    (events.foldl (next client script) history).session.cache.Lacks members :=
  List.foldlRecOn (motive := fun history : History => history.session.cache.Lacks members)
    events _ lacks fun _ lacks event inside => lacks_next lacks (spare event inside)

end Fillings

namespace Session

variable {client : Client} {script : Script} {session after : Session} {chain : Chain}
variable {includeRemote : Bool} {request : Request}

/-- The request for labels is sent, once or more often, on the way from one session to another,
and nothing else is. -/
def Asks
    (client : Client)
    (chain : Chain)
    (includeRemote : Bool)
    (session after : Session) : Prop :=
  ∃ request attempts,
    client.request? .listAuthorizations chain includeRemote = some request ∧
      after.sent = session.sent ++ List.replicate (attempts + 1) request

theorem asks_call
    (asked : client.request? .listAuthorizations chain includeRemote = some request)
    (script : Script)
    (session : Session) :
    session.Asks client chain includeRemote
      (session.call client script .listAuthorizations chain includeRemote
        AuthorizationSet.ofJson?).2 := by
  rcases client.requests_call _ .listAuthorizations chain includeRemote AuthorizationSet.ofJson?
    with ⟨unsendable, -⟩ | ⟨sendable, attempts, same, sends⟩
  · nomatch asked.symm.trans unsendable
  · exact ⟨sendable, attempts, same, congrArg (session.sent ++ ·) sends⟩

theorem find?_of_lacks
    {key : CacheKey}
    (lacks : session.cache.Lacks key.members) :
    session.find? key = (none, session) := by
  have absent : ∀ entry ∈ session.cache.entries, entry.key ≠ key :=
    fun entry kept same => lacks entry kept (congrArg CacheKey.members same)
  rw [find?, Cache.get?_of_forall_ne absent]

/-- Labels of which nothing is kept are asked for. -/
theorem Lists.asks
    {result : Except CallError AuthorizationSet}
    (lists : session.Lists client script chain includeRemote result after)
    (lacks : session.cache.Lacks chain.members)
    (asked : client.request? .listAuthorizations chain includeRemote = some request) :
    session.Asks client chain includeRemote after := by
  have missing : session.find? (Task.labelsKey chain includeRemote) = (none, session) :=
    find?_of_lacks lacks
  have asks := asks_call asked script session
  cases lists with
  | kept set found =>
      rw [missing] at found
      nomatch found
  | received set notKept arrives =>
      rw [askAnew, missing]
      exact asks
  | failed error notKept fails =>
      rw [askAnew, missing]
      exact asks

/-- Whoever asks for labels of members for which nothing is kept makes the client ask for them. -/
theorem Serves.asks
    {errand : Errand}
    {purpose : Purpose}
    {result : Except CallError Product}
    (serves : session.Serves client script errand result after)
    (asksFor : purpose.Asks errand chain includeRemote)
    (lacks : session.cache.Lacks chain.members)
    (asked : client.request? .listAuthorizations chain includeRemote = some request) :
    session.Asks client chain includeRemote after := by
  cases purpose with
  | labels =>
      obtain rfl : errand = _ := asksFor
      obtain ⟨listed, lists, -⟩ := serves.lists
      exact lists.asks lacks asked
  | identity =>
      obtain ⟨rfl, rfl⟩ := asksFor
      have missing : session.find? (Task.identityKey chain) = (none, session) :=
        find?_of_lacks lacks
      cases serves with
      | keptIdentity chain remote found =>
          rw [missing] at found
          nomatch found
      | identity chain set after notKept lists =>
          rw [missing] at lists
          exact lists.asks lacks asked
      | noIdentity chain error after notKept lists =>
          rw [missing] at lists
          exact lists.asks lacks asked

/-- A flush that succeeds has sent its request and loses what is kept for the members. -/
theorem Serves.flush_ok
    {product : Product}
    (serves : session.Serves client script (.flush chain includeRemote) (.ok product) after) :
    (∃ request, client.request? .flushCredentials chain includeRemote = some request) ∧
      after.cache = ResponseCache.invalidateChain chain session.cache := by
  cases serves with
  | flushed chain includeRemote acknowledgement acknowledged =>
      obtain ⟨request, -, asked, -⟩ := receives_of_call_eq_ok acknowledged
      exact ⟨⟨request, asked⟩, rfl⟩

theorem Serves.flush_error
    {error : CallError}
    (serves : session.Serves client script (.flush chain includeRemote) (.error error) after) :
    after.cache = session.cache := by
  cases serves with
  | notFlushed chain includeRemote error fails => rfl

end Session

namespace Errand

/-- A flush that succeeds loses what is kept for its members, whatever else is kept stays as it
is, and the next errand for labels of these members asks for them anew. A flush that fails changes
nothing that is kept. -/
theorem flush_forgets
    (client : Client)
    (script : Script)
    (session : Session)
    (chain : Chain)
    (includeRemote : Bool) :
    let flushed := (flush chain includeRemote).task.run client script session
    (∀ product, flushed.1 = .ok product →
        (∀ entry ∈ flushed.2.cache.entries, entry.key.members ≠ chain.members) ∧
        flushed.2.cache = session.cache.lose
          (fun entry => decide (entry.key.members ≠ chain.members)) ∧
        ∀ events : List History.Event, (∀ event ∈ events, ¬ event.Fills chain.members) →
          let later := events.foldl (History.next client script) ⟨flushed.2, []⟩
          ∀ other : Chain, other.members = chain.members →
            (∀ scope, later.session.Asks client other scope
              (later.serve client script (.listLabels other scope)).2) ∧
            later.session.Asks client other true
              (later.serve client script (.remoteIdentity other)).2) ∧
      ∀ error, flushed.1 = .error error → flushed.2.cache = session.cache := by
  intro flushed
  have serves := (flush chain includeRemote).serves_run client script session
  constructor
  · intro product succeeds
    rw [show ((flush chain includeRemote).task.run client script session).1 = .ok product from
      succeeds] at serves
    obtain ⟨⟨request, asked⟩, dropped⟩ := serves.flush_ok
    have lacks : flushed.2.cache.Lacks chain.members := by
      rw [show flushed.2.cache = _ from dropped]
      exact ResponseCache.lacks_invalidateChain chain session.cache
    refine ⟨lacks, dropped.trans (ResponseCache.invalidateChain_eq ..), ?_⟩
    intro events spare later other same
    have lacksLater : later.session.cache.Lacks other.members := by
      rw [same]
      exact History.lacks_events lacks spare
    rw [Client.request?_congr same.symm] at asked
    have asksAnew (errand : Errand) (scope : Bool) (purpose : Purpose)
        (asksFor : purpose.Asks errand other scope) :
        later.session.Asks client other scope (later.serve client script errand).2 := by
      obtain ⟨further, sendable⟩ := Client.exists_request? asked .listAuthorizations scope
      exact (errand.serves_run client script later.session).asks asksFor lacksLater sendable
    exact ⟨fun scope => asksAnew (.listLabels other scope) scope .labels rfl,
      asksAnew (.remoteIdentity other) true .identity ⟨rfl, rfl⟩⟩
  · intro error fails
    rw [show ((flush chain includeRemote).task.run client script session).1 = .error error from
      fails] at serves
    exact serves.flush_error

example :
    let kept := ((remoteIdentity (Sample.chain ∅)).task.run Sample.client Sample.script
      (.start Sample.client)).2
    let flushed := (flush (Sample.chain ∅) false).task.run Sample.client Sample.script kept
    kept.kept = 2 ∧ flushed.1 = .ok (.acknowledged {}) ∧ flushed.2.cache.entries = [] := by
  decide +kernel

end Errand
end Authority
end Delegation
