import Delegation.Proofs.Authority.Freshness
import Delegation.Proofs.Authority.Sending
import Delegation.Proofs.Authority.Serving

/-!
# What kept labels are worth

Labels that are listed without a request are those that the authority has delivered to the
same request on an earlier errand, less than a life of the cache ago, and no flush for the same
members has succeeded since. The reason is an invariant of all histories: each kept answer is of
the kind that its key tells, and labels among them are traced to the request that brought them.
Failed errands have no part in it, as they leave the kept answers as they are. Labels for which no
request can be sent are never kept, so listing them fails without a request.
-/

namespace Delegation
namespace Authority

/-- An answer is of the kind that is kept under a key: labels for lists, and chains with the
labels of all services for remote identities. For flushes nothing is kept. -/
def CacheKey.Holds
    (key : CacheKey)
    (response : CachedResponse) : Prop :=
  match key.operation with
  | .listAuthorizations => ∃ set, response = .authorizations set
  | .remoteIdentity => key.includeRemote = true ∧ ∃ remote, response = .remoteIdentity remote
  | .flushCredentials => False

namespace Session

variable {client : Client} {script : Script} {session after : Session}
variable {chain : Chain} {includeRemote : Bool}

/-- When labels are listed, a property of all kept answers stays true if labels that have just
been received have it. -/
theorem Lists.every
    {property : CacheKey → CachedResponse → Nat → Prop}
    {result : Except CallError AuthorizationSet}
    (lists : session.Lists client script chain includeRemote result after)
    (every : session.cache.Every property)
    (new : ∀ set,
      session.Receives client script .listAuthorizations chain includeRemote
          AuthorizationSet.ofJson? set after →
        property (Task.labelsKey chain includeRemote) (.authorizations set) after.now) :
    after.cache.Every property := by
  cases lists with
  | kept set found => exact every.get? _ _
  | received set lacks arrives =>
      have received : session.Receives client script .listAuthorizations chain includeRemote
          AuthorizationSet.ofJson? set
          (session.askAnew client script chain includeRemote).2 :=
        receives_of_call_eq_ok arrives
      exact (every.get? _ _).insert (new set received)
  | failed error lacks fails => exact every.get? _ _

end Session

section Kinds

/-- All kept answers are of the kinds that their keys tell. -/
abbrev Session.HoldsKinds (session : Session) : Prop :=
  session.cache.Every fun key response _ => key.Holds response

variable {client : Client} {script : Script} {session after : Session}
variable {chain : Chain} {includeRemote : Bool}

/-- A look for labels that finds none changes nothing. -/
theorem Session.find?_of_lacksLabels
    (holds : session.HoldsKinds)
    (lacks : session.LacksLabels chain includeRemote) :
    (session.find? (Task.labelsKey chain includeRemote)).2 = session := by
  have missing : (session.find? (Task.labelsKey chain includeRemote)).1 = none := by
    cases found : (session.find? (Task.labelsKey chain includeRemote)).1 with
    | none => rfl
    | some response =>
        obtain ⟨written, ⟨set, rfl⟩, -⟩ := holds.get?_eq_some found
        exact absurd found (lacks set)
  rw [find?, Cache.get?_of_missing missing]

theorem Session.find?_of_lacksIdentity
    (holds : session.HoldsKinds)
    (lacks : session.LacksIdentity chain) :
    (session.find? (Task.identityKey chain)).2 = session := by
  have missing : (session.find? (Task.identityKey chain)).1 = none := by
    cases found : (session.find? (Task.identityKey chain)).1 with
    | none => rfl
    | some response =>
        obtain ⟨written, ⟨-, remote, rfl⟩, -⟩ := holds.get?_eq_some found
        exact absurd found (lacks remote)
  rw [find?, Cache.get?_of_missing missing]

theorem Session.askAnew_of_lacksLabels
    (holds : session.HoldsKinds)
    (lacks : session.LacksLabels chain includeRemote) :
    session.askAnew client script chain includeRemote =
      session.call client script .listAuthorizations chain includeRemote
        AuthorizationSet.ofJson? := by
  rw [askAnew, find?_of_lacksLabels holds lacks]

theorem Session.Lists.cache_of_error
    {error : CallError}
    (holds : session.HoldsKinds)
    (lists : session.Lists client script chain includeRemote (.error error) after) :
    after.cache = session.cache := by
  cases lists with
  | failed error lacks fails =>
      rw [askAnew_of_lacksLabels holds lacks]
      rfl

/-- Labels that are listed without a request, though one could be sent, are kept ones. -/
theorem Session.Lists.of_unsent
    {result : Except CallError AuthorizationSet}
    {request : Request}
    (holds : session.HoldsKinds)
    (lists : session.Lists client script chain includeRemote result after)
    (asked : client.request? .listAuthorizations chain includeRemote = some request)
    (unsent : after.sent = session.sent) :
    ∃ set, result = .ok set ∧ after.now = session.now ∧
      (session.find? (Task.labelsKey chain includeRemote)).1 = some (.authorizations set) := by
  have sends : (session.call client script .listAuthorizations chain includeRemote
      AuthorizationSet.ofJson?).2.sent ≠ session.sent := by
    rw [ne_eq, sent_call_eq_iff, asked]
    exact Option.some_ne_none request
  cases lists with
  | kept set found => exact ⟨set, rfl, rfl, found⟩
  | received set lacks arrives =>
      rw [askAnew_of_lacksLabels holds lacks] at unsent
      exact absurd unsent sends
  | failed error lacks fails =>
      rw [askAnew_of_lacksLabels holds lacks] at unsent
      exact absurd unsent sends

/-- Without a request that can be sent, labels that are not kept cannot be listed. -/
theorem Session.Lists.of_unsendable
    {result : Except CallError AuthorizationSet}
    (holds : session.HoldsKinds)
    (lists : session.Lists client script chain includeRemote result after)
    (unsendable : client.request? .listAuthorizations chain includeRemote = none)
    (lacks : session.LacksLabels chain includeRemote) :
    after.sent = session.sent ∧ ∃ error, result = .error error := by
  cases lists with
  | kept set found => exact absurd found (lacks set)
  | received set lacks arrives =>
      rw [askAnew_of_lacksLabels holds lacks] at arrives
      obtain ⟨request, number, asked, -⟩ := receives_of_call_eq_ok arrives
      rw [unsendable] at asked
      nomatch asked
  | failed error lacks fails =>
      rw [askAnew_of_lacksLabels holds lacks]
      exact ⟨sent_call_eq_iff.mpr unsendable, error, rfl⟩

/-- Labels that are listed with a request are kept when they arrive. -/
theorem Session.Lists.of_sent
    {result : Except CallError AuthorizationSet}
    (holds : session.HoldsKinds)
    (lists : session.Lists client script chain includeRemote result after)
    (sent : after.sent ≠ session.sent) :
    (∃ set, result = .ok set ∧
        after.cache = session.cache.insert after.now (Task.labelsKey chain includeRemote)
          (.authorizations set)) ∨
      ∃ error, result = .error error ∧ after.cache = session.cache := by
  cases lists with
  | kept set found => exact absurd rfl sent
  | received set lacks arrives =>
      rw [askAnew_of_lacksLabels holds lacks]
      exact .inl ⟨set, rfl, rfl⟩
  | failed error lacks fails =>
      rw [askAnew_of_lacksLabels holds lacks]
      exact .inr ⟨error, rfl, rfl⟩

/-- An errand that fails changes nothing that is kept. -/
theorem Session.Serves.cache_of_error
    {errand : Errand}
    {error : CallError}
    (holds : session.HoldsKinds)
    (serves : session.Serves client script errand (.error error) after) :
    after.cache = session.cache := by
  cases serves with
  | noLabels chain includeRemote error after lists => exact lists.cache_of_error holds
  | noIdentity chain error after lacks lists =>
      rw [find?_of_lacksIdentity holds lacks] at lists
      exact lists.cache_of_error holds
  | notFlushed chain includeRemote error fails => rfl

/-- A key of a step holds what the step keeps under it. -/
theorem Task.holds_keeps?
    {task : Task}
    {key : CacheKey}
    {response : CachedResponse}
    (keeps : task.keeps? = some (key, response)) :
    key.Holds response := by
  cases task with
  | keepLabels chain includeRemote purpose set =>
      obtain ⟨rfl, rfl⟩ := Prod.mk.inj (Option.some.inj keeps)
      exact ⟨set, rfl⟩
  | keepIdentity chain remote =>
      obtain ⟨rfl, rfl⟩ := Prod.mk.inj (Option.some.inj keeps)
      exact ⟨rfl, remote, rfl⟩
  | _ => nomatch keeps

/-- At no time does a key hold an answer of another kind, whatever is under way. -/
theorem Desk.holdsKinds_run
    (client : Client)
    (script : Script)
    (moves : List Desk.Move) :
    (Desk.run client script moves).session.HoldsKinds := by
  apply List.foldlRecOn (motive := fun desk : Desk => desk.session.HoldsKinds) moves _
    (Cache.every_empty _)
  intro desk holds move _
  cases move with
  | accept errand => exact holds
  | wait duration => exact holds
  | lose keeps => exact Cache.Every.lose holds keeps
  | advance position =>
      simp only [Desk.next]
      split
      · exact holds
      · exact Task.every_step holds fun key response keeps => Task.holds_keeps? keeps

end Kinds

/-- A flush for given members that has succeeded. -/
def Errand.HasFlushed
    (members : List Identity)
    (result : Except CallError Product) : Errand → Prop
  | flush chain _ => chain.members = members ∧ ∃ product, result = .ok product
  | _ => False

/-- When an errand is served, a property of all kept answers stays true if what the errand
keeps has it. A flush that succeeds may end it for what is kept for the members. -/
theorem Session.Serves.every
    {client : Client}
    {script : Script}
    {session after : Session}
    {errand : Errand}
    {result : Except CallError Product}
    {property : CacheKey → CachedResponse → Nat → Prop}
    (serves : session.Serves client script errand result after)
    (every : session.cache.Every fun key response written =>
      ¬ errand.HasFlushed key.members result → property key response written)
    (labels : ∀ chain includeRemote purpose set,
      Purpose.Asks errand chain includeRemote purpose →
      session.Receives client script .listAuthorizations chain includeRemote
        AuthorizationSet.ofJson? set after →
        property (Task.labelsKey chain includeRemote) (.authorizations set) after.now)
    (identity : ∀ chain remote,
      property (Task.identityKey chain) (.remoteIdentity remote) after.now) :
    after.cache.Every property := by
  -- Errands other than flushes end nothing.
  have always (never : ∀ members, ¬ errand.HasFlushed members result) :
      session.cache.Every property :=
    every.imp fun key response written old => old (never key.members)
  cases serves with
  | labels chain includeRemote set after lists =>
      exact lists.every (always fun _ => id) fun set =>
        labels chain includeRemote .labels set rfl
  | noLabels chain includeRemote error after lists =>
      exact lists.every (always fun _ => id) fun set =>
        labels chain includeRemote .labels set rfl
  | keptIdentity chain remote found => exact (always fun _ => id).get? _ _
  | identity chain set after lacks lists =>
      have listed := lists.every ((always fun _ => id).get? _ _) fun set =>
        labels chain true .identity set ⟨rfl, rfl⟩
      exact listed.insert (identity chain _)
  | noIdentity chain error after lacks lists =>
      exact lists.every ((always fun _ => id).get? _ _) fun set =>
        labels chain true .identity set ⟨rfl, rfl⟩
  | flushed chain includeRemote acknowledgement acknowledged =>
      intro entry kept
      obtain ⟨old, other⟩ := ResponseCache.mem_invalidateChain.mp kept
      exact every entry old fun flushed => other flushed.1.symm
  | notFlushed chain includeRemote error fails =>
      exact always fun _ flushed => nomatch flushed.2

namespace Sample

/-- A person whose name has two lines. -/
def twoLines : Identity :=
  { person with dn := .ofNames "cn=a\nb" "cn=ca" }

/-- The chain of the person alone. -/
def twoLineChain : Chain where
  members := [twoLines]
  position := 0
  position_primary := by decide
  authorities := (Chain.deriveAuthorities? [twoLines] ∅).getD ∅
  created := 0

end Sample

namespace History

variable {client : Client} {script : Script} {members : List Identity}

/-- A flush for given members that succeeds. -/
def Flushes
    (client : Client)
    (script : Script)
    (members : List Identity)
    (history : History) : Event → Prop
  | .serve errand => errand.HasFlushed members (history.serve client script errand).1
  | _ => False

/-- In a history, an errand has fetched labels for the members of a chain, which arrived at a
time, and no flush for these members has succeeded since. -/
inductive FetchedSinceFlush
    (client : Client)
    (script : Script)
    (chain : Chain)
    (includeRemote : Bool)
    (set : AuthorizationSet)
    (time : Nat) : List Event → Prop
  | fetched (earlier : List Event) (errand : Errand) (source : Chain) (purpose : Purpose) :
      purpose.Asks errand source includeRemote →
      source.members = chain.members →
      (run client script earlier).session.Receives client script .listAuthorizations chain
          includeRemote AuthorizationSet.ofJson? set
          (run client script (earlier ++ [.serve errand])).session →
      (run client script (earlier ++ [.serve errand])).session.now = time →
      FetchedSinceFlush client script chain includeRemote set time (earlier ++ [.serve errand])
  | since (earlier : List Event) (event : Event) :
      FetchedSinceFlush client script chain includeRemote set time earlier →
      ¬ (run client script earlier).Flushes client script chain.members event →
      FetchedSinceFlush client script chain includeRemote set time (earlier ++ [event])

/-- Labels have been fetched with a request that could be sent. -/
theorem FetchedSinceFlush.exists_request?
    {chain : Chain}
    {includeRemote : Bool}
    {set : AuthorizationSet}
    {time : Nat}
    {events : List Event}
    (fetched : FetchedSinceFlush client script chain includeRemote set time events) :
    ∃ request, client.request? .listAuthorizations chain includeRemote = some request := by
  induction fetched with
  | fetched earlier errand source purpose asks same receives arrived =>
      obtain ⟨request, number, asked, -⟩ := receives
      exact ⟨request, asked⟩
  | since earlier event fetched unflushed inductionHypothesis => exact inductionHypothesis

/-- A kept answer fits its key; labels are those that were fetched at the time of writing. -/
structure Traced
    (client : Client)
    (script : Script)
    (events : List Event)
    (key : CacheKey)
    (response : CachedResponse)
    (written : Nat) : Prop where
  holds : key.Holds response
  fetched : ∀ chain set, chain.members = key.members → response = .authorizations set →
    FetchedSinceFlush client script chain key.includeRemote set written events

theorem run_concat
    (client : Client)
    (script : Script)
    (events : List Event)
    (event : Event) :
    run client script (events ++ [event]) =
      (run client script events).next client script event := by
  simp [run]

/-- What is traced stays so, unless a flush for its members succeeds. -/
theorem Traced.since
    {events : List Event}
    {event : Event}
    {key : CacheKey}
    {response : CachedResponse}
    {written : Nat}
    (traced : Traced client script events key response written)
    (unflushed : ¬ (run client script events).Flushes client script key.members event) :
    Traced client script (events ++ [event]) key response written := by
  refine ⟨traced.holds, ?_⟩
  intro chain set same equal
  apply FetchedSinceFlush.since _ _ (traced.fetched chain set same equal)
  rw [same]
  exact unflushed

/-- Labels that an errand has received are traced to it. -/
theorem traced_of_receives
    {events : List Event}
    {errand : Errand}
    {source : Chain}
    {includeRemote : Bool}
    {purpose : Purpose}
    {set : AuthorizationSet}
    (asks : purpose.Asks errand source includeRemote)
    (receives : (run client script events).session.Receives client script .listAuthorizations
      source includeRemote AuthorizationSet.ofJson? set
      (run client script (events ++ [.serve errand])).session) :
    Traced client script (events ++ [.serve errand]) (Task.labelsKey source includeRemote)
      (.authorizations set) (run client script (events ++ [.serve errand])).session.now := by
  refine ⟨⟨set, rfl⟩, ?_⟩
  rintro chain _ same ⟨⟩
  exact .fetched events errand source purpose asks same.symm (receives.congr same.symm) rfl

/-- Whatever happens next to a client, its kept answers stay traced. -/
theorem traced_next
    {events : List Event}
    (traced : (run client script events).session.cache.Every (Traced client script events))
    (event : Event) :
    (run client script (events ++ [event])).session.cache.Every
      (Traced client script (events ++ [event])) := by
  have later : (run client script events).session.cache.Every fun key response written =>
      ¬ (run client script events).Flushes client script key.members event →
        Traced client script (events ++ [event]) key response written :=
    traced.imp fun key response written old unflushed => old.since unflushed
  have next := run_concat client script events event
  cases event with
  | wait duration =>
      rw [next]
      exact later.imp fun key response written old => old id
  | lose keeps =>
      rw [next]
      exact (later.imp fun key response written old => old id).lose keeps
  | serve errand =>
      have serves := errand.serves_run client script (run client script events).session
      have served : (run client script (events ++ [.serve errand])).session =
          (errand.task.run client script (run client script events).session).2 := by
        rw [next]
        rfl
      rw [served]
      apply serves.every later
      · -- What the errand receives is traced to the errand itself, now part of the history.
        intro chain includeRemote purpose set asks receives
        rw [← served] at receives ⊢
        exact traced_of_receives asks receives
      · intro chain remote
        refine ⟨⟨rfl, remote, rfl⟩, ?_⟩
        rintro other set same ⟨⟩

theorem traced_run
    (client : Client)
    (script : Script)
    (events : List Event) :
    (run client script events).session.cache.Every (Traced client script events) := by
  induction events using List.reverseRecOn with
  | nil => exact Cache.every_empty _
  | append_singleton events event inductionHypothesis =>
      exact traced_next inductionHypothesis event

/-- Labels for which no request can be sent are not kept. -/
theorem lacksLabels_of_unsendable
    {chain : Chain}
    {includeRemote : Bool}
    (script : Script)
    (events : List Event)
    (unsendable : client.request? .listAuthorizations chain includeRemote = none) :
    (run client script events).session.LacksLabels chain includeRemote := by
  intro set found
  obtain ⟨written, answer, -⟩ := (traced_run client script events).get?_eq_some found
  obtain ⟨request, asked⟩ := (answer.fetched chain set rfl rfl).exists_request?
  exact Option.some_ne_none request (asked.symm.trans unsendable)

/-- For a client of the web and a chain with proper names, labels that are listed without a request
come from the authority all the same: it has delivered them to the same request less than a life of
the cache ago, and no flush for the same members has succeeded since. For any other client or chain
no request can be sent, and none is, so labels cannot be listed. Labels that a request brings are
kept, errands that fail change nothing that is kept, and a key only holds answers of its kind, also
while errands are under way. -/
theorem listLabels_transparent
    (client : Client)
    (script : Script)
    (events : List Event)
    (chain : Chain)
    (includeRemote : Bool) :
    let before := run client script events
    let served := before.serve client script (.listLabels chain includeRemote)
    (client.baseUri.IsWeb ∧ HasHeaderNames chain → served.2.sent = before.session.sent →
        ∃ set time, served.1 = .ok (.authorizations set) ∧
          FetchedSinceFlush client script chain includeRemote set time events ∧
          served.2.now < time + client.cacheLimits.life.nanos) ∧
      (¬ (client.baseUri.IsWeb ∧ HasHeaderNames chain) →
        served.2.sent = before.session.sent ∧ ∃ error, served.1 = .error error) ∧
      (served.2.sent ≠ before.session.sent →
        (∃ set, served.1 = .ok (.authorizations set) ∧
            served.2.cache = before.session.cache.insert served.2.now
              (Task.labelsKey chain includeRemote) (.authorizations set)) ∨
          ∃ error, served.1 = .error error ∧ served.2.cache = before.session.cache) ∧
      (∀ errand error, (before.serve client script errand).1 = .error error →
        (before.serve client script errand).2.cache = before.session.cache) ∧
      before.session.HoldsKinds ∧
      ∀ moves, (Desk.run client script moves).session.HoldsKinds := by
  intro before served
  have traced := traced_run client script events
  have holds : before.session.HoldsKinds :=
    traced.imp fun key response written answer => answer.holds
  obtain ⟨listed, lists, brings⟩ := (Errand.serves_run client script before.session
    (.listLabels chain includeRemote)).lists
  have result : served.1 = listed.map .authorizations := brings
  refine ⟨fun proper unsent => ?_, fun improper => ?_, fun sent => ?_, fun errand error fails => ?_,
    holds, Desk.holdsKinds_run client script⟩
  · obtain ⟨request, asked⟩ := Client.exists_request?_iff.mpr proper
    obtain ⟨set, rfl, now, found⟩ := lists.of_unsent holds asked unsent
    obtain ⟨written, answer, live⟩ := traced.get?_eq_some found
    rw [(keepsRecent_run client script events).bound] at live
    have fetched := answer.fetched chain set rfl rfl
    exact ⟨set, written, result, fetched, now.trans_lt live⟩
  · have unsendable : client.request? .listAuthorizations chain includeRemote = none :=
      Client.request?_eq_none_iff.mpr improper
    obtain ⟨unsent, error, rfl⟩ := lists.of_unsendable holds unsendable
      (lacksLabels_of_unsendable script events unsendable)
    exact ⟨unsent, error, result⟩
  · rcases lists.of_sent holds sent with ⟨set, rfl, kept⟩ | ⟨error, rfl, unchanged⟩
    · exact .inl ⟨set, result, kept⟩
    · exact .inr ⟨error, result, unchanged⟩
  · have serves := errand.serves_run client script before.session
    rw [show (errand.task.run client script before.session).1 = .error error from fails] at serves
    exact serves.cache_of_error holds

/-- A name with two lines can stand in no header, so its labels are not listed, though no request is
sent. -/
theorem listLabels_of_unsendable :
    let before := run Sample.client Sample.script []
    let served := before.serve Sample.client Sample.script (.listLabels Sample.twoLineChain true)
    served.2.sent = before.session.sent ∧
      served.1 = .error ⟨"cn=a\nb", .listAuthorizations, .unavailable 6 none⟩ ∧
      ¬ ∃ set time, served.1 = .ok (.authorizations set) ∧
        FetchedSinceFlush Sample.client Sample.script Sample.twoLineChain true set time [] ∧
        served.2.now < time + Sample.client.cacheLimits.life.nanos := by
  intro before served
  have fails : served.1 = .error ⟨"cn=a\nb", .listAuthorizations, .unavailable 6 none⟩ := by
    decide +kernel
  refine ⟨by decide +kernel, fails, ?_⟩
  rintro ⟨set, time, listed, -⟩
  rw [fails] at listed
  cases listed

example :
    let events := [.serve (.remoteIdentity (Sample.chain ∅)), .wait (.ofSecs 59)]
    let served := (run Sample.client Sample.script events).serve Sample.client Sample.script
      (.listLabels (Sample.chain ∅) true)
    served.1 = .ok (.authorizations {}) ∧ served.2.sent.length = 1 := by
  decide +kernel

end History
end Authority
end Delegation
