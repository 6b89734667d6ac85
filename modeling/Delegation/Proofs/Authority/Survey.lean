import Delegation.Proofs.Authority.History
import Delegation.Proofs.Authority.KeptAnswers
import Delegation.Proofs.Authority.Registration

/-!
# Asking all authorities at once

The question to all services of a registry is one query for each of them, and all queries are
under way at the same time. One clock counts for all. A query takes its next step when that is due,
and queries that are due at the same time take their steps in any order. The caches of the clients
lie side by side. Each was made when its client was set up, so each client has one of its own.
Whatever the order of the steps is, the queries come to their ends, and each brings what it would
have brought without the others.
-/

namespace Delegation
namespace Authority

/-- The query to one service. -/
structure Query where
  /-- The name of the service. -/
  name : String
  /-- Its client. -/
  client : Client
  /-- The place of the client's cache among all caches. -/
  place : Nat
  /-- What is left to do. -/
  task : Task
  /-- When the next step is due, in nanoseconds. -/
  due : Nat
  /-- The requests so far, in order. -/
  sent : List Request := []

namespace Query

/-- Something is left to do. -/
def isOpen (query : Query) : Bool := query.task.result?.isNone

/-- The query after its next step, and the session of its client. -/
def advance (script : Script) (session : Session) (query : Query) : Query × Session :=
  let next := query.task.step query.client script session
  ({ query with task := next.1, due := next.2.now, sent := next.2.sent }, next.2)

end Query

/-- Queries to several services, which are under way at the same time. -/
structure Survey where
  /-- The time in nanoseconds. -/
  clock : Nat
  /-- What the clients keep. -/
  caches : List ResponseCache
  /-- The queries, in the order of the services. -/
  queries : List Query

namespace Survey

/-- What happens next in a survey. -/
inductive Move
  /-- The query at a position takes a step. -/
  | turn (position : Nat)
  /-- Time passes until a query is due. -/
  | wait

/-- The session of the client of a query at some time. -/
def session? (survey : Survey) (time : Nat) (query : Query) : Option Session :=
  survey.caches[query.place]?.map fun cache => ⟨time, cache, query.sent⟩

/-- When the next query is due, unless all are over. -/
def nextDue? (survey : Survey) : Option Nat :=
  ((survey.queries.filter (·.isOpen)).map (·.due)).min?

/-- A query takes its next step, which must be due. -/
def turn? (scripts : String → Script) (position : Nat) (survey : Survey) : Option Survey :=
  survey.queries[position]?.bind fun query =>
    (survey.session? survey.clock query).bind fun session =>
      if query.isOpen = true ∧ query.due ≤ survey.clock then
        let next := query.advance (scripts query.name) session
        some { survey with
          caches := survey.caches.set query.place next.2.cache
          queries := survey.queries.set position next.1 }
      else none

/-- Time passes until a query is due, where none is yet. -/
def wait? (survey : Survey) : Option Survey :=
  survey.nextDue?.bind fun time =>
    if survey.clock < time then some { survey with clock := time } else none

/-- The survey after a move, where that is possible. -/
def next? (scripts : String → Script) (survey : Survey) : Move → Option Survey
  | .turn position => survey.turn? scripts position
  | .wait => survey.wait?

/-- The survey after some moves, where these are possible. -/
def run? (scripts : String → Script) : Survey → List Move → Option Survey :=
  List.foldlM (next? scripts)

/-- What a query has brought, and the session of its client in the end. -/
def outcome? (survey : Survey) (query : Query) :
    Option (String × Except CallError Product × Session) :=
  query.task.result?.bind fun result =>
    (survey.session? query.due query).map fun session => (query.name, result, session)

/-- What all queries have brought, when all are over. -/
def outcomes? (survey : Survey) : Option (NameMap (Except CallError Product × Session)) :=
  (survey.queries.mapM survey.outcome?).map .ofList

variable {scripts : String → Script} {survey after : Survey}

/-! ## What a move changes -/

/-- A possible step of a query, with what it changes. -/
theorem turn?_eq_some_iff
    {position : Nat} :
    survey.turn? scripts position = some after ↔
      ∃ query cache, survey.queries[position]? = some query ∧
        survey.caches[query.place]? = some cache ∧
        query.isOpen = true ∧ query.due ≤ survey.clock ∧
        let next := query.advance (scripts query.name) ⟨survey.clock, cache, query.sent⟩
        after = { survey with
          caches := survey.caches.set query.place next.2.cache
          queries := survey.queries.set position next.1 } := by
  simp only [turn?, session?, Option.bind_eq_some_iff, Option.map_eq_some_iff]
  constructor
  · rintro ⟨query, found, session, ⟨cache, stored, rfl⟩, moved⟩
    split at moved
    · rename_i ready
      exact ⟨query, cache, found, stored, ready.1, ready.2, (Option.some.inj moved).symm⟩
    · contradiction
  · rintro ⟨query, cache, found, stored, unfinished, due, rfl⟩
    exact ⟨query, found, _, ⟨cache, stored, rfl⟩, if_pos ⟨unfinished, due⟩⟩

theorem wait?_eq_some_iff :
    survey.wait? = some after ↔
      ∃ time, survey.nextDue? = some time ∧ survey.clock < time ∧
        after = { survey with clock := time } := by
  simp only [wait?, Option.bind_eq_some_iff]
  constructor
  · rintro ⟨time, due, moved⟩
    split at moved
    · rename_i later
      exact ⟨time, due, later, (Option.some.inj moved).symm⟩
    · contradiction
  · rintro ⟨time, due, later, rfl⟩
    exact ⟨time, due, if_pos later⟩

/-- The next time at which a query is due is the least among those of the open queries. -/
theorem nextDue?_eq_some_iff
    {time : Nat} :
    survey.nextDue? = some time ↔
      (∃ query ∈ survey.queries, query.isOpen = true ∧ query.due = time) ∧
        ∀ query ∈ survey.queries, query.isOpen = true → time ≤ query.due := by
  simp only [nextDue?, List.min?_eq_some_iff, List.mem_map, List.mem_filter, and_assoc]
  refine and_congr_right fun _ => ⟨?_, ?_⟩
  · intro least query inside unfinished
    exact least query.due ⟨query, inside, unfinished, rfl⟩
  · rintro least _ ⟨query, inside, unfinished, rfl⟩
    exact least query inside unfinished

theorem nextDue?_eq_none_iff :
    survey.nextDue? = none ↔ ∀ query ∈ survey.queries, query.isOpen = false := by
  simp [nextDue?, List.filter_eq_nil_iff]

theorem run?_cons
    {move : Move}
    {moves : List Move} :
    survey.run? scripts (move :: moves) = some after ↔
      ∃ middle, survey.next? scripts move = some middle ∧
        middle.run? scripts moves = some after := by
  rw [run?, List.foldlM_cons]
  exact Option.bind_eq_some_iff

/-! ## Each query as if it were alone -/

/-- A query is on the way to the outcome that is known for its service: with the cache at its place,
and from the time when its next step is due, the rest of its task leads there. -/
structure Follows
    (scripts : String → Script)
    (alone : String → Client → Except CallError Product × Session)
    (clock : Nat)
    (caches : List ResponseCache)
    (position : Nat)
    (query : Query) : Prop where
  place : query.place = position
  ahead : query.isOpen = true → clock ≤ query.due
  rest : ∃ cache, caches[position]? = some cache ∧
    query.task.run query.client (scripts query.name) ⟨query.due, cache, query.sent⟩ =
      alone query.name query.client

section Queries

variable {alone : String → Client → Except CallError Product × Session} {clock position : Nat}
  {caches : List ResponseCache} {cache : ResponseCache} {query : Query}

/-- A step that is due brings a query on its way. -/
theorem Follows.advance
    (follows : Follows scripts alone clock caches position query)
    (stored : caches[position]? = some cache)
    (unfinished : query.isOpen = true)
    (due : query.due ≤ clock) :
    let next := query.advance (scripts query.name) ⟨clock, cache, query.sent⟩
    Follows scripts alone clock (caches.set position next.2.cache) position next.1 := by
  obtain ⟨place, ahead, other, found, rest⟩ := follows
  obtain rfl := Option.some.inj (stored.symm.trans found)
  -- The clock has not passed the query by, so the step is taken just when it is due.
  obtain rfl := Nat.le_antisymm due (ahead unfinished)
  intro next
  refine ⟨place, ?_, next.2.cache, ?_, ?_⟩
  · intro _
    exact Task.now_le_step query.client (scripts query.name) ⟨query.due, cache, query.sent⟩ _
  · exact List.getElem?_set_self (List.getElem?_eq_some_iff.mp stored).1
  · change _ = alone query.name query.client
    rw [← rest, Task.run_of_unfinished (Option.isNone_iff_eq_none.mp unfinished)]
    rfl

/-- A query does not notice what becomes of another one's cache. -/
theorem Follows.of_set
    {place : Nat}
    (follows : Follows scripts alone clock caches position query)
    (apart : position ≠ place) :
    Follows scripts alone clock (caches.set place cache) position query := by
  obtain ⟨own, ahead, other, found, rest⟩ := follows
  exact ⟨own, ahead, other, by rw [List.getElem?_set_ne apart.symm, found], rest⟩

end Queries

/-- The queries of a survey are those to some clients, each on its way. -/
structure Faithful
    (scripts : String → Script)
    (alone : String → Client → Except CallError Product × Session)
    (clients : List (String × Client))
    (survey : Survey) : Prop where
  clients : survey.queries.map (fun query => (query.name, query.client)) = clients
  follows : ∀ position query, survey.queries[position]? = some query →
    Follows scripts alone survey.clock survey.caches position query

section Runs

variable {alone : String → Client → Except CallError Product × Session}
  {clients : List (String × Client)}

/-- When a query takes its step, all queries stay on their ways. -/
theorem Faithful.turn
    {position : Nat}
    (faithful : Faithful scripts alone clients survey)
    (moved : survey.turn? scripts position = some after) :
    Faithful scripts alone clients after := by
  obtain ⟨query, cache, found, stored, unfinished, due, rfl⟩ := turn?_eq_some_iff.mp moved
  have own := faithful.follows position query found
  rw [own.place] at stored ⊢
  constructor
  · refine (map_set_of_eq found ?_).trans faithful.clients
    rfl
  · intro other chosen there
    rcases getElem?_of_set there with ⟨rfl, rfl⟩ | ⟨apart, same⟩
    · exact own.advance stored unfinished due
    · exact (faithful.follows other chosen same).of_set apart

theorem Faithful.wait
    (faithful : Faithful scripts alone clients survey)
    (moved : survey.wait? = some after) :
    Faithful scripts alone clients after := by
  obtain ⟨time, first, -, rfl⟩ := wait?_eq_some_iff.mp moved
  refine ⟨faithful.clients, ?_⟩
  intro position query found
  obtain ⟨place, -, rest⟩ := faithful.follows position query found
  exact ⟨place, (nextDue?_eq_some_iff.mp first).2 query (List.mem_of_getElem? found), rest⟩

theorem Faithful.next
    {move : Move}
    (faithful : Faithful scripts alone clients survey)
    (moved : survey.next? scripts move = some after) :
    Faithful scripts alone clients after := by
  cases move with
  | turn position => exact faithful.turn moved
  | wait => exact faithful.wait moved

/-- Whatever moves are made, all queries stay on their ways. -/
theorem Faithful.run
    {moves : List Move}
    (faithful : Faithful scripts alone clients survey)
    (moved : survey.run? scripts moves = some after) :
    Faithful scripts alone clients after := by
  induction moves generalizing survey with
  | nil =>
      obtain rfl := Option.some.inj moved
      exact faithful
  | cons move moves inductionHypothesis =>
      obtain ⟨middle, first, others⟩ := run?_cons.mp moved
      exact inductionHypothesis (faithful.next first) others

/-- While a query is open, some move is possible. -/
theorem Faithful.exists_next
    {query : Query}
    (faithful : Faithful scripts alone clients survey)
    (inside : query ∈ survey.queries)
    (unfinished : query.isOpen = true) :
    ∃ move later, survey.next? scripts move = some later := by
  cases first : survey.nextDue? with
  | none =>
      exact absurd unfinished (by simp [nextDue?_eq_none_iff.mp first query inside])
  | some time =>
      rcases Nat.lt_or_ge survey.clock time with later | due
      · exact ⟨.wait, _, wait?_eq_some_iff.mpr ⟨time, first, later, rfl⟩⟩
      · obtain ⟨⟨ready, member, waiting, rfl⟩, -⟩ := nextDue?_eq_some_iff.mp first
        obtain ⟨position, found⟩ := List.mem_iff_getElem?.mp member
        obtain ⟨place, -, cache, stored, -⟩ := faithful.follows position ready found
        rw [← place] at stored
        exact ⟨.turn position, _,
          turn?_eq_some_iff.mpr ⟨ready, cache, found, stored, waiting, due, rfl⟩⟩

/-- When all queries are over, they have brought what each client brings on its own. -/
theorem Faithful.outcomes
    (faithful : Faithful scripts alone clients survey)
    (ended : ∀ query ∈ survey.queries, query.isOpen = false) :
    survey.outcomes? =
      some (.ofList (clients.map fun entry => (entry.1, alone entry.1 entry.2))) := by
  have read : survey.queries.mapM survey.outcome? =
      some (survey.queries.map fun query => (query.name, alone query.name query.client)) := by
    rw [mapM_eq_some_iff, List.map_map]
    apply List.map_congr_left
    intro query inside
    obtain ⟨position, found⟩ := List.mem_iff_getElem?.mp inside
    obtain ⟨place, -, cache, stored, rest⟩ := faithful.follows position query found
    obtain ⟨result, finished⟩ :=
      Option.isSome_iff_exists.mp (Option.isNone_eq_false_iff.mp (ended query inside))
    rw [Task.run_of_finished finished] at rest
    simp [outcome?, session?, finished, place, stored, ← rest]
  rw [outcomes?, read, ← faithful.clients, List.map_map]
  rfl

end Runs

/-- As long as a query is open, there are no outcomes of all. -/
theorem outcomes?_eq_none
    {query : Query}
    (inside : query ∈ survey.queries)
    (unfinished : query.isOpen = true) :
    survey.outcomes? = none := by
  rw [outcomes?, Option.map_eq_none_iff, Option.eq_none_iff_forall_ne_some]
  intro outcomes read
  have member : survey.outcome? query ∈ outcomes.map some := by
    rw [← mapM_eq_some_iff.mp read]
    exact List.mem_map_of_mem inside
  have lacking : survey.outcome? query = none := by
    rw [outcome?, Option.isNone_iff_eq_none.mp unfinished]
    rfl
  rw [lacking] at member
  simp at member

/-! ## A survey comes to its end -/

/-- A bound of the moves that are still possible: every step of a query may have time to pass
before it. -/
def movesLeft (survey : Survey) : Nat :=
  2 * (survey.queries.map (·.task.stepsLeft)).sum + if survey.wait?.isSome then 1 else 0

/-- A step of a query leaves fewer moves. -/
theorem movesLeft_turn_lt
    {position : Nat}
    (moved : survey.turn? scripts position = some after) :
    after.movesLeft < survey.movesLeft := by
  obtain ⟨query, cache, found, -, unfinished, -, rfl⟩ := turn?_eq_some_iff.mp moved
  have less := Task.stepsLeft_step_lt query.client (scripts query.name)
    ⟨survey.clock, cache, query.sent⟩ (Option.isNone_iff_eq_none.mp unfinished)
  have fewer := @sum_map_set_lt _ _ _ (query.advance _ _).1 _ (·.task.stepsLeft) found less
  simp only [movesLeft]
  split <;> split <;> omega

theorem wait?_of_wait?
    (moved : survey.wait? = some after) :
    after.wait? = none := by
  obtain ⟨time, first, -, rfl⟩ := wait?_eq_some_iff.mp moved
  rw [Option.eq_none_iff_forall_ne_some]
  intro later again
  obtain ⟨other, second, less, -⟩ := wait?_eq_some_iff.mp again
  obtain rfl := Option.some.inj (first.symm.trans second)
  exact absurd less (Nat.lt_irrefl _)

/-- Waiting leaves fewer moves, since it cannot be done twice in a row. -/
theorem movesLeft_wait_lt
    (moved : survey.wait? = some after) :
    after.movesLeft < survey.movesLeft := by
  have still := wait?_of_wait? moved
  have same : after.queries = survey.queries := by
    obtain ⟨time, -, -, rfl⟩ := wait?_eq_some_iff.mp moved
    rfl
  simp [movesLeft, still, same, moved]

/-- Every move takes one from those that are left. -/
theorem length_moves_le
    {moves : List Move}
    (moved : survey.run? scripts moves = some after) :
    moves.length + after.movesLeft ≤ survey.movesLeft := by
  induction moves generalizing survey with
  | nil =>
      obtain rfl := Option.some.inj moved
      simp
  | cons move moves inductionHypothesis =>
      obtain ⟨middle, first, others⟩ := run?_cons.mp moved
      have fewer : middle.movesLeft < survey.movesLeft := by
        cases move with
        | turn position => exact movesLeft_turn_lt first
        | wait => exact movesLeft_wait_lt first
      have rest := inductionHypothesis others
      rw [List.length_cons]
      omega

end Survey

/-! ## Caches and their owners -/

/-- A client that has been set up, and the place of its cache among all caches. -/
structure Owner where
  /-- The name of the service. -/
  name : String
  /-- The client. -/
  client : Client
  /-- The place of its cache. -/
  place : Nat

/-- Clients that have been set up, and the caches that were made for them. -/
structure Fleet where
  /-- The caches in the order in which they were made. -/
  caches : List ResponseCache
  /-- The clients in the order in which they were set up. -/
  owners : List Owner

namespace Fleet

/-- Set up one more client: a cache is made for it behind the others, with the bounds of the
client's own settings. -/
def add (fleet : Fleet) (entry : String × Client) : Fleet where
  caches := fleet.caches ++ [.empty entry.2.cacheLimits]
  owners := fleet.owners ++ [⟨entry.1, entry.2, fleet.caches.length⟩]

/-- Set up some clients, one after the other. -/
def setUp (clients : List (String × Client)) : Fleet :=
  clients.foldl add ⟨[], []⟩

/-- The caches when each client has come to keep some answers at its place. -/
def keeping (kept : String → ResponseCache) (fleet : Fleet) : List ResponseCache :=
  fleet.owners.foldl (fun caches owner => caches.set owner.place (kept owner.name)) fleet.caches

/-- Each client has a cache of its own, which was made empty and with the client's bounds. -/
structure IsApart (fleet : Fleet) : Prop where
  own : ∀ owner ∈ fleet.owners,
    fleet.caches[owner.place]? = some (.empty owner.client.cacheLimits)
  apart : ∀ owner ∈ fleet.owners, ∀ other ∈ fleet.owners, other.place = owner.place → other = owner

variable {fleet : Fleet} {owner : Owner}

theorem caches_setUp (clients : List (String × Client)) :
    (setUp clients).caches = clients.map fun entry => .empty entry.2.cacheLimits := by
  induction clients using List.reverseRecOn with
  | nil => rfl
  | append_singleton clients entry inductionHypothesis =>
      rw [setUp, List.foldl_concat, ← setUp, add, inductionHypothesis, List.map_append]
      rfl

/-- The places of the caches are counted as the clients are set up. -/
theorem owners_setUp (clients : List (String × Client)) :
    (setUp clients).owners = clients.mapIdx fun place entry => ⟨entry.1, entry.2, place⟩ := by
  induction clients using List.reverseRecOn with
  | nil => rfl
  | append_singleton clients entry inductionHypothesis =>
      rw [setUp, List.foldl_concat, ← setUp, add, inductionHypothesis, List.mapIdx_concat,
        caches_setUp, List.length_map]

/-- Clients that are set up one after the other have caches of their own. -/
theorem isApart_setUp (clients : List (String × Client)) : (setUp clients).IsApart := by
  constructor
  · intro owner inside
    rw [owners_setUp] at inside
    obtain ⟨place, within, rfl⟩ := List.mem_mapIdx.mp inside
    simp [caches_setUp, within]
  · intro owner inside other otherInside same
    rw [owners_setUp] at inside otherInside
    obtain ⟨place, within, rfl⟩ := List.mem_mapIdx.mp inside
    obtain ⟨otherPlace, otherWithin, rfl⟩ := List.mem_mapIdx.mp otherInside
    obtain rfl : otherPlace = place := same
    rfl

theorem length_foldl_set
    (kept : String → ResponseCache)
    (owners : List Owner)
    (caches : List ResponseCache) :
    (owners.foldl (fun caches owner => caches.set owner.place (kept owner.name)) caches).length =
      caches.length := by
  induction owners generalizing caches with
  | nil => rfl
  | cons owner owners inductionHypothesis =>
      rw [List.foldl_cons, inductionHypothesis, List.length_set]

theorem getElem?_foldl_set
    {owners : List Owner}
    {caches : List ResponseCache}
    (within : owner.place < caches.length)
    (inside : owner ∈ owners)
    (apart : ∀ other ∈ owners, other.place = owner.place → other = owner)
    (kept : String → ResponseCache) :
    (owners.foldl (fun caches owner => caches.set owner.place (kept owner.name))
      caches)[owner.place]? = some (kept owner.name) := by
  -- From the end of the owners, as the last one that comes to a place decides what is kept there.
  induction owners using List.reverseRecOn with
  | nil => cases inside
  | append_singleton owners last inductionHypothesis =>
      rw [List.foldl_concat]
      by_cases same : last.place = owner.place
      · obtain rfl := apart last (by simp) same
        rw [List.getElem?_set_self]
        rwa [length_foldl_set]
      · have earlier : owner ∈ owners := by
          rcases List.mem_append.mp inside with earlier | found
          · exact earlier
          · exact absurd (by rw [List.mem_singleton.mp found]) same
        rw [List.getElem?_set_ne same]
        exact inductionHypothesis earlier fun other member =>
          apart other (List.mem_append_left _ member)

/-- At its place, a client has what it keeps, whatever the others keep. -/
theorem getElem?_keeping
    (isApart : fleet.IsApart)
    (inside : owner ∈ fleet.owners)
    (kept : String → ResponseCache) :
    (fleet.keeping kept)[owner.place]? = some (kept owner.name) := by
  have within := (List.getElem?_eq_some_iff.mp (isApart.own owner inside)).1
  exact getElem?_foldl_set within inside (isApart.apart owner inside) kept

end Fleet

/-! ## Registries -/

namespace Registry

/-- The clients of a registry are set up one after the other. -/
def fleet (registry : Registry) : Fleet :=
  Fleet.setUp registry.clients.toList

/-- All services of a registry are asked at the same time for the labels of the members of a
chain, and each client has its own cache. -/
def survey (registry : Registry) (caches : String → ResponseCache) (now : Nat)
    (chain : Chain) (includeRemote : Bool) : Survey where
  clock := now
  caches := registry.fleet.keeping caches
  queries := registry.fleet.owners.map fun owner =>
    { name := owner.name
      client := owner.client
      place := owner.place
      task := .listLabels chain includeRemote
      due := now }

/-- Sessions of clients that keep some answers, in which nothing was sent yet. -/
def sessions (caches : String → ResponseCache) (now : Nat) (name : String) : Session :=
  ⟨now, caches name, []⟩

/-- What one client brings on its own. -/
def alone (scripts : String → Script) (caches : String → ResponseCache) (now : Nat)
    (chain : Chain) (includeRemote : Bool) (name : String) (client : Client) :
    Except CallError Product × Session :=
  (Task.listLabels chain includeRemote).run client (scripts name) (sessions caches now name)

section Survey

variable (registry : Registry) (scripts : String → Script) (caches : String → ResponseCache)
  (now : Nat) (chain : Chain) (includeRemote : Bool)

/-- A registry sets up its own clients. -/
theorem owners_fleet :
    registry.fleet.owners.map (fun owner => (owner.name, owner.client)) =
      registry.clients.toList := by
  rw [fleet, Fleet.owners_setUp]
  refine (map_mapIdx_of_eq ?_ _).trans (List.map_id _)
  intro place entry
  rfl

theorem faithful_survey :
    Survey.Faithful scripts (alone scripts caches now chain includeRemote)
      registry.clients.toList (registry.survey caches now chain includeRemote) := by
  constructor
  · rw [← owners_fleet registry, survey, List.map_map]
    rfl
  · intro position query found
    rw [survey, List.getElem?_map, Option.map_eq_some_iff] at found
    obtain ⟨owner, inside, rfl⟩ := found
    have stored := Fleet.getElem?_keeping (Fleet.isApart_setUp _) (List.mem_of_getElem? inside)
      caches
    have place : owner.place = position := by
      rw [fleet, Fleet.owners_setUp, List.getElem?_mapIdx, Option.map_eq_some_iff] at inside
      obtain ⟨entry, -, rfl⟩ := inside
      rfl
    rw [place] at stored
    exact ⟨place, fun _ => Nat.le_refl now, caches owner.name, stored, rfl⟩

theorem movesLeft_survey :
    (registry.survey caches now chain includeRemote).movesLeft = 8 * registry.size := by
  have still : (registry.survey caches now chain includeRemote).wait? = none := by
    rw [Option.eq_none_iff_forall_ne_some]
    intro later moved
    obtain ⟨time, first, less, -⟩ := Survey.wait?_eq_some_iff.mp moved
    obtain ⟨⟨query, inside, -, rfl⟩, -⟩ := Survey.nextDue?_eq_some_iff.mp first
    obtain ⟨owner, present, rfl⟩ := List.mem_map.mp inside
    exact absurd less (Nat.lt_irrefl now)
  have steps : ((registry.survey caches now chain includeRemote).queries.map
      (·.task.stepsLeft)) = registry.fleet.owners.map fun _ => 4 := by
    rw [survey, List.map_map]
    rfl
  have size : registry.fleet.owners.length = registry.size := by
    rw [size, ← owners_fleet registry, List.length_map]
  simp only [Survey.movesLeft, still, steps, size, List.map_const', List.sum_replicate_nat,
    Option.isSome_none, Bool.false_eq_true, if_false]
  omega

/-- Asking all services gives what each client brings on its own. -/
theorem listAll_eq :
    registry.listAll scripts (sessions caches now) chain includeRemote =
      .ofList (registry.clients.toList.map fun entry =>
        (entry.1, alone scripts caches now chain includeRemote entry.1 entry.2)) := by
  apply NameMap.eq_of_toList_eq
  rw [NameMap.toList_ofList]
  · rfl
  · rw [List.pairwise_map]
    exact registry.clients.increasing

/-- The moves of a survey come to an end, and then it has brought what each client brings on its
own. -/
theorem survey_run
    {moves : List Survey.Move}
    {survey : Survey}
    (moved : (registry.survey caches now chain includeRemote).run? scripts moves = some survey) :
    moves.length ≤ 8 * registry.size ∧
      (survey.outcomes? = none ∧ (∃ move later, survey.next? scripts move = some later) ∨
        survey.outcomes? =
          some (registry.listAll scripts (sessions caches now) chain
            includeRemote)) := by
  have faithful := (registry.faithful_survey scripts caches now chain includeRemote).run moved
  constructor
  · have bound := Survey.length_moves_le moved
    rw [movesLeft_survey] at bound
    exact Nat.le_trans (Nat.le_add_right ..) bound
  · by_cases ended : ∀ query ∈ survey.queries, query.isOpen = false
    · exact .inr ((faithful.outcomes ended).trans (by rw [listAll_eq]))
    · simp only [not_forall, Bool.not_eq_false] at ended
      obtain ⟨query, inside, unfinished⟩ := ended
      exact .inl ⟨Survey.outcomes?_eq_none inside unfinished,
        faithful.exists_next inside unfinished⟩

end Survey

theorem get?_listAll
    (registry : Registry)
    (scripts : String → Script)
    (caches : String → ResponseCache)
    (now : Nat)
    (chain : Chain)
    (includeRemote : Bool)
    (name : String) :
    (registry.listAll scripts (sessions caches now) chain includeRemote).get? name =
      (registry.get? name).map (alone scripts caches now chain includeRemote name) :=
  NameMap.get?_mapValues _ _ _

section Settings

variable {settings : RegistrySettings} {registry : Registry}

/-- Every service that is to be used has settings. -/
theorem mem_names_of_registered
    (made : ofSettings settings = .ok registry)
    {name : String}
    (registered : name ∈ settings.registered) :
    name ∈ registry.names := by
  have configured := (ofSettings_eq_ok_iff.mp made).1 name registered
  rw [names_of_ofSettings made, List.mem_filter, RegistrySettings.isRegistered_iff,
    ← NameMap.contains_iff, RegistrySettings.contains_iff_configures]
  exact ⟨configured, .inr registered⟩

/-- A configured service in use has a client of its own settings. -/
theorem get?_of_ofSettings
    (made : ofSettings settings = .ok registry)
    {name : String}
    {service : FederationSettings}
    (configured : settings.services.get? name = some service)
    (registered : settings.isRegistered name = true) :
    ∃ client, Client.ofSettings name service = .ok client ∧ registry.get? name = some client := by
  have serves := serves_of_ofSettings made
  obtain ⟨client, found⟩ := (serves.known name).mpr
    ⟨⟨service, configured⟩, RegistrySettings.isRegistered_iff.mp registered⟩
  obtain ⟨own, itsConfigured, -, goesBy⟩ := (serves.own name client).mp found
  obtain rfl := Option.some.inj (configured.symm.trans itsConfigured)
  exact ⟨client, Client.ofSettings_eq_ok_iff.mpr goesBy, found⟩

/-- The queries of a registry do not interfere. Each client has a cache of its own. All services are
asked at the same time, and whatever the order of their steps is, every query comes to its end.
There is just one answer for each registered service: what its client, set up with the settings of
the service, brings on its own, together with what it keeps afterwards. So nothing that happens to
other services matters. -/
theorem listAll_apart
    (made : ofSettings settings = .ok registry)
    (scripts : String → Script)
    (caches : String → ResponseCache)
    (now : Nat)
    (chain : Chain)
    (includeRemote : Bool) :
    let answers :=
      registry.listAll scripts (sessions caches now) chain includeRemote
    registry.fleet.IsApart ∧
    registry.fleet.owners.map (fun owner => (owner.name, owner.client)) =
      registry.clients.toList ∧
    (∀ moves survey,
      (registry.survey caches now chain includeRemote).run? scripts moves = some survey →
        moves.length ≤ 8 * registry.size ∧
          (survey.outcomes? = none ∧ (∃ move later, survey.next? scripts move = some later) ∨
            survey.outcomes? = some answers)) ∧
    answers.keys = settings.services.keys.filter settings.isRegistered ∧
    (∀ name ∈ settings.registered, name ∈ answers.keys) ∧
    (∀ name service, settings.services.get? name = some service →
      settings.isRegistered name = true →
        ∃ client, Client.ofSettings name service = .ok client ∧
          answers.get? name =
            some ((Task.listLabels chain includeRemote).run client (scripts name)
              (sessions caches now name))) ∧
    ∀ (otherScripts : String → Script) (otherCaches : String → ResponseCache) (name : String),
      otherScripts name = scripts name → otherCaches name = caches name →
        (registry.listAll otherScripts (sessions otherCaches now) chain
          includeRemote).get? name = answers.get? name := by
  intro answers
  have keys : answers.keys = registry.names := by
    simp [answers, listAll, NameMap.mapValues, NameMap.keys, names]
  refine ⟨Fleet.isApart_setUp _, owners_fleet registry,
    fun _ _ moved => survey_run _ _ _ _ _ _ moved, ?_, ?_, ?_, ?_⟩
  · rw [keys, names_of_ofSettings made]
  · intro name registered
    rw [keys]
    exact mem_names_of_registered made registered
  · intro name service configured registered
    obtain ⟨client, own, found⟩ := get?_of_ofSettings made configured registered
    refine ⟨client, own, ?_⟩
    rw [get?_listAll, found]
    rfl
  · intro otherScripts otherCaches name script cache
    rw [get?_listAll, get?_listAll]
    unfold alone sessions
    rw [script, cache]

end Settings

end Registry

namespace Sample

/-- Two services, each with an address of its own. -/
def eastAndWest : RegistrySettings where
  services := .ofList [("east", { uri := "http://east/" }), ("west", { uri := "http://west/" })]

/-- The client of a service whose address is its name. -/
def clientOf (name : String) : Client where
  name := name
  baseUri := { scheme := "http", host := some (.name name), path := .segments [""] }
  maxBytes := none
  listPolicy := .default
  flushPolicy := .default
  cacheLimits := .ofSettings {}

/-- The registry of both services. -/
def bothClients : Registry :=
  ⟨.ofList [("east", clientOf "east"), ("west", clientOf "west")]⟩

/-- One service cannot be reached, the other one answers at once. -/
def eastDown (name : String) : Script :=
  if name = "east" then fun _ => ⟨⟨0⟩, .refused⟩ else script

/-- Nothing is kept yet. -/
def noneKept (_ : String) : ResponseCache := .empty (.ofSettings {})

theorem ofSettings_eastAndWest : Registry.ofSettings eastAndWest = .ok bothClients := by
  decide +kernel

/-- There are two answers, and that of the west is the same whether the east is down or not. -/
theorem listAll_apart_eastDown :
    Registry.ofSettings eastAndWest = .ok bothClients ∧
      (bothClients.listAll eastDown (Registry.sessions noneKept 0) (chain ∅) true).keys =
        ["east", "west"] ∧
      (bothClients.listAll (fun _ => script) (Registry.sessions noneKept 0) (chain ∅)
          true).get? "west" =
        (bothClients.listAll eastDown (Registry.sessions noneKept 0) (chain ∅)
          true).get? "west" := by
  obtain ⟨-, -, -, keys, -, -, apart⟩ :=
    Registry.listAll_apart ofSettings_eastAndWest eastDown noneKept 0 (chain ∅) true
  have services : eastAndWest.services.keys.filter eastAndWest.isRegistered = ["east", "west"] := by
    decide +kernel
  exact ⟨ofSettings_eastAndWest, keys.trans services,
    apart (fun _ => script) noneKept "west" rfl rfl⟩

example :
    (((bothClients.survey noneKept 0 (chain ∅) true).run? eastDown
        [.turn 1, .turn 0, .turn 0, .turn 1, .turn 1]).bind (·.outcomes?)).map
          (fun answers => answers.toList.map fun entry => (entry.1, entry.2.1.toOption)) =
      some [("east", none), ("west", some (.authorizations {}))] := by
  decide +kernel

end Sample

end Authority
end Delegation
