import Delegation.Proofs.Authority.Fetches

/-!
# Visits to a supplier

Who has the lock of a supplier makes a visit: it gets the identity that is held if this is fresh,
and has it fetched again otherwise. Over a row of visits each one gets what was fetched last, a
failure changes nothing, and fetches that succeed are at least a validity apart. An address that is
not one of the web is never asked, so there never is an identity from it.
-/

namespace Delegation
namespace Authority

/-- A caller has the lock for some time. -/
structure Visit where
  /-- The caller, by the order of arrival. -/
  caller : Nat
  /-- The supply when the lock is taken. -/
  before : Supply
  /-- The supply when the lock is given back. -/
  after : Supply
  /-- What the caller gets. -/
  supplied : Supplied

namespace Visit

/-- A request is sent on a visit. -/
def Asks (visit : Visit) : Prop :=
  visit.after.sent = visit.before.sent + 1

instance (visit : Visit) : Decidable visit.Asks :=
  inferInstanceAs (Decidable (_ = _))

/-- A request is sent on a visit, and the reply to it has a meaning when the visit is over. -/
def ComesTo
    (supplier : IdentitySupplier)
    (script : Script)
    (visit : Visit)
    (outcome : Except FetchFault Chain) : Prop :=
  visit.Asks ∧ (script visit.before.sent).Means supplier visit.after.nowSecs outcome

/-- Some visits have fetched a chain, which was over at a time, and none of the later ones has
fetched any. -/
def LastFetched
    (supplier : IdentitySupplier)
    (script : Script)
    (visits : List Visit)
    (chain : Chain)
    (time : Nat) : Prop :=
  ∃ earlier visit later, visits = earlier ++ visit :: later ∧
    visit.ComesTo supplier script (.ok chain) ∧ visit.after.now = time ∧
    ∀ other ∈ later, ∀ newer, ¬ other.ComesTo supplier script (.ok newer)

/-- A fetch is due: nothing has been fetched yet, or the validity of what was fetched last is
over. -/
def IsDue
    (supplier : IdentitySupplier)
    (script : Script)
    (earlier : List Visit)
    (visit : Visit) : Prop :=
  ∀ chain time, LastFetched supplier script earlier chain time →
    time + supplier.validity.nanos ≤ visit.before.now

/-- The last warning of a visit is that nothing could be fetched, and it is the only one of its
kind. -/
def WarnsOnce
    (visit : Visit)
    (message : String)
    (stale : Bool) : Prop :=
  ∃ others, visit.supplied.warnings = others ++ [.identityNotRefreshed message stale] ∧
    ∀ other stale, .identityNotRefreshed other stale ∉ others

/-- What is promised of a visit after some earlier ones. -/
structure Sound
    (supplier : IdentitySupplier)
    (script : Script)
    (earlier : List Visit)
    (visit : Visit) : Prop where
  /-- What is held is the chain that was fetched last, and when that was. -/
  holds : ∀ held, visit.before.held = some held ↔
    LastFetched supplier script earlier held.chain held.fetchedAt
  /-- The caller gets the chain that was fetched last. -/
  supplies : ∀ chain, visit.supplied.chain = some chain ↔
    ∃ time, LastFetched supplier script (earlier ++ [visit]) chain time
  /-- A caller gets none only as long as none was fetched. -/
  lacks : visit.supplied.chain = none ↔
    ∀ other ∈ earlier ++ [visit], ∀ chain, ¬ other.ComesTo supplier script (.ok chain)
  /-- A web address is asked exactly if a fetch is due. -/
  asks : supplier.uri.scheme ∈ ["http", "https"] →
    (visit.Asks ↔ visit.IsDue supplier script earlier)
  /-- There is one request at most, and the earlier ones are those of the earlier visits. -/
  counts : visit.before.sent = earlier.countP (fun other => decide other.Asks) ∧
    (¬ visit.Asks → visit.after.sent = visit.before.sent)
  /-- A request takes as long as its reply, but not longer than the timeout. -/
  takes : visit.after.now = visit.before.now +
    if visit.Asks then min (script visit.before.sent).takes.nanos supplier.timeout.nanos else 0
  /-- A request brings what its reply means. -/
  means : visit.Asks → ∃ outcome, visit.ComesTo supplier script outcome
  /-- A chain that is fetched is held as of the end of the visit, without a warning. -/
  fetches : ∀ chain, visit.ComesTo supplier script (.ok chain) →
    visit.after.held = some ⟨chain, visit.after.now⟩ ∧ visit.supplied.warnings = []
  /-- A failure is warned of and changes nothing. -/
  fails : ∀ fault, visit.ComesTo supplier script (.error fault) →
    visit.after.held = visit.before.held ∧ visit.supplied.chain = visit.before.chain? ∧
      visit.WarnsOnce fault.message visit.before.chain?.isSome
  /-- What is fresh stays as it is. -/
  rests : supplier.uri.scheme ∈ ["http", "https"] → ¬ visit.Asks →
    visit.after = visit.before ∧ visit.supplied = ⟨visit.before.chain?, []⟩
  /-- Any other address is never asked, so there is no chain and a warning each time. -/
  unsendable : supplier.uri.scheme ∉ ["http", "https"] →
    visit.after = visit.before ∧ visit.supplied.chain = none ∧
      visit.WarnsOnce "Transport error: builder error" false

/-! ## One visit -/

variable {supplier : IdentitySupplier} {script : Script} {visit : Visit} {visits : List Visit}
variable {chain : Chain} {time : Nat}

/-- A visit is one call of the supplier. -/
def IsMade
    (supplier : IdentitySupplier)
    (script : Script)
    (visit : Visit) : Prop :=
  supplier.get script visit.before = (visit.supplied, visit.after)

/-- How long the request of a visit takes. -/
def wait
    (supplier : IdentitySupplier)
    (script : Script)
    (visit : Visit) : Nat :=
  min (script visit.before.sent).takes.nanos supplier.timeout.nanos

/-- The ways in which a visit can be made. -/
inductive Course
    (supplier : IdentitySupplier)
    (script : Script)
    (visit : Visit) : Prop
  /-- What is held is fresh. -/
  | fresh :
      supplier.isFresh visit.before = true →
      visit.after = visit.before →
      visit.supplied = ⟨visit.before.chain?, []⟩ →
      Course supplier script visit
  /-- There is no address of the web that could be asked. -/
  | unsendable :
      supplier.isFresh visit.before = false →
      supplier.isSendable = false →
      visit.after = visit.before →
      visit.supplied =
        ⟨visit.before.chain?,
          [.identityNotRefreshed "Transport error: builder error" visit.before.held.isSome]⟩ →
      Course supplier script visit
  /-- The identity is fetched. -/
  | fetched (chain : Chain) :
      supplier.isFresh visit.before = false →
      supplier.isSendable = true →
      visit.ComesTo supplier script (.ok chain) →
      visit.after.now = visit.before.now + visit.wait supplier script →
      visit.after.held = some ⟨chain, visit.after.now⟩ →
      visit.supplied = ⟨some chain, []⟩ →
      Course supplier script visit
  /-- The identity cannot be fetched. -/
  | failed (fault : FetchFault) (warnings : List Warning) :
      supplier.isFresh visit.before = false →
      supplier.isSendable = true →
      visit.ComesTo supplier script (.error fault) →
      visit.after.now = visit.before.now + visit.wait supplier script →
      visit.after.held = visit.before.held →
      visit.supplied =
        ⟨visit.before.chain?,
          warnings ++ [.identityNotRefreshed fault.message visit.before.held.isSome]⟩ →
      (∀ message stale, .identityNotRefreshed message stale ∉ warnings) →
      Course supplier script visit

theorem IsMade.course
    (made : visit.IsMade supplier script) :
    visit.Course supplier script := by
  obtain ⟨caller, before, after, supplied⟩ := visit
  change supplier.get script before = (supplied, after) at made
  cases outdated : supplier.isFresh before with
  | true =>
      rw [IdentitySupplier.get, outdated] at made
      obtain ⟨rfl, rfl⟩ := Prod.mk.inj made
      exact .fresh outdated rfl rfl
  | false =>
      cases sendable : supplier.isSendable with
      | false =>
          rw [IdentitySupplier.get, outdated,
            IdentitySupplier.fetch_of_unsendable sendable] at made
          obtain ⟨rfl, rfl⟩ := Prod.mk.inj made
          exact .unsendable outdated sendable rfl rfl
      | true =>
          rw [IdentitySupplier.get, outdated,
            IdentitySupplier.fetch_of_sendable sendable] at made
          have means := supplier.means_hear (supplier.asked script before).nowSecs
            (script before.sent)
          have warned := supplier.warnings_hear (supplier.asked script before).nowSecs
            (script before.sent)
          generalize supplier.hear (supplier.asked script before).nowSecs (script before.sent) =
            heard at made means warned
          obtain ⟨outcome, warnings⟩ := heard
          cases outcome with
          | ok chain =>
              obtain rfl := warned.1 chain rfl
              obtain ⟨rfl, rfl⟩ := Prod.mk.inj made
              exact .fetched chain outdated sendable ⟨rfl, means⟩ rfl rfl rfl
          | error fault =>
              obtain ⟨rfl, rfl⟩ := Prod.mk.inj made
              exact .failed fault warnings outdated sendable ⟨rfl, means⟩ rfl rfl rfl warned.2

theorem ComesTo.unique
    {outcome other : Except FetchFault Chain}
    (comes : visit.ComesTo supplier script outcome)
    (again : visit.ComesTo supplier script other) :
    outcome = other :=
  comes.2.unique again.2

theorem ComesTo.not_ok
    {fault : FetchFault}
    (comes : visit.ComesTo supplier script (.error fault))
    (chain : Chain) :
    ¬ visit.ComesTo supplier script (.ok chain) := by
  intro again
  cases comes.unique again

theorem not_asks_of_unchanged
    (same : visit.after = visit.before) :
    ¬ visit.Asks := by
  rw [Asks, same]
  exact Nat.ne_of_lt (Nat.lt_succ_self _)

/-- A request brings what its reply means, after the time that it takes. -/
theorem IsMade.of_asks
    (made : visit.IsMade supplier script)
    (asks : visit.Asks) :
    visit.after.now = visit.before.now + visit.wait supplier script ∧
      ∃ outcome, visit.ComesTo supplier script outcome := by
  cases made.course with
  | fresh fresh same supplied => exact absurd asks (not_asks_of_unchanged same)
  | unsendable outdated unsendable same supplied =>
      exact absurd asks (not_asks_of_unchanged same)
  | fetched chain outdated sendable comes took => exact ⟨took, _, comes⟩
  | failed fault warnings outdated sendable comes took => exact ⟨took, _, comes⟩

/-- Without a request a visit changes nothing. -/
theorem IsMade.after_of_not_asks
    (made : visit.IsMade supplier script)
    (quiet : ¬ visit.Asks) :
    visit.after = visit.before := by
  cases made.course with
  | fresh fresh same supplied => exact same
  | unsendable outdated unsendable same supplied => exact same
  | fetched chain outdated sendable comes => exact absurd comes.1 quiet
  | failed fault warnings outdated sendable comes => exact absurd comes.1 quiet

/-- What is held after a visit is what it has fetched, or else what was held before. -/
theorem IsMade.held_after_iff
    (made : visit.IsMade supplier script)
    {held : HeldIdentity} :
    visit.after.held = some held ↔
      visit.ComesTo supplier script (.ok held.chain) ∧ visit.after.now = held.fetchedAt ∨
        (∀ newer, ¬ visit.ComesTo supplier script (.ok newer)) ∧
          visit.before.held = some held := by
  have kept
      (none : ∀ newer, ¬ visit.ComesTo supplier script (.ok newer))
      (same : visit.after.held = visit.before.held) :
      visit.after.held = some held ↔
        visit.ComesTo supplier script (.ok held.chain) ∧ visit.after.now = held.fetchedAt ∨
          (∀ newer, ¬ visit.ComesTo supplier script (.ok newer)) ∧
            visit.before.held = some held := by
    rw [same]
    simp [none]
  cases made.course with
  | fresh fresh same supplied =>
      exact kept (fun _ comes => not_asks_of_unchanged same comes.1) (by rw [same])
  | unsendable outdated unsendable same supplied =>
      exact kept (fun _ comes => not_asks_of_unchanged same comes.1) (by rw [same])
  | fetched chain outdated sendable comes took holds supplied =>
      rw [holds, Option.some.injEq]
      constructor
      · rintro rfl
        exact .inl ⟨comes, rfl⟩
      · rintro (⟨again, now⟩ | ⟨none, -⟩)
        · obtain rfl := Except.ok.inj (comes.unique again)
          rw [now]
        · exact absurd comes (none chain)
  | failed fault warnings outdated sendable comes took same supplied others =>
      exact kept comes.not_ok same

/-- A caller gets what is held after its visit. -/
theorem IsMade.supplied_chain
    (made : visit.IsMade supplier script) :
    visit.supplied.chain = visit.after.chain? := by
  cases made.course with
  | fresh fresh same supplied => rw [supplied, same]
  | unsendable outdated unsendable same supplied => rw [supplied, same]
  | fetched chain outdated sendable comes took holds supplied =>
      rw [supplied, Supply.chain?, holds]
      rfl
  | failed fault warnings outdated sendable comes took same supplied others =>
      rw [supplied, Supply.chain?, Supply.chain?, same]

theorem IsMade.now_le_after
    (made : visit.IsMade supplier script) :
    visit.before.now ≤ visit.after.now := by
  by_cases asks : visit.Asks
  · rw [(made.of_asks asks).1]
    exact Nat.le_add_right _ _
  · rw [made.after_of_not_asks asks]

/-- A web address is asked exactly if what is held is no longer fresh. -/
theorem IsMade.asks_iff
    (made : visit.IsMade supplier script)
    (web : supplier.isSendable = true) :
    visit.Asks ↔ supplier.isFresh visit.before = false := by
  cases made.course with
  | fresh fresh same supplied => simp [not_asks_of_unchanged same, fresh]
  | unsendable outdated unsendable => exact absurd web (Bool.eq_false_iff.mp unsendable)
  | fetched chain outdated sendable comes => exact iff_of_true comes.1 outdated
  | failed fault warnings outdated sendable comes => exact iff_of_true comes.1 outdated

theorem IsMade.of_fetches
    (made : visit.IsMade supplier script)
    (fetches : visit.ComesTo supplier script (.ok chain)) :
    visit.after.held = some ⟨chain, visit.after.now⟩ ∧ visit.supplied.warnings = [] := by
  cases made.course with
  | fresh fresh same supplied => exact absurd fetches.1 (not_asks_of_unchanged same)
  | unsendable outdated unsendable same supplied =>
      exact absurd fetches.1 (not_asks_of_unchanged same)
  | fetched other outdated sendable comes took holds supplied =>
      obtain rfl := Except.ok.inj (comes.unique fetches)
      exact ⟨holds, by rw [supplied]⟩
  | failed fault warnings outdated sendable comes => exact absurd fetches (comes.not_ok chain)

theorem IsMade.of_fails
    {fault : FetchFault}
    (made : visit.IsMade supplier script)
    (fails : visit.ComesTo supplier script (.error fault)) :
    visit.after.held = visit.before.held ∧ visit.supplied.chain = visit.before.chain? ∧
      visit.WarnsOnce fault.message visit.before.chain?.isSome := by
  cases made.course with
  | fresh fresh same supplied => exact absurd fails.1 (not_asks_of_unchanged same)
  | unsendable outdated unsendable same supplied =>
      exact absurd fails.1 (not_asks_of_unchanged same)
  | fetched chain outdated sendable comes => exact absurd comes (fails.not_ok chain)
  | failed other warnings outdated sendable comes took same supplied others =>
      obtain rfl := Except.error.inj (comes.unique fails)
      refine ⟨same, by rw [supplied], warnings, ?_, others⟩
      rw [supplied, Supply.chain?, Option.isSome_map]

theorem IsMade.of_fresh
    (made : visit.IsMade supplier script)
    (fresh : supplier.isFresh visit.before = true) :
    visit.supplied = ⟨visit.before.chain?, []⟩ := by
  rw [IsMade, IdentitySupplier.get, fresh] at made
  exact (Prod.mk.inj made).1.symm

/-- An address that is not one of the web cannot be asked. -/
theorem IsMade.of_unsendable
    (made : visit.IsMade supplier script)
    (unsendable : supplier.isSendable = false)
    (lacks : visit.before.held = none) :
    visit.after = visit.before ∧
      visit.supplied = ⟨none, [.identityNotRefreshed "Transport error: builder error" false]⟩ := by
  cases made.course with
  | fresh fresh => simp [IdentitySupplier.isFresh, lacks] at fresh
  | unsendable outdated unsendable same supplied =>
      rw [supplied, Supply.chain?, lacks]
      exact ⟨same, rfl⟩
  | fetched chain outdated sendable => exact absurd sendable (Bool.eq_false_iff.mp unsendable)
  | failed fault warnings outdated sendable =>
      exact absurd sendable (Bool.eq_false_iff.mp unsendable)

/-! ## What was fetched last -/

theorem not_lastFetched_nil :
    ¬ LastFetched supplier script [] chain time := by
  rintro ⟨earlier, visit, later, cut, -⟩
  simp at cut

/-- What was fetched last is what the last visit has fetched, or else what was fetched before. -/
theorem lastFetched_concat_iff :
    LastFetched supplier script (visits ++ [visit]) chain time ↔
      visit.ComesTo supplier script (.ok chain) ∧ visit.after.now = time ∨
        (∀ newer, ¬ visit.ComesTo supplier script (.ok newer)) ∧
          LastFetched supplier script visits chain time := by
  constructor
  · rintro ⟨earlier, found, later, cut, comes, ended, others⟩
    rcases List.eq_nil_or_concat later with rfl | ⟨between, last, rfl⟩
    · obtain ⟨-, same⟩ := List.append_inj' cut rfl
      obtain rfl := List.singleton_inj.mp same
      exact .inl ⟨comes, ended⟩
    · have regrouped : visits ++ [visit] = (earlier ++ found :: between) ++ [last] := by
        simpa using cut
      obtain ⟨rfl, same⟩ := List.append_inj' regrouped rfl
      obtain rfl := List.singleton_inj.mp same
      refine .inr ⟨others visit (by simp), earlier, found, between, rfl, comes, ended, ?_⟩
      exact fun other inside => others other (by simp [inside])
  · rintro (⟨comes, ended⟩ | ⟨none, earlier, found, later, rfl, comes, ended, others⟩)
    · exact ⟨visits, visit, [], rfl, comes, ended, by simp⟩
    · refine ⟨earlier, found, later ++ [visit], by simp, comes, ended, ?_⟩
      intro other inside
      rcases List.mem_append.mp inside with inside | same
      · exact others other inside
      · obtain rfl := List.mem_singleton.mp same
        exact none

/-- Something was fetched last exactly if anything was fetched. -/
theorem exists_lastFetched_iff :
    (∃ chain time, LastFetched supplier script visits chain time) ↔
      ∃ visit ∈ visits, ∃ chain, visit.ComesTo supplier script (.ok chain) := by
  constructor
  · rintro ⟨chain, time, earlier, visit, later, rfl, comes, -⟩
    exact ⟨visit, by simp, chain, comes⟩
  · rintro ⟨visit, inside, chain, comes⟩
    -- From the end of the visits, where the latest fetch is.
    induction visits using List.reverseRecOn with
    | nil => cases inside
    | append_singleton visits last inductionHypothesis =>
        by_cases again : ∃ newer, last.ComesTo supplier script (.ok newer)
        · obtain ⟨newer, comes⟩ := again
          exact ⟨newer, last.after.now, lastFetched_concat_iff.mpr (.inl ⟨comes, rfl⟩)⟩
        · rw [not_exists] at again
          rcases List.mem_append.mp inside with inside | same
          · obtain ⟨found, time, fetched⟩ := inductionHypothesis inside
            exact ⟨found, time, lastFetched_concat_iff.mpr (.inr ⟨again, fetched⟩)⟩
          · obtain rfl := List.mem_singleton.mp same
            exact absurd comes (again chain)

end Visit

/-! ## Rows of visits -/

/-- Visits that are made one after the other, while time passes between them. -/
inductive VisitLog
    (supplier : IdentitySupplier)
    (script : Script)
    (start : Nat) : List Visit → Supply → Prop
  | start : VisitLog supplier script start [] { now := start }
  | wait {visits : List Visit} {supply : Supply} (duration : Duration) :
      VisitLog supplier script start visits supply →
      VisitLog supplier script start visits (supply.wait duration)
  | visit {visits : List Visit} {visit : Visit} :
      VisitLog supplier script start visits visit.before →
      visit.IsMade supplier script →
      VisitLog supplier script start (visits ++ [visit]) visit.after

namespace VisitLog

variable {supplier : IdentitySupplier} {script : Script} {start : Nat} {supply : Supply}
variable {visits earlier later : List Visit} {visit : Visit}

/-- What is held is what was fetched last. -/
theorem holds_iff
    (log : VisitLog supplier script start visits supply)
    {held : HeldIdentity} :
    supply.held = some held ↔
      Visit.LastFetched supplier script visits held.chain held.fetchedAt := by
  induction log with
  | start => exact iff_of_false nofun Visit.not_lastFetched_nil
  | wait duration log inductionHypothesis => exact inductionHypothesis
  | visit log made inductionHypothesis =>
      rw [made.held_after_iff, Visit.lastFetched_concat_iff, inductionHypothesis]

/-- As many requests have been sent as there are visits that sent one. -/
theorem sent_eq
    (log : VisitLog supplier script start visits supply) :
    supply.sent = visits.countP fun visit => decide visit.Asks := by
  induction log with
  | start => rfl
  | wait duration log inductionHypothesis => exact inductionHypothesis
  | @visit visits visit log made inductionHypothesis =>
      rw [List.countP_append, ← inductionHypothesis, List.countP_singleton]
      by_cases asks : visit.Asks
      · simp only [asks, decide_true, if_true]
        exact asks
      · simp [asks, made.after_of_not_asks asks]

/-- Every visit was made after the ones before it. -/
theorem split
    (log : VisitLog supplier script start (earlier ++ visit :: later) supply) :
    VisitLog supplier script start earlier visit.before ∧ visit.IsMade supplier script := by
  generalize whole : earlier ++ visit :: later = visits at log
  induction log generalizing later with
  | start => simp at whole
  | wait duration log inductionHypothesis => exact inductionHypothesis whole
  | @visit visits last log made inductionHypothesis =>
      rcases List.eq_nil_or_concat later with rfl | ⟨between, other, rfl⟩
      · obtain ⟨rfl, same⟩ := List.append_inj' whole rfl
        obtain rfl := List.singleton_inj.mp same
        exact ⟨log, made⟩
      · have regrouped : (earlier ++ visit :: between) ++ [other] = visits ++ [last] := by
          simpa using whole
        exact inductionHypothesis (List.append_inj' regrouped rfl).1

theorem isFresh_eq_false_iff
    (log : VisitLog supplier script start earlier visit.before) :
    supplier.isFresh visit.before = false ↔ visit.IsDue supplier script earlier := by
  have outdated : supplier.isFresh visit.before = false ↔ ∀ held, visit.before.held = some held →
      held.fetchedAt + supplier.validity.nanos ≤ visit.before.now := by
    rw [IdentitySupplier.isFresh]
    cases visit.before.held <;> simp
  rw [outdated, Visit.IsDue]
  simp only [log.holds_iff]
  exact ⟨fun due chain time => due ⟨chain, time⟩, fun due held => due held.chain held.fetchedAt⟩

/-- From an address that cannot be asked nothing is held. -/
theorem held_of_unsendable
    (log : VisitLog supplier script start visits supply)
    (unsendable : supplier.isSendable = false) :
    supply.held = none := by
  induction log with
  | start => rfl
  | wait duration log inductionHypothesis => exact inductionHypothesis
  | visit log made inductionHypothesis =>
      rw [(made.of_unsendable unsendable inductionHypothesis).1, inductionHypothesis]

/-- A caller gets the chain that was fetched last, its own visit included. -/
theorem supplied_eq_some_iff
    (before : VisitLog supplier script start earlier visit.before)
    (made : visit.IsMade supplier script)
    {chain : Chain} :
    visit.supplied.chain = some chain ↔
      ∃ time, Visit.LastFetched supplier script (earlier ++ [visit]) chain time := by
  have after := VisitLog.visit before made
  rw [made.supplied_chain, Supply.chain?, Option.map_eq_some_iff]
  constructor
  · rintro ⟨held, found, rfl⟩
    exact ⟨held.fetchedAt, after.holds_iff.mp found⟩
  · rintro ⟨time, fetched⟩
    exact ⟨⟨chain, time⟩, after.holds_iff.mpr fetched, rfl⟩

/-- A caller gets none exactly if nothing was fetched, on its own visit or before. -/
theorem supplied_eq_none_iff
    (before : VisitLog supplier script start earlier visit.before)
    (made : visit.IsMade supplier script) :
    visit.supplied.chain = none ↔
      ∀ other ∈ earlier ++ [visit], ∀ chain, ¬ other.ComesTo supplier script (.ok chain) := by
  have any := @Visit.exists_lastFetched_iff supplier script (earlier ++ [visit])
  rw [Option.eq_none_iff_forall_ne_some, ← not_iff_not]
  simp only [ne_eq, supplied_eq_some_iff before made, not_forall, not_not, exists_prop]
  exact any

/-- Every visit is sound after the ones before it. -/
theorem sound
    (log : VisitLog supplier script start (earlier ++ visit :: later) supply) :
    visit.Sound supplier script earlier := by
  obtain ⟨before, made⟩ := log.split
  refine {
    holds := fun held => before.holds_iff
    supplies := fun chain => before.supplied_eq_some_iff made
    lacks := before.supplied_eq_none_iff made
    asks := fun web => ?_
    counts := ⟨before.sent_eq, fun quiet => by rw [made.after_of_not_asks quiet]⟩
    takes := ?_
    means := fun asks => (made.of_asks asks).2
    fetches := fun chain => made.of_fetches
    fails := fun fault => made.of_fails
    rests := fun web quiet => ?_
    unsendable := fun other => ?_ }
  · rw [made.asks_iff (IdentitySupplier.isSendable_iff.mpr web), before.isFresh_eq_false_iff]
  · split
    · rename_i asks
      exact (made.of_asks asks).1
    · rename_i quiet
      rw [made.after_of_not_asks quiet, Nat.add_zero]
  · have fresh : supplier.isFresh visit.before = true := by
      rwa [made.asks_iff (IdentitySupplier.isSendable_iff.mpr web), Bool.not_eq_false] at quiet
    exact ⟨made.after_of_not_asks quiet, made.of_fresh fresh⟩
  · have unsendable : supplier.isSendable = false :=
      Bool.eq_false_iff.mpr fun web => other (IdentitySupplier.isSendable_iff.mp web)
    obtain ⟨same, supplied⟩ := made.of_unsendable unsendable (before.held_of_unsendable unsendable)
    refine ⟨same, by rw [supplied], [], ?_, by simp⟩
    rw [supplied, List.nil_append]

/-- What holds of each visit and those before it holds of all pairs of visits. -/
theorem pairwise
    {relation : Visit → Visit → Prop}
    (each : ∀ {visits : List Visit} {visit : Visit},
      VisitLog supplier script start visits visit.before → visit.IsMade supplier script →
        ∀ first ∈ visits, relation first visit)
    (log : VisitLog supplier script start visits supply) :
    visits.Pairwise relation := by
  induction log with
  | start => exact .nil
  | wait duration log inductionHypothesis => exact inductionHypothesis
  | visit log made inductionHypothesis =>
      refine List.pairwise_append.mpr ⟨inductionHypothesis, List.pairwise_singleton _ _, ?_⟩
      intro first inside last same
      obtain rfl := List.mem_singleton.mp same
      exact each log made first inside

/-- Visits in the log are over. -/
theorem after_le_now
    (log : VisitLog supplier script start visits supply) :
    ∀ visit ∈ visits, visit.after.now ≤ supply.now := by
  induction log with
  | start => simp
  | wait duration log inductionHypothesis =>
      intro visit inside
      exact Nat.le_add_right_of_le (inductionHypothesis visit inside)
  | @visit visits last log made inductionHypothesis =>
      intro visit inside
      rcases List.mem_append.mp inside with inside | same
      · exact Nat.le_trans (inductionHypothesis visit inside) made.now_le_after
      · exact Nat.le_of_eq (by rw [List.mem_singleton.mp same])

/-- What was fetched last was fetched after everything else. -/
theorem exists_later_fetch
    (log : VisitLog supplier script start visits supply)
    {chain : Chain}
    (inside : visit ∈ visits)
    (comes : visit.ComesTo supplier script (.ok chain)) :
    ∃ last time, Visit.LastFetched supplier script visits last time ∧
      visit.after.now ≤ time := by
  obtain ⟨last, time, fetched⟩ := Visit.exists_lastFetched_iff.mpr ⟨visit, inside, chain, comes⟩
  refine ⟨last, time, fetched, ?_⟩
  obtain ⟨earlier, found, later, rfl, -, rfl, others⟩ := fetched
  rcases List.mem_append.mp inside with before | behind
  · have ended := log.split.1.after_le_now visit before
    exact Nat.le_trans ended log.split.2.now_le_after
  · rcases List.mem_cons.mp behind with rfl | after
    · exact Nat.le_refl _
    · exact absurd comes (others visit after chain)

/-- Once there is an identity to supply, every later caller gets one. -/
theorem stays_supplied
    (log : VisitLog supplier script start visits supply) :
    visits.Pairwise fun first second =>
      first.supplied.chain.isSome = true → second.supplied.chain.isSome = true := by
  refine log.pairwise fun {visits visit} log made first inside supplied => ?_
  have last : visit.Sound supplier script visits := (VisitLog.visit log made).sound
  obtain ⟨earlier, later, rfl⟩ := List.append_of_mem inside
  have before : first.Sound supplier script earlier := log.sound
  rw [Option.isSome_iff_ne_none, Ne, before.lacks] at supplied
  rw [Option.isSome_iff_ne_none, Ne, last.lacks]
  intro none
  refine supplied fun other member => none other (List.mem_append_left _ ?_)
  rw [List.append_cons]
  exact List.mem_append_left _ member

/-- Identities are fetched at least a validity apart. -/
theorem fetches_apart
    (log : VisitLog supplier script start visits supply) :
    visits.Pairwise fun first second => ∀ chain other,
      first.ComesTo supplier script (.ok chain) → second.ComesTo supplier script (.ok other) →
        first.after.now + supplier.validity.nanos ≤ second.after.now := by
  refine log.pairwise fun {visits visit} log made first inside chain other fetched again => ?_
  obtain ⟨last, time, found, before⟩ := log.exists_later_fetch inside fetched
  have outdated : supplier.isFresh visit.before = false := by
    cases made.course with
    | fresh fresh same => exact absurd again.1 (Visit.not_asks_of_unchanged same)
    | unsendable outdated | fetched _ outdated | failed _ _ outdated => exact outdated
  have due := log.isFresh_eq_false_iff.mp outdated last time found
  have later := made.now_le_after
  omega

/-- A visit begins when the ones before it are over. -/
theorem one_after_another
    (log : VisitLog supplier script start visits supply) :
    visits.Pairwise fun first second => first.after.now ≤ second.before.now :=
  log.pairwise fun log _ => log.after_le_now

end VisitLog
end Authority
end Delegation
