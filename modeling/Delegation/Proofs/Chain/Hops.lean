import Delegation.Proofs.Chain.Building
import Delegation.Proofs.Chain.CanonicalOrder

/-!
# Delegation hop by hop

A request that is passed on adds one principal after the other to its chain. Once there is a person
in the chain, no hop changes who the primary identity is, or takes an authority away: a hop without
any required role brings the required roles of the primary identity back, and no later hop hides
them again. In a chain of servers the first person to join becomes the primary identity.
-/

namespace Delegation
namespace Chain

/-- The chain after some hops, one after the other, with the same required roles. -/
def appendAll
    (required : NameSet)
    (chain : Chain)
    (hops : List Identity) : Except AuthError Chain :=
  hops.foldlM (append required) chain

/-- Some member is a person. -/
def HasUser (chain : Chain) : Prop :=
  ∃ member ∈ chain.members, member.isUser = true

/-- Some member holds no required role. -/
def Incomplete
    (chain : Chain)
    (required : NameSet) : Prop :=
  ∃ member ∈ chain.members, ∀ role ∈ member.roles, role ∉ required

/-- The authorities of a chain follow from its members and these required roles. -/
def Derives
    (chain : Chain)
    (required : NameSet) : Prop :=
  deriveAuthorities? chain.members required = some chain.authorities

/-! ## Primary identity and canonical order -/

section Order

variable {more : List Identity} {chain longer : Chain}

theorem primary_eq_getElem? (chain : Chain) :
    chain.members[chain.position]? = some chain.primary :=
  List.getElem?_eq_getElem _

theorem primary_mem_members (chain : Chain) : chain.primary ∈ chain.members :=
  List.mem_of_getElem? (primary_eq_getElem? chain)

/-- Whoever joins a chain with a person does not become the primary identity. -/
theorem position_of_user
    (user : chain.HasUser)
    (joined : longer.members = chain.members ++ more) :
    longer.position = chain.position := by
  have position := longer.position_primary
  rw [joined, primaryPosition?_append_of_user user, chain.position_primary] at position
  exact (Option.some.inj position).symm

theorem isUser_of_servers
    (servers : ¬ chain.HasUser) :
    ∀ member ∈ chain.members, member.isUser = false := by
  simpa [HasUser] using servers

/-- The first member of a chain of servers is the primary identity. -/
theorem position_of_servers
    (servers : ¬ chain.HasUser) :
    chain.position = 0 := by
  have first := primaryPosition?_of_servers chain.members_ne_nil (isUser_of_servers servers)
  exact Option.some.inj (chain.position_primary.symm.trans first)

theorem primary_of_position
    (joined : longer.members = chain.members ++ more)
    (same : longer.position = chain.position) :
    longer.primary = chain.primary := by
  have inside := primaryPosition?_lt_length chain.position_primary
  have found := primary_eq_getElem? longer
  rw [joined, same, List.getElem?_append_left inside, primary_eq_getElem? chain] at found
  exact (Option.some.inj found).symm

/-- While the same member is primary, further members come last in the canonical order. -/
theorem canonical_of_position
    (joined : longer.members = chain.members ++ more)
    (same : longer.position = chain.position) :
    longer.canonical = chain.canonical ++ more := by
  rw [canonical, canonical, joined, same,
    moveToFront_append (primaryPosition?_lt_length chain.position_primary)]

end Order

/-! ## Authorities -/

section Authorities

variable {required : NameSet} {chain longer : Chain} {role : String}

theorem isIncomplete_iff :
    isIncomplete chain.members required = true ↔ chain.Incomplete required := by
  simp [isIncomplete, Incomplete, NameSet.isDisjoint_iff]

/-- The authorities are the roles of the primary identity, and the required ones among them only
as long as the chain is incomplete. -/
theorem mem_authorities_iff
    (derives : chain.Derives required) :
    role ∈ chain.authorities ↔
      role ∈ chain.primary.roles ∧ (role ∈ required → chain.Incomplete required) := by
  have primary : primary? chain.members = some chain.primary := by
    rw [primary?, chain.position_primary, Option.bind_some, primary_eq_getElem?]
  rw [Derives, deriveAuthorities?, primary, Option.map_some, Option.some.injEq] at derives
  rw [← derives, NameSet.mem_filter, ← isIncomplete_iff]
  by_cases member : role ∈ required <;> simp [member]

/-- Who holds no required role is still in the chain when more members have joined. -/
theorem Incomplete.append
    {more : List Identity}
    (incomplete : chain.Incomplete required)
    (joined : longer.members = chain.members ++ more) :
    longer.Incomplete required := by
  obtain ⟨member, inside, unvetted⟩ := incomplete
  exact ⟨member, joined ▸ List.mem_append_left more inside, unvetted⟩

end Authorities

/-! ## One more hop -/

/-- What one more hop makes of a chain with a person. -/
structure Continues
    (required : NameSet)
    (chain : Chain)
    (hop : Identity)
    (longer : Chain) : Prop where
  primary : longer.primary = chain.primary
  canonical : longer.canonical = chain.canonical ++ [hop]
  others : ∀ role, role ∉ required → (role ∈ longer.authorities ↔ role ∈ chain.authorities)
  vetting : ∀ role ∈ required, role ∈ longer.primary.roles →
    (role ∈ longer.authorities ↔ longer.Incomplete required)
  keeps : ∀ role ∈ chain.authorities, role ∈ longer.authorities

/-- What one more hop makes of a chain of servers. -/
structure Yields
    (chain : Chain)
    (hop : Identity)
    (longer : Chain) : Prop where
  changes : longer.primary ≠ chain.primary ↔ hop.isUser = true
  canonical : hop.isUser = true → longer.canonical = hop :: chain.members

section Step

variable {required : NameSet} {chain longer : Chain} {hop : Identity}

theorem derives_of_append
    (joined : chain.append required hop = .ok longer) :
    longer.Derives required :=
  deriveAuthorities?_of_create joined

theorem members_of_append
    (joined : chain.append required hop = .ok longer) :
    longer.members = chain.members ++ [hop] :=
  (create_eq_ok.mp joined).1

/-- Behind a person a hop leaves the primary identity in its place, so it can change the
authorities only by its own roles. -/
theorem continues_of_append
    (derives : chain.Derives required)
    (user : chain.HasUser)
    (joined : chain.append required hop = .ok longer) :
    Continues required chain hop longer := by
  have members := members_of_append joined
  have longerDerives := derives_of_append joined
  have position := position_of_user user members
  have primary := primary_of_position members position
  refine ⟨primary, canonical_of_position members position, ?_, ?_, ?_⟩
  · intro role other
    rw [mem_authorities_iff longerDerives, mem_authorities_iff derives, primary]
    simp [other]
  · intro role member held
    rw [mem_authorities_iff longerDerives]
    simp [member, held]
  · intro role authority
    rw [mem_authorities_iff derives] at authority
    rw [mem_authorities_iff longerDerives, primary]
    exact ⟨authority.1, fun member => (authority.2 member).append members⟩

/-- In a chain of servers the primary identity stands first, and a person who joins takes its
place. -/
theorem yields_of_append
    (servers : ¬ chain.HasUser)
    (joined : chain.append required hop = .ok longer) :
    Yields chain hop longer := by
  have members := members_of_append joined
  have position := longer.position_primary
  rw [members, primaryPosition?_concat_of_servers (isUser_of_servers servers),
    Option.some.injEq] at position
  cases person : hop.isUser with
  | false =>
      rw [person, if_neg (by decide), ← position_of_servers servers] at position
      have primary := primary_of_position members position.symm
      exact ⟨by simp [person, primary], by simp [person]⟩
  | true =>
      rw [person, if_pos rfl] at position
      have primary := primary_eq_getElem? longer
      rw [members, ← position, List.getElem?_concat_length, Option.some.injEq] at primary
      refine ⟨iff_of_true ?_ person, fun _ => ?_⟩
      · -- The primary identity was a server before.
        intro same
        have server := isUser_of_servers servers _ chain.primary_mem_members
        rw [← same, ← primary, person] at server
        nomatch server
      · rw [canonical, ← position, members, moveToFront_length_concat]

end Step

/-! ## Runs of hops -/

/-- What hops leave as it is in a chain with a person. -/
structure Outlasts
    (required : NameSet)
    (chain later : Chain) : Prop where
  user : later.HasUser
  primary : later.primary = chain.primary
  incomplete : chain.Incomplete required → later.Incomplete required
  keeps : ∀ role ∈ chain.authorities, role ∈ later.authorities

section Runs

variable {required : NameSet} {chain longer later : Chain} {hop : Identity}

theorem Outlasts.refl
    (user : chain.HasUser) :
    Outlasts required chain chain :=
  ⟨user, rfl, id, fun _ => id⟩

/-- What two runs of hops leave as it is, both together do. -/
theorem Outlasts.trans
    (first : Outlasts required chain longer)
    (second : Outlasts required longer later) :
    Outlasts required chain later where
  user := second.user
  primary := second.primary.trans first.primary
  incomplete := fun incomplete => second.incomplete (first.incomplete incomplete)
  keeps := fun role authority => second.keeps role (first.keeps role authority)

/-- A hop that joins a chain with a person leaves its person, its gaps and its authorities. -/
theorem outlasts_of_append
    (derives : chain.Derives required)
    (user : chain.HasUser)
    (joined : chain.append required hop = .ok longer) :
    Outlasts required chain longer := by
  have members := members_of_append joined
  have continues := continues_of_append derives user joined
  obtain ⟨member, inside, person⟩ := user
  exact ⟨⟨member, members ▸ List.mem_append_left _ inside, person⟩, continues.primary,
    fun incomplete => incomplete.append members, continues.keeps⟩

theorem appendAll_cons_eq_ok
    {hops : List Identity} :
    appendAll required chain (hop :: hops) = .ok later ↔
      ∃ longer, chain.append required hop = .ok longer ∧
        appendAll required longer hops = .ok later :=
  bind_eq_ok_iff

/-- Hops can always be appended; they come behind the members, and the authorities follow. -/
theorem exists_appendAll_eq_ok
    (derives : chain.Derives required)
    (hops : List Identity) :
    ∃ later, appendAll required chain hops = .ok later ∧
      later.members = chain.members ++ hops ∧ later.Derives required := by
  induction hops generalizing chain with
  | nil => exact ⟨chain, rfl, (List.append_nil _).symm, derives⟩
  | cons hop hops inductionHypothesis =>
      obtain ⟨longer, joined, members⟩ := exists_append_eq_ok required chain hop
      obtain ⟨later, run, laterMembers, laterDerives⟩ :=
        inductionHypothesis (derives_of_append joined)
      refine ⟨later, appendAll_cons_eq_ok.mpr ⟨longer, joined, run⟩, ?_, laterDerives⟩
      rw [laterMembers, members, List.append_assoc, List.singleton_append]

/-- What one hop leaves as it is, a run of hops does. -/
theorem outlasts_of_appendAll
    {hops : List Identity}
    (derives : chain.Derives required)
    (user : chain.HasUser)
    (run : appendAll required chain hops = .ok later) :
    Outlasts required chain later := by
  induction hops generalizing chain with
  | nil =>
      obtain rfl := Except.ok.inj run
      exact .refl user
  | cons hop hops inductionHypothesis =>
      obtain ⟨longer, joined, rest⟩ := appendAll_cons_eq_ok.mp run
      have first := outlasts_of_append derives user joined
      exact first.trans (inductionHypothesis (derives_of_append joined) first.user rest)

/-- Wherever hops lead from a chain that was built, one more hop can follow. Behind a person it
leaves the primary identity and the order of the others, and it changes the authorities in that
the required roles of the primary identity show as soon as a member holds none of them. From then
on they are not hidden again, and no authority ever goes. In a chain of servers a person who joins
takes the lead, and nobody else does. -/
theorem hops_continue_or_yield
    {members : List Identity}
    {stated : Option Int}
    (built : create required members stated = .ok chain)
    (hops : List Identity) :
    ∃ before, appendAll required chain hops = .ok before ∧
      before.members = members ++ hops ∧
      (∀ hop, ∃ after, before.append required hop = .ok after ∧
        (before.HasUser → Continues required before hop after) ∧
        (¬ before.HasUser → Yields before hop after)) ∧
      (before.HasUser → ∀ more, ∃ later, appendAll required before more = .ok later ∧
        (before.Incomplete required → ∀ role ∈ required, role ∈ before.primary.roles →
          role ∈ later.authorities) ∧
        ∀ role ∈ before.authorities, role ∈ later.authorities) := by
  obtain ⟨before, run, joined, derives⟩ :=
    exists_appendAll_eq_ok (deriveAuthorities?_of_create built) hops
  rw [(create_eq_ok.mp built).1] at joined
  refine ⟨before, run, joined, ?_, ?_⟩
  · intro hop
    obtain ⟨after, appended, -⟩ := exists_append_eq_ok required before hop
    exact ⟨after, appended, fun user => continues_of_append derives user appended,
      fun servers => yields_of_append servers appended⟩
  · intro user more
    obtain ⟨later, laterRun, -, laterDerives⟩ := exists_appendAll_eq_ok derives more
    have outlasts := outlasts_of_appendAll derives user laterRun
    refine ⟨later, laterRun, ?_, outlasts.keeps⟩
    intro incomplete role member held
    rw [mem_authorities_iff laterDerives, outlasts.primary]
    exact ⟨held, fun _ => outlasts.incomplete incomplete⟩

/-- A server that holds one role and nothing else. -/
def serverOf (role : String) : Identity :=
  ⟨.ofNames "" "", .server, .ofList [role], ∅, 0⟩

/-- Behind a person and a server that are vetted, a server that is not brings the required role of
the person back. -/
theorem hops_continue_or_yield_sample :
    ∃ chain before after,
      create defaultRequired [holderOf "AuthorizedUser"] none = .ok chain ∧
      appendAll defaultRequired chain [serverOf "AuthorizedServer"] = .ok before ∧
      before.append defaultRequired (serverOf "Reader") = .ok after ∧
      Continues defaultRequired before (serverOf "Reader") after ∧
      after.Incomplete defaultRequired := by
  obtain ⟨chain, built⟩ := exists_create_eq_ok
    (List.cons_ne_nil (holderOf "AuthorizedUser") []) defaultRequired none
  obtain ⟨before, run, members, step, -⟩ :=
    hops_continue_or_yield built [serverOf "AuthorizedServer"]
  obtain ⟨after, appended, continues, -⟩ := step (serverOf "Reader")
  have user : before.HasUser := ⟨holderOf "AuthorizedUser", by simp [members], rfl⟩
  have unvetted : ∀ role ∈ (serverOf "Reader").roles, role ∉ defaultRequired := by
    decide +kernel
  have incomplete : after.Incomplete defaultRequired :=
    ⟨serverOf "Reader", by simp [members_of_append appended], unvetted⟩
  exact ⟨chain, before, after, built, run, appended, continues user, incomplete⟩

end Runs

end Chain
end Delegation
