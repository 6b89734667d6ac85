import Delegation.Auth.Error
import Delegation.Chain.Order

/-!
# Delegation chains

A chain is the list of principals that a request passed through: the initial caller first,
the connecting server last. It is never empty. Its views are produced in canonical order,
and duplicates are never removed.
-/

namespace Delegation

/-- The principals that a request passed through, with the authorities that follow from
them. -/
structure Chain where
  /-- The members in presented order. -/
  members : List Identity
  /-- The position of the primary identity. -/
  position : Nat
  /-- The position belongs to the primary identity, so the chain is not empty. -/
  position_primary : Chain.primaryPosition? members = some position
  /-- The effective authorities. -/
  authorities : NameSet
  /-- Creation time in milliseconds since the epoch. -/
  created : Int
  deriving DecidableEq

namespace Chain

/-- The roles that mark a chain as fully vetted when every member holds one of them. -/
def defaultRequiredRoles : List String :=
  ["AuthorizedUser", "AuthorizedServer", "AuthorizedQueryServer"]

/-- The set of the default required roles. -/
def defaultRequired : NameSet := NameSet.ofList defaultRequiredRoles

/-- Build a chain. Its creation time is the given one, else the earliest of its members'. -/
def create (required : NameSet) (members : List Identity) (created : Option Int) :
    Except AuthError Chain :=
  match primary : primaryPosition? members with
  | none => .error .emptyChain
  | some position =>
      .ok {
        members := members
        position := position
        position_primary := primary
        authorities := (deriveAuthorities? members required).getD ∅
        created := (created <|> earliestCreation? members).getD 0 }

/-- The primary identity. -/
def primary (chain : Chain) : Identity :=
  chain.members.get ⟨chain.position, primaryPosition?_lt_length chain.position_primary⟩

/-- The members in canonical order. -/
def canonical (chain : Chain) : List Identity :=
  moveToFront chain.position chain.members

/-- The canonical order of a chain is that of its members. -/
theorem canonical_eq (chain : Chain) : chain.canonical = canonicalOrder chain.members := by
  simp [canonical, canonicalOrder, chain.position_primary]

/-- The short names in canonical order, joined by arrows. -/
def username (chain : Chain) : String :=
  " -> ".intercalate (chain.canonical.map Identity.name)

/-- The pairs of the members, in canonical order. -/
def dns (chain : Chain) : List DnPair :=
  chain.canonical.map (·.dn)

/-- The subjects of the members, in canonical order. -/
def subjects (chain : Chain) : List String :=
  chain.canonical.map (·.dn.subject)

/-- The issuers of the members, in canonical order. -/
def issuers (chain : Chain) : List String :=
  chain.canonical.map (·.dn.issuer)

/-- The authorization labels of each member, in canonical order. -/
def authsPerMember (chain : Chain) : List NameSet :=
  chain.canonical.map (·.auths)

/-- The subjects of the servers other than the primary identity; none when there are none. -/
def proxyServers? (chain : Chain) : Option (List String) :=
  match chain.canonical.filter fun member => member.isServer && member != chain.primary with
  | [] => none
  | servers => some (servers.map (·.dn.subject))

/-- The chain holds an authority. -/
def hasAuthority (chain : Chain) (role : String) : Bool :=
  decide (role ∈ chain.authorities)

/-- The primary identity holds one of the given roles. -/
def isManager (chain : Chain) (managerRoles : List String) : Bool :=
  managerRoles.any fun role => decide (role ∈ chain.primary.roles)

/-- Chains describe the same principals when their presented members are equal; the user
name follows from the members, authorities and creation time do not count. -/
def same (first second : Chain) : Bool :=
  decide (first.members = second.members)

/-- Build the chain with one more principal at its end. -/
def append (required : NameSet) (chain : Chain) (hop : Identity) : Except AuthError Chain :=
  create required (chain.members ++ [hop]) none

/-- The chain with other authorization labels for its members. Roles are untouched, so the
authorities and the creation time stay. -/
def withMemberAuths (chain : Chain) (authsFor : Identity → NameSet) : Chain where
  members := chain.members.map fun member => member.withAuths (authsFor member)
  position := chain.position
  position_primary := by
    rw [primaryPosition?_map fun member => Identity.isUser_withAuths member (authsFor member)]
    exact chain.position_primary
  authorities := chain.authorities
  created := chain.created

/-- The chain with other authorization labels for its members, where those of a member may
depend on its place, too. -/
def withMemberAuthsAt (chain : Chain) (authsFor : Nat → Identity → NameSet) : Chain where
  members := chain.members.mapIdx fun place member => member.withAuths (authsFor place member)
  position := chain.position
  position_primary := by
    rw [← chain.position_primary]
    apply primaryPosition?_congr
    apply List.ext_getElem?
    simp [Function.comp_def]
  authorities := chain.authorities
  created := chain.created

@[simp] theorem members_withMemberAuths (chain : Chain) (authsFor : Identity → NameSet) :
    (chain.withMemberAuths authsFor).members =
      chain.members.map fun member => member.withAuths (authsFor member) := rfl

@[simp] theorem authorities_withMemberAuths (chain : Chain) (authsFor : Identity → NameSet) :
    (chain.withMemberAuths authsFor).authorities = chain.authorities := rfl

@[simp] theorem created_withMemberAuths (chain : Chain) (authsFor : Identity → NameSet) :
    (chain.withMemberAuths authsFor).created = chain.created := rfl

@[simp] theorem members_withMemberAuthsAt (chain : Chain)
    (authsFor : Nat → Identity → NameSet) :
    (chain.withMemberAuthsAt authsFor).members =
      chain.members.mapIdx fun place member => member.withAuths (authsFor place member) := rfl

theorem withMemberAuths_eq (chain : Chain) (authsFor : Identity → NameSet) :
    chain.withMemberAuths authsFor = chain.withMemberAuthsAt fun _ => authsFor := by
  have members : (chain.members.map fun member => member.withAuths (authsFor member)) =
      chain.members.mapIdx fun _ member => member.withAuths (authsFor member) := by
    apply List.ext_getElem?
    simp
  simp only [withMemberAuths, withMemberAuthsAt, members]

end Chain
end Delegation
