import Delegation.Dn.Pair
import Delegation.Names.NameSet

/-!
# Identities

A principal of a delegation chain: its names, whether it is a person, the roles it holds
and the authorization labels granted to it.
-/

namespace Delegation

/-- Persons and non-person entities. -/
inductive PrincipalType
  | user
  | server
  deriving DecidableEq

namespace PrincipalType

/-- The written form of a type. -/
def render : PrincipalType → String
  | .user => "USER"
  | .server => "SERVER"

/-- Read a written type. -/
def parse? (text : String) : Option PrincipalType :=
  if text = "USER" then some .user
  else if text = "SERVER" then some .server
  else none

@[simp] theorem parse?_render (type : PrincipalType) : parse? type.render = some type := by
  cases type <;> rfl

end PrincipalType

/-- A single principal. -/
structure Identity where
  /-- Subject and issuer. -/
  dn : DnPair
  /-- Person or non-person entity. -/
  type : PrincipalType
  /-- Roles the principal holds. -/
  roles : NameSet
  /-- Authorization labels granted to the principal. -/
  auths : NameSet
  /-- Creation time in milliseconds since the epoch. -/
  created : Int
  deriving DecidableEq

namespace Identity

/-- The principal is a person. -/
def isUser (identity : Identity) : Bool :=
  decide (identity.type = .user)

/-- The principal is a non-person entity. -/
def isServer (identity : Identity) : Bool :=
  decide (identity.type = .server)

/-- A short name for people, taken from the subject. -/
def name (identity : Identity) : String :=
  Dn.shortName identity.dn.subject

/-- The same principal with other authorization labels. -/
def withAuths (identity : Identity) (auths : NameSet) : Identity :=
  { identity with auths := auths }

@[simp] theorem isUser_withAuths (identity : Identity) (auths : NameSet) :
    (identity.withAuths auths).isUser = identity.isUser := rfl

@[simp] theorem dn_withAuths (identity : Identity) (auths : NameSet) :
    (identity.withAuths auths).dn = identity.dn := rfl

@[simp] theorem name_withAuths (identity : Identity) (auths : NameSet) :
    (identity.withAuths auths).name = identity.name := rfl

@[simp] theorem auths_withAuths (identity : Identity) (auths : NameSet) :
    (identity.withAuths auths).auths = auths := rfl

end Identity
end Delegation
