import Delegation.Auth.Error
import Delegation.Identity

/-!
# The directory of identities

A directory turns presented pairs of names into full identities. It holds at most one
identity for a pair, the one stored last.
-/

namespace Delegation

/-- How presented pairs become identities; a pair without an identity is an error. -/
abbrev IdentityLookup := List DnPair → Except AuthError (List Identity)

/-- A directory held in memory. -/
structure Directory where
  /-- Organizational units whose subjects are non-person entities. -/
  serverUnits : List String
  /-- The stored identities, in the order in which their pairs were first stored. -/
  entries : List Identity

namespace Directory

/-- The directory without entries. -/
def empty (serverUnits : List String) : Directory := ⟨serverUnits, []⟩

/-- Put an identity in the place of the one with its pair, or at the end. -/
def store (identity : Identity) : List Identity → List Identity
  | [] => [identity]
  | entry :: entries =>
      if entry.dn = identity.dn then identity :: entries else entry :: store identity entries

/-- Store an identity under its pair. -/
def insert (directory : Directory) (identity : Identity) : Directory :=
  { directory with entries := store identity directory.entries }

/-- The identity of a principal whose type follows from its subject's units. -/
def classify (directory : Directory) (dn : DnPair) (roles auths : NameSet) (created : Int) :
    Identity where
  dn := dn
  type := if Dn.hasListedUnit dn.subject directory.serverUnits then .server else .user
  roles := roles
  auths := auths
  created := created

/-- Store a principal whose type follows from its subject's units. -/
def register (directory : Directory) (dn : DnPair) (roles auths : NameSet) (created : Int) :
    Directory :=
  directory.insert (directory.classify dn roles auths created)

/-- The number of stored identities. -/
def size (directory : Directory) : Nat :=
  directory.entries.length

/-- The stored identity of a pair. -/
def get? (directory : Directory) (pair : DnPair) : Option Identity :=
  directory.entries.find? fun entry => decide (entry.dn = pair)

/-- The identities of the given pairs, in order and with duplicates. The first pair without
an identity is the error. -/
def lookup (directory : Directory) (pairs : List DnPair) : Except AuthError (List Identity) :=
  pairs.mapM fun pair =>
    match directory.get? pair with
    | some identity => .ok identity
    | none => .error (.unknownIdentity pair)

end Directory
end Delegation
