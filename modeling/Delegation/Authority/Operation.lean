/-!
# Operations of a remote authority

What can be asked of a remote authority, and where it is asked.
-/

namespace Delegation
namespace Authority

/-- An operation on behalf of a chain. -/
inductive Operation
  /-- The labels that every member of the chain effectively has. -/
  | listAuthorizations
  /-- Forget what is held for the chain. -/
  | flushCredentials
  /-- The chain with the labels that the authority grants; answered from the list. -/
  | remoteIdentity
  deriving DecidableEq

namespace Operation

/-- Every operation. -/
def all : List Operation := [listAuthorizations, flushCredentials, remoteIdentity]

theorem mem_all (operation : Operation) : operation ∈ all := by
  cases operation <;> simp [all]

/-- The path segment of an operation below the authority's base. -/
def path : Operation → String
  | listAuthorizations => "listEffectiveAuthorizations"
  | flushCredentials => "flushCachedCredentials"
  | remoteIdentity => "listEffectiveAuthorizations"

/-- The name of an operation. -/
def name : Operation → String
  | remoteIdentity => "getRemoteIdentity"
  | other => other.path

end Operation
end Authority
end Delegation
