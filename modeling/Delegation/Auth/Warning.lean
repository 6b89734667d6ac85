import Delegation.Auth.Error

/-!
# Warnings

The events that authentication leaves behind for the people who run a service. Each has a
wording and named fields.
-/

namespace Delegation

/-- An event that is worth a warning. -/
inductive Warning
  /-- A request without the proxied entities that are required. -/
  | entitiesMissing (caller : DnPair)
  /-- Proxied entities without the issuers that are required. -/
  | issuersMissing (caller : DnPair)
  /-- As many entities as issuers were required, and other numbers of them came. -/
  | chainMismatch (caller : DnPair) (entities issuers : String)
  /-- A certificate's caller is not allowed. -/
  | callerNotAllowed (caller : DnPair)
  /-- A chain holds the role that denies access. -/
  | roleDenied (username role : String)
  /-- A token is refused. -/
  | tokenRejected (error : AuthError)
  /-- A sound token holds no identity. -/
  | tokenWithoutIdentities (subject : String)
  /-- The service's own identity could not be fetched again. -/
  | identityNotRefreshed (error : String) (stale : Bool)
  deriving DecidableEq

namespace Warning

/-- The wording of a warning. -/
def message : Warning → String
  | entitiesMissing _ => "rejecting request without proxied entities"
  | issuersMissing _ => "proxied entities supplied without issuers"
  | chainMismatch .. => "failing authorization since issuers and entities don't match up"
  | callerNotAllowed _ => "caller is not on the allowed callers list"
  | roleDenied .. => "principal holds the denied access role"
  | tokenRejected error => "chain token rejected: " ++ error.message
  | tokenWithoutIdentities _ => "chain token carries no identities"
  | identityNotRefreshed .. => "unable to refresh server identity"

/-- The named fields of a warning. -/
def fields : Warning → List (String × String)
  | entitiesMissing caller => [("caller", caller.render)]
  | issuersMissing caller => [("caller", caller.render)]
  | chainMismatch caller entities issuers =>
      [("caller", caller.render), ("entities", entities), ("issuers", issuers)]
  | callerNotAllowed caller => [("caller", caller.render)]
  | roleDenied username role => [("user", username), ("role", role)]
  | tokenRejected error => [("kind", error.tag)]
  | tokenWithoutIdentities subject => [("sub", subject)]
  | identityNotRefreshed error stale => [("error", error), ("stale", toString stale)]

end Warning

/-- A result together with the warnings given on the way to it, in order. -/
structure Audited (α : Type) where
  /-- What came out. -/
  result : Except AuthError α
  /-- The warnings in order. -/
  warnings : List Warning

namespace Audited

variable {α β : Type}

/-- A success without warnings. -/
def ok (value : α) : Audited α := ⟨.ok value, []⟩

/-- An error with the warnings that go with it. -/
def fail (error : AuthError) (warnings : List Warning) : Audited α := ⟨.error error, warnings⟩

/-- Continue after a success and keep the warnings of both parts. -/
def andThen (first : Audited α) (next : α → Audited β) : Audited β :=
  match first.result with
  | .ok value => ⟨(next value).result, first.warnings ++ (next value).warnings⟩
  | .error error => ⟨.error error, first.warnings⟩

@[simp] theorem ok_andThen (value : α) (next : α → Audited β) :
    (ok value).andThen next = next value := by
  simp [ok, andThen]

@[simp] theorem fail_andThen (error : AuthError) (warnings : List Warning)
    (next : α → Audited β) :
    (fail error warnings : Audited α).andThen next = fail error warnings := rfl

end Audited
end Delegation
