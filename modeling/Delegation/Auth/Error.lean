import Delegation.Dn.Header
import Delegation.Dn.Pair

/-!
# Authentication errors

Why a request, a token or a list of identities is refused. All of these are final: none of
them is retried. Each has a short tag, a status code and a wording.
-/

namespace Delegation

/-- Why presented credentials are refused. -/
inductive CredentialFault
  /-- A header value is not a list of names. -/
  | header (fault : Dn.HeaderFault)
  /-- A text is not a written pair of names. -/
  | pair (fault : DnPair.Fault)
  /-- Neither a certificate nor trusted headers name a caller. -/
  | noCaller
  /-- The header with the proxied entities is required and absent. -/
  | entitiesMissing
  /-- Proxied entities came without the issuers that are required beside them. -/
  | issuersMissing
  /-- There are not as many issuers as proxied entities. -/
  | chainMismatch
  /-- The certificate's caller is not on the list of allowed callers. -/
  | callerNotAllowed (caller : DnPair)
  /-- The chain holds the role that denies access. -/
  | roleDenied (username : String)
  /-- The bytes are not a certificate. -/
  | certificateUnparseable (detail : String)
  /-- A name in the certificate holds a value that is not readable text. -/
  | certificateNameUnreadable (detail : String)
  /-- The text holds no certificate block. -/
  | certificateTextInvalid (detail : String)
  deriving DecidableEq

namespace CredentialFault

/-- The wording of a fault. -/
def message : CredentialFault → String
  | header fault => fault.message
  | pair fault => fault.message
  | noCaller => "No client certificate or trusted subject headers presented"
  | entitiesMissing => "X-ProxiedEntitiesChain header is missing"
  | issuersMissing =>
      "X-ProxiedEntitiesChain header was supplied, but X-ProxiedIssuersChain header is missing"
  | chainMismatch => "Invalid proxied entities chain"
  | callerNotAllowed caller => caller.render ++ " is not an allowed caller"
  | roleDenied username => username ++ " is not authorized"
  | certificateUnparseable detail => "Unparseable client certificate: " ++ detail
  | certificateNameUnreadable detail => "Unreadable certificate name attribute: " ++ detail
  | certificateTextInvalid detail => "Invalid certificate PEM: " ++ detail

end CredentialFault

/-- Why a token is refused before its signature or its age is at fault. -/
inductive TokenFault
  /-- The text has fewer than three parts. -/
  | notThreeParts
  /-- A part is not written in the token alphabet. -/
  | undecodablePart (detail : String)
  /-- A part does not hold the document that belongs there. -/
  | unreadableDocument (detail : String)
  /-- The token names another signature algorithm than the decoder's. -/
  | otherAlgorithm
  /-- A claim that must be there is missing or of no use. -/
  | claimMissing (name : String)
  /-- The token is meant for a named audience. -/
  | namedAudience
  /-- The token holds no identity. -/
  | noIdentities
  deriving DecidableEq

namespace TokenFault

/-- The wording of a fault. -/
def message : TokenFault → String
  | notThreeParts => "InvalidToken"
  | undecodablePart detail => "Base64 error: " ++ detail
  | unreadableDocument detail => "JSON error: " ++ detail
  | otherAlgorithm => "InvalidAlgorithm"
  | claimMissing name => "Missing required claim: " ++ name
  | namedAudience => "InvalidAudience"
  | noIdentities => "token carries no identities"

end TokenFault

/-- A final authentication failure. -/
inductive AuthError
  /-- Malformed, missing or mismatched credentials, a caller or a role that is refused. -/
  | credentialsInvalid (fault : CredentialFault)
  /-- A token that cannot be read or is of an unsupported form. -/
  | invalidToken (fault : TokenFault)
  /-- A token whose signature does not verify. -/
  | invalidSignature
  /-- A token past its expiry. -/
  | tokenExpired
  /-- A chain was asked for from no identity at all. -/
  | emptyChain
  /-- The directory has no entry for a presented pair. -/
  | unknownIdentity (pair : DnPair)
  deriving DecidableEq

namespace AuthError

/-- The short tag of an error. -/
def tag : AuthError → String
  | credentialsInvalid _ => "credentials_invalid"
  | invalidToken _ => "invalid_token"
  | invalidSignature => "invalid_signature"
  | tokenExpired => "token_expired"
  | emptyChain => "empty_chain"
  | unknownIdentity _ => "unknown_identity"

/-- The response status of an error: a refusal for bad credentials, else a request to
authenticate. -/
def status : AuthError → Nat
  | credentialsInvalid _ => 403
  | _ => 401

/-- The wording of an error. -/
def message : AuthError → String
  | credentialsInvalid fault => "Invalid credentials: " ++ fault.message
  | invalidToken fault => "Invalid token: " ++ fault.message
  | invalidSignature => "Invalid token signature: InvalidSignature"
  | tokenExpired => "Token expired: ExpiredSignature"
  | emptyChain => "Identity chain must contain at least one identity"
  | unknownIdentity pair => "Unknown identity: " ++ pair.render

end AuthError
end Delegation
