import Delegation.Auth.Directory
import Delegation.Auth.Gate
import Delegation.Certificate.Basic
import Delegation.ChainToken.Decoder
import Delegation.Http.Request

/-!
# Guarding requests

A guard decides for each request whether it is refused, let through with the chain of the
principals that it comes from, or let through without one. The certificate is read first,
then the gates that need nothing else are run. The chain comes from a token where one is
presented and can be decoded, else from certificate and headers through the directory. Last
come the gates that look at the chain. A refused token is never made up for by headers.
-/

namespace Delegation
namespace Http

/-- What guards requests. -/
structure Guard where
  /-- Which credentials are honoured and demanded. -/
  policy : ExtractionPolicy
  /-- The directory of the known identities. -/
  lookup : IdentityLookup
  /-- The roles that the members of a chain must hold. -/
  required : NameSet
  /-- The gates in order. -/
  gates : List Gate
  /-- What decodes tokens, where they are honoured. -/
  decoder : Option ChainToken.Decoder
  /-- The roles of managers. -/
  managerRoles : List String := []

/-- A chain that a request comes from. -/
structure AuthenticatedChain where
  /-- The chain. -/
  chain : Chain
  /-- The primary identity holds a role of managers. -/
  isManager : Bool
  deriving DecidableEq

namespace Guard

/-- The guard that settings ask for. -/
def ofSettings (settings : SecuritySettings) (lookup : IdentityLookup)
    (decoder : Option ChainToken.Decoder) : Except AuthError Guard :=
  (Gate.ofSettings settings).map fun gates => {
    policy := settings.extractionPolicy
    lookup := lookup
    required := settings.required
    gates := gates
    decoder := decoder
    managerRoles := settings.managerRoles }

/-- The pair of the client certificate, if there is one. -/
def certificatePair (request : Request) : Except AuthError (Option DnPair) :=
  match request.certificate with
  | none => .ok none
  | some bytes =>
      match Certificate.pairOfDer bytes with
      | .ok pair => .ok (some pair)
      | .error fault => .error (.credentialsInvalid fault)

/-- The chain of the identities that the directory holds for the extracted pairs. -/
def chainOfCredentials (guard : Guard) (credentials : ExtractedCredentials) :
    Except AuthError Chain :=
  match guard.lookup credentials.chainPairs with
  | .ok members => Chain.create guard.required members none
  | .error error => .error error

/-- The chain from certificate and headers; none where they name no caller. -/
def chainFromHeaders (guard : Guard) (certificate : Option DnPair) (request : Request) :
    Audited (Option Chain) :=
  (guard.policy.extract (request.inbound certificate)).andThen fun
    | none => .ok none
    | some credentials => ⟨(guard.chainOfCredentials credentials).map some, []⟩

/-- The chain from a token. -/
def chainFromToken (decoder : ChainToken.Decoder) (now : Int) (token : String) :
    Audited (Option Chain) :=
  (decoder.decode now token).andThen fun chain => .ok (some chain)

/-- The chain from a token where one is presented and honoured, else from certificate and
headers. -/
def presentedChain (guard : Guard) (now : Int) (certificate : Option DnPair)
    (request : Request) : Audited (Option Chain) :=
  match guard.decoder, request.bearerToken? with
  | some decoder, some token => chainFromToken decoder now token
  | _, _ => guard.chainFromHeaders certificate request

/-- Let a chain through the gates that look at it. -/
def passChain (guard : Guard) (certificate : Option DnPair) :
    Option Chain → Audited (Option Chain)
  | none => .ok none
  | some chain =>
      (Gate.runStage .afterAuthentication guard.gates ⟨certificate, some chain⟩).andThen fun _ =>
        .ok (some chain)

/-- The chain that a request comes from, if it presents one. -/
def authenticate (guard : Guard) (now : Int) (request : Request) : Audited (Option Chain) :=
  match certificatePair request with
  | .error error => .fail error []
  | .ok certificate =>
      (Gate.runStage .beforeAuthentication guard.gates ⟨certificate, none⟩).andThen fun _ =>
        (guard.presentedChain now certificate request).andThen (guard.passChain certificate)

/-- What a handler gets to know of a chain. -/
def attach (guard : Guard) (chain : Chain) : AuthenticatedChain :=
  ⟨chain, chain.isManager guard.managerRoles⟩

/-- Refuse a request, or let it through with what its handler gets to know. -/
def examine (guard : Guard) (now : Int) (request : Request) : Audited (Option AuthenticatedChain) :=
  (guard.authenticate now request).andThen fun chain => .ok (chain.map guard.attach)

end Guard
end Http
end Delegation
