import Delegation.Authority.Cache
import Delegation.Authority.Reply
import Delegation.Authority.Request
import Delegation.Text.Inspect

/-!
# Clients of a remote authority

A client knows the base address of one authority, the policies of its calls and the bounds
of what it reads and keeps. A call sends one request, again and again where its policy
retries it, and ends with a document or with an error that names the principal.
-/

namespace Delegation
namespace Authority

/-- Why clients cannot be set up. -/
inductive SetupFault
  /-- A text is no address of an authority. -/
  | invalidAuthorityUri (text : String)
  /-- A service is to be used and has no settings. -/
  | serviceNotConfigured (name : String)
  /-- A text is no address of a service that issues identities. -/
  | invalidIssuerUri (text : String)
  deriving DecidableEq

/-- The wording of a fault. -/
def SetupFault.message : SetupFault → String
  | invalidAuthorityUri text => "Invalid federated authorization URI: " ++ text
  | serviceNotConfigured name =>
      "Registered federated service '" ++ name ++ "' has no configuration"
  | invalidIssuerUri text => "Invalid authorization URI: " ++ text

/-- A client of one remote authority. -/
structure Client where
  /-- The name of the authority. -/
  name : String
  /-- The address below which its operations are; its path ends with a slash. -/
  baseUri : Url
  /-- The longest body that is read, if there is a bound. -/
  maxBytes : Option Nat
  /-- The policy of lists of authorizations. -/
  listPolicy : Call.Policy
  /-- The policy of the flushing of credentials. -/
  flushPolicy : Call.Policy
  /-- The bounds of the kept answers. -/
  cacheLimits : CacheLimits
  deriving DecidableEq

/-- The course of a call. -/
structure Exchange (α : Type) where
  /-- What comes out. -/
  result : Except CallError α
  /-- The requests that were sent, in order. -/
  requests : List Request
  /-- The time from start to end, in nanoseconds. -/
  elapsed : Nat

namespace Client

/-- The client that settings ask for. -/
def ofSettings (name : String) (settings : FederationSettings) : Except SetupFault Client :=
  match Url.parse? settings.uri with
  | none => .error (.invalidAuthorityUri settings.uri)
  | some url =>
      .ok {
        name := name
        baseUri := url.closed
        maxBytes := settings.maxBytes?
        listPolicy := settings.list.policy
        flushPolicy := settings.flush.policy
        cacheLimits := .ofSettings settings.cache }

/-- The inspection form of a client. -/
def inspect (client : Client) : String :=
  "FederatedAuthorizationClient \x7b name: " ++ Text.inspect client.name ++
    ", base_uri: " ++ Text.inspect client.baseUri.render ++ " \x7d"

/-- The policy of an operation. -/
def policy (client : Client) : Operation → Call.Policy
  | .flushCredentials => client.flushPolicy
  | _ => client.listPolicy

/-- The failure of a base address below which nothing can be. -/
def noEndpoint : Failure := .transport "relative URL with a cannot-be-a-base base"

/-- The failure of a request that cannot be sent. -/
def notSendable : Failure := .transport "builder error"

variable {α : Type}

/-- One attempt: what comes back for a request, unless it cannot be sent at all. -/
def attempt (client : Client) (read : Json → Option α) (request : Request) (reply : Reply) :
    Call.Attempt Failure α :=
  if request.isSendable then ⟨reply.takes, reply.answer.outcome client.maxBytes read⟩
  else ⟨⟨0⟩, .error notSendable⟩

/-- The run of a request under the policy of its operation. -/
def exchange (client : Client) (script : Script) (operation : Operation)
    (read : Json → Option α) (request : Request) : Call.Run Failure α :=
  (client.policy operation).run Failure.isRetryable fun index =>
    client.attempt read request (script index)

/-- The requests that a run has sent. -/
def sentBy (request : Request) (run : Call.Run Failure α) : List Request :=
  if request.isSendable then List.replicate run.attempts request else []

/-- Call an operation on behalf of a chain. -/
def call (client : Client) (script : Script) (operation : Operation) (chain : Chain)
    (includeRemote : Bool) (read : Json → Option α) : Exchange α :=
  let fail (failure : Failure) : CallError := ⟨chain.primary.dn.subject, operation, failure⟩
  match Request.endpoint? client.baseUri operation includeRemote with
  | none => ⟨.error (fail noEndpoint), [], 0⟩
  | some url =>
      let request := Request.forChain url chain
      let run := client.exchange script operation read request
      ⟨(resultOf run.ending).mapError fail, sentBy request run, run.elapsed⟩

end Client
end Authority
end Delegation
