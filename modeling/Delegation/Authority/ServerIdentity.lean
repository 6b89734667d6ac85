import Delegation.Authority.Client
import Delegation.ChainToken.Decoder

/-!
# The identity of this service

A service that calls others as itself holds a token from the service that issues identities.
The chain in the token is kept and fetched again once it is no longer fresh. A fetch that
fails is warned of and leaves what is held as it was. Callers wait for each other, so that
one fetch is under way at most.
-/

namespace Delegation
namespace Authority

/-- Why an identity could not be fetched. -/
inductive FetchFault
  /-- The connection could not be made, or it broke. -/
  | transport (detail : String)
  /-- The answer had a status other than success. -/
  | answered (status : Nat)
  /-- The answer took too long. -/
  | timedOut (limit : Duration)
  /-- The answer was no token that is accepted. -/
  | token (error : AuthError)
  deriving DecidableEq

/-- The wording of a fault. -/
def FetchFault.message : FetchFault → String
  | transport detail => "Transport error: " ++ detail
  | answered status => "Authorization service returned status " ++ toString status
  | timedOut limit => "Timed out after " ++ limit.render
  | token error => error.message

/-- What fetches the identity of this service. -/
structure IdentitySupplier where
  /-- Where tokens are issued. -/
  uri : Url
  /-- The bound of a fetch. -/
  timeout : Duration
  /-- For how long a fetched identity is fresh. -/
  validity : Duration
  /-- What turns a token into a chain. -/
  decoder : ChainToken.Decoder

/-- A fetched identity. -/
structure HeldIdentity where
  /-- The chain of the token. -/
  chain : Chain
  /-- When the fetch ended, in nanoseconds. -/
  fetchedAt : Nat
  deriving DecidableEq

/-- A supplier at work. -/
structure Supply where
  /-- The time in nanoseconds since the epoch. -/
  now : Nat
  /-- The identity that was fetched last. -/
  held : Option HeldIdentity := none
  /-- How many requests have been sent. -/
  sent : Nat := 0
  deriving DecidableEq

namespace Supply

/-- The chain that is held. -/
def chain? (supply : Supply) : Option Chain := supply.held.map (·.chain)

/-- The time in whole seconds. -/
def nowSecs (supply : Supply) : Int := supply.now / 1000000000

/-- Let some time pass. -/
def wait (duration : Duration) (supply : Supply) : Supply :=
  { supply with now := supply.now + duration.nanos }

end Supply

/-- What a caller gets, and the warnings on the way. -/
structure Supplied where
  /-- The chain, if one is held. -/
  chain : Option Chain
  /-- The warnings in order. -/
  warnings : List Warning

/-- A body as text: bytes that are no characters are replaced, and a mark of the byte order
in front is left out. -/
def bodyText (bytes : List UInt8) : List Char :=
  match (Text.chars bytes).map (·.getD '\uFFFD') with
  | '\uFEFF' :: text => text
  | text => text

/-- The text that an answer brings. -/
def Answer.text : Answer → Except FetchFault (List Char)
  | refused => .error (.transport "error sending request")
  | lost detail => .error (.transport detail)
  | given status body =>
      if 200 ≤ status ∧ status < 300 then
        match body.broken with
        | some detail => .error (.transport detail)
        | none => .ok (bodyText body.chunks.flatten)
      else .error (.answered status)

namespace IdentitySupplier

/-- The supplier that settings ask for. -/
def ofSettings (settings : ServerIdentitySettings) (decoder : ChainToken.Decoder) :
    Except SetupFault IdentitySupplier :=
  match Url.parse? settings.uri with
  | none => .error (.invalidIssuerUri settings.uri)
  | some uri => .ok ⟨uri, settings.timeout, settings.validity, decoder⟩

/-- The kind of document that every request accepts. -/
def accept : String := "text/plain"

/-- Requests can be sent to web addresses only. -/
def isSendable (supplier : IdentitySupplier) : Bool :=
  ["http", "https"].contains supplier.uri.scheme

/-- What is held is fresh. -/
def isFresh (supplier : IdentitySupplier) (supply : Supply) : Bool :=
  supply.held.any fun held => decide (supply.now < held.fetchedAt + supplier.validity.nanos)

/-- The attempt to get an answer. -/
def attempt (supplier : IdentitySupplier) (reply : Reply) : Call.Attempt FetchFault (List Char) :=
  if supplier.isSendable then ⟨reply.takes, reply.answer.text⟩
  else ⟨⟨0⟩, .error (.transport "builder error")⟩

/-- The text of an answer that came in time. -/
def textOf : Call.Ending FetchFault (List Char) → Except FetchFault (List Char)
  | .succeeded text => .ok text
  | .failed fault => .error fault
  | .exhausted _ last => .error last
  | .elapsed limit => .error (.timedOut limit)

/-- A fetch: what comes out, the warnings, and the supply after the time that it takes. -/
def fetch (supplier : IdentitySupplier) (script : Script) (supply : Supply) :
    Except FetchFault Chain × List Warning × Supply :=
  let run := (supplier.attempt (script supply.sent)).runWithin supplier.timeout
  let after := { supply with
    now := supply.now + run.elapsed
    sent := supply.sent + if supplier.isSendable then 1 else 0 }
  match textOf run.ending with
  | .error fault => (.error fault, [], after)
  | .ok text =>
      let decoded := supplier.decoder.decode after.nowSecs (String.ofList (Text.trim text))
      (decoded.result.mapError .token, decoded.warnings, after)

/-- Hold a fetched chain. -/
def hold (chain : Chain) (supply : Supply) : Supply :=
  { supply with held := some ⟨chain, supply.now⟩ }

/-- Get the identity of this service: what is held if it is fresh, else what a fetch brings,
else what is held all the same. -/
def get (supplier : IdentitySupplier) (script : Script) (supply : Supply) : Supplied × Supply :=
  if supplier.isFresh supply then (⟨supply.chain?, []⟩, supply)
  else
    match supplier.fetch script supply with
    | (.ok chain, warnings, after) => (⟨some chain, warnings⟩, hold chain after)
    | (.error fault, warnings, after) =>
        (⟨supply.chain?, warnings ++ [.identityNotRefreshed fault.message supply.held.isSome]⟩,
          after)

/-- Callers that wait for each other get the identity one after the other. -/
def getTogether (supplier : IdentitySupplier) (script : Script) :
    Nat → Supply → List Supplied × Supply
  | 0, supply => ([], supply)
  | count + 1, supply =>
      let first := supplier.get script supply
      let others := supplier.getTogether script count first.2
      (first.1 :: others.1, others.2)

end IdentitySupplier
end Authority
end Delegation
