import Delegation.Auth.HeaderName
import Delegation.Authority.Operation
import Delegation.Chain.Basic
import Delegation.Dn.Header
import Delegation.Text.Utf8
import Delegation.Url.Basic

/-!
# Requests to a remote authority

A request names an operation below the base address of the authority and carries the
subjects and the issuers of a chain, in canonical order, as headers.
-/

namespace Delegation
namespace Authority

/-- A request on behalf of a chain. -/
structure Request where
  /-- Where it goes. -/
  url : Url
  /-- The header with the subjects of the chain. -/
  entities : String
  /-- The header with the issuers of the chain. -/
  issuers : String
  deriving DecidableEq

namespace Request

/-- The method of every request. -/
def method : String := "GET"

/-- The kind of document that every request accepts. -/
def accept : String := "application/json"

/-- The parameter that asks for the labels of further services. -/
def includeRemoteKey : String := "includeRemoteServices"

/-- The address of an operation below a base address; none if the base has no path. -/
def endpoint? (base : Url) (operation : Operation) (includeRemote : Bool) : Option Url :=
  (base.sibling? operation.path).map fun url =>
    url.withParameter includeRemoteKey (if includeRemote then "true" else "false")

/-- The request for a chain. -/
def forChain (url : Url) (chain : Chain) : Request where
  url := url
  entities := Dn.buildHeader chain.subjects
  issuers := Dn.buildHeader chain.issuers

/-- A byte that stands in a header value: no control other than the tab. -/
def isHeaderByte (byte : UInt8) : Bool :=
  (decide (0x20 ≤ byte) && byte != 0x7F) || byte == 0x09

/-- A text that stands in a header. -/
def isHeaderValue (value : String) : Bool :=
  (Text.utf8String value).all isHeaderByte

/-- A request that can be sent at all: to a web address, with proper headers. -/
def isSendable (request : Request) : Bool :=
  ["http", "https"].contains request.url.scheme && isHeaderValue request.entities &&
    isHeaderValue request.issuers

end Request
end Authority
end Delegation
