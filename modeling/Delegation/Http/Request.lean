import Delegation.Auth.Extraction
import Delegation.Auth.HeaderName
import Delegation.Text.AsciiCase

/-!
# Requests

What a request brings along: headers with values of bytes, and the client certificate of the
connection. A header value is read as text where all its bytes are visible characters;
others are as if the header were not there.
-/

namespace Delegation
namespace Http

/-- A request, as far as it matters for authentication. -/
structure Request where
  /-- Names and values of the headers, in order. -/
  headers : List (String × List UInt8) := []
  /-- The client certificate. -/
  certificate : Option (List UInt8) := none
  deriving DecidableEq

/-- The header with a token. -/
def authorizationName : String := "Authorization"

/-- What stands in front of a token in its header. -/
def bearerMark : String := "Bearer "

/-- A visible character, a space or a tab. -/
def isVisible (byte : UInt8) : Bool :=
  (decide (0x20 ≤ byte) && decide (byte < 0x7F)) || byte == 0x09

/-- Bytes as text, if all of them are visible. -/
def visibleText? (bytes : List UInt8) : Option String :=
  if bytes.all isVisible then some (String.ofList (bytes.map fun byte => Char.ofNat byte.toNat))
  else none

namespace Request

/-- The value of the first header with a name, whose case does not matter. -/
def value? (request : Request) (name : String) : Option (List UInt8) :=
  (request.headers.find? fun header =>
    Text.eqIgnoringAsciiCase header.1.toList name.toList).map (·.2)

/-- The value of the first header with a name as text, if it is readable. -/
def text? (request : Request) (name : String) : Option String :=
  (request.value? name).bind visibleText?

/-- The token in the header of tokens. -/
def bearerToken? (request : Request) : Option String :=
  (request.text? authorizationName).bind fun value =>
    (Text.afterWord bearerMark.toList value.toList).map fun token =>
      String.ofList (Text.trim token)

/-- The credentials in the headers, beside the pair of the certificate. -/
def inbound (request : Request) (certificate : Option DnPair) : InboundCredentials where
  certificate := certificate
  trustedSubject := request.text? HeaderName.trustedSubject
  trustedIssuer := request.text? HeaderName.trustedIssuer
  proxiedEntities := request.text? HeaderName.proxiedEntities
  proxiedIssuers := request.text? HeaderName.proxiedIssuers

end Request
end Http
end Delegation
