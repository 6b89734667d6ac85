import Delegation.Auth.Warning
import Delegation.Chain.Basic
import Delegation.ChainToken.Claims
import Delegation.ChainToken.Header
import Delegation.ChainToken.Key

/-!
# Decoding tokens

A token has three parts with dots between them: header, claims and signature. The signature
is checked before the claims are read, so that nothing that is not vouched for has a say. A
chain is built anew from the members that a token holds.
-/

namespace Delegation
namespace ChainToken

/-- The parts of a token, as written. -/
structure Parts where
  /-- The header. -/
  header : List Char
  /-- The claims. -/
  payload : List Char
  /-- The signature. -/
  signature : List Char
  deriving DecidableEq

namespace Parts

/-- The parts of a text at its last two dots. -/
def ofText? (text : List Char) : Option Parts := do
  let (signed, signature) ← Text.cutLast '.' text
  let (header, payload) ← Text.cutLast '.' signed
  some ⟨header, payload, signature⟩

/-- What is signed: header and claims with the dot between them. -/
def signed (parts : Parts) : List Char :=
  parts.header ++ '.' :: parts.payload

/-- The parts with dots between them. -/
def render (parts : Parts) : List Char :=
  parts.signed ++ '.' :: parts.signature

end Parts

/-- The document in a part. -/
def document (part : List Char) : Except TokenFault Json :=
  match Base64.url.decode? part with
  | none => .error (.undecodablePart "not written in the alphabet of URLs")
  | some bytes =>
      match Json.readBytes? bytes with
      | some json => .ok json
      | none => .error (.unreadableDocument "not a document")

/-- A document read as a record. -/
def record {α : Type} (read : Json → Option α) (json : Json) : Except TokenFault α :=
  match read json with
  | some value => .ok value
  | none => .error (.unreadableDocument "unexpected document")

/-- What turns tokens back into chains. -/
structure Decoder where
  /-- What tokens are checked with. -/
  key : Key
  /-- The roles that the members of a chain must hold. -/
  required : NameSet
  deriving DecidableEq

namespace Decoder

/-- The decoder with a secret. -/
def ofSecret (secret : List UInt8) (required : NameSet) : Decoder :=
  ⟨.secret secret, required⟩

/-- The decoder with a public RSA key in a text block. -/
def ofPem (text : String) (required : NameSet) : Except KeyFault Decoder :=
  (Key.ofPublicPem text).map fun key => ⟨key, required⟩

/-- Check that the header names the algorithm of the key. -/
def checkHeader (decoder : Decoder) (parts : Parts) : Except AuthError Unit :=
  match document parts.header >>= record Header.ofJson? with
  | .error fault => .error (.invalidToken fault)
  | .ok header =>
      if header.algorithm = decoder.key.algorithm then .ok ()
      else .error (.invalidToken .otherAlgorithm)

/-- Check that the signature belongs to the other parts. -/
def checkSignature (decoder : Decoder) (parts : Parts) : Except AuthError Unit :=
  match decoder.key.verify parts.signed parts.signature with
  | none => .error (.invalidToken (.undecodablePart "the signature is not readable"))
  | some true => .ok ()
  | some false => .error .invalidSignature

/-- Read and check the claims. -/
def readClaims (now : Int) (parts : Parts) : Except AuthError Claims := do
  let json ← (document parts.payload).mapError .invalidToken
  let claims ← (record Claims.ofJson? json).mapError .invalidToken
  claims.validate now json
  return claims

/-- The claims of a token, if they are vouched for and still stand. -/
def claimsOf (decoder : Decoder) (now : Int) (token : String) : Except AuthError Claims :=
  match Parts.ofText? token.toList with
  | none => .error (.invalidToken .notThreeParts)
  | some parts => do
      decoder.checkHeader parts
      decoder.checkSignature parts
      readClaims now parts

/-- The claims of a token, with a warning when it is refused. -/
def decodeClaims (decoder : Decoder) (now : Int) (token : String) : Audited Claims :=
  match decoder.claimsOf now token with
  | .ok claims => .ok claims
  | .error error => .fail error [.tokenRejected error]

/-- The chain that claims vouch for, as old as its oldest member. -/
def chainOf (decoder : Decoder) (claims : Claims) : Audited Chain :=
  if claims.users.isEmpty then
    .fail (.invalidToken .noIdentities) [.tokenWithoutIdentities claims.subject]
  else
    ⟨Chain.create decoder.required claims.users (Chain.earliestCreation? claims.users), []⟩

/-- The chain that a token holds. -/
def decode (decoder : Decoder) (now : Int) (token : String) : Audited Chain :=
  (decoder.decodeClaims now token).andThen decoder.chainOf

end Decoder
end ChainToken
end Delegation
