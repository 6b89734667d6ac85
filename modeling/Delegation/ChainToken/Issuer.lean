import Delegation.ChainToken.Decoder

/-!
# Issuing tokens

A token vouches for the members of a chain for some time, under the signature of a key.
-/

namespace Delegation
namespace ChainToken

/-- For how many seconds tokens are issued where nothing else is asked for. -/
def defaultLifetimeSecs : Nat := 24 * 60 * 60

/-- The written form of a document in a token. -/
def encodeDocument (json : Json) : List Char :=
  Base64.url.encode (Text.utf8String json.render)

/-- What issues tokens. -/
structure Issuer where
  /-- What tokens are signed with. -/
  key : Key
  /-- For how many seconds tokens stand. -/
  lifetimeSecs : Int := defaultLifetimeSecs
  deriving DecidableEq

namespace Issuer

/-- The issuer with a secret. -/
def ofSecret (secret : List UInt8) : Issuer := { key := .secret secret }

/-- The issuer with a private RSA key in a text block. -/
def ofPem (text : String) : Except KeyFault Issuer :=
  (Key.ofPrivatePem text).map fun key => { key := key }

/-- The claims for a chain, at a time and under a name for the token. -/
def claimsFor (issuer : Issuer) (now : Int) (id : String) (chain : Chain) : Claims where
  subject := chain.primary.dn.subject
  issuedAt := now
  expiresAt := now + issuer.lifetimeSecs
  id := id
  users := chain.members

/-- Issue a token for a chain, at a time and under a name for the token. -/
def issue (issuer : Issuer) (now : Int) (id : String) (chain : Chain) :
    Except KeyFault String :=
  let header := encodeDocument (Header.mk issuer.key.algorithm).toJson
  let payload := encodeDocument (issuer.claimsFor now id chain).toJson
  match issuer.key.sign? (header ++ '.' :: payload) with
  | some signature => .ok (String.ofList (Parts.mk header payload signature).render)
  | none => .error .notSigning

end Issuer
end ChainToken
end Delegation
