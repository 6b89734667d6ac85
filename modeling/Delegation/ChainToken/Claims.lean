import Delegation.Auth.Error
import Delegation.Documents.Identity

/-!
# Claims of tokens

The second part of a token holds the members of a chain and says for whom, by what name and
for how long they are vouched for. Some claims are looked at apart from their meaning here:
a token must expire, and it must not be meant for a named audience.
-/

namespace Delegation
namespace ChainToken

/-- For how many seconds after its expiry a token is still taken. -/
def leewaySecs : Nat := 30

/-- What a token vouches for. -/
structure Claims where
  /-- The subject of the primary identity. -/
  subject : String
  /-- When the token was issued, in seconds since the epoch. -/
  issuedAt : Int
  /-- When the token expires, in seconds since the epoch. -/
  expiresAt : Int
  /-- The name of the token itself. -/
  id : String
  /-- The members of the chain in presented order. -/
  users : List Identity
  deriving DecidableEq

namespace Claims

/-- The names of the fields of claims. -/
def fieldNames : List String := ["sub", "iat", "exp", "jti", "users"]

/-- The document of claims. -/
def toJson (claims : Claims) : Json :=
  .ofMembers [
    ("sub", .ofString claims.subject),
    ("iat", .integer claims.issuedAt),
    ("exp", .integer claims.expiresAt),
    ("jti", .ofString claims.id),
    ("users", .array (claims.users.map Identity.toJson))]

/-- Read the document of claims; the members may be left out. -/
def ofJson? (json : Json) : Option Claims := do
  match ← json.fields? fieldNames with
  | [subject, issuedAt, expiresAt, id, users] =>
      some {
        subject := ← Json.required? Json.asString? subject
        issuedAt := ← Json.required? Json.int64? issuedAt
        expiresAt := ← Json.required? Json.int64? expiresAt
        id := ← Json.required? Json.asString? id
        users := ← Json.defaulted? [] (Json.listOf? Identity.ofJson?) users }
  | _ => none

/-- The token has expired, even with the leeway. -/
def isExpired (now : Int) (claims : Claims) : Bool :=
  decide (claims.expiresAt < now - leewaySecs)

/-- An audience is a text or a list of texts; other values name none. -/
def namesAudience : Json → Bool
  | .string _ => true
  | json => json.strings?.isSome

/-- A time is no array and no object with content. -/
def isPlain : Json → Bool
  | .array items => items.isEmpty
  | .object members => members.isEmpty
  | _ => true

/-- The document has the form that the general rules for tokens need: fields that are not
among the claims are written once, and an array holds all fields. -/
def isRegular (json : Json) : Bool :=
  match json with
  | .array items => decide (fieldNames.length ≤ items.length)
  | _ =>
      match json.fields? ["nbf", "iss", "aud"] with
      | some [notBefore, _, _] => notBefore.all isPlain
      | _ => false

/-- Check claims and their document against the general rules for tokens. An array has its
fields in another order there, so that none of them is an expiry. -/
def validate (now : Int) (claims : Claims) (json : Json) : Except AuthError Unit :=
  if !isRegular json then
    .error (.invalidToken (.unreadableDocument "malformed registered claims"))
  else if claims.expiresAt < 0 ∨ json.asArray?.isSome then
    .error (.invalidToken (.claimMissing "exp"))
  else if claims.isExpired now then .error .tokenExpired
  else if (json.member? "aud").any namesAudience then .error (.invalidToken .namedAudience)
  else .ok ()

end Claims
end ChainToken
end Delegation
