import Delegation.ChainToken.Algorithm
import Delegation.Json.Reader
import Delegation.Json.Writer

/-!
# Headers of tokens

The first part of a token names its signature algorithm and may say more about its key. What
it says about the key must have the right form, and nothing follows from it.
-/

namespace Delegation
namespace ChainToken

/-- What a token says about its key and itself. -/
structure Header where
  /-- How the token is signed. -/
  algorithm : Algorithm
  deriving DecidableEq

namespace Header

/-- The document of a header. -/
def toJson (header : Header) : Json :=
  .ofMembers [("typ", .ofString "JWT"), ("alg", .ofString header.algorithm.name)]

/-- A field is absent, null or a text. -/
def isTextOrNull : Option Json → Bool
  | none => true
  | some value => (Json.nullable? Json.asString? value).isSome

/-- A field is absent, null or a list of texts. -/
def isTextsOrNull : Option Json → Bool
  | none => true
  | some value => (Json.nullable? Json.strings? value).isSome

/-- A member of a key is one of the given texts. -/
def isOneOf (texts : List String) (key : Json) (name : String) : Bool :=
  ((key.member? name).bind Json.asString?).any texts.contains

/-- A member of a key is a text. -/
def hasText (key : Json) (name : String) : Bool :=
  ((key.member? name).bind Json.asString?).isSome

/-- The curves of keys. -/
def curves : List String := ["P-256", "P-384", "P-521", "Ed25519"]

/-- The algorithms that keys may be meant for, beside those of tokens. -/
def furtherKeyAlgorithms : List String := ["RSA1_5", "RSA-OAEP", "RSA-OAEP-256"]

/-- A key has the numbers of its kind. -/
def isKeyMaterial (key : Json) : Bool :=
  (isOneOf ["EC"] key "kty" && isOneOf curves key "crv" && hasText key "x" && hasText key "y") ||
    (isOneOf ["RSA"] key "kty" && hasText key "n" && hasText key "e") ||
    (isOneOf ["oct"] key "kty" && hasText key "k") ||
    (isOneOf ["OKP"] key "kty" && isOneOf curves key "crv" && hasText key "x")

/-- An object describes a key. -/
def isKey (key : Json) : Bool :=
  let isKeyAlgorithm (value : Json) : Bool :=
    value.choice?.any fun name =>
      (Algorithm.ofName? name).isSome || furtherKeyAlgorithms.contains name
  ["use", "kid", "x5u", "x5t", "x5t#S256"].all (fun name => isTextOrNull (key.member? name)) &&
    ["key_ops", "x5c"].all (fun name => isTextsOrNull (key.member? name)) &&
    (match key.member? "alg" with
      | none | some .null => true
      | some value => isKeyAlgorithm value) &&
    isKeyMaterial key

/-- A field is absent, null or a key. -/
def isKeyOrNull : Option Json → Bool
  | none => true
  | some .null => true
  | some (.object members) => isKey (.object members)
  | _ => false

/-- The names of the fields of a header. -/
def fieldNames : List String :=
  ["typ", "alg", "cty", "jku", "jwk", "kid", "x5u", "x5c", "x5t", "x5t#S256"]

/-- Read the document of a header; an array must hold all fields. -/
def ofJson? (json : Json) : Option Header := do
  if json.asArray?.any fun items => items.length < fieldNames.length then none
  match ← json.fields? fieldNames with
  | [type, algorithm, content, keyUrl, key, keyId, certUrl, certs, print, print256] =>
      if [type, content, keyUrl, keyId, certUrl, print, print256].all isTextOrNull &&
          isTextsOrNull certs && isKeyOrNull key then
        some ⟨← Json.required? Algorithm.ofJson? algorithm⟩
      else none
  | _ => none

end Header
end ChainToken
end Delegation
