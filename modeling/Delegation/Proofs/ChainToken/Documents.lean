import Delegation.ChainToken.Issuer
import Delegation.Proofs.Bytes.Base64
import Delegation.Proofs.Documents.Identity
import Delegation.Proofs.Text.Cutting

/-!
# Parts of tokens and their documents

A token is cut at its last two dots, and a part with a document holds no dot. The documents of
a header and of claims are read from their parts as they were written. Claims that are written
here pass the general rules for tokens as long as their time of expiry does.
-/

namespace Delegation
namespace ChainToken

namespace Parts

/-- The parts of a text are those that, joined by dots, give the text, with no further dot in the
last two. -/
theorem ofText?_eq_some_iff
    {text : List Char}
    {parts : Parts} :
    ofText? text = some parts ↔
      text = parts.render ∧ '.' ∉ parts.payload ∧ '.' ∉ parts.signature := by
  obtain ⟨header, payload, signature⟩ := parts
  simp only [ofText?, Option.bind_eq_bind, Option.bind_eq_some_iff, Prod.exists,
    Text.cutLast_eq_some_iff, Option.some.injEq, Parts.mk.injEq, render, signed]
  constructor
  · rintro ⟨_, _, ⟨rfl, signatureDotless⟩, _, _, ⟨rfl, payloadDotless⟩, rfl, rfl, rfl⟩
    exact ⟨rfl, payloadDotless, signatureDotless⟩
  · rintro ⟨rfl, payloadDotless, signatureDotless⟩
    exact ⟨_, _, ⟨rfl, signatureDotless⟩, _, _, ⟨rfl, payloadDotless⟩, rfl, rfl, rfl⟩

/-- The signature belongs to the other parts under a shared secret: it is their keyed hash. -/
def IsSealed
    (secret : List UInt8)
    (parts : Parts) : Prop :=
  parts.signature = Base64.url.encode (Hmac.sign secret (Text.utf8 parts.signed))

instance (secret : List UInt8) (parts : Parts) : Decidable (parts.IsSealed secret) :=
  inferInstanceAs (Decidable (_ = _))

/-- Two parts with their signature under a shared secret. -/
def sealed
    (secret : List UInt8)
    (header payload : List Char) : Parts :=
  ⟨header, payload, Base64.url.encode (Hmac.sign secret (Text.utf8 (header ++ '.' :: payload)))⟩

section Sealed

variable {secret : List UInt8} {header payload : List Char} {parts : Parts}

theorem header_sealed : (sealed secret header payload).header = header := rfl

theorem payload_sealed : (sealed secret header payload).payload = payload := rfl

theorem isSealed_sealed : (sealed secret header payload).IsSealed secret := by
  rw [IsSealed, signed, sealed]

/-- A signature that seals the parts is written without a dot. -/
theorem IsSealed.dot_not_mem_signature
    (isSealed : parts.IsSealed secret) :
    '.' ∉ parts.signature := by
  rw [isSealed]
  exact Base64.Alphabet.dot_not_mem_of_decode?_url (Base64.Alphabet.decode?_encode_url _)

/-- A sealed token is taken apart into the parts that it was made of. -/
theorem ofText?_sealed
    (dotless : '.' ∉ payload) :
    ofText? (sealed secret header payload).render = some (sealed secret header payload) :=
  ofText?_eq_some_iff.mpr ⟨rfl, dotless, isSealed_sealed.dot_not_mem_signature⟩

end Sealed

end Parts

section Documents

variable {json : Json} {part : List Char}

theorem dot_not_mem_encodeDocument (json : Json) : '.' ∉ encodeDocument json :=
  Base64.Alphabet.dot_not_mem_of_decode?_url (Base64.Alphabet.decode?_encode_url _)

/-- A part holds the document that it was written for. -/
theorem document_encodeDocument
    (exact : json.IsExact) :
    document (encodeDocument json) = .ok json := by
  rw [document, encodeDocument, Base64.Alphabet.decode?_encode_url]
  simp only [exact.readBytes?_render]

/-- A part that is read as a document holds no dot. -/
theorem dot_not_mem_of_document
    (read : document part = .ok json) :
    '.' ∉ part := by
  unfold document at read
  split at read
  · nomatch read
  · rename_i bytes decoded
    exact Base64.Alphabet.dot_not_mem_of_decode?_url decoded

end Documents

namespace Header

theorem isExact_toJson (header : Header) : header.toJson.IsExact := by
  refine .object _ ?_
  simp only [List.forall_mem_cons, List.not_mem_nil, false_implies, implies_true, and_true]
  exact ⟨.string _, .string _⟩

theorem ofJson?_toJson (header : Header) : ofJson? header.toJson = some header := by
  have fields : header.toJson.fields? fieldNames =
      some [some (.ofString "JWT"), some (.ofString header.algorithm.name),
        none, none, none, none, none, none, none, none] :=
    Json.fields?_ofMembers (by simp) _
  have noArray : header.toJson.asArray? = none := rfl
  have type : isTextOrNull (some (.ofString "JWT")) = true := rfl
  have named : Algorithm.ofJson? (.ofString header.algorithm.name) = some header.algorithm :=
    Algorithm.ofName?_name header.algorithm
  rw [ofJson?, fields, noArray]
  simp [isTextsOrNull, isKeyOrNull, type, isTextOrNull.eq_1, Json.required?, named]

end Header

namespace Claims

variable {claims : Claims}

/-- All times in claims are numbers of 64 bits. -/
structure HasTimes (claims : Claims) : Prop where
  issuedAt : Json.IsInt64 claims.issuedAt
  expiresAt : Json.IsInt64 claims.expiresAt
  users : ∀ user ∈ claims.users, Json.IsInt64 user.created

theorem isExact_toJson (claims : Claims) : claims.toJson.IsExact := by
  have users : (Json.array (claims.users.map Identity.toJson)).IsExact := by
    refine .array _ fun item inside => ?_
    obtain ⟨user, -, rfl⟩ := List.mem_map.mp inside
    exact user.isExact_toJson
  refine .object _ ?_
  simp only [List.forall_mem_cons, List.not_mem_nil, false_implies, implies_true, and_true]
  exact ⟨.string _, .integer _, .integer _, .string _, users⟩

/-- Claims with times that fit in 64 bits are read back whole from their document. -/
theorem ofJson?_toJson
    (times : claims.HasTimes) :
    ofJson? claims.toJson = some claims := by
  have fields : claims.toJson.fields? fieldNames =
      some [some (.ofString claims.subject), some (.integer claims.issuedAt),
        some (.integer claims.expiresAt), some (.ofString claims.id),
        some (.array (claims.users.map Identity.toJson))] :=
    Json.fields?_ofMembers (by simp) _
  have users : Json.listOf? Identity.ofJson? (.array (claims.users.map Identity.toJson)) =
      some claims.users :=
    Json.listOf?_array_map fun user inside => Identity.ofJson?_toJson (times.users user inside)
  rw [ofJson?, fields]
  simp [Json.required?, Json.defaulted?, Json.int64?_integer times.issuedAt,
    Json.int64?_integer times.expiresAt, users, Json.ofString, Json.asString?]

theorem isRegular_toJson (claims : Claims) : isRegular claims.toJson = true := by
  have fields : claims.toJson.fields? ["nbf", "iss", "aud"] = some [none, none, none] :=
    Json.fields?_ofMembers (by simp) _
  unfold isRegular
  split
  · rename_i items same
    nomatch same
  · rw [fields]
    rfl

/-- Written claims are refused for nothing but their time of expiry. -/
theorem validate_toJson (now : Int) :
    claims.validate now claims.toJson =
      if claims.expiresAt < 0 then .error (.invalidToken (.claimMissing "exp"))
      else if claims.isExpired now then .error .tokenExpired
      else .ok () := by
  have audience : claims.toJson.member? "aud" = none := by
    simp [toJson, Json.ofMembers, Json.member?]
  have noArray : claims.toJson.asArray? = none := rfl
  rw [validate, isRegular_toJson, audience, noArray]
  simp

end Claims

namespace Decoder

/-- A decoder with a secret knows the signatures that are made with it, and no other ones. -/
theorem checkSignature_ofSecret
    (secret : List UInt8)
    (required : NameSet)
    (parts : Parts) :
    (ofSecret secret required).checkSignature parts =
      if parts.IsSealed secret then .ok () else .error .invalidSignature := by
  have verified : (Key.secret secret).verify parts.signed parts.signature =
      some (decide (parts.IsSealed secret)) := rfl
  rw [checkSignature, ofSecret, verified]
  by_cases isSealed : parts.IsSealed secret <;> simp [isSealed]

/-- A token whose header and signature are in order is refused for its claims only. -/
theorem claimsOf_eq_readClaims
    {decoder : Decoder}
    {token : String}
    {parts : Parts}
    (found : Parts.ofText? token.toList = some parts)
    (header : decoder.checkHeader parts = .ok ())
    (signature : decoder.checkSignature parts = .ok ())
    (now : Int) :
    decoder.claimsOf now token = readClaims now parts := by
  simp only [claimsOf, found, header, signature]
  rfl

end Decoder

end ChainToken
end Delegation
