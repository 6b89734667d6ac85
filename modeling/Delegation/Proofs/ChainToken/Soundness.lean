import Delegation.Proofs.ChainToken.RoundTrip

/-!
# Nothing is decoded that is not vouched for

A decoder with a secret gives out a chain only for a token of three parts whose header names the
algorithm, whose signature is the keyed hash of the other parts, and whose claims are complete and
still stand. As long as the signature is wrong, nothing depends on the claims, and whatever is
refused leaves one warning behind.
-/

namespace Delegation
namespace ChainToken

variable {secret : List UInt8} {required : NameSet} {now : Int} {token : String} {parts : Parts}
variable {claims : Claims} {json : Json} {chain : Chain} {error : AuthError}

/-- A document has a member for each of the claims; users may be left out if there are none. -/
structure Claims.WrittenIn
    (json : Json)
    (claims : Claims) : Prop where
  subject : json.member? "sub" = some (.ofString claims.subject)
  issuedAt : json.member? "iat" = some (.integer claims.issuedAt)
  expiresAt : json.member? "exp" = some (.integer claims.expiresAt)
  id : json.member? "jti" = some (.ofString claims.id)
  users : claims.users ≠ [] →
    ∃ items, json.member? "users" = some (.array items) ∧
      items.mapM Identity.ofJson? = some claims.users

/-- What a token must be for a decoder with a secret to take its claims. -/
structure Vouched
    (secret : List UInt8)
    (now : Int)
    (token : String)
    (parts : Parts)
    (claims : Claims) : Prop where
  /-- The token consists of the parts with dots between them. -/
  threeParts : token.toList = parts.render
  /-- There are no further dots. -/
  dotless : '.' ∉ parts.header ∧ '.' ∉ parts.payload ∧ '.' ∉ parts.signature
  /-- The header names the algorithm of shared secrets. -/
  header : ∃ json, document parts.header = .ok json ∧ Header.ofJson? json = some ⟨.hs256⟩
  /-- The signature is the keyed hash of the other parts. -/
  isSealed : parts.IsSealed secret
  /-- The claims are written in the payload. -/
  payload : ∃ json, document parts.payload = .ok json ∧ claims.WrittenIn json
  /-- The claims still stand, up to the leeway. -/
  standing : now ≤ claims.expiresAt + leewaySecs

/-- Claims that are read from an object are written in it. -/
theorem Claims.writtenIn_of_ofJson?
    (noArray : json.asArray? = none)
    (read : ofJson? json = some claims) :
    claims.WrittenIn json := by
  rw [ofJson?, Option.bind_eq_bind, Option.bind_eq_some_iff] at read
  obtain ⟨fields, found, read⟩ := read
  have known : fields = fieldNames.map fun name => json.member? name := by
    cases json with
    | object members => exact Json.eq_map_member?_of_fields? found
    | array items => cases noArray
    | _ => cases found
  subst known
  simp only [fieldNames, List.map_cons, List.map_nil, Option.bind_eq_bind, Option.bind_eq_some_iff,
    Json.required?, Option.some.injEq] at read
  obtain ⟨subject, ⟨_, subjectAt, subjectRead⟩, issuedAt, ⟨_, issuedAtAt, issuedAtRead⟩, expiresAt,
    ⟨_, expiresAtAt, expiresAtRead⟩, id, ⟨_, idAt, idRead⟩, users, usersRead, rfl⟩ := read
  refine ⟨?_, ?_, ?_, ?_, fun some => ?_⟩
  · rw [subjectAt, Json.eq_ofString_of_asString? subjectRead]
  · rw [issuedAtAt, Json.eq_integer_of_int64? issuedAtRead]
  · rw [expiresAtAt, Json.eq_integer_of_int64? expiresAtRead]
  · rw [idAt, Json.eq_ofString_of_asString? idRead]
  · cases written : json.member? "users" with
    | none =>
        rw [written] at usersRead
        exact absurd (Option.some.inj usersRead).symm some
    | some value =>
        rw [written] at usersRead
        obtain ⟨items, rfl, all⟩ := Json.eq_array_of_listOf? usersRead
        exact ⟨items, rfl, all⟩

/-- Claims that pass the general rules are written in an object and have not expired. -/
theorem Claims.of_validate_eq_ok
    (valid : claims.validate now json = .ok ()) :
    json.asArray? = none ∧ now ≤ claims.expiresAt + leewaySecs := by
  unfold validate at valid
  split at valid
  · nomatch valid
  · split at valid
    · nomatch valid
    · rename_i noArray
      split at valid
      · nomatch valid
      · rename_i unexpired
        simp only [isExpired, decide_eq_true_eq] at unexpired
        rw [not_or, Option.not_isSome_iff_eq_none] at noArray
        exact ⟨noArray.2, by omega⟩

theorem record_eq_ok
    {α : Type}
    {read : Json → Option α}
    {value : α} :
    record read json = .ok value ↔ read json = some value := by
  unfold record
  split <;> simp_all

namespace Decoder

variable {decoder : Decoder}

/-- A header that is accepted names the algorithm of the secret. -/
theorem checkHeader_eq_ok
    (checked : (ofSecret secret required).checkHeader parts = .ok ()) :
    ∃ json, document parts.header = .ok json ∧ Header.ofJson? json = some ⟨.hs256⟩ := by
  unfold checkHeader at checked
  split at checked
  · nomatch checked
  · rename_i header read
    split at checked
    · rename_i named
      obtain rfl : header = ⟨.hs256⟩ := congrArg Header.mk named
      obtain ⟨json, found, content⟩ := bind_eq_ok_iff.mp read
      exact ⟨json, found, record_eq_ok.mp content⟩
    · nomatch checked

/-- Only the header decides whether the header is in order. -/
theorem checkHeader_congr
    {other : Parts}
    (same : parts.header = other.header) :
    decoder.checkHeader parts = decoder.checkHeader other := by
  rw [checkHeader, checkHeader, same]

theorem readClaims_eq_ok
    (read : readClaims now parts = .ok claims) :
    ∃ json, document parts.payload = .ok json ∧ Claims.ofJson? json = some claims ∧
      claims.validate now json = .ok () := by
  obtain ⟨json, found, read⟩ := bind_eq_ok_iff.mp read
  obtain ⟨others, content, read⟩ := bind_eq_ok_iff.mp read
  obtain ⟨⟨⟩, valid, read⟩ := bind_eq_ok_iff.mp read
  obtain rfl := Except.ok.inj read
  exact ⟨json, mapError_eq_ok_iff.mp found, record_eq_ok.mp (mapError_eq_ok_iff.mp content), valid⟩

/-- Claims are taken from a token only if header and signature are in order. -/
theorem claimsOf_eq_ok
    (read : decoder.claimsOf now token = .ok claims) :
    ∃ parts, Parts.ofText? token.toList = some parts ∧ decoder.checkHeader parts = .ok () ∧
      decoder.checkSignature parts = .ok () ∧ readClaims now parts = .ok claims := by
  unfold claimsOf at read
  split at read
  · nomatch read
  · rename_i parts found
    obtain ⟨⟨⟩, header, read⟩ := bind_eq_ok_iff.mp read
    obtain ⟨⟨⟩, signature, read⟩ := bind_eq_ok_iff.mp read
    exact ⟨parts, found, header, signature, read⟩

/-- What is said of a token with a wrong signature: what is wrong with its header, if anything. -/
def forgeryError
    (decoder : Decoder)
    (parts : Parts) : AuthError :=
  match decoder.checkHeader parts with
  | .error error => error
  | .ok () => .invalidSignature

/-- Of a token with a wrong signature nothing but the header matters. -/
theorem forgeryError_congr
    {other : Parts}
    (same : parts.header = other.header) :
    decoder.forgeryError parts = decoder.forgeryError other := by
  rw [forgeryError, forgeryError, checkHeader_congr same]

theorem forgeryError_ne_tokenExpired
    (decoder : Decoder)
    (parts : Parts) :
    decoder.forgeryError parts ≠ .tokenExpired := by
  unfold forgeryError checkHeader
  split
  · rename_i error refused
    rintro rfl
    split at refused
    · nomatch refused
    · split at refused <;> nomatch refused
  · exact nofun

/-- A token that the secret did not seal is refused for this, whatever its payload says. -/
theorem claimsOf_of_not_isSealed
    (found : Parts.ofText? token.toList = some parts)
    (forged : ¬ parts.IsSealed secret)
    (required : NameSet)
    (now : Int) :
    (ofSecret secret required).claimsOf now token =
      .error ((ofSecret secret required).forgeryError parts) := by
  have signature := checkSignature_ofSecret secret required parts
  rw [if_neg forged] at signature
  simp only [claimsOf, found, signature, forgeryError]
  cases (ofSecret secret required).checkHeader parts <;> rfl

theorem isSealed_of_checkSignature
    (checked : (ofSecret secret required).checkSignature parts = .ok ()) :
    parts.IsSealed secret := by
  rw [checkSignature_ofSecret] at checked
  exact of_not_not fun forged => by simp [forged] at checked

/-- Claims that are read from a token are vouched for. -/
theorem vouched_of_claimsOf
    (read : (ofSecret secret required).claimsOf now token = .ok claims) :
    ∃ parts, Vouched secret now token parts claims := by
  obtain ⟨parts, found, header, signature, read⟩ := claimsOf_eq_ok read
  obtain ⟨json, payload, content, valid⟩ := readClaims_eq_ok read
  obtain ⟨text, payloadDotless, signatureDotless⟩ := Parts.ofText?_eq_some_iff.mp found
  obtain ⟨noArray, standing⟩ := Claims.of_validate_eq_ok valid
  obtain ⟨headerJson, headerFound, named⟩ := checkHeader_eq_ok header
  exact ⟨parts, {
    threeParts := text
    dotless := ⟨dot_not_mem_of_document headerFound, payloadDotless, signatureDotless⟩
    header := ⟨headerJson, headerFound, named⟩
    isSealed := isSealed_of_checkSignature signature
    payload := ⟨json, payload, Claims.writtenIn_of_ofJson? noArray content⟩
    standing := standing }⟩

/-- Decoding gives a chain, or an error and the one warning that goes with it. -/
inductive Decodes
    (decoder : Decoder)
    (now : Int)
    (token : String) : Audited Chain → Prop
  | accepted (claims : Claims) (chain : Chain) :
      decoder.claimsOf now token = .ok claims → claims.users ≠ [] →
      Chain.create decoder.required claims.users (Chain.earliestCreation? claims.users) =
        .ok chain →
      Decodes decoder now token (.ok chain)
  | empty (claims : Claims) :
      decoder.claimsOf now token = .ok claims →
      Decodes decoder now token
        (.fail (.invalidToken .noIdentities) [.tokenWithoutIdentities claims.subject])
  | refused (error : AuthError) :
      decoder.claimsOf now token = .error error →
      Decodes decoder now token (.fail error [.tokenRejected error])

theorem decodes_decode
    (decoder : Decoder)
    (now : Int)
    (token : String) :
    Decodes decoder now token (decoder.decode now token) := by
  cases read : decoder.claimsOf now token with
  | error error =>
      have taken : decoder.decode now token = .fail error [.tokenRejected error] := by
        rw [decode, decodeClaims, read]
        rfl
      rw [taken]
      exact .refused error read
  | ok claims =>
      have taken : decoder.decode now token = decoder.chainOf claims := by
        rw [decode, decodeClaims, read]
        exact Audited.ok_andThen claims _
      rw [taken]
      by_cases none : claims.users = []
      · rw [chainOf, none]
        exact .empty claims read
      · obtain ⟨chain, built, created⟩ := exists_chainOf_eq_ok none decoder
        rw [built]
        exact .accepted claims chain read none created

namespace Decodes

variable {audited : Audited Chain}

theorem exists_claims
    (decodes : Decodes decoder now token audited)
    (result : audited.result = .ok chain) :
    ∃ claims, decoder.claimsOf now token = .ok claims ∧ claims.users ≠ [] ∧
      Chain.create decoder.required claims.users (Chain.earliestCreation? claims.users) =
        .ok chain := by
  cases decodes with
  | accepted claims built read users created =>
      obtain rfl := Except.ok.inj result
      exact ⟨claims, read, users, created⟩
  | empty claims read => nomatch result
  | refused error read => nomatch result

theorem claimsOf_eq_tokenExpired
    (decodes : Decodes decoder now token audited)
    (result : audited.result = .error .tokenExpired) :
    decoder.claimsOf now token = .error .tokenExpired := by
  cases decodes with
  | accepted claims built read users created => nomatch result
  | empty claims read => nomatch result
  | refused error read =>
      obtain rfl := Except.error.inj result
      exact read

/-- A token that is refused is warned of once. -/
theorem length_warnings
    (decodes : Decodes decoder now token audited)
    (result : audited.result = .error error) :
    audited.warnings.length = 1 := by
  cases decodes with
  | accepted claims built read users created => nomatch result
  | empty claims read => rfl
  | refused error read => rfl

end Decodes

theorem result_decode_of_claimsOf_eq_error
    (refused : decoder.claimsOf now token = .error error) :
    (decoder.decode now token).result = .error error := by
  rw [decode, decodeClaims, refused]
  rfl

/-- An expired token is known as such only if its signature is right. -/
theorem isSealed_of_tokenExpired
    (expired : (ofSecret secret required).claimsOf now token = .error .tokenExpired) :
    ∃ parts, Parts.ofText? token.toList = some parts ∧ parts.IsSealed secret := by
  cases found : Parts.ofText? token.toList with
  | none =>
      rw [claimsOf, found] at expired
      cases expired
  | some parts =>
      refine ⟨parts, rfl, of_not_not fun forged => ?_⟩
      rw [claimsOf_of_not_isSealed found forged] at expired
      exact forgeryError_ne_tokenExpired _ parts (Except.error.inj expired)

/-- A chain that is decoded is the one of the members that the token vouches for, as old as the
oldest of them. Only of a token with the right signature it is said that it has expired. What is
said of tokens with wrong signatures depends on their headers alone, and whatever is refused leaves
one warning. -/
theorem decode_sound
    (secret : List UInt8)
    (required : NameSet)
    (now : Int)
    (token : String) :
    (∀ chain, ((ofSecret secret required).decode now token).result = .ok chain →
      ∃ parts claims, Vouched secret now token parts claims ∧ claims.users ≠ [] ∧
        Chain.create required claims.users (Chain.earliestCreation? claims.users) = .ok chain) ∧
    (((ofSecret secret required).decode now token).result = .error .tokenExpired →
      ∃ parts, Parts.ofText? token.toList = some parts ∧ parts.IsSealed secret) ∧
    (∀ other later parts otherParts, Parts.ofText? token.toList = some parts →
      Parts.ofText? other.toList = some otherParts → parts.header = otherParts.header →
      ¬ parts.IsSealed secret → ¬ otherParts.IsSealed secret →
      ∃ error, ((ofSecret secret required).decode now token).result = .error error ∧
        ((ofSecret secret required).decode later other).result = .error error) ∧
    ∀ error, ((ofSecret secret required).decode now token).result = .error error →
      ((ofSecret secret required).decode now token).warnings.length = 1 := by
  have decodes := decodes_decode (ofSecret secret required) now token
  refine ⟨fun chain accepted => ?_, fun expired => ?_, ?_, fun _ => decodes.length_warnings⟩
  · obtain ⟨claims, read, users, created⟩ := decodes.exists_claims accepted
    obtain ⟨parts, vouched⟩ := vouched_of_claimsOf read
    exact ⟨parts, claims, vouched, users, created⟩
  · exact isSealed_of_tokenExpired (decodes.claimsOf_eq_tokenExpired expired)
  · intro other later parts otherParts found otherFound same forged otherForged
    refine ⟨(ofSecret secret required).forgeryError parts,
      result_decode_of_claimsOf_eq_error (claimsOf_of_not_isSealed found forged required now), ?_⟩
    rw [forgeryError_congr same]
    exact result_decode_of_claimsOf_eq_error
      (claimsOf_of_not_isSealed otherFound otherForged required later)

end Decoder

namespace Sample

/-- Claims that stand for a thousand seconds. -/
def aliceClaims : Claims where
  subject := "cn=alice"
  issuedAt := 1000
  expiresAt := 2000
  id := "id"
  users := members

/-- The token of these claims under a secret of three bytes. -/
def aliceToken : String := tokenWithSecret [1, 2, 3] aliceClaims

/-- Two tokens with the header of shared secrets and no signature. -/
def unsigned (payload : String) : String :=
  "eyJ0eXAiOiJKV1QiLCJhbGciOiJIUzI1NiJ9." ++ payload ++ "."

/-- A token is decoded while it stands and expires afterwards, and two unsigned ones are refused
for the same reason. -/
theorem decode_sound_alice :
    let decoder := Decoder.ofSecret [1, 2, 3] Chain.defaultRequired
    (∃ chain parts claims, (decoder.decode 1500 aliceToken).result = .ok chain ∧
      Vouched [1, 2, 3] 1500 aliceToken parts claims) ∧
    (∃ parts, (decoder.decode 5000 aliceToken).result = .error .tokenExpired ∧
      (decoder.decode 5000 aliceToken).warnings.length = 1 ∧
      Parts.ofText? aliceToken.toList = some parts ∧ parts.IsSealed [1, 2, 3]) ∧
    ∃ error, (decoder.decode 0 (unsigned "a")).result = .error error ∧
      (decoder.decode 0 (unsigned "b")).result = .error error := by
  intro decoder
  have times : aliceClaims.HasTimes := ⟨by decide, by decide, by decide⟩
  have standing : (1500 : Int) ≤ aliceClaims.expiresAt + leewaySecs := by decide
  have accepted : ∃ chain, (decoder.decode 1500 aliceToken).result = .ok chain := by
    have nonempty : aliceClaims.users ≠ [] := List.cons_ne_nil _ _
    obtain ⟨chain, built, -⟩ := Decoder.exists_chainOf_eq_ok nonempty decoder
    refine ⟨chain, ?_⟩
    rw [aliceToken, Decoder.decode_tokenWithSecret times (by decide) standing, built]
    rfl
  have expired : (decoder.decode 5000 aliceToken).result = .error .tokenExpired := by
    apply Decoder.result_decode_of_claimsOf_eq_error
    rw [aliceToken, Decoder.claimsOf_tokenWithSecret times, Claims.validate_toJson]
    rfl
  obtain ⟨chain, accepted⟩ := accepted
  obtain ⟨sound, -, -, -⟩ := Decoder.decode_sound [1, 2, 3] Chain.defaultRequired 1500 aliceToken
  obtain ⟨-, right, -, warned⟩ :=
    Decoder.decode_sound [1, 2, 3] Chain.defaultRequired 5000 aliceToken
  obtain ⟨-, -, alike, -⟩ :=
    Decoder.decode_sound [1, 2, 3] Chain.defaultRequired 0 (unsigned "a")
  obtain ⟨parts, others, vouched, -⟩ := sound chain accepted
  obtain ⟨sealedParts, found, isSealed⟩ := right expired
  refine ⟨⟨chain, parts, others, accepted, vouched⟩,
    ⟨sealedParts, expired, warned _ expired, found, isSealed⟩, ?_⟩
  exact alike (unsigned "b") 0 _ _ rfl rfl rfl (by decide +kernel) (by decide +kernel)

end Sample

end ChainToken
end Delegation
