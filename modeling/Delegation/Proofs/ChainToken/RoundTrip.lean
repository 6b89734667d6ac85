import Delegation.Proofs.ChainToken.Documents

/-!
# Tokens are decoded to the chain that they were issued for

Whoever shares the secret of an issuer decodes its tokens while they stand. The members come back
as they were, down to the order of their sets, and everything that follows from the members with
them. Authorities follow from the roles that the decoder requires, and the chain is as old as its
oldest member, whatever the chain said of itself when the token was issued.
-/

namespace Delegation
namespace ChainToken

variable {secret : List UInt8} {required : NameSet} {claims : Claims} {now : Int}

/-- The parts of a token for some claims under a shared secret. -/
def Parts.withSecret
    (secret : List UInt8)
    (claims : Claims) : Parts :=
  sealed secret (encodeDocument (Header.mk .hs256).toJson) (encodeDocument claims.toJson)

/-- A token for some claims under a shared secret. -/
def tokenWithSecret
    (secret : List UInt8)
    (claims : Claims) : String :=
  String.ofList (Parts.withSecret secret claims).render

theorem Issuer.issue_secret
    (secret : List UInt8)
    (lifetime now : Int)
    (id : String)
    (chain : Chain) :
    issue ⟨.secret secret, lifetime⟩ now id chain =
      .ok (tokenWithSecret secret (claimsFor ⟨.secret secret, lifetime⟩ now id chain)) := by
  rw [issue, tokenWithSecret, Parts.withSecret, Parts.sealed]
  rfl

/-- A token that was sealed with a secret is taken apart into its parts. -/
theorem Parts.ofText?_withSecret
    (secret : List UInt8)
    (claims : Claims) :
    ofText? (tokenWithSecret secret claims).toList = some (withSecret secret claims) := by
  rw [tokenWithSecret, String.toList_ofList]
  exact ofText?_sealed (dot_not_mem_encodeDocument claims.toJson)

namespace Decoder

/-- The holder of the secret accepts the header and the seal. -/
theorem checkHeader_withSecret
    (secret : List UInt8)
    (required : NameSet)
    (claims : Claims) :
    (ofSecret secret required).checkHeader (.withSecret secret claims) = .ok () := by
  have header : record Header.ofJson? (Header.mk .hs256).toJson = .ok ⟨.hs256⟩ := by
    rw [record, Header.ofJson?_toJson]
  have read : document (Parts.withSecret secret claims).header >>= record Header.ofJson? =
      .ok ⟨.hs256⟩ := by
    rw [Parts.withSecret, Parts.header_sealed, document_encodeDocument (Header.isExact_toJson _),
      ← header]
    rfl
  rw [checkHeader, read]
  rfl

/-- The claims are read back from a sealed token, and only their times can be refused. -/
theorem readClaims_withSecret
    (times : claims.HasTimes)
    (secret : List UInt8)
    (now : Int) :
    readClaims now (.withSecret secret claims) =
      (claims.validate now claims.toJson).map fun _ => claims := by
  have read : document (Parts.withSecret secret claims).payload = .ok claims.toJson := by
    rw [Parts.withSecret, Parts.payload_sealed, document_encodeDocument claims.isExact_toJson]
  have content : record Claims.ofJson? claims.toJson = .ok claims := by
    rw [record, Claims.ofJson?_toJson times]
  simp only [readClaims, read, mapError_ok, bind, Except.bind, content]
  cases claims.validate now claims.toJson <;> rfl

/-- A token with claims that stand is decoded to them, and an expired one is known as such. -/
theorem claimsOf_tokenWithSecret
    (times : claims.HasTimes)
    (secret : List UInt8)
    (required : NameSet)
    (now : Int) :
    (ofSecret secret required).claimsOf now (tokenWithSecret secret claims) =
      (claims.validate now claims.toJson).map fun _ => claims := by
  have isSealed : (Parts.withSecret secret claims).IsSealed secret := Parts.isSealed_sealed
  have signature := checkSignature_ofSecret secret required (Parts.withSecret secret claims)
  rw [if_pos isSealed] at signature
  rw [claimsOf_eq_readClaims (Parts.ofText?_withSecret secret claims)
    (checkHeader_withSecret secret required claims) signature, readClaims_withSecret times]

/-- A sealed token that has not expired is decoded into the chain of its claims. -/
theorem decode_tokenWithSecret
    (times : claims.HasTimes)
    (positive : 0 ≤ claims.expiresAt)
    (standing : now ≤ claims.expiresAt + leewaySecs)
    (secret : List UInt8)
    (required : NameSet) :
    (ofSecret secret required).decode now (tokenWithSecret secret claims) =
      (ofSecret secret required).chainOf claims := by
  have valid : claims.validate now claims.toJson = .ok () := by
    have unexpired : claims.isExpired now = false := decide_eq_false (by omega)
    rw [Claims.validate_toJson, if_neg (by omega), unexpired]
    rfl
  rw [decode, decodeClaims, claimsOf_tokenWithSecret times, valid]
  exact Audited.ok_andThen claims _

theorem exists_chainOf_eq_ok
    (nonempty : claims.users ≠ [])
    (decoder : Decoder) :
    ∃ chain, decoder.chainOf claims = .ok chain ∧
      Chain.create decoder.required claims.users (Chain.earliestCreation? claims.users) =
        .ok chain := by
  obtain ⟨chain, built⟩ := Chain.exists_create_eq_ok nonempty decoder.required
    (Chain.earliestCreation? claims.users)
  refine ⟨chain, ?_, built⟩
  rw [chainOf, built, if_neg (by simpa using nonempty)]
  rfl

/-- The token that is issued for a chain is decoded, by whoever has the secret and while it stands,
to a chain with the same members and thus the same views. The authorities are those that the
members have under the decoder's required roles, and the time of creation is the earliest one
among the members. All times are numbers of 64 bits. -/
theorem decode_issue
    {original : NameSet}
    {members : List Identity}
    {created : Option Int}
    {chain : Chain}
    (built : Chain.create original members created = .ok chain)
    (memberTimes : ∀ member ∈ members, Json.IsInt64 member.created)
    {issuedAt lifetime : Int}
    (issueTime : Json.IsInt64 issuedAt)
    (expiryTime : Json.IsInt64 (issuedAt + lifetime))
    (positive : 0 ≤ issuedAt + lifetime)
    (standing : now ≤ issuedAt + lifetime + leewaySecs)
    (secret : List UInt8)
    (id : String)
    (required : NameSet) :
    ∃ token decoded,
      Issuer.issue ⟨.secret secret, lifetime⟩ issuedAt id chain = .ok token ∧
      (ofSecret secret required).decode now token = .ok decoded ∧
      decoded.members = members ∧
      decoded.primary = chain.primary ∧
      decoded.username = chain.username ∧
      decoded.canonical = chain.canonical ∧
      decoded.same chain = true ∧
      Chain.deriveAuthorities? members required = some decoded.authorities ∧
      (required = original → decoded.authorities = chain.authorities) ∧
      (∃ member ∈ members, member.created = decoded.created) ∧
      ∀ member ∈ members, decoded.created ≤ member.created := by
  obtain ⟨chainMembers, -, -⟩ := Chain.create_eq_ok.mp built
  let claims := Issuer.claimsFor ⟨.secret secret, lifetime⟩ issuedAt id chain
  have users : claims.users = members := chainMembers
  have times : claims.HasTimes := ⟨issueTime, expiryTime, users ▸ memberTimes⟩
  have nonempty : claims.users ≠ [] := chain.members_ne_nil
  obtain ⟨decoded, read, rebuilt⟩ := exists_chainOf_eq_ok nonempty (ofSecret secret required)
  rw [users] at rebuilt
  obtain ⟨decodedMembers, -, decodedCreated⟩ := Chain.create_eq_ok.mp rebuilt
  have equal : decoded.members = chain.members := decodedMembers.trans chainMembers.symm
  have authorities : Chain.deriveAuthorities? members required = some decoded.authorities :=
    decodedMembers ▸ Chain.deriveAuthorities?_of_create rebuilt
  have earliest : Chain.earliestCreation? members = some decoded.created := by
    obtain ⟨value, found⟩ := Chain.exists_earliestCreation? (users ▸ nonempty)
    rw [found] at decodedCreated ⊢
    exact congrArg some decodedCreated.symm
  refine ⟨_, decoded, Issuer.issue_secret secret lifetime issuedAt id chain, ?_, decodedMembers,
    Chain.primary_congr equal, Chain.username_congr equal, Chain.canonical_congr equal,
    Chain.same_iff.mpr equal, authorities, ?_, Chain.earliestCreation?_eq_some_iff.mp earliest⟩
  · rw [decode_tokenWithSecret times positive standing]
    exact read
  · rintro rfl
    have originals := Chain.deriveAuthorities?_of_create built
    rw [chainMembers] at originals
    exact Option.some.inj (authorities.symm.trans originals)

end Decoder

namespace Sample

/-- A person who is called for by an older server. -/
def members : List Identity :=
  [⟨.ofNames "CN=Alice, O=\"X\"" "cn=ca", .user, .ofList ["Analyst", "AuthorizedUser"], ∅, 5000⟩,
    ⟨.ofNames "cn=gateway" "cn=ca", .server, .ofList ["AuthorizedServer"], ∅, 3000⟩]

/-- A chain that claims another age is as old as its older member once it is decoded. -/
theorem decode_issue_members :
    ∃ chain token decoded,
      Chain.create Chain.defaultRequired members (some 99) = .ok chain ∧
      Issuer.issue (Issuer.ofSecret [1, 2, 3]) 1000 "id" chain = .ok token ∧
      (Decoder.ofSecret [1, 2, 3] Chain.defaultRequired).decode 2000 token = .ok decoded ∧
      decoded.members = members ∧
      decoded.authorities = chain.authorities ∧
      decoded.created = 3000 := by
  have nonempty : members ≠ [] := List.cons_ne_nil _ _
  obtain ⟨chain, built⟩ :=
    Chain.exists_create_eq_ok nonempty Chain.defaultRequired (some 99)
  have memberTimes : ∀ member ∈ members, Json.IsInt64 member.created := by decide
  have issueTime : Json.IsInt64 1000 := by decide
  have expiryTime : Json.IsInt64 (1000 + defaultLifetimeSecs) := by decide
  have standing : (2000 : Int) ≤ 1000 + defaultLifetimeSecs + leewaySecs := by decide
  obtain ⟨token, decoded, issued, read, same, -, -, -, -, -, authorities, oldest, older⟩ :=
    Decoder.decode_issue built memberTimes issueTime expiryTime (by decide) standing [1, 2, 3] "id"
      Chain.defaultRequired
  have earliest : Chain.earliestCreation? members = some decoded.created :=
    Chain.earliestCreation?_eq_some_iff.mpr ⟨oldest, older⟩
  have server : Chain.earliestCreation? members = some 3000 := by decide
  exact ⟨chain, token, decoded, built, issued, read, same, authorities rfl,
    Option.some.inj (earliest.symm.trans server)⟩

end Sample

end ChainToken
end Delegation
