import Delegation.Proofs.Chain.Authorities
import Delegation.Proofs.Http.Soundness

/-!
# Which roles are required

The chain of certificate and headers has the authorities that its members have under the required
roles of the settings. A chain of a token has those that its members have under the required
roles of the decoder, which nothing ties to the settings. So the same members may come with
other authorities, and past the role that denies access, if they come with a token. Only where
decoder and settings require the same roles does it never matter how members arrive.
-/

namespace Delegation

/-- A token that is decoded holds the members of its chain, which is built with the required
roles of the decoder. -/
theorem ChainToken.Decoder.create_of_decode
    {decoder : ChainToken.Decoder}
    {now : Int}
    {token : String}
    {chain : Chain}
    (decoded : (decoder.decode now token).result = .ok chain) :
    ∃ claims, decoder.claimsOf now token = .ok claims ∧
      Chain.create decoder.required claims.users (Chain.earliestCreation? claims.users) =
        .ok chain := by
  rw [decode, Audited.result_andThen_eq_ok] at decoded
  obtain ⟨claims, read, made⟩ := decoded
  refine ⟨claims, ?_, ?_⟩
  · unfold decodeClaims at read
    cases outcome : decoder.claimsOf now token with
    | error error => simp [outcome] at read
    | ok other => simpa [outcome] using read
  · unfold chainOf at made
    split at made
    · nomatch made
    · exact made

namespace Http
namespace Setup

/-- A chain has the authorities that its members have under the settings. -/
def Derives (setup : Setup) (chain : Chain) : Prop :=
  Chain.deriveAuthorities? chain.members setup.settings.required = some chain.authorities

/-- Tokens give the same authorities to some members as the settings do. -/
def AgreesOn (setup : Setup) (members : List Identity) : Prop :=
  ∀ decoder, setup.decoder = some decoder →
    Chain.deriveAuthorities? members decoder.required =
      Chain.deriveAuthorities? members setup.settings.required

/-- The same roles are required of tokens and by the settings. -/
def Agrees (setup : Setup) : Prop :=
  ∀ decoder, setup.decoder = some decoder → decoder.required = setup.settings.required

variable {setup : Setup} {guard : Guard} {now : Int} {request : Request}
variable {certificate : Option DnPair} {chain : Chain}

/-- Tokens agree with the settings on all members exactly if they require the same roles. -/
theorem agrees_iff : setup.Agrees ↔ ∀ members, setup.AgreesOn members := by
  constructor
  · intro agrees members decoder honoured
    rw [agrees decoder honoured]
  · intro agreesOn decoder honoured
    apply Chain.deriveAuthorities?_congr_iff.mp
    intro members
    exact agreesOn members decoder honoured

/-- A chain that is presented has the authorities of the settings unless it is that of a token
and tokens come to other authorities for its members. -/
theorem derives_iff_of_presents
    (presents : setup.Presents now request certificate (some chain)) :
    setup.Derives chain ↔ setup.Tokenless request ∨ setup.AgreesOn chain.members := by
  cases presents with
  | token decoder token chain honoured read decoded =>
      obtain ⟨claims, -, created⟩ := ChainToken.Decoder.create_of_decode decoded
      have derived := Chain.deriveAuthorities?_of_create created
      have withToken : ¬ setup.Tokenless request := by
        simp [Tokenless, honoured, read]
      have agreesOn : setup.AgreesOn chain.members ↔
          Chain.deriveAuthorities? chain.members decoder.required =
            Chain.deriveAuthorities? chain.members setup.settings.required := by
        simp [AgreesOn, honoured]
      rw [or_iff_right withToken, agreesOn, derived, Derives]
      exact eq_comm
  | credentials credentials members chain tokenless extracted found created =>
      exact iff_of_true (Chain.deriveAuthorities?_of_create created) (.inl tokenless)

theorem authorities_of_derives
    {other : Chain}
    (derives : setup.Derives chain)
    (otherDerives : setup.Derives other)
    (same : chain.members = other.members) :
    chain.authorities = other.authorities := by
  rw [Derives, same] at derives
  exact Option.some.inj (derives.symm.trans otherDerives)

/-- An attached chain has the authorities that its members have under the settings exactly if it
does not come from a token, or the decoder's required roles give the same authorities to these
members. They do so for all members exactly if the same roles are required, and then chains with
the same members have the same authorities and are alike to the role that denies access, however
they are presented. -/
theorem attached_derives_iff
    (made : setup.guard = .ok guard) :
    (∀ now request attached, (guard.examine now request).result = .ok (some attached) →
        (setup.Derives attached.chain ↔
          setup.Tokenless request ∨ setup.AgreesOn attached.chain.members)) ∧
      (setup.Agrees ↔ ∀ members, setup.AgreesOn members) ∧
      (setup.Agrees → ∀ now later request other certificate otherCertificate chain otherChain,
        setup.Presents now request certificate (some chain) →
        setup.Presents later other otherCertificate (some otherChain) →
        chain.members = otherChain.members →
          chain.authorities = otherChain.authorities ∧
            (setup.settings.AdmitsChain chain ↔ setup.settings.AdmitsChain otherChain)) := by
  refine ⟨?_, agrees_iff, ?_⟩
  · intro now request attached examined
    obtain ⟨certificate, presented, -, presents, -, answer⟩ := (examine_eq_ok made).mp examined
    obtain ⟨chain, rfl, rfl⟩ := Option.map_eq_some_iff.mp answer.symm
    exact derives_iff_of_presents presents
  · intro agrees now later request other certificate otherCertificate chain otherChain presents
      otherPresents same
    have derives (members : List Identity) : setup.AgreesOn members := agrees_iff.mp agrees members
    have equal : chain.authorities = otherChain.authorities :=
      authorities_of_derives ((derives_iff_of_presents presents).mpr (.inr (derives _)))
        ((derives_iff_of_presents otherPresents).mpr (.inr (derives _))) same
    refine ⟨equal, ?_⟩
    rw [SecuritySettings.AdmitsChain, SecuritySettings.AdmitsChain, equal]

/-- Someone with one role, which denies access and is required of tokens but not by the
settings. -/
def sampleMember : Identity :=
  ⟨.ofNames "cn=a" "cn=c", .user, .ofList ["R"], ∅, 0⟩

/-- A setup with a decoder that requires another role than the settings do. -/
def tokenSample : Setup where
  settings := { deniedAccessRole := some "R" }
  directory := .empty []
  decoder := some (.ofSecret [0x6B] (.ofList ["R"]))

/-- The guard of this setup. -/
def tokenSampleGuard : Guard where
  policy := {}
  lookup := (Directory.empty []).lookup
  required := Chain.defaultRequired
  gates := [.allowedCallers true [], .deniedRole (some "R")]
  decoder := some (.ofSecret [0x6B] (.ofList ["R"]))

/-- A token that holds the member. -/
def sampleToken : String :=
  "eyJhbGciOiJIUzI1NiJ9." ++
    "eyJzdWIiOiIiLCJpYXQiOjAsImV4cCI6MCwianRpIjoiIiwidXNlcnMi" ++
    "OltbWyJjbj1hIiwiY249YyJdLCJVU0VSIixbIlIiXSxbXSwwXV19." ++
    "3sIqQwDQG3282fY3--IhxCKZ_f81nl4puteb15bJxtU"

/-- A request with this token. -/
def sampleTokenBearer : Request where
  headers := [(authorizationName, Text.utf8String (bearerMark ++ sampleToken))]

/-- The chain of the token: the member has no authority as its role is required. -/
def sampleTokenChain : Chain where
  members := [sampleMember]
  position := 0
  position_primary := by decide
  authorities := ∅
  created := 0

theorem guard_tokenSample : tokenSample.guard = .ok tokenSampleGuard := rfl

theorem bearerToken?_sampleTokenBearer :
    sampleTokenBearer.bearerToken? = some sampleToken := by
  decide +kernel

set_option maxRecDepth 100000 in
theorem toOption_decode_sampleToken :
    (ChainToken.Decoder.decode (.ofSecret [0x6B] (.ofList ["R"])) 0
      sampleToken).result.toOption = some sampleTokenChain := by
  decide +kernel

theorem decode_sampleToken :
    (ChainToken.Decoder.decode (.ofSecret [0x6B] (.ofList ["R"])) 0 sampleToken).result =
      .ok sampleTokenChain := by
  have decoded := toOption_decode_sampleToken
  cases outcome : (ChainToken.Decoder.decode (.ofSecret [0x6B] (.ofList ["R"])) 0
    sampleToken).result with
  | error error =>
      rw [outcome] at decoded
      nomatch decoded
  | ok chain =>
      rw [outcome] at decoded
      exact congrArg Except.ok (Option.some.inj decoded)

/-- The request with the token is let through. -/
theorem examine_tokenSample :
    (tokenSampleGuard.examine 0 sampleTokenBearer).result =
      .ok (some ⟨sampleTokenChain, false⟩) := by
  have admits : tokenSample.Admits sampleTokenBearer none :=
    ⟨rfl, tokenSample.settings.admitsCaller_none⟩
  have presents : tokenSample.Presents 0 sampleTokenBearer none (some sampleTokenChain) :=
    .token _ _ _ rfl bearerToken?_sampleTokenBearer decode_sampleToken
  have admitted : tokenSample.settings.AdmitsChain sampleTokenChain := by
    intro role denies
    exact NameSet.not_mem_empty role
  apply (examine_eq_ok guard_tokenSample).mpr
  refine ⟨none, some sampleTokenChain, admits, presents, ?_, rfl⟩
  rintro _ ⟨⟩
  exact admitted

theorem attached_derives_iff_sample :
    tokenSample.guard = .ok tokenSampleGuard ∧
      (tokenSampleGuard.examine 0 sampleTokenBearer).result =
        .ok (some ⟨sampleTokenChain, false⟩) ∧
      (tokenSample.Derives sampleTokenChain ↔
        tokenSample.Tokenless sampleTokenBearer ∨ tokenSample.AgreesOn [sampleMember]) :=
  ⟨guard_tokenSample, examine_tokenSample,
    (attached_derives_iff guard_tokenSample).1 0 sampleTokenBearer _ examine_tokenSample⟩

/-- The authorities of an attached chain need not follow from the settings: the member of the
sample has the role that denies access under the settings, and gets past it with a token. -/
theorem attached_despite_deniedRole :
    ¬ ∀ (setup : Setup) (guard : Guard) (now : Int) (request : Request)
      (attached : AuthenticatedChain),
      setup.guard = .ok guard →
        (guard.examine now request).result = .ok (some attached) →
          setup.Derives attached.chain := by
  intro always
  have derives := always _ _ _ _ _ guard_tokenSample examine_tokenSample
  have other : Chain.deriveAuthorities? [sampleMember] Chain.defaultRequired ≠ some ∅ := by
    decide
  exact other derives

end Setup
end Http
end Delegation
