import Delegation.Proofs.Auth.Directory
import Delegation.Proofs.Http.Guarding

/-!
# The header of proxied entities

A chain that is made from certificate and headers has the listed entities as its members, in
order, and the caller behind them. This holds where the header can be read. A header with
bytes that are no visible characters is as good as none, so the caller stands alone then.
-/

namespace Delegation
namespace Http
namespace Guard

/-- The members of a chain are the entities that a header value lists, in order, and the
caller behind them. -/
def ActsForListed
    (guard : Guard)
    (request : Request)
    (value : List UInt8)
    (chain : Chain) : Prop :=
  ∃ text certificate caller proxied,
    visibleText? value = some text ∧
      certificatePair request = .ok certificate ∧
      guard.policy.caller? (request.inbound certificate) = some caller ∧
      guard.policy.Proxies caller text (request.text? HeaderName.proxiedIssuers) proxied ∧
      chain.members.map (·.dn) = proxied ++ [caller]

variable {guard : Guard} {now : Int} {request : Request} {value : List UInt8}

/-- A chain that is attached without a token has the extracted principals as its members. -/
theorem credentials_of_attached
    (faithful : guard.lookup.IsFaithful)
    (tokenless : guard.Tokenless request)
    {attached : AuthenticatedChain}
    (examined : (guard.examine now request).result = .ok (some attached)) :
    ∃ certificate credentials, certificatePair request = .ok certificate ∧
      (guard.policy.extract (request.inbound certificate)).result = .ok (some credentials) ∧
      attached.chain.members.map (·.dn) = credentials.chainPairs := by
  obtain ⟨certificate, presented, read, -, made, -, answer⟩ := examine_eq_ok.mp examined
  obtain ⟨chain, rfl, rfl⟩ := Option.map_eq_some_iff.mp answer.symm
  rw [presentedChain_of_tokenless tokenless] at made
  obtain ⟨credentials, extracted, created⟩ := chainFromHeaders_eq_some.mp made
  obtain ⟨members, found, built⟩ := chainOfCredentials_eq_ok.mp created
  refine ⟨certificate, credentials, read, extracted, ?_⟩
  rw [← faithful _ _ found, ← (Chain.create_eq_ok.mp built).1]
  rfl

/-- A header that is read is honoured. -/
theorem actsForListed_of_readable
    (faithful : guard.lookup.IsFaithful)
    (tokenless : guard.Tokenless request)
    (present : request.value? HeaderName.proxiedEntities = some value)
    {text : String}
    (readable : visibleText? value = some text)
    {attached : AuthenticatedChain}
    (examined : (guard.examine now request).result = .ok (some attached)) :
    guard.ActsForListed request value attached.chain := by
  obtain ⟨certificate, credentials, read, extracted, members⟩ :=
    credentials_of_attached faithful tokenless examined
  obtain ⟨caller, proxies⟩ := ExtractionPolicy.extract_eq_some.mp extracted
  have listed : (request.inbound certificate).proxiedEntities = some text := by
    simp [Request.inbound, Request.text?, present, readable]
  rw [listed] at proxies
  exact ⟨text, certificate, credentials.caller, credentials.proxied, readable, read, caller,
    proxies, members⟩

/-- Without a readable header the caller stands alone. -/
theorem caller_of_unreadable
    (faithful : guard.lookup.IsFaithful)
    (tokenless : guard.Tokenless request)
    (unreadable : request.text? HeaderName.proxiedEntities = none)
    {attached : AuthenticatedChain}
    (examined : (guard.examine now request).result = .ok (some attached)) :
    ∃ certificate caller, certificatePair request = .ok certificate ∧
      guard.policy.caller? (request.inbound certificate) = some caller ∧
      attached.chain.members.map (·.dn) = [caller] := by
  obtain ⟨certificate, credentials, read, extracted, members⟩ :=
    credentials_of_attached faithful tokenless examined
  obtain ⟨caller, proxies⟩ := ExtractionPolicy.extract_eq_some.mp extracted
  have absent : (request.inbound certificate).proxiedEntities = none := unreadable
  rw [absent] at proxies
  refine ⟨certificate, credentials.caller, read, caller, ?_⟩
  rw [members, ExtractedCredentials.chainPairs, proxies.2, List.nil_append]

/-- A request is examined as if a header that cannot be read were not there. -/
theorem examine_without_of_unreadable
    {name : String}
    (unreadable : request.text? name = none)
    (guard : Guard)
    (now : Int) :
    guard.examine now request = guard.examine now (request.without name) := by
  apply examine_congr
  exact ⟨rfl, fun other _ => (Request.text?_without_of_unreadable unreadable other).symm⟩

/-- Whatever chain is attached without a token acts for the entities of a header that is
present, exactly when the header can be read or no chain would be attached without it. Where
it cannot be read, the request is examined as one without it: the attached chain is the caller
alone. -/
theorem actsForListed_iff
    (faithful : guard.lookup.IsFaithful)
    (tokenless : guard.Tokenless request)
    (present : request.value? HeaderName.proxiedEntities = some value) :
    ((∀ attached, (guard.examine now request).result = .ok (some attached) →
        guard.ActsForListed request value attached.chain) ↔
      (∃ text, visibleText? value = some text) ∨
        ∀ attached, (guard.examine now
          (request.without HeaderName.proxiedEntities)).result ≠ .ok (some attached)) ∧
      (visibleText? value = none →
        guard.examine now request =
            guard.examine now (request.without HeaderName.proxiedEntities) ∧
          ∀ attached, (guard.examine now request).result = .ok (some attached) →
            ∃ certificate caller, certificatePair request = .ok certificate ∧
              guard.policy.caller? (request.inbound certificate) = some caller ∧
              attached.chain.members.map (·.dn) = [caller]) := by
  have absent : visibleText? value = none →
      request.text? HeaderName.proxiedEntities = none := by
    intro unreadable
    rw [Request.text?, present, Option.bind_some, unreadable]
  refine ⟨⟨?_, ?_⟩, ?_⟩
  · intro law
    cases readable : visibleText? value with
    | some text => exact .inl ⟨text, rfl⟩
    | none =>
        right
        intro attached examined
        rw [← examine_without_of_unreadable (absent readable)] at examined
        obtain ⟨text, -, -, -, read, -⟩ := law attached examined
        simp [readable] at read
  · intro condition attached examined
    cases readable : visibleText? value with
    | some text => exact actsForListed_of_readable faithful tokenless present readable examined
    | none =>
        rcases condition with ⟨text, read⟩ | refused
        · simp [readable] at read
        · rw [examine_without_of_unreadable (absent readable)] at examined
          exact absurd examined (refused attached)
  · intro unreadable
    exact ⟨examine_without_of_unreadable (absent unreadable) guard now,
      fun attached => caller_of_unreadable faithful tokenless (absent unreadable)⟩

/-- An entity with a byte that is no visible character. -/
def sampleEntities : List UInt8 := Text.utf8String "<cn=" ++ [0xE9, 0x3E]

/-- The server of the sample presents this entity. -/
def sampleRequest : Request := Sample.request [(HeaderName.proxiedEntities, sampleEntities)]

theorem isFaithful_sampleGuard (decoder : Option ChainToken.Decoder) :
    (Sample.guard decoder).lookup.IsFaithful :=
  Directory.isFaithful_lookup _

theorem value?_sampleRequest :
    sampleRequest.value? HeaderName.proxiedEntities = some sampleEntities := rfl

/-- The sample is let through with the chain of the server alone. -/
theorem examine_sampleRequest :
    ((Sample.guard none).examine 0 sampleRequest).result =
      .ok (some ((Sample.guard none).attach Sample.chain)) := by
  rfl

theorem actsForListed_iff_sample :
    (Sample.guard none).lookup.IsFaithful ∧ (Sample.guard none).Tokenless sampleRequest ∧
      sampleRequest.value? HeaderName.proxiedEntities = some sampleEntities ∧
      ((∀ attached, ((Sample.guard none).examine 0 sampleRequest).result =
            .ok (some attached) →
          (Sample.guard none).ActsForListed sampleRequest sampleEntities attached.chain) ↔
        (∃ text, visibleText? sampleEntities = some text) ∨
          ∀ attached, ((Sample.guard none).examine 0
            (sampleRequest.without HeaderName.proxiedEntities)).result ≠
              .ok (some attached)) ∧
      (visibleText? sampleEntities = none →
        (Sample.guard none).examine 0 sampleRequest =
            (Sample.guard none).examine 0
              (sampleRequest.without HeaderName.proxiedEntities) ∧
          ∀ attached, ((Sample.guard none).examine 0 sampleRequest).result =
              .ok (some attached) →
            ∃ certificate caller, certificatePair sampleRequest = .ok certificate ∧
              (Sample.guard none).policy.caller? (sampleRequest.inbound certificate) =
                some caller ∧
              attached.chain.members.map (·.dn) = [caller]) :=
  ⟨isFaithful_sampleGuard none, .inl rfl, value?_sampleRequest,
    actsForListed_iff (isFaithful_sampleGuard none) (.inl rfl) value?_sampleRequest⟩

/-- A header that is present and cannot be read does not stop a request: the server of the
sample gets through in its own name although it presents an entity. -/
theorem attached_despite_unreadable :
    ¬ ∀ (guard : Guard) (now : Int) (request : Request) (value : List UInt8)
      (attached : AuthenticatedChain),
      guard.lookup.IsFaithful → guard.Tokenless request →
        request.value? HeaderName.proxiedEntities = some value →
          (guard.examine now request).result = .ok (some attached) →
            guard.ActsForListed request value attached.chain := by
  intro always
  obtain ⟨text, -, -, -, readable, -⟩ :=
    always _ 0 _ _ _ (isFaithful_sampleGuard none) (.inl rfl) value?_sampleRequest
      examine_sampleRequest
  have unreadable : visibleText? sampleEntities = none := by decide
  simp [unreadable] at readable

end Guard
end Http
end Delegation
