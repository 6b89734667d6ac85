import Delegation.Proofs.Certificate.Reading
import Delegation.Proofs.Http.Soundness

/-!
# Headers that do not count

The headers that name a caller count only where they are trusted, and never beside a certificate.
The header of issuers counts only where issuers are required. A header that does not count has no
influence on a request: whatever stands in it, and whether it is there at all, the request is
examined with the same result and the same warnings.
-/

namespace Delegation

namespace HeaderName

/-- The headers that name a caller. -/
def ofCaller : List String := [trustedSubject, trustedIssuer]

end HeaderName

/-- The headers that a policy heeds, beside a certificate or without one. -/
def ExtractionPolicy.heeded (policy : ExtractionPolicy) (certified : Bool) : List String :=
  (if policy.useTrustedSubjectHeaders && !certified then HeaderName.ofCaller else []) ++
    HeaderName.proxiedEntities ::
    if policy.issuersRequired then [HeaderName.proxiedIssuers] else []

namespace ExtractionPolicy

variable {policy : ExtractionPolicy} {first second : InboundCredentials}

theorem mem_heeded
    {certified : Bool}
    {name : String} :
    name ∈ policy.heeded certified ↔
      (policy.useTrustedSubjectHeaders = true ∧ certified = false ∧
          name ∈ HeaderName.ofCaller) ∨
        name = HeaderName.proxiedEntities ∨
          policy.issuersRequired = true ∧ name = HeaderName.proxiedIssuers := by
  unfold heeded
  cases policy.useTrustedSubjectHeaders <;> cases certified <;> cases policy.issuersRequired <;>
    simp

/-- The caller does not depend on headers that are not trusted or that come with a certificate. -/
theorem caller?_congr
    (certificate : first.certificate = second.certificate)
    (trusted : policy.useTrustedSubjectHeaders = true → first.certificate = none →
      first.trustedSubject = second.trustedSubject ∧ first.trustedIssuer = second.trustedIssuer) :
    policy.caller? first = policy.caller? second := by
  unfold caller?
  rw [← certificate]
  cases present : first.certificate with
  | some pair => rfl
  | none =>
      cases honoured : policy.useTrustedSubjectHeaders with
      | false => rfl
      | true =>
          obtain ⟨subject, issuer⟩ := trusted honoured present
          rw [subject, issuer]

/-- The proxied principals do not depend on issuers that are not required. -/
theorem pairEntities_congr
    {issuers others : Option String}
    (required : policy.issuersRequired = true → issuers = others)
    (caller : DnPair)
    (entities : String) :
    policy.pairEntities caller entities issuers = policy.pairEntities caller entities others := by
  unfold pairEntities
  cases demanded : policy.issuersRequired with
  | false => rfl
  | true => rw [required demanded]

theorem extract_congr
    (certificate : first.certificate = second.certificate)
    (entities : first.proxiedEntities = second.proxiedEntities)
    (trusted : policy.useTrustedSubjectHeaders = true → first.certificate = none →
      first.trustedSubject = second.trustedSubject ∧ first.trustedIssuer = second.trustedIssuer)
    (issuers : policy.issuersRequired = true → first.proxiedIssuers = second.proxiedIssuers) :
    policy.extract first = policy.extract second := by
  unfold extract
  rw [caller?_congr certificate trusted, entities]
  simp only [pairEntities_congr issuers]

end ExtractionPolicy

namespace Http

namespace Request

/-- Two requests are the same but for headers with some names: there, each may have any values, or
none at all. -/
def AgreesBut (names : List String) (first second : Request) : Prop :=
  names.foldl without first = names.foldl without second

instance (names : List String) (first second : Request) :
    Decidable (first.AgreesBut names second) := by
  unfold AgreesBut
  infer_instance

/-- A name is none of some others, whose case does not matter. -/
def IsOther (names : List String) (other : String) : Prop :=
  ∀ name ∈ names, Text.eqIgnoringAsciiCase name.toList other.toList = false

instance (names : List String) (other : String) : Decidable (IsOther names other) := by
  unfold IsOther
  infer_instance

theorem certificate_foldl_without
    (names : List String)
    (request : Request) :
    (names.foldl without request).certificate = request.certificate := by
  induction names generalizing request with
  | nil => rfl
  | cons name names inductionHypothesis =>
      rw [List.foldl_cons, inductionHypothesis, certificate_without]

theorem text?_foldl_without
    {names : List String}
    {other : String}
    (differ : IsOther names other)
    (request : Request) :
    (names.foldl without request).text? other = request.text? other := by
  induction names generalizing request with
  | nil => rfl
  | cons name names inductionHypothesis =>
      obtain ⟨here, there⟩ := List.forall_mem_cons.mp differ
      rw [List.foldl_cons, inductionHypothesis there, text?, text?, value?_without_of_ne here]

variable {names : List String} {first second : Request}

theorem AgreesBut.certificate
    (agree : first.AgreesBut names second) :
    first.certificate = second.certificate := by
  rw [← certificate_foldl_without names first, agree, certificate_foldl_without]

theorem AgreesBut.text?
    (agree : first.AgreesBut names second)
    {other : String}
    (differ : IsOther names other) :
    first.text? other = second.text? other := by
  rw [← text?_foldl_without differ first, agree, text?_foldl_without differ]

end Request

namespace Guard

variable {guard : Guard} {first second : Request}

/-- The certificate of a request is read where there is one. -/
theorem isSome_of_certificatePair
    {request : Request}
    {certificate : Option DnPair}
    (read : certificatePair request = .ok certificate) :
    certificate.isSome = request.certificate.isSome := by
  unfold certificatePair at read
  cases present : request.certificate with
  | none =>
      rw [present] at read
      obtain rfl := Except.ok.inj read
      rfl
  | some bytes =>
      rw [present] at read
      cases named : Certificate.pairOfDer bytes with
      | error fault => simp [named] at read
      | ok pair =>
          simp only [named, Except.ok.injEq] at read
          rw [← read]
          rfl

/-- Nothing of a request matters but its certificate, its token and the headers that are heeded. -/
theorem examine_congr_of_heeded
    (certificate : first.certificate = second.certificate)
    (texts : ∀ name ∈ authorizationName :: guard.policy.heeded first.certificate.isSome,
      first.text? name = second.text? name)
    (now : Int) :
    guard.examine now first = guard.examine now second := by
  have heeds {name : String} (heeded : name ∈ guard.policy.heeded first.certificate.isSome) :
      first.text? name = second.text? name :=
    texts name (List.mem_cons_of_mem _ heeded)
  apply examine_congr_of_extract certificate (texts _ List.mem_cons_self)
  intro pair read
  have present : pair.isSome = first.certificate.isSome := by
    rw [isSome_of_certificatePair read, certificate]
  have ofCaller (honoured : guard.policy.useTrustedSubjectHeaders = true)
      (absent : pair = none) {name : String} (names : name ∈ HeaderName.ofCaller) :
      first.text? name = second.text? name := by
    apply heeds
    rw [← present, absent]
    exact ExtractionPolicy.mem_heeded.mpr (.inl ⟨honoured, rfl, names⟩)
  refine ExtractionPolicy.extract_congr rfl ?_ ?_ ?_
  · exact heeds (ExtractionPolicy.mem_heeded.mpr (.inr (.inl rfl)))
  · intro honoured absent
    exact ⟨ofCaller honoured absent (by simp [HeaderName.ofCaller]),
      ofCaller honoured absent (by simp [HeaderName.ofCaller])⟩
  · intro demanded
    exact heeds (ExtractionPolicy.mem_heeded.mpr (.inr (.inr ⟨demanded, rfl⟩)))

/-- A request is examined alike whatever stands in headers that are not heeded. -/
theorem examine_of_agreesBut
    {names : List String}
    (agree : first.AgreesBut names second)
    (noToken : Request.IsOther names authorizationName)
    (unheeded : ∀ name ∈ guard.policy.heeded first.certificate.isSome,
      Request.IsOther names name)
    (now : Int) :
    guard.examine now first = guard.examine now second := by
  apply examine_congr_of_heeded agree.certificate
  intro name inside
  rcases List.mem_cons.mp inside with rfl | heeded
  · exact agree.text? noToken
  · exact agree.text? (unheeded name heeded)

/-- The headers that name a caller have no influence on a request where they are not trusted, nor
on one with a certificate, and the header of issuers has none where issuers are not required. -/
theorem examine_ignores
    {settings : SecuritySettings}
    {lookup : IdentityLookup}
    {decoder : Option ChainToken.Decoder}
    (made : ofSettings settings lookup decoder = .ok guard)
    (now : Int)
    (first second : Request) :
    (first.AgreesBut HeaderName.ofCaller second →
        settings.useTrustedSubjectHeaders = false ∨ first.certificate ≠ none →
          guard.examine now first = guard.examine now second) ∧
      (first.AgreesBut [HeaderName.proxiedIssuers] second → settings.issuersRequired = false →
        guard.examine now first = guard.examine now second) := by
  have policy : guard.policy = settings.extractionPolicy := by
    unfold ofSettings at made
    cases gates : Gate.ofSettings settings with
    | error error => simp [gates, Except.map] at made
    | ok gates =>
        simp only [gates, Except.map, Except.ok.injEq] at made
        rw [← made]
  constructor
  · intro agree mute
    apply examine_of_agreesBut agree (by decide)
    intro name heeded
    rw [policy] at heeded
    rcases ExtractionPolicy.mem_heeded.mp heeded with
      ⟨trusted, uncertified, -⟩ | rfl | ⟨-, rfl⟩
    · rcases mute with untrusted | certified
      · exact absurd trusted (by simp [SecuritySettings.extractionPolicy, untrusted])
      · exact absurd uncertified (by simp [Option.isSome_iff_ne_none.mpr certified])
    · decide
    · decide
  · intro agree loose
    apply examine_of_agreesBut agree (by decide)
    intro name heeded
    rw [policy] at heeded
    rcases ExtractionPolicy.mem_heeded.mp heeded with ⟨-, -, names⟩ | rfl | ⟨demanded, -⟩
    · have others : ∀ name ∈ HeaderName.ofCaller,
          Request.IsOther [HeaderName.proxiedIssuers] name := by
        decide
      exact others name names
    · decide
    · exact absurd demanded (by simp [SecuritySettings.extractionPolicy, loose])

end Guard

/-! A person with a certificate, who acts for herself. -/

namespace Sample

/-- The person. -/
def alice : Identity :=
  ⟨.ofNames "CN=Alice,O=X\\, Inc." "CN=CA", .user, .ofList ["AuthorizedUser"], ∅, 0⟩

/-- A request with her certificate, on her own behalf. -/
def certified (headers : List (String × List UInt8)) : Request where
  headers := (HeaderName.proxiedEntities, Text.utf8String "<CN=Alice,O=X\\, Inc.>") :: headers
  certificate := some Certificate.Sample.aliceBytes

/-- A header that names another caller. -/
def otherCaller : String × List UInt8 :=
  (HeaderName.trustedSubject, Text.utf8String "cn=server1")

/-- A header that names another issuer. -/
def otherIssuer : String × List UInt8 :=
  (HeaderName.proxiedIssuers, Text.utf8String "<cn=other>")

/-- Settings that trust no header and let every certificate through. -/
def untrusting : SecuritySettings := { enforceAllowedCallers := false }

/-- The guard of these settings, which knows the person. -/
def aliceGuard : Guard where
  policy := {}
  lookup := (Directory.insert (.empty []) alice).lookup
  required := Chain.defaultRequired
  gates := [.allowedCallers false [], .deniedRole none]
  decoder := none

/-- The chain of the person twice. -/
def aliceChain : Chain where
  members := [alice, alice]
  position := 0
  position_primary := by decide
  authorities := ∅
  created := 0

theorem guard_untrusting :
    Guard.ofSettings untrusting (Directory.insert (.empty []) alice).lookup none =
      .ok aliceGuard := rfl

/-- She is let through with her chain. -/
theorem examine_certified :
    (aliceGuard.examine 0 (certified [])).result.toOption = some (some ⟨aliceChain, false⟩) := by
  decide +kernel

/-- Neither another caller nor another issuer in the headers makes a difference to her. -/
theorem examine_ignores_alice :
    Guard.ofSettings untrusting (Directory.insert (.empty []) alice).lookup none = .ok aliceGuard ∧
      (aliceGuard.examine 0 (certified [])).result.toOption =
        some (some ⟨aliceChain, false⟩) ∧
      (certified []).AgreesBut HeaderName.ofCaller (certified [otherCaller]) ∧
      (certified []).certificate ≠ none ∧
      aliceGuard.examine 0 (certified []) = aliceGuard.examine 0 (certified [otherCaller]) ∧
      (certified []).AgreesBut [HeaderName.proxiedIssuers] (certified [otherIssuer]) ∧
      untrusting.issuersRequired = false ∧
      aliceGuard.examine 0 (certified []) = aliceGuard.examine 0 (certified [otherIssuer]) := by
  have caller : (certified []).AgreesBut HeaderName.ofCaller (certified [otherCaller]) := by
    decide +kernel
  have present : (certified []).certificate ≠ none := Option.some_ne_none _
  have issuer : (certified []).AgreesBut [HeaderName.proxiedIssuers] (certified [otherIssuer]) := by
    decide +kernel
  exact ⟨guard_untrusting, examine_certified, caller, present,
    (Guard.examine_ignores guard_untrusting 0 _ _).1 caller (.inr present), issuer, rfl,
    (Guard.examine_ignores guard_untrusting 0 _ _).2 issuer rfl⟩

end Sample
end Http
end Delegation
