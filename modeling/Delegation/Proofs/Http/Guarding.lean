import Delegation.Http.Guard
import Delegation.Proofs.Auth.Extraction
import Delegation.Proofs.Chain.Creation

/-!
# What guards let through

A request is let through when every part of its examination succeeds: reading the
certificate, the gates before and after, and the making of a chain from a token or from
certificate and headers. Nothing of a request matters but its certificate and the texts of
the headers that a guard reads.
-/

namespace Delegation
namespace Http

namespace Request

/-- A request without the headers of a name, whose case does not matter. -/
def without (request : Request) (name : String) : Request :=
  { request with headers := request.headers.filter fun header =>
      !Text.eqIgnoringAsciiCase header.1.toList name.toList }

@[simp] theorem certificate_without
    (request : Request)
    (name : String) :
    (request.without name).certificate = request.certificate := rfl

/-- The case of a name does not matter. -/
theorem value?_congr
    {name other : String}
    (same : Text.eqIgnoringAsciiCase name.toList other.toList = true)
    (request : Request) :
    request.value? name = request.value? other := by
  simp only [Text.eqIgnoringAsciiCase, beq_iff_eq] at same
  simp [value?, Text.eqIgnoringAsciiCase, same]

@[simp] theorem value?_without_self
    (request : Request)
    (name : String) :
    (request.without name).value? name = none := by
  simp [value?, without]

/-- Headers with another name stay. -/
theorem value?_without_of_ne
    {name other : String}
    (differ : Text.eqIgnoringAsciiCase name.toList other.toList = false)
    (request : Request) :
    (request.without name).value? other = request.value? other := by
  simp only [Text.eqIgnoringAsciiCase, beq_eq_false_iff_ne] at differ
  have kept : ∀ header : String × List UInt8,
      (!Text.eqIgnoringAsciiCase header.1.toList name.toList &&
        Text.eqIgnoringAsciiCase header.1.toList other.toList) =
      Text.eqIgnoringAsciiCase header.1.toList other.toList := by
    intro header
    by_cases same : Text.asciiLower header.1.toList = Text.asciiLower other.toList
    · simp [Text.eqIgnoringAsciiCase, same, differ.symm]
    · simp [Text.eqIgnoringAsciiCase, same]
  simp [value?, without, List.find?_filter, kept]

/-- A header that cannot be read is as good as none. -/
theorem text?_without_of_unreadable
    {request : Request}
    {name : String}
    (unreadable : request.text? name = none)
    (other : String) :
    (request.without name).text? other = request.text? other := by
  cases same : Text.eqIgnoringAsciiCase name.toList other.toList with
  | true =>
      rw [text?, text?, ← value?_congr same, ← value?_congr same, value?_without_self]
      exact unreadable.symm
  | false => rw [text?, text?, value?_without_of_ne same]

/-- Two requests are alike to a guard: they bring the same certificate and the same texts in
the headers that are read. -/
structure Alike (first second : Request) : Prop where
  certificate : first.certificate = second.certificate
  texts : ∀ name ∈ authorizationName :: HeaderName.all,
    first.text? name = second.text? name

end Request

namespace Guard

/-- A request is not authenticated from a token: none is honoured or none is presented. -/
def Tokenless (guard : Guard) (request : Request) : Prop :=
  guard.decoder = none ∨ request.bearerToken? = none

variable {guard : Guard} {now : Int} {request : Request} {certificate : Option DnPair}

/-- Examining a request looks at its certificate, its token and what is extracted from it. -/
theorem examine_congr_of_extract
    {first second : Request}
    (same : first.certificate = second.certificate)
    (token : first.text? authorizationName = second.text? authorizationName)
    (extracts : ∀ certificate, certificatePair second = .ok certificate →
      guard.policy.extract (first.inbound certificate) =
        guard.policy.extract (second.inbound certificate))
    (now : Int) :
    guard.examine now first = guard.examine now second := by
  have pair : certificatePair first = certificatePair second := by
    rw [certificatePair, certificatePair, same]
  have bearer : first.bearerToken? = second.bearerToken? := by
    rw [Request.bearerToken?, Request.bearerToken?, token]
  unfold examine authenticate
  rw [pair]
  cases read : certificatePair second with
  | error error => rfl
  | ok certificate =>
      simp only [presentedChain, chainFromHeaders, bearer, extracts certificate read]

/-- Examining a request looks at nothing else than what makes requests alike. -/
theorem examine_congr
    {first second : Request}
    (alike : first.Alike second)
    (guard : Guard)
    (now : Int) :
    guard.examine now first = guard.examine now second := by
  apply examine_congr_of_extract alike.certificate
  · exact alike.texts _ List.mem_cons_self
  · intro certificate _
    simp only [Request.inbound]
    rw [alike.texts HeaderName.trustedSubject (by simp [HeaderName.all]),
      alike.texts HeaderName.trustedIssuer (by simp [HeaderName.all]),
      alike.texts HeaderName.proxiedEntities (by simp [HeaderName.all]),
      alike.texts HeaderName.proxiedIssuers (by simp [HeaderName.all])]

theorem presentedChain_of_tokenless
    (tokenless : guard.Tokenless request)
    (now : Int)
    (certificate : Option DnPair) :
    guard.presentedChain now certificate request =
      guard.chainFromHeaders certificate request := by
  unfold presentedChain
  rcases tokenless with none | none <;> simp [none]

theorem chainOfCredentials_eq_ok
    {credentials : ExtractedCredentials}
    {chain : Chain} :
    guard.chainOfCredentials credentials = .ok chain ↔
      ∃ members, guard.lookup credentials.chainPairs = .ok members ∧
        Chain.create guard.required members none = .ok chain := by
  unfold chainOfCredentials
  cases guard.lookup credentials.chainPairs <;> simp

/-- A chain from certificate and headers is that of extracted credentials. -/
theorem chainFromHeaders_eq_some
    {chain : Chain} :
    (guard.chainFromHeaders certificate request).result = .ok (some chain) ↔
      ∃ credentials,
        (guard.policy.extract (request.inbound certificate)).result =
            .ok (some credentials) ∧
          guard.chainOfCredentials credentials = .ok chain := by
  unfold chainFromHeaders
  rw [Audited.result_andThen_eq_ok]
  constructor
  · rintro ⟨extracted, accepted, made⟩
    cases extracted with
    | none => simp at made
    | some credentials =>
        refine ⟨credentials, accepted, ?_⟩
        cases chain' : guard.chainOfCredentials credentials <;> simp_all [Except.map]
  · rintro ⟨credentials, accepted, made⟩
    exact ⟨some credentials, accepted, by simp [made, Except.map]⟩

/-- The gates after authentication change nothing about a chain. -/
theorem passChain_eq_ok
    {presented passed : Option Chain} :
    (guard.passChain certificate presented).result = .ok passed ↔
      passed = presented ∧ ∀ chain, presented = some chain →
        (Gate.runStage .afterAuthentication guard.gates
          ⟨certificate, some chain⟩).result = .ok () := by
  cases presented with
  | none => simp [passChain, eq_comm]
  | some chain =>
      simp only [passChain, Audited.result_andThen_eq_ok, Audited.result_ok, Except.ok.injEq,
        Option.some.injEq, forall_eq']
      constructor
      · rintro ⟨_, passes, rfl⟩
        exact ⟨rfl, passes⟩
      · rintro ⟨rfl, passes⟩
        exact ⟨(), passes, rfl⟩

/-- What a guard lets through has come through every part of the examination. -/
theorem examine_eq_ok
    {answer : Option AuthenticatedChain} :
    (guard.examine now request).result = .ok answer ↔
      ∃ certificate presented,
        certificatePair request = .ok certificate ∧
          (Gate.runStage .beforeAuthentication guard.gates
            ⟨certificate, none⟩).result = .ok () ∧
          (guard.presentedChain now certificate request).result = .ok presented ∧
          (∀ chain, presented = some chain →
            (Gate.runStage .afterAuthentication guard.gates
              ⟨certificate, some chain⟩).result = .ok ()) ∧
          answer = presented.map guard.attach := by
  unfold examine authenticate
  rw [Audited.result_andThen_eq_ok]
  cases certificatePair request with
  | error error => simp
  | ok certificate =>
      simp only [Audited.result_andThen_eq_ok, passChain_eq_ok, Audited.result_ok,
        Except.ok.injEq]
      constructor
      · rintro ⟨passed, ⟨_, before, presented, made, rfl, after⟩, rfl⟩
        exact ⟨certificate, passed, rfl, before, made, after, rfl⟩
      · rintro ⟨_, presented, rfl, before, made, after, rfl⟩
        exact ⟨presented, ⟨(), before, presented, made, rfl, after⟩, rfl⟩

end Guard

/-! A small guard behind a trusted proxy, for requests that can be followed to their end. -/

namespace Sample

/-- The one principal that the guard knows. -/
def server : Identity :=
  ⟨.ofNames "cn=server1" "cn=ca", .server, .ofList ["AuthorizedServer"], ∅, 0⟩

/-- A guard that trusts the subject headers and knows one server. -/
def guard (decoder : Option ChainToken.Decoder) : Guard where
  policy := { useTrustedSubjectHeaders := true }
  lookup := (Directory.insert (.empty []) server).lookup
  required := Chain.defaultRequired
  gates := []
  decoder := decoder

/-- A request that names the server as its caller. -/
def request (others : List (String × List UInt8)) : Request where
  headers :=
    (HeaderName.trustedSubject, Text.utf8String "cn=server1") ::
      (HeaderName.trustedIssuer, Text.utf8String "cn=ca") :: others

/-- The chain of the server alone. -/
def chain : Chain where
  members := [server]
  position := 0
  position_primary := by decide
  authorities := ∅
  created := 0

end Sample
end Http
end Delegation
