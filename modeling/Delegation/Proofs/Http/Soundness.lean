import Delegation.Http.Response
import Delegation.Proofs.Auth.Gates
import Delegation.Proofs.Http.Guarding

/-!
# What an attached chain is worth

A guard that is set up from settings, a directory and possibly a decoder lets a request through
with a chain only if everything about it is in order: its caller, where it comes from, and its
authorities. It lets a request through without a chain only if nothing is presented and nothing
is demanded. All other requests are refused with the first error on the way.
-/

namespace Delegation
namespace Http

/-- What a guard is set up from. -/
structure Setup where
  /-- The settings. -/
  settings : SecuritySettings
  /-- The directory of the known identities. -/
  directory : Directory
  /-- What decodes tokens, where they are honoured. -/
  decoder : Option ChainToken.Decoder

namespace Setup

/-- The guard of a setup, if its settings can be read. -/
def guard (setup : Setup) : Except AuthError Guard :=
  Guard.ofSettings setup.settings setup.directory.lookup setup.decoder

/-- A request is not authenticated from a token: none is honoured or none is presented. -/
def Tokenless (setup : Setup) (request : Request) : Prop :=
  setup.decoder = none ∨ request.bearerToken? = none

/-- What extraction makes of certificate and headers. -/
def extracted
    (setup : Setup)
    (request : Request)
    (certificate : Option DnPair) : Except AuthError (Option ExtractedCredentials) :=
  (setup.settings.extractionPolicy.extract (request.inbound certificate)).result

/-- The certificate of a request can be read, and its caller is let through. -/
structure Admits
    (setup : Setup)
    (request : Request)
    (certificate : Option DnPair) : Prop where
  read : Guard.certificatePair request = .ok certificate
  caller : setup.settings.AdmitsCaller certificate

/-- The chain that a request presents, if it presents one. -/
inductive Presents
    (setup : Setup)
    (now : Int)
    (request : Request)
    (certificate : Option DnPair) : Option Chain → Prop
  | token (decoder : ChainToken.Decoder) (token : String) (chain : Chain) :
      setup.decoder = some decoder →
      request.bearerToken? = some token →
      (decoder.decode now token).result = .ok chain →
      Presents setup now request certificate (some chain)
  | credentials (credentials : ExtractedCredentials) (members : List Identity) (chain : Chain) :
      setup.Tokenless request →
      setup.extracted request certificate = .ok (some credentials) →
      setup.directory.lookup credentials.chainPairs = .ok members →
      Chain.create setup.settings.required members none = .ok chain →
      Presents setup now request certificate (some chain)
  | nothing :
      setup.Tokenless request →
      setup.extracted request certificate = .ok none →
      Presents setup now request certificate none

/-- Why a request is refused: the first error on the way through certificate, gates, token or
credentials, directory, chain and again gates. -/
inductive Refuses
    (setup : Setup)
    (now : Int)
    (request : Request) : AuthError → Prop
  | certificate (error : AuthError) :
      Guard.certificatePair request = .error error →
      Refuses setup now request error
  | caller (pair : DnPair) :
      Guard.certificatePair request = .ok (some pair) →
      setup.settings.enforceAllowedCallers = true →
      ¬ setup.settings.ListsCaller pair →
      Refuses setup now request (.credentialsInvalid (.callerNotAllowed pair))
  | token (certificate : Option DnPair) (decoder : ChainToken.Decoder) (token : String)
      (error : AuthError) :
      setup.Admits request certificate →
      setup.decoder = some decoder →
      request.bearerToken? = some token →
      (decoder.decode now token).result = .error error →
      Refuses setup now request error
  | extraction (certificate : Option DnPair) (error : AuthError) :
      setup.Admits request certificate →
      setup.Tokenless request →
      setup.extracted request certificate = .error error →
      Refuses setup now request error
  | directory (certificate : Option DnPair) (credentials : ExtractedCredentials)
      (error : AuthError) :
      setup.Admits request certificate →
      setup.Tokenless request →
      setup.extracted request certificate = .ok (some credentials) →
      setup.directory.lookup credentials.chainPairs = .error error →
      Refuses setup now request error
  | creation (certificate : Option DnPair) (credentials : ExtractedCredentials)
      (members : List Identity) (error : AuthError) :
      setup.Admits request certificate →
      setup.Tokenless request →
      setup.extracted request certificate = .ok (some credentials) →
      setup.directory.lookup credentials.chainPairs = .ok members →
      Chain.create setup.settings.required members none = .error error →
      Refuses setup now request error
  | role (certificate : Option DnPair) (chain : Chain) (role : String) :
      setup.Admits request certificate →
      setup.Presents now request certificate (some chain) →
      setup.settings.DeniesRole role →
      role ∈ chain.authorities →
      Refuses setup now request (.credentialsInvalid (.roleDenied chain.username))

/-- All that is in order about a chain that is attached to a request. -/
structure Vouches
    (setup : Setup)
    (now : Int)
    (request : Request)
    (attached : AuthenticatedChain) : Prop where
  caller : ∀ bytes, request.certificate = some bytes →
    ∃ pair, Certificate.pairOfDer bytes = .ok pair ∧
      (setup.settings.enforceAllowedCallers = true → setup.settings.ListsCaller pair)
  role : ∀ role, setup.settings.DeniesRole role → role ∉ attached.chain.authorities
  origin :
    (∃ decoder token, setup.decoder = some decoder ∧ request.bearerToken? = some token ∧
        (decoder.decode now token).result = .ok attached.chain) ∨
      setup.Tokenless request ∧
        ∃ certificate credentials members,
          Guard.certificatePair request = .ok certificate ∧
          setup.extracted request certificate = .ok (some credentials) ∧
          credentials.chainPairs.map setup.directory.get? = members.map some ∧
          Chain.create setup.settings.required members none = .ok attached.chain ∧
          attached.chain.members.map (·.dn) = credentials.chainPairs
  manager : attached.isManager = true ↔
    ∃ role ∈ setup.settings.managerRoles, role ∈ attached.chain.primary.roles

variable {setup : Setup} {guard : Guard} {now : Int} {request : Request}
variable {certificate : Option DnPair}

/-- A guard that is set up has what its setup tells, and the gates of the settings. -/
theorem guard_eq_ok :
    setup.guard = .ok guard ↔
      ∃ gates, Gate.ofSettings setup.settings = .ok gates ∧
        guard = {
          policy := setup.settings.extractionPolicy
          lookup := setup.directory.lookup
          required := setup.settings.required
          gates := gates
          decoder := setup.decoder
          managerRoles := setup.settings.managerRoles } := by
  unfold Setup.guard Guard.ofSettings
  cases Gate.ofSettings setup.settings <;> simp [Except.map, eq_comm]

theorem tokenless_iff (made : setup.guard = .ok guard) :
    guard.Tokenless request ↔ setup.Tokenless request := by
  obtain ⟨gates, -, rfl⟩ := guard_eq_ok.mp made
  exact Iff.rfl

theorem runStage_of_admits
    (made : setup.guard = .ok guard)
    (admits : setup.Admits request certificate) :
    Gate.runStage .beforeAuthentication guard.gates ⟨certificate, none⟩ = .ok () := by
  obtain ⟨gates, gated, rfl⟩ := guard_eq_ok.mp made
  rcases Gate.runStage_beforeAuthentication gated certificate none with
    ⟨-, passes⟩ | ⟨caller, rfl, enforced, unlisted, -⟩
  · exact passes
  · exact absurd (admits.caller enforced caller rfl) unlisted

/-- Behind the first gates, a request is judged by the chain that it presents. -/
theorem result_examine
    (made : setup.guard = .ok guard)
    (admits : setup.Admits request certificate)
    (now : Int) :
    (guard.examine now request).result =
      (guard.presentedChain now certificate request).result.bind fun presented =>
        (guard.passChain certificate presented).result.map (Option.map guard.attach) := by
  rw [Guard.examine, Guard.authenticate, admits.read]
  simp only [runStage_of_admits made admits, Audited.ok_andThen, Audited.result_andThen]
  cases (guard.presentedChain now certificate request).result with
  | error error => rfl
  | ok presented =>
      cases passed : (guard.passChain certificate presented).result <;>
        simp [Except.bind, Except.map, passed]

theorem presentedChain_of_token
    (made : setup.guard = .ok guard)
    {decoder : ChainToken.Decoder}
    {token : String}
    (honoured : setup.decoder = some decoder)
    (read : request.bearerToken? = some token) :
    (guard.presentedChain now certificate request).result =
      (decoder.decode now token).result.map some := by
  obtain ⟨gates, -, rfl⟩ := guard_eq_ok.mp made
  simp only [Guard.presentedChain, honoured, read, Guard.chainFromToken, Audited.result_andThen]
  cases (decoder.decode now token).result <;> rfl

/-- Without a token, certificate and headers matter, then the directory. -/
theorem presentedChain_of_tokenless
    (made : setup.guard = .ok guard)
    (tokenless : setup.Tokenless request) :
    (guard.presentedChain now certificate request).result =
      (setup.extracted request certificate).bind fun
        | none => .ok none
        | some credentials =>
            (setup.directory.lookup credentials.chainPairs).bind fun members =>
              (Chain.create setup.settings.required members none).map some := by
  have noToken : guard.Tokenless request := (tokenless_iff made).mpr tokenless
  obtain ⟨gates, -, rfl⟩ := guard_eq_ok.mp made
  rw [Guard.presentedChain_of_tokenless noToken, Guard.chainFromHeaders, Audited.result_andThen,
    extracted]
  congr 1
  funext credentials
  cases credentials with
  | none => rfl
  | some credentials =>
      simp only [Guard.chainOfCredentials]
      cases setup.directory.lookup credentials.chainPairs <;> rfl

theorem presentedChain_of_presents
    (made : setup.guard = .ok guard)
    {presented : Option Chain}
    (presents : setup.Presents now request certificate presented) :
    (guard.presentedChain now certificate request).result = .ok presented := by
  cases presents with
  | token decoder token chain honoured read decoded =>
      rw [presentedChain_of_token made honoured read, decoded]
      rfl
  | credentials credentials members chain tokenless extracted found created =>
      rw [presentedChain_of_tokenless made tokenless, extracted]
      simp only [Except.bind, found, created]
      rfl
  | nothing tokenless extracted =>
      rw [presentedChain_of_tokenless made tokenless, extracted]
      rfl

/-- Behind the first gates, a request presents a chain or none, or it is refused. -/
theorem presents_or_refuses
    (admits : setup.Admits request certificate)
    (now : Int) :
    (∃ presented, setup.Presents now request certificate presented) ∨
      ∃ error, setup.Refuses now request error := by
  by_cases withToken : ∃ decoder token,
      setup.decoder = some decoder ∧ request.bearerToken? = some token
  · obtain ⟨decoder, token, honoured, read⟩ := withToken
    cases decoded : (decoder.decode now token).result with
    | error error => exact .inr ⟨_, .token _ _ _ _ admits honoured read decoded⟩
    | ok chain => exact .inl ⟨_, .token _ _ _ honoured read decoded⟩
  · -- A token without a decoder and a decoder without a token come to the same.
    have tokenless : setup.Tokenless request := by
      cases honoured : setup.decoder with
      | none => exact .inl honoured
      | some decoder =>
          cases read : request.bearerToken? with
          | none => exact .inr read
          | some token => exact absurd ⟨decoder, token, honoured, read⟩ withToken
    cases extracted : setup.extracted request certificate with
    | error error => exact .inr ⟨_, .extraction _ _ admits tokenless extracted⟩
    | ok credentials =>
        cases credentials with
        | none => exact .inl ⟨_, .nothing tokenless extracted⟩
        | some credentials =>
            cases found : setup.directory.lookup credentials.chainPairs with
            | error error =>
                exact .inr ⟨_, .directory _ _ _ admits tokenless extracted found⟩
            | ok members =>
                cases created : Chain.create setup.settings.required members none with
                | error error =>
                    exact .inr ⟨_, .creation _ _ _ _ admits tokenless extracted found created⟩
                | ok chain =>
                    exact .inl ⟨_, .credentials _ _ _ tokenless extracted found created⟩

/-- A request that is not refused is in order from beginning to end. -/
theorem admits_or_refuses
    (setup : Setup)
    (now : Int)
    (request : Request) :
    (∃ error, setup.Refuses now request error) ∨
      ∃ certificate presented, setup.Admits request certificate ∧
        setup.Presents now request certificate presented ∧
        ∀ chain, presented = some chain → setup.settings.AdmitsChain chain := by
  cases read : Guard.certificatePair request with
  | error error => exact .inl ⟨_, .certificate error read⟩
  | ok certificate =>
      by_cases admitted : setup.settings.AdmitsCaller certificate
      · have admits : setup.Admits request certificate := ⟨read, admitted⟩
        rcases presents_or_refuses admits now with ⟨presented, presents⟩ | refused
        · by_cases passes : ∀ chain, presented = some chain → setup.settings.AdmitsChain chain
          · exact .inr ⟨certificate, presented, admits, presents, passes⟩
          · simp only [SecuritySettings.AdmitsChain, Classical.not_forall, Classical.not_not,
              exists_prop] at passes
            obtain ⟨chain, rfl, role, denies, held⟩ := passes
            exact .inl ⟨_, .role certificate chain role admits presents denies held⟩
        · exact .inl refused
      · simp only [SecuritySettings.AdmitsCaller, Classical.not_forall, exists_prop] at admitted
        obtain ⟨enforced, caller, rfl, unlisted⟩ := admitted
        exact .inl ⟨_, .caller caller read enforced unlisted⟩

/-- A request that a setup refuses is refused by its guard with the same error. -/
theorem examine_of_refuses
    (made : setup.guard = .ok guard)
    {error : AuthError}
    (refuses : setup.Refuses now request error) :
    (guard.examine now request).result = .error error := by
  cases refuses with
  | certificate error unreadable =>
      rw [Guard.examine, Guard.authenticate, unreadable]
      rfl
  | caller pair read enforced unlisted =>
      obtain ⟨gates, gated, rfl⟩ := guard_eq_ok.mp made
      rcases Gate.runStage_beforeAuthentication gated (some pair) none with
        ⟨admitted, -⟩ | ⟨_, ⟨⟩, -, -, stops⟩
      · exact absurd (admitted enforced pair rfl) unlisted
      · simp only [Guard.examine, Guard.authenticate, read, stops]
        rfl
  | token certificate decoder token error admits honoured read refused =>
      rw [result_examine made admits, presentedChain_of_token made honoured read, refused]
      rfl
  | extraction certificate error admits tokenless refused =>
      rw [result_examine made admits, presentedChain_of_tokenless made tokenless, refused]
      rfl
  | directory certificate credentials error admits tokenless extracted unknown =>
      rw [result_examine made admits, presentedChain_of_tokenless made tokenless, extracted]
      simp only [Except.bind, unknown]
  | creation certificate credentials members error admits tokenless extracted found fails =>
      rw [result_examine made admits, presentedChain_of_tokenless made tokenless, extracted]
      simp only [Except.bind, found, fails, Except.map]
  | role certificate chain role admits presents denies held =>
      rw [result_examine made admits, presentedChain_of_presents made presents]
      obtain ⟨gates, gated, rfl⟩ := guard_eq_ok.mp made
      rcases Gate.runStage_afterAuthentication gated certificate chain with
        ⟨admitted, -⟩ | ⟨other, -, -, stops⟩
      · exact absurd held (admitted role denies)
      · simp only [Except.bind, Guard.passChain, stops]
        rfl

/-- A request that is in order is let through with what it presents. -/
theorem examine_of_presents
    (made : setup.guard = .ok guard)
    (admits : setup.Admits request certificate)
    {presented : Option Chain}
    (presents : setup.Presents now request certificate presented)
    (admitted : ∀ chain, presented = some chain → setup.settings.AdmitsChain chain) :
    (guard.examine now request).result = .ok (presented.map guard.attach) := by
  rw [result_examine made admits, presentedChain_of_presents made presents]
  cases presented with
  | none => rfl
  | some chain =>
      obtain ⟨gates, gated, rfl⟩ := guard_eq_ok.mp made
      rcases Gate.runStage_afterAuthentication gated certificate chain with
        ⟨-, passes⟩ | ⟨role, denies, held, -⟩
      · simp only [Except.bind, Guard.passChain, passes]
        rfl
      · exact absurd held (admitted chain rfl role denies)

/-- A chain that is in order from beginning to end is vouched for. -/
theorem vouches_of_presents
    (made : setup.guard = .ok guard)
    (admits : setup.Admits request certificate)
    {chain : Chain}
    (presents : setup.Presents now request certificate (some chain))
    (admitted : setup.settings.AdmitsChain chain) :
    setup.Vouches now request (guard.attach chain) := by
  obtain ⟨gates, -, rfl⟩ := guard_eq_ok.mp made
  constructor
  · intro bytes presented
    have read := admits.read
    rw [Guard.certificatePair, presented] at read
    cases named : Certificate.pairOfDer bytes with
    | error fault => simp [named] at read
    | ok pair =>
        simp only [named, Except.ok.injEq] at read
        exact ⟨pair, rfl, fun enforced => admits.caller enforced pair read.symm⟩
  · exact admitted
  · cases presents with
    | token decoder token chain honoured read decoded =>
        exact .inl ⟨decoder, token, honoured, read, decoded⟩
    | credentials credentials members chain tokenless extracted found created =>
        refine .inr ⟨tokenless, certificate, credentials, members, admits.read, extracted,
          Directory.lookup_eq_ok.mp found, created, ?_⟩
        rw [Guard.attach, (Chain.create_eq_ok.mp created).1]
        exact setup.directory.isFaithful_lookup _ _ found
  · simp [Guard.attach, Chain.isManager]

/-- A request without a chain presents nothing, and nothing is demanded of it. -/
theorem tokenless_of_presents
    (presents : setup.Presents now request certificate none) :
    setup.Tokenless request ∧ setup.settings.requireSsl = false ∧
      setup.extracted request certificate = .ok none := by
  cases presents with
  | nothing tokenless extracted =>
      exact ⟨tokenless, (ExtractionPolicy.extract_eq_none.mp extracted).2, extracted⟩

/-- The guard of a setup refuses the requests that the setup refuses. -/
theorem examine_eq_error
    (made : setup.guard = .ok guard)
    {error : AuthError} :
    (guard.examine now request).result = .error error ↔ setup.Refuses now request error := by
  constructor
  · intro examined
    rcases setup.admits_or_refuses now request with
      ⟨refusal, refuses⟩ | ⟨certificate, presented, admits, presents, admitted⟩
    · rw [examine_of_refuses made refuses] at examined
      exact Except.error.inj examined ▸ refuses
    · rw [examine_of_presents made admits presents admitted] at examined
      nomatch examined
  · exact examine_of_refuses made

/-- The guard of a setup lets through the requests that are in order. -/
theorem examine_eq_ok
    (made : setup.guard = .ok guard)
    {answer : Option AuthenticatedChain} :
    (guard.examine now request).result = .ok answer ↔
      ∃ certificate presented, setup.Admits request certificate ∧
        setup.Presents now request certificate presented ∧
        (∀ chain, presented = some chain → setup.settings.AdmitsChain chain) ∧
        answer = presented.map guard.attach := by
  constructor
  · intro examined
    rcases setup.admits_or_refuses now request with
      ⟨refusal, refuses⟩ | ⟨certificate, presented, admits, presents, admitted⟩
    · rw [examine_of_refuses made refuses] at examined
      nomatch examined
    · rw [examine_of_presents made admits presents admitted] at examined
      exact ⟨certificate, presented, admits, presents, admitted, (Except.ok.inj examined).symm⟩
  · rintro ⟨certificate, presented, admits, presents, admitted, rfl⟩
    exact examine_of_presents made admits presents admitted

/-- A guard that is set up lets a request through with a chain only if everything about the chain
is in order, and without one only if no token is honoured, extraction finds no caller and none is
demanded. All other requests are refused with the first error on the way, and no handler gets to
see them. -/
theorem examine_sound
    (made : setup.guard = .ok guard)
    (now : Int)
    (request : Request) :
    (∀ attached, (guard.examine now request).result = .ok (some attached) →
        setup.Vouches now request attached) ∧
      ((guard.examine now request).result = .ok none →
        setup.Tokenless request ∧ setup.settings.requireSsl = false ∧
          ∃ certificate, Guard.certificatePair request = .ok certificate ∧
            setup.extracted request certificate = .ok none) ∧
      (∀ error, (guard.examine now request).result = .error error ↔
        setup.Refuses now request error) ∧
      ∀ handler,
        (∃ answer, (guard.examine now request).result = .ok answer ∧
            guard.respond now request handler = handler answer) ∨
          ∃ error, setup.Refuses now request error ∧
            guard.respond now request handler = .ofError error := by
  refine ⟨?_, ?_, fun error => examine_eq_error made, ?_⟩
  · intro attached examined
    obtain ⟨certificate, presented, admits, presents, admitted, answer⟩ :=
      (examine_eq_ok made).mp examined
    obtain ⟨chain, rfl, rfl⟩ := Option.map_eq_some_iff.mp answer.symm
    exact vouches_of_presents made admits presents (admitted chain rfl)
  · intro examined
    obtain ⟨certificate, presented, admits, presents, -, answer⟩ :=
      (examine_eq_ok made).mp examined
    obtain rfl := Option.map_eq_none_iff.mp answer.symm
    obtain ⟨tokenless, noDemand, extracted⟩ := tokenless_of_presents presents
    exact ⟨tokenless, noDemand, certificate, admits.read, extracted⟩
  · intro handler
    unfold Guard.respond
    cases examined : (guard.examine now request).result with
    | ok answer => exact .inl ⟨answer, rfl, rfl⟩
    | error error => exact .inr ⟨error, (examine_eq_error made).mp examined, rfl⟩

/-- The server of the sample behind a proxy, where a role denies access. -/
def sample : Setup where
  settings := {
    useTrustedSubjectHeaders := true
    managerRoles := ["AuthorizedServer"]
    deniedAccessRole := some "Denied" }
  directory := Directory.insert (.empty []) Sample.server
  decoder := none

/-- The guard of the sample. -/
def sampleGuard : Guard where
  policy := { useTrustedSubjectHeaders := true }
  lookup := (Directory.insert (.empty []) Sample.server).lookup
  required := Chain.defaultRequired
  gates := [.allowedCallers true [], .deniedRole (some "Denied")]
  decoder := none
  managerRoles := ["AuthorizedServer"]

theorem guard_sample : sample.guard = .ok sampleGuard := rfl

theorem examine_sample :
    (sampleGuard.examine 0 (Sample.request [])).result = .ok (some ⟨Sample.chain, true⟩) := by
  rfl

theorem examine_sound_sample :
    sample.guard = .ok sampleGuard ∧
      (sampleGuard.examine 0 (Sample.request [])).result = .ok (some ⟨Sample.chain, true⟩) ∧
      sample.Vouches 0 (Sample.request []) ⟨Sample.chain, true⟩ :=
  ⟨guard_sample, examine_sample,
    (examine_sound guard_sample 0 (Sample.request [])).1 _ examine_sample⟩

end Setup
end Http
end Delegation
