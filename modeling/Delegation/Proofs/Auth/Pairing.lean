import Delegation.Proofs.Auth.Extraction
import Delegation.Proofs.Dn.HeaderRoundTrip

/-!
# Principals with their issuers

A request presents a caller and, in one or two lists of names, the principals that the caller acts
for. Extraction gives each principal the issuer that belongs to it: no name is lost on the way,
none moves to another place, and repeated names stay repeated. A request whose lists do not fit is
refused for bad credentials, and so is every other one that is neither accepted nor empty.
-/

namespace Delegation
namespace DnPair

variable {subjects issuers : List String} {pairs : List DnPair}

/-- Normal forms that are paired are the subjects and the issuers of the pairs. -/
theorem map_names_zipWith
    (same : issuers.length = subjects.length)
    (subjectsNormal : ∀ name ∈ subjects, Dn.normalize name = name)
    (issuersNormal : ∀ name ∈ issuers, Dn.normalize name = name) :
    (List.zipWith ofNames subjects issuers).map (·.subject) = subjects ∧
      (List.zipWith ofNames subjects issuers).map (·.issuer) = issuers := by
  have first : (subjects.zip issuers).map Prod.fst = subjects :=
    List.map_fst_zip (Nat.le_of_eq same.symm)
  have second : (subjects.zip issuers).map Prod.snd = issuers :=
    List.map_snd_zip (Nat.le_of_eq same)
  rw [← List.map_uncurry_zip_eq_zipWith, List.map_map, List.map_map]
  constructor
  · calc (subjects.zip issuers).map ((·.subject) ∘ Function.uncurry ofNames)
        = ((subjects.zip issuers).map Prod.fst).map Dn.normalize := by
          rw [List.map_map]
          rfl
      _ = subjects := by
          rw [first, List.map_congr_left subjectsNormal, List.map_id']
  · calc (subjects.zip issuers).map ((·.issuer) ∘ Function.uncurry ofNames)
        = ((subjects.zip issuers).map Prod.snd).map Dn.normalize := by
          rw [List.map_map]
          rfl
      _ = issuers := by
          rw [second, List.map_congr_left issuersNormal, List.map_id']

/-- Pairs are made again of their subjects and issuers. -/
theorem zipWith_map_names (pairs : List DnPair) :
    List.zipWith ofNames (pairs.map (·.subject)) (pairs.map (·.issuer)) = pairs := by
  simp [List.zipWith_map, List.zipWith_self]

end DnPair

namespace Audited

variable {α β : Type}

/-- If there is an error, then one for bad credentials. -/
def BlamesCredentials (audited : Audited α) : Prop :=
  ∀ error, audited.result = .error error → ∃ fault, error = .credentialsInvalid fault

theorem blamesCredentials_ok (value : α) : (ok value).BlamesCredentials := by
  intro error impossible
  nomatch impossible

theorem blamesCredentials_fail
    (fault : CredentialFault)
    (warnings : List Warning) :
    (fail (.credentialsInvalid fault) warnings : Audited α).BlamesCredentials := by
  intro error refused
  exact ⟨fault, (Except.error.inj refused).symm⟩

/-- Steps that blame nothing but the credentials do so one after another as well. -/
theorem BlamesCredentials.andThen
    {first : Audited α}
    {next : α → Audited β}
    (blames : first.BlamesCredentials)
    (nextBlames : ∀ value, (next value).BlamesCredentials) :
    (first.andThen next).BlamesCredentials := by
  intro error refused
  rw [result_andThen] at refused
  cases result : first.result with
  | error other =>
      rw [result] at refused
      obtain rfl := Except.error.inj refused
      exact blames other result
  | ok value =>
      rw [result] at refused
      exact nextBlames value error refused

end Audited

namespace ExtractionPolicy

/-- The caller that a request presents: the pair of its certificate if there is one, else that of
the trusted headers where these are honoured. -/
inductive PresentsCaller
    (policy : ExtractionPolicy)
    (inbound : InboundCredentials) : DnPair → Prop
  | certificate (pair : DnPair) :
      inbound.certificate = some pair →
      PresentsCaller policy inbound pair
  | headers (subject issuer : String) :
      inbound.certificate = none →
      policy.useTrustedSubjectHeaders = true →
      inbound.trustedSubject = some subject →
      inbound.trustedIssuer = some issuer →
      PresentsCaller policy inbound (.ofNames subject issuer)

/-- The principals that a request presents behind its caller, by their subjects and issuers:
nobody, the names of one list with the issuer of the caller, or the names of one list with those
of another list that is as long. -/
inductive PresentsPrincipals
    (policy : ExtractionPolicy)
    (inbound : InboundCredentials)
    (caller : DnPair) : List String → List String → Prop
  | nobody :
      inbound.proxiedEntities = none →
      policy.proxiedEntitiesRequired = false →
      PresentsPrincipals policy inbound caller [] []
  | ofCaller (entities : String) (subjects : List String) :
      inbound.proxiedEntities = some entities →
      Dn.splitHeader entities true = .ok subjects →
      policy.issuersRequired = false →
      PresentsPrincipals policy inbound caller subjects
        (List.replicate subjects.length caller.issuer)
  | ofHeader (entities header : String) (subjects issuers : List String) :
      inbound.proxiedEntities = some entities →
      Dn.splitHeader entities true = .ok subjects →
      policy.issuersRequired = true →
      inbound.proxiedIssuers = some header →
      Dn.splitHeader header true = .ok issuers →
      issuers.length = subjects.length →
      PresentsPrincipals policy inbound caller subjects issuers

variable {policy : ExtractionPolicy} {inbound : InboundCredentials}
  {credentials : ExtractedCredentials} {caller : DnPair} {subjects issuers : List String}

/-- The caller that is found is the one that the request presents. -/
theorem caller?_eq_some_iff :
    policy.caller? inbound = some caller ↔ policy.PresentsCaller inbound caller := by
  constructor
  · intro presented
    unfold caller? at presented
    split at presented
    · rename_i pair certificate
      obtain rfl := Option.some.inj presented
      exact .certificate pair certificate
    · rename_i uncertified
      split at presented
      · rename_i honoured
        split at presented
        · rename_i subject issuer subjectHeader issuerHeader
          obtain rfl := Option.some.inj presented
          exact .headers subject issuer uncertified honoured subjectHeader issuerHeader
        · nomatch presented
      · nomatch presented
  · intro presented
    cases presented with
    | certificate pair certificate => simp [caller?, certificate]
    | headers subject issuer uncertified honoured subjectHeader issuerHeader =>
        simp [caller?, uncertified, honoured, subjectHeader, issuerHeader]

/-- There is one issuer for each subject. -/
theorem IssuersFor.length_eq
    {header : Option String}
    {count : Nat}
    (lent : policy.IssuersFor caller header count issuers) :
    issuers.length = count := by
  rw [IssuersFor] at lent
  split at lent
  · obtain ⟨value, -, -, same⟩ := lent
    exact same
  · rw [lent, List.length_replicate]

theorem IssuersFor.normalize
    {header : Option String}
    {count : Nat}
    (lent : policy.IssuersFor caller header count issuers) :
    ∀ name ∈ issuers, Dn.normalize name = name := by
  rw [IssuersFor] at lent
  split at lent
  · obtain ⟨value, -, listed, -⟩ := lent
    exact listed.normalize
  · intro name member
    rw [lent] at member
    rw [List.eq_of_mem_replicate member, caller.normalize_issuer]

/-- Proxied principals are known by their subjects and issuers: the former are the names of the
entities header, the latter are lent to as many. -/
theorem proxies_iff
    {entities : String}
    {header : Option String}
    {proxied : List DnPair} :
    policy.Proxies caller entities header proxied ↔
      Dn.ListsNames entities (proxied.map (·.subject)) ∧
        policy.IssuersFor caller header proxied.length (proxied.map (·.issuer)) := by
  constructor
  · rintro ⟨names, issuers, listed, lent, rfl⟩
    have same := lent.length_eq
    obtain ⟨subjectsKept, issuersKept⟩ :=
      DnPair.map_names_zipWith same listed.normalize lent.normalize
    rw [subjectsKept, issuersKept, List.length_zipWith, same, Nat.min_self]
    exact ⟨listed, lent⟩
  · rintro ⟨listed, lent⟩
    refine ⟨_, _, listed, ?_, (DnPair.zipWith_map_names proxied).symm⟩
    rwa [List.length_map]

theorem presentsPrincipals_iff_of_none
    (absent : inbound.proxiedEntities = none) :
    policy.PresentsPrincipals inbound caller subjects issuers ↔
      policy.proxiedEntitiesRequired = false ∧ subjects = [] ∧ issuers = [] := by
  constructor
  · intro presents
    cases presents with
    | nobody _ optional => exact ⟨optional, rfl, rfl⟩
    | ofCaller entities subjects present => simp [absent] at present
    | ofHeader entities header subjects issuers present => simp [absent] at present
  · rintro ⟨optional, rfl, rfl⟩
    exact .nobody absent optional

/-- Where entities are presented, the principals are the names listed, with the issuers lent to
them. -/
theorem presentsPrincipals_iff_of_some
    {entities : String}
    (present : inbound.proxiedEntities = some entities) :
    policy.PresentsPrincipals inbound caller subjects issuers ↔
      Dn.ListsNames entities subjects ∧
        policy.IssuersFor caller inbound.proxiedIssuers subjects.length issuers := by
  rw [← Dn.splitHeader_eq_ok, IssuersFor]
  constructor
  · intro presents
    cases presents with
    | nobody absent => simp [absent] at present
    | ofCaller other subjects otherPresent split own =>
        obtain rfl := Option.some.inj (present.symm.trans otherPresent)
        simp [split, own]
    | ofHeader other header subjects issuers otherPresent split required issuersPresent otherSplit
        same =>
        obtain rfl := Option.some.inj (present.symm.trans otherPresent)
        simp [split, required, issuersPresent, ← Dn.splitHeader_eq_ok, otherSplit, same]
  · rintro ⟨split, lent⟩
    split at lent
    · rename_i required
      obtain ⟨header, issuersPresent, otherSplit, same⟩ := lent
      exact .ofHeader entities header subjects issuers present split required issuersPresent
        (Dn.splitHeader_eq_ok.mpr otherSplit) same
    · rename_i own
      subst lent
      exact .ofCaller entities subjects present split (eq_false_of_ne_true own)

/-- Accepted credentials have the caller that is presented and, in the same order, the subjects
and the issuers that are presented behind it. -/
theorem extract_eq_some_iff :
    (policy.extract inbound).result = .ok (some credentials) ↔
      policy.PresentsCaller inbound credentials.caller ∧
        policy.PresentsPrincipals inbound credentials.caller
          (credentials.proxied.map (·.subject)) (credentials.proxied.map (·.issuer)) := by
  rw [extract_eq_some, caller?_eq_some_iff]
  refine and_congr_right fun _ => ?_
  cases present : inbound.proxiedEntities with
  | none => simp [presentsPrincipals_iff_of_none present]
  | some entities =>
      rw [presentsPrincipals_iff_of_some present, List.length_map]
      exact proxies_iff

/-- Whatever is presented is accepted. -/
theorem exists_extract_eq_some_iff :
    (∃ credentials, (policy.extract inbound).result = .ok (some credentials)) ↔
      ∃ caller subjects issuers, policy.PresentsCaller inbound caller ∧
        policy.PresentsPrincipals inbound caller subjects issuers := by
  constructor
  · rintro ⟨credentials, extracted⟩
    obtain ⟨caller, principals⟩ := extract_eq_some_iff.mp extracted
    exact ⟨_, _, _, caller, principals⟩
  · rintro ⟨caller, subjects, issuers, presented, principals⟩
    refine ⟨⟨caller, List.zipWith DnPair.ofNames subjects issuers⟩, ?_⟩
    rw [extract_eq_some, caller?_eq_some_iff]
    refine ⟨presented, ?_⟩
    cases present : inbound.proxiedEntities with
    | none =>
        obtain ⟨optional, rfl, rfl⟩ := (presentsPrincipals_iff_of_none present).mp principals
        exact ⟨optional, rfl⟩
    | some entities =>
        obtain ⟨listed, lent⟩ := (presentsPrincipals_iff_of_some present).mp principals
        exact ⟨subjects, issuers, listed, lent, rfl⟩

theorem exists_fault_of_headerNames
    {value : String}
    {error : AuthError}
    (refused : headerNames value = .error error) :
    ∃ fault, error = .credentialsInvalid fault := by
  unfold headerNames at refused
  split at refused
  · nomatch refused
  · rename_i fault _
    exact ⟨.header fault, (Except.error.inj refused).symm⟩

theorem blamesCredentials_pairEntities
    (policy : ExtractionPolicy)
    (caller : DnPair)
    (entities : String)
    (header : Option String) :
    (policy.pairEntities caller entities header).BlamesCredentials := by
  unfold pairEntities
  split
  · rename_i error unlisted
    obtain ⟨fault, rfl⟩ := exists_fault_of_headerNames unlisted
    exact Audited.blamesCredentials_fail fault []
  · split
    · split
      · exact Audited.blamesCredentials_fail .issuersMissing _
      · split
        · rename_i error unlisted
          obtain ⟨fault, rfl⟩ := exists_fault_of_headerNames unlisted
          exact Audited.blamesCredentials_fail fault []
        · split
          · exact Audited.blamesCredentials_ok _
          · exact Audited.blamesCredentials_fail .chainMismatch _
    · exact Audited.blamesCredentials_ok _

/-- Extraction refuses a request for nothing but its credentials. -/
theorem blamesCredentials_extract
    (policy : ExtractionPolicy)
    (inbound : InboundCredentials) :
    (policy.extract inbound).BlamesCredentials := by
  unfold extract
  split
  · split
    · exact Audited.blamesCredentials_fail .noCaller []
    · exact Audited.blamesCredentials_ok none
  · rename_i caller _
    split
    · split
      · exact Audited.blamesCredentials_fail .entitiesMissing _
      · exact Audited.blamesCredentials_ok _
    · rename_i entities _
      exact (blamesCredentials_pairEntities policy caller entities inbound.proxiedIssuers).andThen
        fun _ => Audited.blamesCredentials_ok _

/-- Extraction brings nothing where there is no caller and none is required. It brings credentials
exactly where a caller is presented and principals that can be paired, and these are the caller,
the subjects and the issuers as they are presented; the chain is made of them with the caller at
its end. Everything else is refused for bad credentials. -/
theorem extract_pairs_presented
    (policy : ExtractionPolicy)
    (inbound : InboundCredentials) :
    (∀ caller, policy.caller? inbound = some caller ↔ policy.PresentsCaller inbound caller) ∧
    ((policy.extract inbound).result = .ok none ↔
      policy.caller? inbound = none ∧ policy.callerRequired = false) ∧
    ((∃ credentials, (policy.extract inbound).result = .ok (some credentials)) ↔
      ∃ caller subjects issuers, policy.PresentsCaller inbound caller ∧
        policy.PresentsPrincipals inbound caller subjects issuers) ∧
    (∀ credentials, (policy.extract inbound).result = .ok (some credentials) ↔
      policy.PresentsCaller inbound credentials.caller ∧
        policy.PresentsPrincipals inbound credentials.caller
          (credentials.proxied.map (·.subject)) (credentials.proxied.map (·.issuer))) ∧
    (∀ credentials : ExtractedCredentials,
      credentials.chainPairs = credentials.proxied ++ [credentials.caller]) ∧
    ((policy.extract inbound).result ≠ .ok none →
      (∀ credentials, (policy.extract inbound).result ≠ .ok (some credentials)) →
      ∃ fault, (policy.extract inbound).result = .error (.credentialsInvalid fault)) := by
  refine ⟨fun _ => caller?_eq_some_iff, extract_eq_none, exists_extract_eq_some_iff,
    fun _ => extract_eq_some_iff, fun _ => rfl, ?_⟩
  intro something nobody
  cases result : (policy.extract inbound).result with
  | ok extracted =>
      cases extracted with
      | none => exact absurd result something
      | some credentials => exact absurd result (nobody credentials)
  | error error =>
      obtain ⟨fault, rfl⟩ := blamesCredentials_extract policy inbound error result
      exact ⟨fault, rfl⟩

end ExtractionPolicy
end Delegation
