import Delegation.Proofs.Auth.Pairing

/-!
# Complete credentials

A policy wants a caller and principals that are named, with issuers that are named, and some
principal where such are required. Extraction looks whether the headers are there and whether
they are lists. A text of blanks and commas names nothing, and it counts as a name; a blank
header lists nothing, and it counts as a header. So accepted credentials are complete as long as
no header is of that kind.
-/

namespace Delegation
namespace Dn

/-- Every entry of the lists that a header value can be read as names something. -/
def ListsOnlyNames (value : String) : Prop :=
  ∀ entries, Lists (Text.trim value.toList) entries → ∀ entry ∈ entries, NamesSomething entry

variable {value : String} {names : List String}

/-- A list has only names exactly if none of the names that are read from it is empty. -/
theorem ListsNames.listsOnlyNames_iff
    (lists : ListsNames value names) :
    ListsOnlyNames value ↔ ∀ name ∈ names, name ≠ "" := by
  obtain ⟨entries, listed, rfl⟩ := lists
  have named (entry : List Char) :
      String.ofList (normalizeChars entry) ≠ "" ↔ NamesSomething entry := by
    rw [← not_iff_not, not_not, ← normalizeChars_eq_nil_iff, String.ofList_eq_empty_iff]
  rw [List.forall_mem_map]
  simp only [named]
  constructor
  · intro only
    exact only entries listed
  · intro each others otherListed
    rwa [← listed.unique otherListed]

/-- A header lists nothing exactly if it is blank. -/
theorem ListsNames.ne_nil_iff
    (lists : ListsNames value names) :
    names ≠ [] ↔ Text.trim value.toList ≠ [] := by
  obtain ⟨entries, listed, rfl⟩ := lists
  generalize Text.trim value.toList = text at listed
  cases listed with
  | none => simp
  | one nonempty bare => simpa using nonempty
  | bracketed nonempty valid =>
      refine iff_of_true (by simpa using nonempty) ?_
      obtain ⟨entry, others, rfl⟩ := List.exists_cons_of_ne_nil nonempty
      exact List.cons_ne_nil _ _

end Dn

theorem DnPair.forall_isComplete_iff
    {pairs : List DnPair} :
    (∀ pair ∈ pairs, pair.IsComplete) ↔
      (∀ name ∈ pairs.map (·.subject), name ≠ "") ∧
        ∀ name ∈ pairs.map (·.issuer), name ≠ "" := by
  simp only [List.forall_mem_map]
  constructor
  · intro complete
    exact ⟨fun pair member => (complete pair member).subject,
      fun pair member => (complete pair member).issuer⟩
  · rintro ⟨subjects, issuers⟩ pair member
    exact ⟨subjects pair member, issuers pair member⟩

namespace ExtractionPolicy

/-- What a policy is there for: the caller and all proxied principals have a subject and an
issuer, and there are such principals where they are required. -/
structure Satisfied
    (policy : ExtractionPolicy)
    (credentials : ExtractedCredentials) : Prop where
  caller : credentials.caller.IsComplete
  proxied : ∀ pair ∈ credentials.proxied, pair.IsComplete
  present : policy.proxiedEntitiesRequired = true → credentials.proxied ≠ []

/-- What a policy reads from a request names something, and a required header is not blank. -/
structure ReadsNames
    (policy : ExtractionPolicy)
    (inbound : InboundCredentials) : Prop where
  caller : inbound.certificate = none → ∀ subject issuer,
    inbound.trustedSubject = some subject → inbound.trustedIssuer = some issuer →
      Dn.NamesSomething subject.toList ∧ Dn.NamesSomething issuer.toList
  entities : ∀ value, inbound.proxiedEntities = some value → Dn.ListsOnlyNames value
  issuers : policy.issuersRequired = true → inbound.proxiedEntities.isSome = true →
    ∀ value, inbound.proxiedIssuers = some value → Dn.ListsOnlyNames value
  present : policy.proxiedEntitiesRequired = true →
    ∀ value, inbound.proxiedEntities = some value → Text.trim value.toList ≠ []

variable {policy : ExtractionPolicy} {inbound : InboundCredentials}
  {credentials : ExtractedCredentials} {caller : DnPair}

/-- A caller is complete exactly if the trusted headers that it is taken from name something. -/
theorem isComplete_caller_iff
    (certified : ∀ pair, inbound.certificate = some pair → pair.IsComplete)
    (presented : policy.caller? inbound = some caller) :
    caller.IsComplete ↔
      (inbound.certificate = none → ∀ subject issuer,
        inbound.trustedSubject = some subject → inbound.trustedIssuer = some issuer →
          Dn.NamesSomething subject.toList ∧ Dn.NamesSomething issuer.toList) := by
  cases caller?_eq_some_iff.mp presented with
  | certificate pair certificate =>
      exact iff_of_true (certified caller certificate) fun absent => by simp [certificate] at absent
  | headers subject issuer uncertified honoured subjectHeader issuerHeader =>
      rw [DnPair.isComplete_ofNames_iff]
      constructor
      · intro named _ other otherIssuer otherHeader otherIssuerHeader
        obtain rfl := Option.some.inj (subjectHeader.symm.trans otherHeader)
        obtain rfl := Option.some.inj (issuerHeader.symm.trans otherIssuerHeader)
        exact named
      · intro read
        exact read uncertified subject issuer subjectHeader issuerHeader

/-- Proxied principals of a complete caller are complete exactly if the lists that are read have
only names. -/
theorem Proxies.isComplete_iff
    {entities : String}
    {header : Option String}
    {proxied : List DnPair}
    (proxies : policy.Proxies caller entities header proxied)
    (complete : caller.IsComplete) :
    (∀ pair ∈ proxied, pair.IsComplete) ↔
      Dn.ListsOnlyNames entities ∧
        (policy.issuersRequired = true → ∀ value, header = some value →
          Dn.ListsOnlyNames value) := by
  obtain ⟨listed, lent⟩ := proxies_iff.mp proxies
  rw [DnPair.forall_isComplete_iff, ← listed.listsOnlyNames_iff]
  refine and_congr_right fun _ => ?_
  rw [IssuersFor] at lent
  split at lent
  · rename_i required
    obtain ⟨value, rfl, issuersListed, -⟩ := lent
    rw [← issuersListed.listsOnlyNames_iff]
    simp [required]
  · rename_i own
    refine iff_of_true ?_ fun required => absurd required own
    intro name member
    rw [lent] at member
    rw [List.eq_of_mem_replicate member]
    exact complete.issuer

theorem Proxies.ne_nil_iff
    {entities : String}
    {header : Option String}
    {proxied : List DnPair}
    (proxies : policy.Proxies caller entities header proxied) :
    proxied ≠ [] ↔ Text.trim entities.toList ≠ [] := by
  rw [← (proxies_iff.mp proxies).1.ne_nil_iff, ne_eq, ne_eq, List.map_eq_nil_iff]

/-- Where the pair of a certificate is complete, accepted credentials are what the policy wants
exactly if every header that is read names something and a required one is not blank. -/
theorem satisfied_iff
    (certified : ∀ pair, inbound.certificate = some pair → pair.IsComplete)
    (extracted : (policy.extract inbound).result = .ok (some credentials)) :
    policy.Satisfied credentials ↔ policy.ReadsNames inbound := by
  obtain ⟨presented, proxies⟩ := extract_eq_some.mp extracted
  have callerIff := isComplete_caller_iff certified presented
  cases present : inbound.proxiedEntities with
  | none =>
      rw [present] at proxies
      obtain ⟨optional, nobody⟩ := proxies
      constructor
      · intro satisfied
        refine ⟨callerIff.mp satisfied.caller, ?_, ?_, ?_⟩ <;> simp [present]
      · intro names
        refine ⟨callerIff.mpr names.caller, ?_, ?_⟩ <;> simp [nobody, optional]
  | some value =>
      rw [present] at proxies
      constructor
      · intro satisfied
        obtain ⟨entities, issuers⟩ :=
          (Proxies.isComplete_iff proxies satisfied.caller).mp satisfied.proxied
        refine ⟨callerIff.mp satisfied.caller, ?_, ?_, ?_⟩
        · simpa [present] using entities
        · intro required _
          exact issuers required
        · intro required
          simpa [present] using (Proxies.ne_nil_iff proxies).mp (satisfied.present required)
      · intro names
        have complete := callerIff.mpr names.caller
        refine ⟨complete, ?_, ?_⟩
        · exact (Proxies.isComplete_iff proxies complete).mpr
            ⟨names.entities value present, fun required =>
              names.issuers required (by rw [present]; rfl)⟩
        · intro required
          exact (Proxies.ne_nil_iff proxies).mpr (names.present required value present)

/-- Trusted headers are honoured and proxied entities are required. -/
def samplePolicy : ExtractionPolicy where
  useTrustedSubjectHeaders := true
  proxiedEntitiesRequired := true

/-- A gateway presents a list of entities. -/
def sampleInbound (entities : String) : InboundCredentials where
  trustedSubject := some "cn=gateway"
  trustedIssuer := some "cn=ca"
  proxiedEntities := some entities

theorem certified_sampleInbound (entities : String) :
    ∀ pair, (sampleInbound entities).certificate = some pair → pair.IsComplete :=
  fun _ absent => nomatch absent

/-- The gateway and one proxied principal. -/
def sampleCredentials (subject : String) : ExtractedCredentials where
  caller := .ofNames "cn=gateway" "cn=ca"
  proxied := [.ofNames subject "cn=ca"]

/-- A gateway that acts for somebody who is named satisfies the policy. -/
theorem satisfied_iff_sample :
    (∀ pair, (sampleInbound "<cn=alice>").certificate = some pair → pair.IsComplete) ∧
      (samplePolicy.extract (sampleInbound "<cn=alice>")).result =
        .ok (some (sampleCredentials "cn=alice")) ∧
      (samplePolicy.Satisfied (sampleCredentials "cn=alice") ↔
        samplePolicy.ReadsNames (sampleInbound "<cn=alice>")) := by
  have certified := certified_sampleInbound "<cn=alice>"
  have extracted : (samplePolicy.extract (sampleInbound "<cn=alice>")).result =
      .ok (some (sampleCredentials "cn=alice")) := by
    decide +kernel
  exact ⟨certified, extracted, satisfied_iff certified extracted⟩

/-- A list whose only entry is a comma is accepted where entities are required, and the proxied
principal has an empty name. -/
theorem accepted_without_name :
    ¬ ∀ (policy : ExtractionPolicy) (inbound : InboundCredentials)
      (credentials : ExtractedCredentials),
      (∀ pair, inbound.certificate = some pair → pair.IsComplete) →
        (policy.extract inbound).result = .ok (some credentials) →
          policy.Satisfied credentials := by
  intro always
  have extracted : (samplePolicy.extract (sampleInbound "<,>")).result =
      .ok (some (sampleCredentials "")) := by
    decide +kernel
  have satisfied := always _ _ _ (certified_sampleInbound "<,>") extracted
  have empty : (DnPair.ofNames "" "cn=ca").subject = "" := by decide +kernel
  exact (satisfied.proxied _ (List.mem_singleton.mpr rfl)).subject empty

end ExtractionPolicy
end Delegation
