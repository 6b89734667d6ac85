import Mathlib.Tactic.ByContra
import Delegation.Proofs.Auth.Extraction

/-!
# What refusals leave behind

Whoever refuses a chain is to leave one warning that names the caller, and acceptance leaves none.
Extraction does so for headers that are missing or do not match. A header that is no list of names
is refused, too, but nothing is left behind then.
-/

namespace Delegation

/-- A warning says which caller it is about. -/
def Warning.Names (warning : Warning) (caller : DnPair) : Prop :=
  ("caller", caller.render) ∈ warning.fields

namespace Audited

variable {α β : Type} {caller : DnPair} {error : AuthError}

/-- An error comes with exactly one warning, which names the caller, and only an error comes with
one. There are no warnings beside a value. -/
structure Traced
    (audited : Audited α)
    (caller : DnPair) : Prop where
  refused : (∃ error, audited.result = .error error) ↔
    ∃ warning, audited.warnings = [warning] ∧ warning.Names caller
  accepted : ∀ value, audited.result = .ok value → audited.warnings = []

theorem traced_ok (value : α) (caller : DnPair) : (ok value).Traced caller := by
  constructor <;> simp [ok]

theorem traced_fail
    {warning : Warning}
    (names : warning.Names caller)
    (error : AuthError) :
    (fail error [warning] : Audited α).Traced caller := by
  constructor
  · exact iff_of_true ⟨error, rfl⟩ ⟨warning, rfl, names⟩
  · intro value impossible
    nomatch impossible

/-- An error without a warning leaves no trace. -/
theorem not_traced_fail_nil : ¬ (fail error [] : Audited α).Traced caller := by
  intro traced
  obtain ⟨warning, impossible, -⟩ := traced.refused.mp ⟨error, rfl⟩
  nomatch impossible

/-- What is made of a value leaves no other trace. -/
theorem Traced.andThen_ok
    {first : Audited α}
    (traced : first.Traced caller)
    (make : α → β) :
    (first.andThen fun value => ok (make value)).Traced caller := by
  obtain ⟨result, warnings⟩ := first
  cases result with
  | ok value =>
      obtain rfl : warnings = [] := traced.accepted value rfl
      exact traced_ok (make value) caller
  | error error =>
      refine ⟨⟨fun _ => traced.refused.mp ⟨error, rfl⟩, fun _ => ⟨error, rfl⟩⟩, ?_⟩
      intro value impossible
      nomatch impossible

end Audited

namespace Dn

/-- A header value is a list of names. -/
def IsList (value : String) : Prop :=
  ∃ names, ListsNames value names

theorem isList_iff
    {value : String} :
    IsList value ↔ (headerEntries? (Text.trim value.toList)).isSome = true := by
  simp only [IsList, ListsNames, ← headerEntries?_eq_some, Option.isSome_iff_exists]
  constructor
  · rintro ⟨names, entries, listed, -⟩
    exact ⟨entries, listed⟩
  · rintro ⟨entries, listed⟩
    exact ⟨_, entries, listed, rfl⟩

instance (value : String) : Decidable (IsList value) :=
  decidable_of_iff _ isList_iff.symm

end Dn

namespace ExtractionPolicy

/-- The headers that are paired are lists. -/
def PairsLists
    (policy : ExtractionPolicy)
    (entities : String)
    (header : Option String) : Prop :=
  Dn.IsList entities ∧
    (policy.issuersRequired = true → ∀ issuers, header = some issuers → Dn.IsList issuers)

/-- The headers that a policy reads from a request are lists. -/
def ReadsLists
    (policy : ExtractionPolicy)
    (inbound : InboundCredentials) : Prop :=
  ∀ entities, inbound.proxiedEntities = some entities →
    policy.PairsLists entities inbound.proxiedIssuers

variable {policy : ExtractionPolicy} {caller : DnPair} {entities : String}
  {header : Option String} {inbound : InboundCredentials}

theorem headerNames_of_not_isList
    {value : String}
    (unlisted : ¬ Dn.IsList value) :
    ∃ fault, headerNames value = .error (.credentialsInvalid (.header fault)) := by
  cases split : Dn.splitHeader value true with
  | ok names => exact absurd ⟨names, Dn.splitHeader_eq_ok.mp split⟩ unlisted
  | error fault => exact ⟨fault, by rw [headerNames, split]⟩

/-- Lists are paired, or the refusal leaves a trace. -/
theorem traced_pairEntities
    (lists : policy.PairsLists entities header) :
    (policy.pairEntities caller entities header).Traced caller := by
  obtain ⟨⟨names, listed⟩, issuersListed⟩ := lists
  rw [pairEntities, headerNames_eq_ok.mpr listed]
  dsimp only
  split
  · rename_i required
    cases header with
    | none => exact Audited.traced_fail List.mem_cons_self _
    | some issuers =>
        obtain ⟨issuerNames, otherListed⟩ := issuersListed required issuers rfl
        dsimp only
        rw [headerNames_eq_ok.mpr otherListed]
        dsimp only
        split
        · exact Audited.traced_ok _ caller
        · exact Audited.traced_fail List.mem_cons_self _
  · exact Audited.traced_ok _ caller

/-- What is no list is refused without a warning. -/
theorem pairEntities_of_not_pairsLists
    (unlisted : ¬ policy.PairsLists entities header)
    (caller : DnPair) :
    ∃ fault, policy.pairEntities caller entities header =
      .fail (.credentialsInvalid (.header fault)) [] := by
  by_cases entitiesList : Dn.IsList entities
  · -- The first header is fine, so issuers are required and the second one is at fault.
    obtain ⟨names, listed⟩ := entitiesList
    obtain ⟨required, issuers, rfl, bad⟩ : policy.issuersRequired = true ∧
        ∃ issuers, header = some issuers ∧ ¬ Dn.IsList issuers := by
      simpa [PairsLists, show Dn.IsList entities from ⟨names, listed⟩] using unlisted
    obtain ⟨fault, refused⟩ := headerNames_of_not_isList bad
    refine ⟨fault, ?_⟩
    rw [pairEntities, headerNames_eq_ok.mpr listed]
    simp only [required, if_true, refused]
  · obtain ⟨fault, refused⟩ := headerNames_of_not_isList entitiesList
    exact ⟨fault, by rw [pairEntities, refused]⟩

theorem traced_extract
    (presented : policy.caller? inbound = some caller)
    (lists : policy.ReadsLists inbound) :
    (policy.extract inbound).Traced caller := by
  rw [extract, presented]
  dsimp only
  cases present : inbound.proxiedEntities with
  | none =>
      dsimp only
      split
      · exact Audited.traced_fail List.mem_cons_self _
      · exact Audited.traced_ok _ caller
  | some entities => exact (traced_pairEntities (lists entities present)).andThen_ok _

theorem extract_of_not_readsLists
    (presented : policy.caller? inbound = some caller)
    (unlisted : ¬ policy.ReadsLists inbound) :
    ∃ fault, policy.extract inbound = .fail (.credentialsInvalid (.header fault)) [] := by
  obtain ⟨entities, present, unpaired⟩ : ∃ entities, inbound.proxiedEntities = some entities ∧
      ¬ policy.PairsLists entities inbound.proxiedIssuers := by
    simpa [ReadsLists] using unlisted
  obtain ⟨fault, refused⟩ := pairEntities_of_not_pairsLists unpaired caller
  refine ⟨fault, ?_⟩
  rw [extract, presented]
  dsimp only
  rw [present]
  dsimp only
  rw [refused, Audited.fail_andThen]

/-- Where there is a caller, extraction leaves a trace of what it does exactly if the headers that
it reads are lists. Otherwise, and only then, it refuses a header as no list, without a warning. -/
theorem extract_traced_iff
    (presented : policy.caller? inbound = some caller) :
    ((policy.extract inbound).Traced caller ↔ policy.ReadsLists inbound) ∧
      (¬ policy.ReadsLists inbound ↔
        ∃ fault, policy.extract inbound = .fail (.credentialsInvalid (.header fault)) []) := by
  have untraced :
      (∃ fault, policy.extract inbound = .fail (.credentialsInvalid (.header fault)) []) →
        ¬ (policy.extract inbound).Traced caller := by
    rintro ⟨fault, refused⟩
    rw [refused]
    exact Audited.not_traced_fail_nil
  refine ⟨⟨?_, traced_extract presented⟩, ⟨extract_of_not_readsLists presented, ?_⟩⟩
  · intro traced
    by_contra unlisted
    exact untraced (extract_of_not_readsLists presented unlisted) traced
  · intro refused lists
    exact untraced refused (traced_extract presented lists)

/-- A server with a certificate presents proxied entities and, perhaps, their issuers. -/
def certifiedInbound (entities : String) (issuers : Option String) : InboundCredentials where
  certificate := some (.ofNames "cn=server1" "cn=ca")
  proxiedEntities := some entities
  proxiedIssuers := issuers

/-- Two issuers do not fit one entity, and the server is named in a warning. -/
theorem extract_traced_iff_mismatch :
    caller? { issuersRequired := true } (certifiedInbound "<cn=alice>" (some "<cn=ca><cn=ca>")) =
        some (.ofNames "cn=server1" "cn=ca") ∧
      (extract { issuersRequired := true }
        (certifiedInbound "<cn=alice>" (some "<cn=ca><cn=ca>"))).Traced
          (.ofNames "cn=server1" "cn=ca") := by
  have lists : ReadsLists { issuersRequired := true }
      (certifiedInbound "<cn=alice>" (some "<cn=ca><cn=ca>")) := by
    rintro entities ⟨⟩
    refine ⟨by decide +kernel, ?_⟩
    rintro - issuers ⟨⟩
    decide +kernel
  exact ⟨rfl, (extract_traced_iff rfl).1.mpr lists⟩

/-- A text behind the brackets spoils the list, and nobody is told of the refusal. -/
theorem refused_without_trace :
    ¬ ∀ (policy : ExtractionPolicy) (inbound : InboundCredentials) (caller : DnPair),
      policy.caller? inbound = some caller → (policy.extract inbound).Traced caller := by
  intro always
  have traced := always {} (certifiedInbound "<cn=alice>trailing" none) _ rfl
  have unlisted : ¬ ReadsLists {} (certifiedInbound "<cn=alice>trailing" none) := by
    intro lists
    exact absurd (lists _ rfl).1 (by decide +kernel)
  obtain ⟨fault, refused⟩ := extract_of_not_readsLists rfl unlisted
  rw [refused] at traced
  exact Audited.not_traced_fail_nil traced

end ExtractionPolicy
end Delegation
