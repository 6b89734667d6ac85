import Delegation.Auth.Extraction
import Delegation.Proofs.Dn.HeaderGrammar

/-!
# What extraction accepts

When credentials are accepted, they are those that the request presents: the caller, and
before it one principal for each name in the header of proxied entities, in order. A second
header lends its issuers where issuers are required, else each principal has the issuer of
the caller.
-/

namespace Delegation

namespace Audited

variable {α β : Type}

@[simp] theorem result_ok (value : α) : (ok value).result = .ok value := rfl

@[simp] theorem result_fail
    (error : AuthError)
    (warnings : List Warning) :
    (fail error warnings : Audited α).result = .error error := rfl

/-- A first error ends the whole. -/
theorem result_andThen
    (first : Audited α)
    (next : α → Audited β) :
    (first.andThen next).result = first.result.bind fun value => (next value).result := by
  unfold andThen
  cases first.result <;> rfl

/-- Both parts succeed where the whole does. -/
theorem result_andThen_eq_ok
    {first : Audited α}
    {next : α → Audited β}
    {value : β} :
    (first.andThen next).result = .ok value ↔
      ∃ between, first.result = .ok between ∧ (next between).result = .ok value := by
  unfold andThen
  cases first.result <;> simp

end Audited

namespace ExtractionPolicy

/-- The issuers for a number of proxied entities: those of a second header where issuers are
required, else the caller's own for each. -/
def IssuersFor
    (policy : ExtractionPolicy)
    (caller : DnPair)
    (header : Option String)
    (count : Nat)
    (issuers : List String) : Prop :=
  if policy.issuersRequired then
    ∃ value, header = some value ∧ Dn.ListsNames value issuers ∧ issuers.length = count
  else
    issuers = List.replicate count caller.issuer

/-- The proxied principals are the names of the entities header, each with its issuer. -/
def Proxies
    (policy : ExtractionPolicy)
    (caller : DnPair)
    (entities : String)
    (header : Option String)
    (proxied : List DnPair) : Prop :=
  ∃ names issuers, Dn.ListsNames entities names ∧
    policy.IssuersFor caller header names.length issuers ∧
    proxied = List.zipWith DnPair.ofNames names issuers

variable {policy : ExtractionPolicy} {caller : DnPair}

theorem headerNames_eq_ok
    {value : String}
    {names : List String} :
    headerNames value = .ok names ↔ Dn.ListsNames value names := by
  rw [← Dn.splitHeader_eq_ok]
  unfold headerNames
  cases Dn.splitHeader value true <;> simp

/-- The issuers lent by the caller are as many as the names. -/
theorem map_ofNames_caller
    (names : List String)
    (issuer : String) :
    names.map (fun name => DnPair.ofNames name issuer) =
      List.zipWith DnPair.ofNames names (List.replicate names.length issuer) := by
  induction names with
  | nil => rfl
  | cons name names inductionHypothesis =>
      simp [List.replicate_succ, inductionHypothesis]

/-- Pairing succeeds exactly with the principals that the headers present. -/
theorem pairEntities_eq_ok
    {entities : String}
    {header : Option String}
    {proxied : List DnPair} :
    (policy.pairEntities caller entities header).result = .ok proxied ↔
      policy.Proxies caller entities header proxied := by
  simp only [Proxies, IssuersFor, ← headerNames_eq_ok, pairEntities]
  cases headerNames entities with
  | error error => simp
  | ok names =>
      cases policy.issuersRequired with
      | false => simp [map_ofNames_caller, eq_comm]
      | true =>
          cases header with
          | none => simp [refuse]
          | some value =>
              cases listed : headerNames value with
              | error error => simp [listed]
              | ok issuers =>
                  by_cases equal : issuers.length = names.length
                  · simp only [listed, equal, if_true, Audited.result_ok, Except.ok.injEq,
                      Option.some.injEq, exists_eq_left']
                    constructor
                    · rintro rfl
                      exact ⟨names, issuers, rfl, ⟨rfl, equal⟩, rfl⟩
                    · rintro ⟨_, _, rfl, ⟨rfl, -⟩, paired⟩
                      exact paired.symm
                  · simp [listed, equal, refuse]

/-- Extraction brings credentials exactly when there is a caller, and with it the principals
of the entities header, or none without that header where it is not required. -/
theorem extract_eq_some
    {inbound : InboundCredentials}
    {credentials : ExtractedCredentials} :
    (policy.extract inbound).result = .ok (some credentials) ↔
      policy.caller? inbound = some credentials.caller ∧
        match inbound.proxiedEntities with
        | none => policy.proxiedEntitiesRequired = false ∧ credentials.proxied = []
        | some entities =>
            policy.Proxies credentials.caller entities inbound.proxiedIssuers
              credentials.proxied := by
  unfold extract
  cases policy.caller? inbound with
  | none => cases policy.callerRequired <;> simp [refuse]
  | some caller =>
      cases inbound.proxiedEntities with
      | none =>
          cases credentials
          cases policy.proxiedEntitiesRequired <;> simp [refuse, eq_comm]
      | some entities =>
          simp only [Audited.result_andThen_eq_ok, pairEntities_eq_ok]
          cases credentials
          simp only [Audited.result_ok, Except.ok.injEq, Option.some.injEq,
            ExtractedCredentials.mk.injEq]
          constructor
          · rintro ⟨proxied, proxies, rfl, rfl⟩
            exact ⟨rfl, proxies⟩
          · rintro ⟨rfl, proxies⟩
            exact ⟨_, proxies, rfl, rfl⟩

/-- Extraction brings nothing exactly when there is no caller and none is required. -/
theorem extract_eq_none
    {inbound : InboundCredentials} :
    (policy.extract inbound).result = .ok none ↔
      policy.caller? inbound = none ∧ policy.callerRequired = false := by
  unfold extract
  cases policy.caller? inbound with
  | none => cases policy.callerRequired <;> simp [refuse]
  | some caller =>
      cases inbound.proxiedEntities with
      | none => cases policy.proxiedEntitiesRequired <;> simp [refuse]
      | some entities => simp [Audited.result_andThen_eq_ok]

end ExtractionPolicy
end Delegation
