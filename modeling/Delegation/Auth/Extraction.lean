import Delegation.Auth.Warning
import Delegation.Settings.Security

/-!
# Extraction of credentials

The caller of a request comes from its client certificate, else from the headers of a
trusted proxy where those are honoured. The principals it acts for come from the header of
proxied entities, where required with an issuer for each from a second header. A violation
fails the whole attempt; no other source is tried then.
-/

namespace Delegation

/-- Which credentials are honoured and which are demanded. -/
structure ExtractionPolicy where
  /-- Honour the subject and issuer headers when there is no certificate. -/
  useTrustedSubjectHeaders : Bool := false
  /-- Refuse requests without the header of proxied entities. -/
  proxiedEntitiesRequired : Bool := false
  /-- Demand a parallel header of issuers, as long as that of entities. -/
  issuersRequired : Bool := false
  /-- Refuse requests without any caller. -/
  callerRequired : Bool := false
  deriving DecidableEq

/-- The policy that security settings ask for. -/
def SecuritySettings.extractionPolicy (settings : SecuritySettings) : ExtractionPolicy where
  useTrustedSubjectHeaders := settings.useTrustedSubjectHeaders
  proxiedEntitiesRequired := settings.proxiedEntitiesRequired
  issuersRequired := settings.issuersRequired
  callerRequired := settings.requireSsl

/-- The credential material of a request. -/
structure InboundCredentials where
  /-- The pair of the client certificate. -/
  certificate : Option DnPair := none
  /-- The subject header of a trusted proxy. -/
  trustedSubject : Option String := none
  /-- The issuer header of a trusted proxy. -/
  trustedIssuer : Option String := none
  /-- The header of proxied entities. -/
  proxiedEntities : Option String := none
  /-- The header of their issuers. -/
  proxiedIssuers : Option String := none

/-- A caller with the principals that it claims to act for. -/
structure ExtractedCredentials where
  /-- The connecting caller. -/
  caller : DnPair
  /-- The proxied principals, as presented. -/
  proxied : List DnPair
  deriving DecidableEq

namespace ExtractedCredentials

/-- The pairs of the chain: the proxied principals as presented, then the caller. -/
def chainPairs (credentials : ExtractedCredentials) : List DnPair :=
  credentials.proxied ++ [credentials.caller]

end ExtractedCredentials

namespace ExtractionPolicy

/-- The caller of a request, if it presents one. -/
def caller? (policy : ExtractionPolicy) (inbound : InboundCredentials) : Option DnPair :=
  match inbound.certificate with
  | some pair => some pair
  | none =>
      if policy.useTrustedSubjectHeaders then
        match inbound.trustedSubject, inbound.trustedIssuer with
        | some subject, some issuer => some (DnPair.ofNames subject issuer)
        | _, _ => none
      else
        none

/-- The names of a header value, duplicates included. -/
def headerNames (value : String) : Except AuthError (List String) :=
  match Dn.splitHeader value true with
  | .ok names => .ok names
  | .error fault => .error (.credentialsInvalid (.header fault))

/-- The error of an event that the caller causes. -/
def refuse {α : Type} (fault : CredentialFault) (warnings : List Warning) : Audited α :=
  .fail (.credentialsInvalid fault) warnings

/-- Pair the subjects of the entities header with the issuers header, or with the caller's
own issuer where no issuers are required. -/
def pairEntities (policy : ExtractionPolicy) (caller : DnPair) (entities : String)
    (issuers : Option String) : Audited (List DnPair) :=
  match headerNames entities with
  | .error error => .fail error []
  | .ok subjects =>
      if policy.issuersRequired then
        match issuers with
        | none => refuse .issuersMissing [.issuersMissing caller]
        | some issuers =>
            match headerNames issuers with
            | .error error => .fail error []
            | .ok issuerNames =>
                if issuerNames.length = subjects.length then
                  .ok (List.zipWith DnPair.ofNames subjects issuerNames)
                else
                  refuse .chainMismatch [.chainMismatch caller entities issuers]
      else
        .ok (subjects.map fun subject => DnPair.ofNames subject caller.issuer)

/-- The caller and the principals that it acts for; nothing when no caller is presented and
none is required. -/
def extract (policy : ExtractionPolicy) (inbound : InboundCredentials) :
    Audited (Option ExtractedCredentials) :=
  match policy.caller? inbound with
  | none => if policy.callerRequired then refuse .noCaller [] else .ok none
  | some caller =>
      match inbound.proxiedEntities with
      | none =>
          if policy.proxiedEntitiesRequired then
            refuse .entitiesMissing [.entitiesMissing caller]
          else
            .ok (some ⟨caller, []⟩)
      | some entities =>
          (policy.pairEntities caller entities inbound.proxiedIssuers).andThen fun proxied =>
            .ok (some ⟨caller, proxied⟩)

end ExtractionPolicy
end Delegation
