import Delegation.Chain.Basic
import Delegation.Dn.Pair
import Delegation.Json.Record
import Delegation.Settings.Problem

/-!
# Security settings

How requests are authenticated: which credentials are honoured, which callers are allowed
and which roles count. Every setting has a default.
-/

namespace Delegation

/-- The settings of the authentication of requests. -/
structure SecuritySettings where
  /-- Honour the subject and issuer headers of a trusted proxy. -/
  useTrustedSubjectHeaders : Bool := false
  /-- Refuse requests without the header of proxied entities. -/
  proxiedEntitiesRequired : Bool := false
  /-- Demand an issuer beside every proxied entity. -/
  issuersRequired : Bool := false
  /-- Refuse requests without a caller. -/
  requireSsl : Bool := false
  /-- Roles that every member of a fully vetted chain holds one of. -/
  requiredRoles : List String := Chain.defaultRequiredRoles
  /-- Roles that make a primary identity a manager. -/
  managerRoles : List String := []
  /-- Refuse certificates of callers that are not listed. -/
  enforceAllowedCallers : Bool := true
  /-- Written pairs of the allowed callers. -/
  allowedCallers : List String := []
  /-- A role that denies access. -/
  deniedAccessRole : Option String := none
  /-- Organizational units of non-person entities. -/
  serverUnits : List String := []
  deriving DecidableEq

namespace SecuritySettings

/-- The default settings. -/
def default : SecuritySettings := {}

instance : Inhabited SecuritySettings := ⟨default⟩

/-- The required roles as a set. -/
def required (settings : SecuritySettings) : NameSet :=
  NameSet.ofList settings.requiredRoles

/-- The names of the settings in a document, in declared order. -/
def fieldNames : List String :=
  ["use_trusted_subject_headers", "proxied_entities_required", "issuers_required",
   "require_ssl", "required_roles", "manager_roles", "enforce_allowed_callers",
   "allowed_callers", "denied_access_role", "npe_ou_list"]

/-- The settings whose entries are lists. -/
def listFieldNames : List String :=
  ["required_roles", "manager_roles", "allowed_callers", "npe_ou_list"]

/-- A text is a written pair of names. -/
def isWrittenPair (text : String) : Bool :=
  match DnPair.parse text with
  | .ok _ => true
  | .error _ => false

/-- What is wrong with the settings. -/
def problems (settings : SecuritySettings) : List Settings.Problem :=
  Settings.Problem.check (settings.allowedCallers.all isWrittenPair) "allowed_callers"
      .allowedCallerFormat ++
    Settings.Problem.check (!settings.requiredRoles.isEmpty) "required_roles" .length

/-- The document of the settings. -/
def toJson (settings : SecuritySettings) : Json :=
  .ofMembers [
    ("use_trusted_subject_headers", .bool settings.useTrustedSubjectHeaders),
    ("proxied_entities_required", .bool settings.proxiedEntitiesRequired),
    ("issuers_required", .bool settings.issuersRequired),
    ("require_ssl", .bool settings.requireSsl),
    ("required_roles", .ofStrings settings.requiredRoles),
    ("manager_roles", .ofStrings settings.managerRoles),
    ("enforce_allowed_callers", .bool settings.enforceAllowedCallers),
    ("allowed_callers", .ofStrings settings.allowedCallers),
    ("denied_access_role", .ofOption (settings.deniedAccessRole.map .ofString)),
    ("npe_ou_list", .ofStrings settings.serverUnits)]

/-- Read the document of the settings. -/
def ofJson? (json : Json) : Option SecuritySettings := do
  match ← json.fields? fieldNames with
  | [trusted, entities, issuers, ssl, required, manager, enforce, allowed, denied, units] =>
      some {
        useTrustedSubjectHeaders :=
          ← Json.defaulted? default.useTrustedSubjectHeaders Json.asBool? trusted
        proxiedEntitiesRequired :=
          ← Json.defaulted? default.proxiedEntitiesRequired Json.asBool? entities
        issuersRequired := ← Json.defaulted? default.issuersRequired Json.asBool? issuers
        requireSsl := ← Json.defaulted? default.requireSsl Json.asBool? ssl
        requiredRoles := ← Json.defaulted? default.requiredRoles Json.strings? required
        managerRoles := ← Json.defaulted? default.managerRoles Json.strings? manager
        enforceAllowedCallers :=
          ← Json.defaulted? default.enforceAllowedCallers Json.asBool? enforce
        allowedCallers := ← Json.defaulted? default.allowedCallers Json.strings? allowed
        deniedAccessRole :=
          ← Json.defaulted? default.deniedAccessRole (Json.nullable? Json.asString?) denied
        serverUnits := ← Json.defaulted? default.serverUnits Json.strings? units }
  | _ => none

end SecuritySettings
end Delegation
