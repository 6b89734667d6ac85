import Delegation.Settings.Document
import Delegation.Settings.Environment
import Delegation.Settings.Federation
import Delegation.Settings.KeyPath
import Delegation.Settings.Security
import Delegation.Settings.VariableFile

/-!
# Loading settings

Settings come from a document and from variables, which go before what the document says. A
document that does not exist or is of no known format says nothing. The settings have to be
readable, have to convert to their kinds and must have no problems.
-/

namespace Delegation
namespace Settings

/-- Where settings come from. -/
structure Sources where
  /-- The variables of the environment. -/
  environment : List (String × String) := []
  /-- A file with further variables, which those of the environment go before. -/
  variableFile : Option String := none
  /-- Name and content of a document. -/
  document : Option (String × String) := none

namespace Sources

/-- All variables. -/
def definitions (sources : Sources) : List (String × String) :=
  match sources.variableFile with
  | some content => VariableFile.extend sources.environment content
  | none => sources.environment

/-- The settings in the document. -/
def documentEntries? (sources : Sources) : Option (List (String × Value)) :=
  match sources.document with
  | none => some []
  | some (name, content) =>
      match DocumentFormat.ofFileName? name with
      | none => some []
      | some format => format.read? content

/-- The settings of a group from all sources. -/
def read? (mark : String) (listNames : List String) (sources : Sources) : Option Value :=
  sources.documentEntries?.map fun entries =>
    ((Value.table []).putAllNamed entries).putAllNamed
      (Environment.settings mark listNames sources.definitions)

end Sources

/-- The steps of loading that can fail. -/
inductive LoadStep
  /-- Reading the sources. -/
  | read
  /-- Converting values to their kinds. -/
  | convert
  /-- Looking for problems. -/
  | validate
  deriving DecidableEq

/-- A group of settings that could not be loaded. -/
structure LoadFault where
  /-- The name of the group. -/
  group : String
  /-- The step that failed. -/
  step : LoadStep
  deriving DecidableEq

/-- The wording of a fault. -/
def LoadFault.message (fault : LoadFault) : String :=
  match fault.step with
  | .read => "Failed to load " ++ fault.group ++ " settings"
  | .convert => "Failed to deserialize " ++ fault.group ++ " settings"
  | .validate => "Invalid " ++ fault.group ++ " settings"

/-- Load a group of settings. -/
def load {α : Type} (group : String) (listNames : List String) (convert : Value → Option α)
    (problems : α → List Problem) (sources : Sources) : Except LoadFault α :=
  match sources.read? ("nova_" ++ group ++ "_") listNames with
  | none => .error ⟨group, .read⟩
  | some value =>
      match convert value with
      | none => .error ⟨group, .convert⟩
      | some settings =>
          if (problems settings).isEmpty then .ok settings else .error ⟨group, .validate⟩

end Settings

open Settings

/-- Convert a value to security settings. -/
def SecuritySettings.ofValue? (value : Value) : Option SecuritySettings := do
  match ← value.fields? fieldNames with
  | [trusted, entities, issuers, ssl, required, manager, enforce, allowed, denied, units] =>
      some {
        useTrustedSubjectHeaders :=
          ← Value.defaulted? default.useTrustedSubjectHeaders Value.asBool? trusted
        proxiedEntitiesRequired :=
          ← Value.defaulted? default.proxiedEntitiesRequired Value.asBool? entities
        issuersRequired := ← Value.defaulted? default.issuersRequired Value.asBool? issuers
        requireSsl := ← Value.defaulted? default.requireSsl Value.asBool? ssl
        requiredRoles := ← Value.defaulted? default.requiredRoles Value.asTexts? required
        managerRoles := ← Value.defaulted? default.managerRoles Value.asTexts? manager
        enforceAllowedCallers :=
          ← Value.defaulted? default.enforceAllowedCallers Value.asBool? enforce
        allowedCallers := ← Value.defaulted? default.allowedCallers Value.asTexts? allowed
        deniedAccessRole :=
          ← Value.defaulted? default.deniedAccessRole (Value.nullable? Value.asText?) denied
        serverUnits := ← Value.defaulted? default.serverUnits Value.asTexts? units }
  | _ => none

/-- Load security settings. -/
def SecuritySettings.load (sources : Sources) : Except LoadFault SecuritySettings :=
  Settings.load "security" listFieldNames ofValue? problems sources

/-- Convert a value to the limits of an operation. -/
def OperationSettings.ofValue? (value : Value) : Option OperationSettings := do
  match ← value.fields? fieldNames with
  | [timeout, retries, delay] =>
      some {
        timeoutMillis := ← Value.defaulted? default.timeoutMillis (Value.asWord? 64) timeout
        retries := ← Value.defaulted? default.retries (Value.asWord? 32) retries
        retryDelayMillis := ← Value.defaulted? default.retryDelayMillis (Value.asWord? 64) delay }
  | _ => none

/-- Convert a value to the settings of kept answers. -/
def CacheSettings.ofValue? (value : Value) : Option CacheSettings := do
  match ← value.fields? fieldNames with
  | [size, access, write] =>
      some {
        maxSize := ← Value.defaulted? default.maxSize (Value.asWord? 64) size
        expireAfterAccessSecs :=
          ← Value.defaulted? default.expireAfterAccessSecs (Value.asWord? 64) access
        expireAfterWriteSecs :=
          ← Value.defaulted? default.expireAfterWriteSecs (Value.asWord? 64) write }
  | _ => none

/-- Convert a value to the settings of a remote authority. -/
def FederationSettings.ofValue? (value : Value) : Option FederationSettings := do
  match ← value.fields? fieldNames with
  | [uri, maxBytes, list, flush, cache] =>
      some {
        uri := ← Value.defaulted? default.uri Value.asText? uri
        maxBytesToBuffer := ← Value.defaulted? default.maxBytesToBuffer Value.asInt64? maxBytes
        list := ← Value.defaulted? default.list OperationSettings.ofValue? list
        flush := ← Value.defaulted? default.flush OperationSettings.ofValue? flush
        cache := ← Value.defaulted? default.cache CacheSettings.ofValue? cache }
  | _ => none

/-- Convert a value to the settings of the service's own identity. -/
def ServerIdentitySettings.ofValue? (value : Value) : Option ServerIdentitySettings := do
  match ← value.fields? fieldNames with
  | [uri, timeout, validity] =>
      some {
        uri := ← Value.defaulted? default.uri Value.asText? uri
        timeoutMillis := ← Value.defaulted? default.timeoutMillis (Value.asWord? 64) timeout
        validitySecs := ← Value.defaulted? default.validitySecs (Value.asWord? 64) validity }
  | _ => none

/-- Convert a value to the settings of all remote authorities. -/
def RegistrySettings.ofValue? (value : Value) : Option RegistrySettings := do
  match ← value.fields? fieldNames with
  | [services, registered, identity] =>
      some {
        services :=
          ← Value.defaulted? default.services (Value.mapOf? FederationSettings.ofValue?) services
        registered := ← Value.defaulted? default.registered Value.asTexts? registered
        serverIdentity :=
          ← Value.defaulted? default.serverIdentity ServerIdentitySettings.ofValue? identity }
  | _ => none

/-- Load the settings of all remote authorities. -/
def RegistrySettings.load (sources : Sources) : Except LoadFault RegistrySettings :=
  Settings.load "federation" listFieldNames ofValue? problems sources

end Delegation
