import Delegation.Call.Policy
import Delegation.Json.Record
import Delegation.Settings.Problem
import Delegation.Url.Reader

/-!
# Federation settings

Which remote authorities are asked, how long and how often, how long their answers are
kept, and where this service fetches its own identity. Every setting has a default.
-/

namespace Delegation

/-- Time limit and retry budget of one remote operation. -/
structure OperationSettings where
  /-- The bound of the whole operation, in milliseconds. -/
  timeoutMillis : Nat := Call.Policy.default.limit.millis
  /-- How many retries may follow the first attempt. -/
  retries : Nat := Call.Policy.default.retry.maxRetries
  /-- The wait before each retry, in milliseconds. -/
  retryDelayMillis : Nat := Call.Policy.default.retry.delay.millis
  deriving DecidableEq

namespace OperationSettings

/-- The default settings. -/
def default : OperationSettings := {}

/-- The policy that the settings ask for. -/
def policy (settings : OperationSettings) : Call.Policy :=
  ⟨.ofMillis settings.timeoutMillis, ⟨settings.retries, .ofMillis settings.retryDelayMillis⟩⟩

/-- What is wrong with the settings. -/
def problems (settings : OperationSettings) : List Settings.Problem :=
  Settings.Problem.check (1 ≤ settings.timeoutMillis) "timeout_millis" .range

/-- The names of the settings in a document. -/
def fieldNames : List String := ["timeout_millis", "retries", "retry_delay_millis"]

/-- The document of the settings. -/
def toJson (settings : OperationSettings) : Json :=
  .ofMembers [
    ("timeout_millis", .ofNat settings.timeoutMillis),
    ("retries", .ofNat settings.retries),
    ("retry_delay_millis", .ofNat settings.retryDelayMillis)]

/-- Read the document of the settings. -/
def ofJson? (json : Json) : Option OperationSettings := do
  match ← json.fields? fieldNames with
  | [timeout, retries, delay] =>
      some {
        timeoutMillis := ← Json.defaulted? default.timeoutMillis (Json.word? 64) timeout
        retries := ← Json.defaulted? default.retries (Json.word? 32) retries
        retryDelayMillis := ← Json.defaulted? default.retryDelayMillis (Json.word? 64) delay }
  | _ => none

end OperationSettings

/-- How many answers are kept, and for how long. -/
structure CacheSettings where
  /-- The largest number of answers. -/
  maxSize : Nat := 1000
  /-- How long an unread answer is kept, in seconds. -/
  expireAfterAccessSecs : Nat := 300
  /-- How long any answer is kept, in seconds. -/
  expireAfterWriteSecs : Nat := 300
  deriving DecidableEq

namespace CacheSettings

/-- The default settings. -/
def default : CacheSettings := {}

/-- How long an unread answer is kept. -/
def expireAfterAccess (settings : CacheSettings) : Duration :=
  .ofSecs settings.expireAfterAccessSecs

/-- How long any answer is kept. -/
def expireAfterWrite (settings : CacheSettings) : Duration :=
  .ofSecs settings.expireAfterWriteSecs

/-- What is wrong with the settings. -/
def problems (settings : CacheSettings) : List Settings.Problem :=
  Settings.Problem.check (1 ≤ settings.expireAfterAccessSecs) "expire_after_access_secs" .range ++
    Settings.Problem.check (1 ≤ settings.expireAfterWriteSecs) "expire_after_write_secs" .range

/-- The names of the settings in a document. -/
def fieldNames : List String :=
  ["max_size", "expire_after_access_secs", "expire_after_write_secs"]

/-- The document of the settings. -/
def toJson (settings : CacheSettings) : Json :=
  .ofMembers [
    ("max_size", .ofNat settings.maxSize),
    ("expire_after_access_secs", .ofNat settings.expireAfterAccessSecs),
    ("expire_after_write_secs", .ofNat settings.expireAfterWriteSecs)]

/-- Read the document of the settings. -/
def ofJson? (json : Json) : Option CacheSettings := do
  match ← json.fields? fieldNames with
  | [size, access, write] =>
      some {
        maxSize := ← Json.defaulted? default.maxSize (Json.word? 64) size
        expireAfterAccessSecs :=
          ← Json.defaulted? default.expireAfterAccessSecs (Json.word? 64) access
        expireAfterWriteSecs :=
          ← Json.defaulted? default.expireAfterWriteSecs (Json.word? 64) write }
  | _ => none

end CacheSettings

/-- A text is an absolute URL. -/
def Settings.isUrl (text : String) : Bool := (Url.parse? text).isSome

/-- The settings of one remote authority. -/
structure FederationSettings where
  /-- Where the authority answers. -/
  uri : String := "https://authorization:8443/authorization/v2"
  /-- The longest answer that is read, in bytes; minus one for no bound. -/
  maxBytesToBuffer : Int := -1
  /-- Limits for the list of authorizations. -/
  list : OperationSettings := {}
  /-- Limits for the flushing of credentials. -/
  flush : OperationSettings := {}
  /-- The keeping of answers. -/
  cache : CacheSettings := {}
  deriving DecidableEq

namespace FederationSettings

/-- The default settings. -/
def default : FederationSettings := {}

/-- The longest answer that is read, if there is a bound. -/
def maxBytes? (settings : FederationSettings) : Option Nat :=
  if 0 ≤ settings.maxBytesToBuffer then some settings.maxBytesToBuffer.toNat else none

/-- What is wrong with the settings. -/
def problems (settings : FederationSettings) : List Settings.Problem :=
  Settings.Problem.check (Settings.isUrl settings.uri) "federated_authorization_uri" .url ++
    Settings.Problem.check (-1 ≤ settings.maxBytesToBuffer) "max_bytes_to_buffer" .range ++
    settings.list.problems.map (.within "list_effective_authorizations") ++
    settings.flush.problems.map (.within "flush_cached_credentials") ++
    settings.cache.problems.map (.within "cache")

/-- The names of the settings in a document. -/
def fieldNames : List String :=
  ["federated_authorization_uri", "max_bytes_to_buffer", "list_effective_authorizations",
   "flush_cached_credentials", "cache"]

/-- The document of the settings. -/
def toJson (settings : FederationSettings) : Json :=
  .ofMembers [
    ("federated_authorization_uri", .ofString settings.uri),
    ("max_bytes_to_buffer", .integer settings.maxBytesToBuffer),
    ("list_effective_authorizations", settings.list.toJson),
    ("flush_cached_credentials", settings.flush.toJson),
    ("cache", settings.cache.toJson)]

/-- Read the document of the settings. -/
def ofJson? (json : Json) : Option FederationSettings := do
  match ← json.fields? fieldNames with
  | [uri, maxBytes, list, flush, cache] =>
      some {
        uri := ← Json.defaulted? default.uri Json.asString? uri
        maxBytesToBuffer := ← Json.defaulted? default.maxBytesToBuffer Json.int64? maxBytes
        list := ← Json.defaulted? default.list OperationSettings.ofJson? list
        flush := ← Json.defaulted? default.flush OperationSettings.ofJson? flush
        cache := ← Json.defaulted? default.cache CacheSettings.ofJson? cache }
  | _ => none

end FederationSettings

/-- Where and how often this service fetches its own identity. -/
structure ServerIdentitySettings where
  /-- Where the identity is issued. -/
  uri : String := "https://authorization:8443/authorization/v1/authorize"
  /-- The bound of a fetch, in milliseconds. -/
  timeoutMillis : Nat := 30000
  /-- How long a fetched identity counts as fresh, in seconds. -/
  validitySecs : Nat := 86400
  deriving DecidableEq

namespace ServerIdentitySettings

/-- The default settings. -/
def default : ServerIdentitySettings := {}

/-- The bound of a fetch. -/
def timeout (settings : ServerIdentitySettings) : Duration := .ofMillis settings.timeoutMillis

/-- How long a fetched identity counts as fresh. -/
def validity (settings : ServerIdentitySettings) : Duration := .ofSecs settings.validitySecs

/-- What is wrong with the settings. -/
def problems (settings : ServerIdentitySettings) : List Settings.Problem :=
  Settings.Problem.check (Settings.isUrl settings.uri) "authorization_uri" .url ++
    Settings.Problem.check (1 ≤ settings.timeoutMillis) "timeout_millis" .range

/-- The names of the settings in a document. -/
def fieldNames : List String := ["authorization_uri", "timeout_millis", "validity_secs"]

/-- The document of the settings. -/
def toJson (settings : ServerIdentitySettings) : Json :=
  .ofMembers [
    ("authorization_uri", .ofString settings.uri),
    ("timeout_millis", .ofNat settings.timeoutMillis),
    ("validity_secs", .ofNat settings.validitySecs)]

/-- Read the document of the settings. -/
def ofJson? (json : Json) : Option ServerIdentitySettings := do
  match ← json.fields? fieldNames with
  | [uri, timeout, validity] =>
      some {
        uri := ← Json.defaulted? default.uri Json.asString? uri
        timeoutMillis := ← Json.defaulted? default.timeoutMillis (Json.word? 64) timeout
        validitySecs := ← Json.defaulted? default.validitySecs (Json.word? 64) validity }
  | _ => none

end ServerIdentitySettings

/-- The remote authorities by name, and which of them are used. -/
structure RegistrySettings where
  /-- The configured authorities. -/
  services : NameMap FederationSettings := ∅
  /-- The names of those that are used; all of them if it is empty. -/
  registered : List String := []
  /-- The service's own identity. -/
  serverIdentity : ServerIdentitySettings := {}
  deriving DecidableEq

namespace RegistrySettings

/-- The default settings. -/
def default : RegistrySettings := {}

/-- A name is used. -/
def isRegistered (settings : RegistrySettings) (name : String) : Bool :=
  settings.registered.isEmpty || settings.registered.contains name

/-- What is wrong with the settings. -/
def problems (settings : RegistrySettings) : List Settings.Problem :=
  settings.serverIdentity.problems.map (.within "server_identity") ++
    Settings.Problem.check (settings.services.toList.all fun entry => entry.2.problems.isEmpty)
      "services" .invalidService

/-- The names of the settings in a document. -/
def fieldNames : List String := ["services", "registered_services", "server_identity"]

/-- The settings whose entries are lists. -/
def listFieldNames : List String := ["registered_services"]

/-- The document of the settings. -/
def toJson (settings : RegistrySettings) : Json :=
  .ofMembers [
    ("services", .ofNameMap FederationSettings.toJson settings.services),
    ("registered_services", .ofStrings settings.registered),
    ("server_identity", settings.serverIdentity.toJson)]

/-- Read the document of the settings. -/
def ofJson? (json : Json) : Option RegistrySettings := do
  match ← json.fields? fieldNames with
  | [services, registered, identity] =>
      some {
        services :=
          ← Json.defaulted? default.services (Json.nameMap? FederationSettings.ofJson?) services
        registered := ← Json.defaulted? default.registered Json.strings? registered
        serverIdentity :=
          ← Json.defaulted? default.serverIdentity ServerIdentitySettings.ofJson? identity }
  | _ => none

end RegistrySettings
end Delegation
