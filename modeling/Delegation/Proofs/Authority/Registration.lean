import Mathlib.Data.List.Find
import Delegation.Authority.Registry
import Delegation.Proofs.Basic
import Delegation.Proofs.Names.NameMap

/-!
# What a registry registers

Settings name the services that are to be used, or none if all configured ones are. There is a
registry exactly if each named service is configured and the address of each service in use can be
read; otherwise the first one where that fails is reported. The registry then has one client for
each configured service in use, and each client goes by the settings of its own service. In which
order and how often services are named makes no difference to that, and neither does what is
configured for services that are not in use.
-/

namespace Delegation

namespace RegistrySettings

/-- A service is to be used: it is named, or none is. -/
def Uses (settings : RegistrySettings) (name : String) : Prop :=
  settings.registered = [] ∨ name ∈ settings.registered

/-- A service has settings. -/
def Configures (settings : RegistrySettings) (name : String) : Prop :=
  ∃ service, settings.services.get? name = some service

/-- All that is to be used can be used. -/
structure IsComplete (settings : RegistrySettings) : Prop where
  /-- Each named service is configured. -/
  configured : ∀ name ∈ settings.registered, settings.Configures name
  /-- The address of each configured service in use can be read. -/
  readable : ∀ name service, settings.services.get? name = some service → settings.Uses name →
    ∃ url, Url.parse? service.uri = some url

/-- What is reported when there is no registry. -/
inductive Faults (settings : RegistrySettings) : Authority.SetupFault → Prop
  /-- The first named service that is not configured. -/
  | unconfigured (before : List String) (name : String) (after : List String) :
      settings.registered = before ++ name :: after →
      (∀ earlier ∈ before, settings.Configures earlier) → ¬ settings.Configures name →
      Faults settings (.serviceNotConfigured name)
  /-- The first service in use, by name, whose address cannot be read. -/
  | unreadable (name : String) (service : FederationSettings) :
      (∀ named ∈ settings.registered, settings.Configures named) →
      settings.services.get? name = some service → settings.Uses name →
      Url.parse? service.uri = none →
      (∀ earlier other, earlier < name → settings.services.get? earlier = some other →
        settings.Uses earlier → ∃ url, Url.parse? other.uri = some url) →
      Faults settings (.invalidAuthorityUri service.uri)

/-- Other settings name the same services, in any order and number, and have the same for each
service in use. -/
structure SameInUse (settings others : RegistrySettings) : Prop where
  named : ∀ name, name ∈ others.registered ↔ name ∈ settings.registered
  services : ∀ name, settings.Uses name →
    others.services.get? name = settings.services.get? name

/-- The settings of the configured services in use. -/
def inUse (settings : RegistrySettings) : NameMap FederationSettings :=
  settings.services.filterKeys settings.isRegistered

variable {settings others : RegistrySettings} {name : String} {service : FederationSettings}

theorem isRegistered_iff : settings.isRegistered name = true ↔ settings.Uses name := by
  simp [isRegistered, Uses]

theorem contains_iff_configures :
    settings.services.contains name = true ↔ settings.Configures name := by
  rw [NameMap.contains_iff, NameMap.keys, List.mem_map, Configures]
  constructor
  · rintro ⟨⟨_, service⟩, member, rfl⟩
    exact ⟨service, NameMap.get?_eq_some_iff.mpr member⟩
  · rintro ⟨service, found⟩
    exact ⟨(name, service), NameMap.get?_eq_some_iff.mp found, rfl⟩

theorem get?_inUse_eq_some_iff :
    settings.inUse.get? name = some service ↔
      settings.services.get? name = some service ∧ settings.Uses name := by
  rw [inUse, NameMap.get?_filterKeys, ← isRegistered_iff]
  cases settings.isRegistered name <;> simp

/-- The services in use are those that the settings configure and use. -/
theorem mem_inUse_iff :
    (name, service) ∈ settings.inUse.toList ↔
      settings.services.get? name = some service ∧ settings.Uses name := by
  rw [← NameMap.get?_eq_some_iff, get?_inUse_eq_some_iff]

namespace SameInUse

theorem uses_iff (same : settings.SameInUse others) : others.Uses name ↔ settings.Uses name := by
  simp only [Uses, List.eq_nil_iff_forall_not_mem, same.named]

/-- Settings that agree on the services in use have the same ones in use. -/
theorem inUse_eq (same : settings.SameInUse others) : others.inUse = settings.inUse := by
  refine NameMap.eq_of_get?_eq fun name => Option.ext fun service => ?_
  rw [get?_inUse_eq_some_iff, get?_inUse_eq_some_iff, same.uses_iff]
  refine and_congr_left fun used => ?_
  rw [same.services name used]

theorem configures_iff
    (same : settings.SameInUse others)
    (named : name ∈ settings.registered) :
    others.Configures name ↔ settings.Configures name := by
  rw [Configures, Configures, same.services name (.inr named)]

theorem configured_iff (same : settings.SameInUse others) :
    (∀ name ∈ others.registered, others.Configures name) ↔
      ∀ name ∈ settings.registered, settings.Configures name := by
  simp only [same.named]
  exact forall₂_congr fun name named => same.configures_iff named

end SameInUse
end RegistrySettings

/-- A policy has the time limit, the retries and the delay of the settings of an operation. -/
structure Call.Policy.Realizes (policy : Call.Policy) (settings : OperationSettings) : Prop where
  limit : policy.limit.nanos = settings.timeoutMillis * 1000000
  retries : policy.retry.maxRetries = settings.retries
  delay : policy.retry.delay.nanos = settings.retryDelayMillis * 1000000

theorem Call.Policy.realizes_iff
    {policy : Call.Policy}
    {settings : OperationSettings} :
    policy.Realizes settings ↔ policy = settings.policy := by
  constructor
  · obtain ⟨⟨limit⟩, ⟨maxRetries, ⟨delay⟩⟩⟩ := policy
    rintro ⟨rfl, rfl, rfl⟩
    rfl
  · rintro rfl
    exact ⟨rfl, rfl, rfl⟩

namespace Authority

/-- The bounds of a cache are the size and the times of its settings. -/
structure CacheLimits.Realizes (limits : CacheLimits) (settings : CacheSettings) : Prop where
  size : limits.maxSize = settings.maxSize
  idle : limits.idle.nanos = settings.expireAfterAccessSecs * 1000000000
  life : limits.life.nanos = settings.expireAfterWriteSecs * 1000000000

theorem CacheLimits.realizes_iff
    {limits : CacheLimits}
    {settings : CacheSettings} :
    limits.Realizes settings ↔ limits = .ofSettings settings := by
  constructor
  · obtain ⟨maxSize, ⟨idle⟩, ⟨life⟩⟩ := limits
    rintro ⟨rfl, rfl, rfl⟩
    rfl
  · rintro rfl
    exact ⟨rfl, rfl, rfl⟩

namespace Client

/-- A client goes by the settings of a service. -/
structure IsFor (client : Client) (name : String) (service : FederationSettings) : Prop where
  name : client.name = name
  baseUri : ∃ url, Url.parse? service.uri = some url ∧ client.baseUri = url.closed
  /-- A length is the bound of a body exactly if the settings say so; minus one is none. -/
  maxBytes : ∀ bound : Nat, client.maxBytes = some bound ↔ service.maxBytesToBuffer = bound
  listPolicy : client.listPolicy.Realizes service.list
  flushPolicy : client.flushPolicy.Realizes service.flush
  cacheLimits : client.cacheLimits.Realizes service.cache

variable {client : Client} {name : String} {service : FederationSettings} {fault : SetupFault}

theorem eq_maxBytes?_iff
    {maxBytes : Option Nat} :
    maxBytes = service.maxBytes? ↔
      ∀ bound : Nat, maxBytes = some bound ↔ service.maxBytesToBuffer = bound := by
  have bounded (bound : Nat) :
      service.maxBytes? = some bound ↔ service.maxBytesToBuffer = bound := by
    rw [FederationSettings.maxBytes?]
    split
    · rw [Option.some.injEq]
      omega
    · refine iff_of_false nofun ?_
      omega
  rw [Option.ext_iff]
  simp only [bounded]

/-- A client is made for a service exactly if it is for that service. -/
theorem ofSettings_eq_ok_iff :
    ofSettings name service = .ok client ↔ client.IsFor name service := by
  have settled {url : Url} (read : Url.parse? service.uri = some url) :
      client.IsFor name service ↔
        client = ⟨name, url.closed, service.maxBytes?, service.list.policy, service.flush.policy,
          .ofSettings service.cache⟩ := by
    obtain ⟨itsName, itsUri, maxBytes, listPolicy, flushPolicy, cacheLimits⟩ := client
    rw [mk.injEq, eq_maxBytes?_iff, ← Call.Policy.realizes_iff, ← Call.Policy.realizes_iff,
      ← CacheLimits.realizes_iff]
    constructor
    · rintro ⟨named, ⟨other, readOther, base⟩, bounded, list, flush, limits⟩
      obtain rfl := Option.some.inj (read.symm.trans readOther)
      exact ⟨named, base, bounded, list, flush, limits⟩
    · rintro ⟨named, base, bounded, list, flush, limits⟩
      exact ⟨named, ⟨url, read, base⟩, bounded, list, flush, limits⟩
  unfold ofSettings
  split
  · rename_i unread
    refine iff_of_false nofun fun own => ?_
    obtain ⟨url, read, -⟩ := own.baseUri
    rw [unread] at read
    nomatch read
  · rename_i url read
    rw [settled read, Except.ok.injEq, eq_comm]

/-- No client is made exactly if the address of the service is none, and that is the fault. -/
theorem ofSettings_eq_error_iff :
    ofSettings name service = .error fault ↔
      Url.parse? service.uri = none ∧ fault = .invalidAuthorityUri service.uri := by
  unfold ofSettings
  cases Url.parse? service.uri <;> simp [eq_comm]

theorem exists_ofSettings_iff :
    (∃ client, ofSettings name service = .ok client) ↔
      ∃ url, Url.parse? service.uri = some url := by
  unfold ofSettings
  cases Url.parse? service.uri <;> simp

end Client

namespace Registry

/-- A registry has a client for each configured service in use, and no others. -/
structure Serves (registry : Registry) (settings : RegistrySettings) : Prop where
  /-- The names are those of the configured services in use, in order. -/
  names : registry.names = settings.services.keys.filter settings.isRegistered
  /-- There is a client for a name exactly if the service is configured and in use. -/
  known : ∀ name, (∃ client, registry.get? name = some client) ↔
    settings.Configures name ∧ settings.Uses name
  /-- The client for a name goes by the settings of the service with this name. -/
  own : ∀ name client, registry.get? name = some client ↔
    ∃ service, settings.services.get? name = some service ∧ settings.Uses name ∧
      client.IsFor name service

variable {settings others : RegistrySettings} {registry : Registry} {fault : SetupFault}

/-! ## The clients -/

theorem setUp_eq_ok_iff
    {entry : String × FederationSettings}
    {made : String × Client} :
    setUp entry = .ok made ↔
      made.1 = entry.1 ∧ Client.ofSettings entry.1 entry.2 = .ok made.2 := by
  obtain ⟨name, client⟩ := made
  unfold setUp
  cases Client.ofSettings entry.1 entry.2 with
  | error fault => simp [Except.map]
  | ok other => simp [Except.map, eq_comm]

/-- A service cannot be set up exactly if its address is none. -/
theorem setUp_eq_error_iff
    {entry : String × FederationSettings} :
    setUp entry = .error fault ↔
      Url.parse? entry.2.uri = none ∧ fault = .invalidAuthorityUri entry.2.uri := by
  rw [← @Client.ofSettings_eq_error_iff entry.1]
  unfold setUp
  cases Client.ofSettings entry.1 entry.2 <;> simp [Except.map]

theorem exists_setUp_iff
    {entry : String × FederationSettings} :
    (∃ made, setUp entry = .ok made) ↔ ∃ url, Url.parse? entry.2.uri = some url := by
  rw [← @Client.exists_ofSettings_iff entry.1]
  unfold setUp
  cases Client.ofSettings entry.1 entry.2 <;> simp [Except.map]

/-- Clients have the names of the services that they are set up for. -/
theorem map_fst_of_setUp
    {entries : List (String × FederationSettings)}
    {clients : List (String × Client)}
    (made : entries.map setUp = clients.map .ok) :
    clients.map (·.1) = entries.map (·.1) := by
  induction entries generalizing clients with
  | nil => simpa using made
  | cons entry entries inductionHypothesis =>
      cases clients with
      | nil => simp at made
      | cons client clients =>
          obtain ⟨first, others⟩ := List.cons_eq_cons.mp made
          rw [List.map_cons, List.map_cons, inductionHypothesis others,
            (setUp_eq_ok_iff.mp first).1]

/-! ## The registry -/

/-- The name that is reported is the first registered one that is not configured. -/
theorem unconfigured?_eq_some_iff
    {name : String} :
    unconfigured? settings = some name ↔
      ∃ before after, settings.registered = before ++ name :: after ∧
        (∀ earlier ∈ before, settings.Configures earlier) ∧ ¬ settings.Configures name := by
  rw [unconfigured?, List.find?_eq_some_iff_append]
  simp only [Bool.not_eq_true', Bool.not_not, ← Bool.not_eq_true,
    RegistrySettings.contains_iff_configures]
  constructor
  · rintro ⟨missing, before, after, cut, earlier⟩
    exact ⟨before, after, cut, earlier, missing⟩
  · rintro ⟨before, after, cut, earlier, missing⟩
    exact ⟨missing, before, after, cut, earlier⟩

theorem unconfigured?_eq_none_iff :
    unconfigured? settings = none ↔ ∀ name ∈ settings.registered, settings.Configures name := by
  simp [unconfigured?, RegistrySettings.contains_iff_configures]

/-- A registered name that is not configured is the fault, whatever the services are. -/
theorem ofSettings_of_unconfigured
    {name : String}
    (missing : unconfigured? settings = some name) :
    ofSettings settings = .error (.serviceNotConfigured name) := by
  rw [ofSettings, missing]

/-- When every registered name is configured, the services in use are set up in their order. -/
theorem ofSettings_of_configured
    (configured : ∀ name ∈ settings.registered, settings.Configures name) :
    ofSettings settings =
      (settings.inUse.toList.mapM setUp).map fun clients => ⟨NameMap.ofList clients⟩ := by
  rw [ofSettings, unconfigured?_eq_none_iff.mpr configured]
  rfl

/-- The clients of a registry are set up for the configured services in use, in their order. -/
theorem ofSettings_eq_ok_iff :
    ofSettings settings = .ok registry ↔
      (∀ name ∈ settings.registered, settings.Configures name) ∧
        settings.inUse.toList.map setUp = registry.clients.toList.map .ok := by
  cases missing : unconfigured? settings with
  | some name =>
      have incomplete : ¬ ∀ name ∈ settings.registered, settings.Configures name := by
        rw [← unconfigured?_eq_none_iff, missing]
        exact Option.some_ne_none name
      rw [ofSettings_of_unconfigured missing]
      exact iff_of_false nofun fun complete => incomplete complete.1
  | none =>
      have configured := unconfigured?_eq_none_iff.mp missing
      rw [ofSettings_of_configured configured, ← mapM_eq_ok_iff]
      refine Iff.trans ?_ (and_iff_right configured).symm
      -- What is set up comes in the order of the names, so the map has it as it is.
      have ordered {clients : List (String × Client)}
          (made : settings.inUse.toList.mapM setUp = .ok clients) :
          (NameMap.ofList clients).toList = clients := by
        refine NameMap.toList_ofList (List.pairwise_map.mp ?_)
        rw [map_fst_of_setUp (mapM_eq_ok_iff.mp made), List.pairwise_map]
        exact settings.inUse.increasing
      cases made : settings.inUse.toList.mapM setUp with
      | error fault => simp [Except.map]
      | ok clients =>
          rw [Except.map, Except.ok.injEq, Except.ok.injEq]
          constructor
          · rintro rfl
            exact (ordered made).symm
          · rintro rfl
            obtain ⟨found⟩ := registry
            exact congrArg Registry.mk (NameMap.eq_of_toList_eq (ordered made))

/-- There is a registry exactly if all that is to be used can be used. -/
theorem exists_ofSettings_iff :
    (∃ registry, ofSettings settings = .ok registry) ↔ settings.IsComplete := by
  by_cases configured : ∀ name ∈ settings.registered, settings.Configures name
  · have made : (∃ registry, ofSettings settings = .ok registry) ↔
        ∃ clients, settings.inUse.toList.mapM setUp = .ok clients := by
      rw [ofSettings_of_configured configured]
      cases settings.inUse.toList.mapM setUp <;> simp [Except.map]
    rw [made, exists_mapM_eq_ok_iff]
    simp only [exists_setUp_iff]
    constructor
    · intro readable
      refine ⟨configured, fun name service found used => ?_⟩
      exact readable (name, service) (RegistrySettings.mem_inUse_iff.mpr ⟨found, used⟩)
    · rintro ⟨-, readable⟩ ⟨name, service⟩ member
      obtain ⟨found, used⟩ := RegistrySettings.mem_inUse_iff.mp member
      exact readable name service found used
  · refine iff_of_false ?_ fun complete => configured complete.configured
    rintro ⟨registry, made⟩
    exact configured (ofSettings_eq_ok_iff.mp made).1

/-- While a registered name is not configured, the first such name is the only fault. -/
theorem faults_iff_of_unconfigured
    {name : String}
    (missing : unconfigured? settings = some name) :
    settings.Faults fault ↔ fault = .serviceNotConfigured name := by
  constructor
  · intro faults
    cases faults with
    | unconfigured before other after cut earlier unknown =>
        have found := unconfigured?_eq_some_iff.mpr ⟨before, after, cut, earlier, unknown⟩
        rw [Option.some.inj (missing.symm.trans found)]
    | unreadable other service configured =>
        rw [unconfigured?_eq_none_iff.mpr configured] at missing
        nomatch missing
  · rintro rfl
    obtain ⟨before, after, cut, earlier, unknown⟩ := unconfigured?_eq_some_iff.mp missing
    exact .unconfigured before name after cut earlier unknown

/-- When every registered name is configured, the first service in use without an address is the
only fault. -/
theorem faults_iff_of_configured
    (configured : ∀ name ∈ settings.registered, settings.Configures name) :
    settings.Faults fault ↔
      ∃ before entry after, settings.inUse.toList = before ++ entry :: after ∧
        (∀ earlier ∈ before, ∃ url, Url.parse? earlier.2.uri = some url) ∧
          Url.parse? entry.2.uri = none ∧ fault = .invalidAuthorityUri entry.2.uri := by
  have increasing := settings.inUse.increasing
  constructor
  · intro faults
    cases faults with
    | unconfigured before name after cut _ unknown =>
        exact absurd (configured name (by simp [cut])) unknown
    | unreadable name service _ found used unread earlier =>
        have member := RegistrySettings.mem_inUse_iff.mpr ⟨found, used⟩
        obtain ⟨before, after, cut⟩ := List.append_of_mem member
        refine ⟨before, (name, service), after, cut, ?_, unread, rfl⟩
        rintro ⟨other, itsSettings⟩ inside
        have within : (other, itsSettings) ∈ settings.inUse.toList := by simp [cut, inside]
        obtain ⟨itsFound, itsUsed⟩ := RegistrySettings.mem_inUse_iff.mp within
        rw [cut] at increasing within
        have less := (NameMap.mem_before_iff increasing within).mp inside
        exact earlier other itsSettings less itsFound itsUsed
  · rintro ⟨before, ⟨name, service⟩, after, cut, earlier, unread, rfl⟩
    have member : (name, service) ∈ settings.inUse.toList := by simp [cut]
    obtain ⟨found, used⟩ := RegistrySettings.mem_inUse_iff.mp member
    refine .unreadable name service configured found used unread ?_
    intro other itsSettings less itsFound itsUsed
    have inside := RegistrySettings.mem_inUse_iff.mpr ⟨itsFound, itsUsed⟩
    rw [cut] at increasing inside
    exact earlier (other, itsSettings) ((NameMap.mem_before_iff increasing inside).mpr less)

/-- What is reported is the first service that cannot be used. -/
theorem ofSettings_eq_error_iff : ofSettings settings = .error fault ↔ settings.Faults fault := by
  cases missing : unconfigured? settings with
  | some name =>
      rw [ofSettings_of_unconfigured missing, faults_iff_of_unconfigured missing,
        Except.error.injEq, eq_comm]
  | none =>
      have configured := unconfigured?_eq_none_iff.mp missing
      have failed : ofSettings settings = .error fault ↔
          settings.inUse.toList.mapM setUp = .error fault := by
        rw [ofSettings_of_configured configured]
        cases settings.inUse.toList.mapM setUp <;> simp [Except.map]
      rw [failed, mapM_eq_error_iff, faults_iff_of_configured configured]
      simp only [exists_setUp_iff, setUp_eq_error_iff]

/-- The names of a registry are those of the configured services in use. -/
theorem names_of_ofSettings
    (made : ofSettings settings = .ok registry) :
    registry.names = settings.services.keys.filter settings.isRegistered := by
  rw [names, NameMap.keys, map_fst_of_setUp (ofSettings_eq_ok_iff.mp made).2, NameMap.keys,
    List.filter_map]
  rfl

/-- A registry that was made answers a name with the client for the service of that name in use.
-/
theorem get?_eq_some_iff
    (made : ofSettings settings = .ok registry)
    {name : String}
    {client : Client} :
    registry.get? name = some client ↔
      ∃ service, settings.services.get? name = some service ∧ settings.Uses name ∧
        client.IsFor name service := by
  have prepared := (ofSettings_eq_ok_iff.mp made).2
  have listed : registry.get? name = some client ↔
      Except.ok (name, client) ∈ settings.inUse.toList.map setUp := by
    rw [prepared, List.mem_map]
    constructor
    · intro found
      exact ⟨(name, client), NameMap.get?_eq_some_iff.mp found, rfl⟩
    · rintro ⟨_, member, same⟩
      obtain rfl := Except.ok.inj same
      exact NameMap.get?_eq_some_iff.mpr member
  rw [listed, List.mem_map]
  constructor
  · rintro ⟨⟨other, service⟩, member, done⟩
    obtain ⟨rfl, own⟩ := setUp_eq_ok_iff.mp done
    obtain ⟨found, used⟩ := RegistrySettings.mem_inUse_iff.mp member
    exact ⟨service, found, used, Client.ofSettings_eq_ok_iff.mp own⟩
  · rintro ⟨service, found, used, own⟩
    exact ⟨(name, service), RegistrySettings.mem_inUse_iff.mpr ⟨found, used⟩,
      setUp_eq_ok_iff.mpr ⟨rfl, Client.ofSettings_eq_ok_iff.mpr own⟩⟩

theorem serves_of_ofSettings
    (made : ofSettings settings = .ok registry) :
    registry.Serves settings where
  names := names_of_ofSettings made
  known name := by
    constructor
    · rintro ⟨client, found⟩
      obtain ⟨service, configured, used, -⟩ := (get?_eq_some_iff made).mp found
      exact ⟨⟨service, configured⟩, used⟩
    · rintro ⟨⟨service, configured⟩, used⟩
      have complete := exists_ofSettings_iff.mp ⟨registry, made⟩
      have readable := complete.readable name service configured used
      obtain ⟨client, own⟩ := (@Client.exists_ofSettings_iff name service).mpr readable
      exact ⟨client, (get?_eq_some_iff made).mpr
        ⟨service, configured, used, Client.ofSettings_eq_ok_iff.mp own⟩⟩
  own name client := get?_eq_some_iff made

/-- What is made of settings depends on the services in use only. -/
theorem ofSettings_congr (same : settings.SameInUse others) :
    ofSettings others = .ok registry ↔ ofSettings settings = .ok registry := by
  rw [ofSettings_eq_ok_iff, ofSettings_eq_ok_iff, same.configured_iff, same.inUse_eq]

/-- The name that is reported does not depend on services that are not in use. -/
theorem unconfigured?_congr
    (same : settings.SameInUse others)
    (inOrder : others.registered = settings.registered) :
    unconfigured? others = unconfigured? settings := by
  rw [unconfigured?, unconfigured?, inOrder]
  refine List.find?_congr fun name named => congrArg not (Bool.eq_iff_iff.mpr ?_)
  rw [RegistrySettings.contains_iff_configures, RegistrySettings.contains_iff_configures,
    same.configures_iff named]

/-- With the named services in the same order, the same is reported, too. -/
theorem ofSettings_congr_of_inOrder
    (same : settings.SameInUse others)
    (inOrder : others.registered = settings.registered) :
    ofSettings others = ofSettings settings := by
  have first := unconfigured?_congr same inOrder
  cases missing : unconfigured? settings with
  | some name =>
      rw [ofSettings_of_unconfigured missing, ofSettings_of_unconfigured (first.trans missing)]
  | none =>
      have configured := unconfigured?_eq_none_iff.mp missing
      rw [ofSettings_of_configured configured,
        ofSettings_of_configured (same.configured_iff.mpr configured), same.inUse_eq]

/-- There is a registry exactly if each named service is configured and the address of each service
in use can be read, and otherwise the first one where that fails is reported. The registry has one
client for each configured service in use, with the settings of this service. Settings that name
the same services, in whatever order and number, and have the same for those in use have the same
registry or none; if they name them in the same order, the same is reported, too. -/
theorem ofSettings_registers (settings : RegistrySettings) :
    (∀ name, settings.isRegistered name = true ↔ settings.Uses name) ∧
    ((∃ registry, ofSettings settings = .ok registry) ↔ settings.IsComplete) ∧
    (∀ fault, ofSettings settings = .error fault ↔ settings.Faults fault) ∧
    (∀ registry, ofSettings settings = .ok registry → registry.Serves settings) ∧
    ∀ others, settings.SameInUse others →
      (∀ registry, ofSettings others = .ok registry ↔ ofSettings settings = .ok registry) ∧
      (others.registered = settings.registered → ofSettings others = ofSettings settings) := by
  refine ⟨fun name => RegistrySettings.isRegistered_iff, exists_ofSettings_iff,
    fun fault => ofSettings_eq_error_iff, fun registry made => serves_of_ofSettings made,
    fun others same => ⟨fun registry => ofSettings_congr same, ?_⟩⟩
  exact ofSettings_congr_of_inOrder same

end Registry

namespace Sample

/-- The settings of a service in the west. -/
def west : FederationSettings := { uri := "http://west/" }

/-- Settings that name the west twice, and not the east, whose address cannot be read. -/
def westTwice : RegistrySettings where
  services := .ofList [("east", { uri := "east" }), ("west", west)]
  registered := ["west", "west"]

/-- Settings without the east. -/
def westOnly : RegistrySettings where
  services := .ofList [("west", west)]
  registered := ["west"]

/-- The east is not missed: there is a registry of the west, with and without the east. -/
theorem ofSettings_registers_west :
    westTwice.SameInUse westOnly ∧
      ∃ registry, Registry.ofSettings westTwice = .ok registry ∧
        Registry.ofSettings westOnly = .ok registry ∧
        registry.Serves westTwice ∧ registry.get? "east" = none := by
  have uses {name : String} (used : westTwice.Uses name) : name = "west" := by
    simpa [RegistrySettings.Uses, westTwice] using used
  have found : westTwice.services.get? "west" = some west := by decide +kernel
  have same : westTwice.SameInUse westOnly := by
    refine ⟨fun name => by simp [westTwice, westOnly], fun name used => ?_⟩
    obtain rfl := uses used
    decide +kernel
  have complete : westTwice.IsComplete := by
    constructor
    · intro name named
      obtain rfl := uses (.inr named)
      exact ⟨west, found⟩
    · intro name service configured used
      obtain rfl := uses used
      obtain rfl := Option.some.inj (found.symm.trans configured)
      exact Option.isSome_iff_exists.mp (by decide +kernel)
  obtain ⟨-, succeeds, -, serves, unchanged⟩ := Registry.ofSettings_registers westTwice
  obtain ⟨registry, made⟩ := succeeds.mpr complete
  refine ⟨same, registry, made, ((unchanged westOnly same).1 registry).mpr made,
    serves registry made, ?_⟩
  rw [Option.eq_none_iff_forall_ne_some]
  intro client east
  have used := (((serves registry made).known "east").mp ⟨client, east⟩).2
  exact absurd (uses used) (by decide)

end Sample
end Authority
end Delegation
