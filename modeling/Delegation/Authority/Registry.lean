import Delegation.Authority.Task
import Delegation.Names.NameMap

/-!
# Registries of remote authorities

A registry holds one client for every service that is in use. A question to all of them is
put to each on its own, and the answer of one has no bearing on that of another.
-/

namespace Delegation
namespace Authority

/-- The clients of the services in use, by name. -/
structure Registry where
  /-- The clients. -/
  clients : NameMap Client
  deriving DecidableEq

namespace Registry

/-- The services in use without settings; the first one is reported. -/
def unconfigured? (settings : RegistrySettings) : Option String :=
  settings.registered.find? fun name => !settings.services.contains name

/-- Set up the client of a service. -/
def setUp (entry : String × FederationSettings) : Except SetupFault (String × Client) :=
  (Client.ofSettings entry.1 entry.2).map fun client => (entry.1, client)

/-- The registry that settings ask for: a client for every configured service in use. -/
def ofSettings (settings : RegistrySettings) : Except SetupFault Registry :=
  match unconfigured? settings with
  | some name => .error (.serviceNotConfigured name)
  | none =>
      let inUse := settings.services.toList.filter fun entry => settings.isRegistered entry.1
      (inUse.mapM setUp).map fun entries => ⟨NameMap.ofList entries⟩

/-- The client of a service. -/
def get? (name : String) (registry : Registry) : Option Client := registry.clients.get? name

/-- The names of the services in use, in order. -/
def names (registry : Registry) : List String := registry.clients.keys

/-- The number of services in use. -/
def size (registry : Registry) : Nat := registry.clients.toList.length

/-- Every client begins to work. -/
def start (registry : Registry) : NameMap Session :=
  registry.clients.mapValues fun _ client => Session.start client

/-- Ask every service for the labels of the members of a chain. -/
def listAll (registry : Registry) (scripts : String → Script) (sessions : String → Session)
    (chain : Chain) (includeRemote : Bool) :
    NameMap (Except CallError Product × Session) :=
  registry.clients.mapValues fun name client =>
    (Task.listLabels chain includeRemote).run client (scripts name) (sessions name)

end Registry
end Authority
end Delegation
