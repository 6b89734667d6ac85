import Delegation.Auth.Warning
import Delegation.Settings.Security

/-!
# Gates

A gate accepts or rejects a request at one of two stages: before a chain is built, when only
the certificate is known, or after it, when the authorities of the chain are known. A list
of gates is run in its order and stops at the first rejection of the stage.
-/

namespace Delegation

/-- What a gate sees of a request. -/
structure GateView where
  /-- The pair of the client certificate. -/
  certificate : Option DnPair := none
  /-- The chain of the request. -/
  chain : Option Chain := none

/-- When a gate runs. -/
inductive GateStage
  | beforeAuthentication
  | afterAuthentication
  deriving DecidableEq

/-- A gate of requests. -/
inductive Gate
  /-- Where enforced, rejects certificates whose pair is not allowed. -/
  | allowedCallers (enforce : Bool) (allowed : List DnPair)
  /-- Rejects chains that hold a role; without a role it rejects nothing. -/
  | deniedRole (role : Option String)
  /-- Rejects what a service sees fit to reject. -/
  | custom (name : String) (stage : GateStage) (check : GateView → Audited Unit)

namespace Gate

/-- The name of a gate. -/
def name : Gate → String
  | allowedCallers .. => "allowed-callers"
  | deniedRole _ => "denied-access-role"
  | custom name .. => name

/-- The stage at which a gate runs. -/
def stage : Gate → GateStage
  | allowedCallers .. => .beforeAuthentication
  | deniedRole _ => .afterAuthentication
  | custom _ stage _ => stage

/-- The gate of a list of written pairs; the first one that cannot be read is the error. -/
def ofWrittenPairs (enforce : Bool) (allowed : List String) : Except AuthError Gate :=
  match allowed.mapM DnPair.parse with
  | .ok pairs => .ok (.allowedCallers enforce pairs)
  | .error fault => .error (.credentialsInvalid (.pair fault))

/-- The gate of a denied role; a blank role denies nothing. -/
def denying (role : Option String) : Gate :=
  .deniedRole (role.filter fun role => !Text.isBlankText role.toList)

/-- Accept or reject a request. -/
def check (gate : Gate) (view : GateView) : Audited Unit :=
  match gate with
  | allowedCallers enforce allowed =>
      match view.certificate with
      | none => .ok ()
      | some caller =>
          if !enforce || allowed.contains caller then .ok ()
          else
            .fail (.credentialsInvalid (.callerNotAllowed caller)) [.callerNotAllowed caller]
  | deniedRole none => .ok ()
  | deniedRole (some role) =>
      match view.chain with
      | none => .ok ()
      | some chain =>
          if chain.hasAuthority role then
            .fail (.credentialsInvalid (.roleDenied chain.username))
              [.roleDenied chain.username role]
          else
            .ok ()
  | custom _ _ check => check view

/-- Run gates in order up to the first rejection. -/
def checkAll (view : GateView) : List Gate → Audited Unit
  | [] => .ok ()
  | gate :: gates => (gate.check view).andThen fun _ => checkAll view gates

/-- Run the gates of one stage. -/
def runStage (stage : GateStage) (gates : List Gate) (view : GateView) : Audited Unit :=
  checkAll view (gates.filter fun gate => decide (gate.stage = stage))

/-- The gates that security settings ask for: allowed callers, then the denied role. -/
def ofSettings (settings : SecuritySettings) : Except AuthError (List Gate) :=
  match ofWrittenPairs settings.enforceAllowedCallers settings.allowedCallers with
  | .ok allowed => .ok [allowed, denying settings.deniedAccessRole]
  | .error error => .error error

end Gate
end Delegation
