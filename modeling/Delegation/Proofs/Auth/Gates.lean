import Delegation.Auth.Gate
import Delegation.Proofs.Auth.Directory
import Delegation.Proofs.Auth.Extraction

/-!
# What gates let through

The gates of security settings ask one question each: is the caller of a certificate among the
listed ones, where that is enforced, and does a chain hold the role that denies access, unless
that role is blank. A request passes a stage when the question of that stage is answered well, and
otherwise the error names the caller or the chain.
-/

namespace Delegation

namespace SecuritySettings

/-- A pair is written on the list of allowed callers. -/
def ListsCaller
    (settings : SecuritySettings)
    (caller : DnPair) : Prop :=
  ∃ entry ∈ settings.allowedCallers, DnPair.parse entry = .ok caller

/-- The caller of a certificate, if there is one, is listed where that is enforced. -/
def AdmitsCaller
    (settings : SecuritySettings)
    (certificate : Option DnPair) : Prop :=
  settings.enforceAllowedCallers = true →
    ∀ caller, certificate = some caller → settings.ListsCaller caller

/-- A request without a certificate has no caller that could be refused. -/
theorem admitsCaller_none (settings : SecuritySettings) : settings.AdmitsCaller none := by
  intro _ caller absent
  exact absurd absent (Option.some_ne_none caller).symm

/-- A role denies access. -/
def DeniesRole
    (settings : SecuritySettings)
    (role : String) : Prop :=
  settings.deniedAccessRole = some role ∧ Text.isBlankText role.toList = false

/-- A chain holds no role that denies access. -/
def AdmitsChain
    (settings : SecuritySettings)
    (chain : Chain) : Prop :=
  ∀ role, settings.DeniesRole role → role ∉ chain.authorities

end SecuritySettings

namespace Gate

variable {settings : SecuritySettings} {gates : List Gate} {chain : Chain}
variable {certificate : Option DnPair}

/-- Settings have their gates exactly when all listed callers can be read. -/
theorem ofSettings_eq_ok :
    ofSettings settings = .ok gates ↔
      ∃ pairs, settings.allowedCallers.mapM DnPair.parse = .ok pairs ∧
        gates = [.allowedCallers settings.enforceAllowedCallers pairs,
          denying settings.deniedAccessRole] := by
  unfold ofSettings ofWrittenPairs
  cases settings.allowedCallers.mapM DnPair.parse with
  | error fault => simp
  | ok pairs => simp [eq_comm]

variable {pairs : List DnPair}

theorem mem_iff_listsCaller
    (read : settings.allowedCallers.mapM DnPair.parse = .ok pairs)
    {caller : DnPair} :
    caller ∈ pairs ↔ settings.ListsCaller caller := by
  have same := mapM_eq_ok_iff.mp read
  have listed : caller ∈ pairs ↔ Except.ok caller ∈ settings.allowedCallers.map DnPair.parse := by
    rw [same]
    simp
  rw [listed, List.mem_map]
  rfl

/-- A stage with one gate is the check of this gate. -/
theorem runStage_of_filter
    {stage : GateStage}
    (gate : Gate)
    (only : (gates.filter fun gate => decide (gate.stage = stage)) = [gate])
    (view : GateView) :
    runStage stage gates view = gate.check view := by
  rw [runStage, only, checkAll, checkAll]
  unfold Audited.andThen
  cases gate.check view with
  | mk result warnings => cases result <;> simp [Audited.ok]

/-- Callers are let through when they are listed or need not be. -/
theorem check_allowedCallers
    (read : settings.allowedCallers.mapM DnPair.parse = .ok pairs)
    (certificate : Option DnPair)
    (presented : Option Chain) :
    (settings.AdmitsCaller certificate ∧
        (allowedCallers settings.enforceAllowedCallers pairs).check ⟨certificate, presented⟩ =
          .ok ()) ∨
      ∃ caller, certificate = some caller ∧ settings.enforceAllowedCallers = true ∧
        ¬ settings.ListsCaller caller ∧
        (allowedCallers settings.enforceAllowedCallers pairs).check ⟨certificate, presented⟩ =
          .fail (.credentialsInvalid (.callerNotAllowed caller)) [.callerNotAllowed caller] := by
  simp only [SecuritySettings.AdmitsCaller, ← mem_iff_listsCaller read]
  cases certificate with
  | none => exact .inl (by simp [check])
  | some caller =>
      cases settings.enforceAllowedCallers with
      | false => exact .inl (by simp [check])
      | true =>
          by_cases listed : caller ∈ pairs
          · exact .inl (by simp [check, listed])
          · exact .inr ⟨caller, rfl, rfl, listed, by simp [check, listed]⟩

/-- Chains are let through when they do not hold the role that denies access. -/
theorem check_denying
    (settings : SecuritySettings)
    (certificate : Option DnPair)
    (chain : Chain) :
    (settings.AdmitsChain chain ∧
        (denying settings.deniedAccessRole).check ⟨certificate, some chain⟩ = .ok ()) ∨
      ∃ role, settings.DeniesRole role ∧ role ∈ chain.authorities ∧
        (denying settings.deniedAccessRole).check ⟨certificate, some chain⟩ =
          .fail (.credentialsInvalid (.roleDenied chain.username))
            [.roleDenied chain.username role] := by
  unfold SecuritySettings.AdmitsChain SecuritySettings.DeniesRole denying
  cases settings.deniedAccessRole with
  | none => exact .inl (by simp [check])
  | some role =>
      cases blank : Text.isBlankText role.toList with
      | true => exact .inl (by simp [check, blank, Option.filter])
      | false =>
          by_cases held : role ∈ chain.authorities
          · refine .inr ⟨role, ⟨rfl, blank⟩, held, ?_⟩
            simp [check, blank, held, Option.filter, Chain.hasAuthority]
          · exact .inl (by simp [check, blank, held, Option.filter, Chain.hasAuthority])

/-- Before authentication, the gates ask for the caller of the certificate, whatever chain there
is. -/
theorem runStage_beforeAuthentication
    (made : ofSettings settings = .ok gates)
    (certificate : Option DnPair)
    (presented : Option Chain) :
    (settings.AdmitsCaller certificate ∧
        runStage .beforeAuthentication gates ⟨certificate, presented⟩ = .ok ()) ∨
      ∃ caller, certificate = some caller ∧ settings.enforceAllowedCallers = true ∧
        ¬ settings.ListsCaller caller ∧
        runStage .beforeAuthentication gates ⟨certificate, presented⟩ =
          .fail (.credentialsInvalid (.callerNotAllowed caller)) [.callerNotAllowed caller] := by
  obtain ⟨pairs, read, rfl⟩ := ofSettings_eq_ok.mp made
  rw [runStage_of_filter (allowedCallers settings.enforceAllowedCallers pairs)]
  · exact check_allowedCallers read certificate presented
  · simp [stage, denying]

/-- After authentication, the gates ask for the authorities of the chain. -/
theorem runStage_afterAuthentication
    (made : ofSettings settings = .ok gates)
    (certificate : Option DnPair)
    (chain : Chain) :
    (settings.AdmitsChain chain ∧
        runStage .afterAuthentication gates ⟨certificate, some chain⟩ = .ok ()) ∨
      ∃ role, settings.DeniesRole role ∧ role ∈ chain.authorities ∧
        runStage .afterAuthentication gates ⟨certificate, some chain⟩ =
          .fail (.credentialsInvalid (.roleDenied chain.username))
            [.roleDenied chain.username role] := by
  obtain ⟨pairs, read, rfl⟩ := ofSettings_eq_ok.mp made
  rw [runStage_of_filter (denying settings.deniedAccessRole)]
  · exact check_denying settings certificate chain
  · simp [stage, denying]

end Gate
end Delegation
