import Mathlib.Data.List.Forall2
import Delegation.Proofs.Auth.Gates

/-!
# Runs of gates

A stage lets a request through if each of its gates does, and otherwise it ends with the error of
the first gate that does not, with one warning if it is one of the gates that settings can ask for.
So neither the order of the gates nor that of the allowed callers decides what is let through.
Settings have gates exactly if the list of allowed callers is in order, and then the gates decide
what the settings say.
-/

namespace Delegation
namespace Gate

/-- A gate that settings can ask for. -/
def IsBuiltIn : Gate → Prop
  | .allowedCallers .. => True
  | .deniedRole _ => True
  | .custom .. => False

/-- A gate lets a request through. -/
def Accepts (gate : Gate) (view : GateView) : Prop :=
  (gate.check view).result = .ok ()

/-- The gates of a stage let a request through. -/
def StageAccepts (stage : GateStage) (gates : List Gate) (view : GateView) : Prop :=
  (runStage stage gates view).result = .ok ()

/-- The gates of a stage keep a request out. -/
def StageRejects (stage : GateStage) (gates : List Gate) (view : GateView) : Prop :=
  ∃ error, (runStage stage gates view).result = .error error

/-- The first gate of a stage that does not let a request through fails with an error. -/
def FirstRejects (stage : GateStage) (gates : List Gate) (view : GateView) (error : AuthError) :
    Prop :=
  ∃ before gate after, gates = before ++ gate :: after ∧
    (∀ earlier ∈ before, earlier.stage = stage → earlier.Accepts view) ∧
    gate.stage = stage ∧ (gate.check view).result = .error error

/-- Nothing happens, or there is an error and one warning. -/
def WarnsOnce (outcome : Audited Unit) : Prop :=
  outcome = .ok () ∨ ∃ error warning, outcome = .fail error [warning]

/-- The same gate, with its allowed callers in any order. -/
inductive SameButOrder : Gate → Gate → Prop
  | allowedCallers (enforce : Bool) {pairs others : List DnPair} :
      pairs.Perm others →
      SameButOrder (.allowedCallers enforce pairs) (.allowedCallers enforce others)
  | deniedRole (role : Option String) : SameButOrder (.deniedRole role) (.deniedRole role)

/-- The same gates in any order, with their allowed callers in any order. -/
def Reordered (gates others : List Gate) : Prop :=
  ∃ between, List.Forall₂ SameButOrder gates between ∧ between.Perm others

/-- How the gates of a stage are run. -/
structure RunsInOrder (stage : GateStage) (gates : List Gate) (view : GateView) : Prop where
  /-- The stage lets a request through if each of its gates does. -/
  accepts : StageAccepts stage gates view ↔
    ∀ gate ∈ gates, gate.stage = stage → gate.Accepts view
  /-- The error is that of the first gate that does not. -/
  rejects : ∀ error, (runStage stage gates view).result = .error error ↔
    FirstRejects stage gates view error
  /-- There is one warning with an error, and none without. -/
  warns : WarnsOnce (runStage stage gates view)
  /-- A gate of the other stage makes no difference. -/
  ignores : ∀ before gate after, gates = before ++ gate :: after → gate.stage ≠ stage →
    runStage stage gates view = runStage stage (before ++ after) view
  /-- The order of gates and of allowed callers makes no difference to what is let through. -/
  unordered : ∀ others, Reordered gates others →
    (StageAccepts stage others view ↔ StageAccepts stage gates view)

/-- Gates keep out what settings keep out: an unlisted caller of a certificate, where listed ones
are enforced, and a chain that holds the role that denies access. -/
structure Enforces (gates : List Gate) (settings : SecuritySettings) : Prop where
  before : ∀ view, StageRejects .beforeAuthentication gates view ↔
    ∃ caller, view.certificate = some caller ∧ settings.enforceAllowedCallers = true ∧
      ¬ settings.ListsCaller caller
  after : ∀ view, StageRejects .afterAuthentication gates view ↔
    ∃ chain role, view.chain = some chain ∧ settings.DeniesRole role ∧ role ∈ chain.authorities

variable {stage : GateStage} {gates others : List Gate} {gate other : Gate} {view : GateView}
  {settings : SecuritySettings}

/-! ## The run of a stage -/

/-- What a gate has to say at a stage. -/
def verdict (stage : GateStage) (view : GateView) (gate : Gate) : Except AuthError Unit :=
  if gate.stage = stage then (gate.check view).result else .ok ()

/-- A gate lets a view pass exactly if it accepts it or has another stage. -/
theorem verdict_eq_ok_iff :
    verdict stage view gate = .ok () ↔ (gate.stage = stage → gate.Accepts view) := by
  unfold verdict Accepts
  split <;> simp_all

theorem verdict_eq_error_iff
    {error : AuthError} :
    verdict stage view gate = .error error ↔
      gate.stage = stage ∧ (gate.check view).result = .error error := by
  unfold verdict
  split <;> simp_all

theorem exists_verdict_iff :
    (∃ value, verdict stage view gate = .ok value) ↔ (gate.stage = stage → gate.Accepts view) := by
  rw [← verdict_eq_ok_iff]
  exact ⟨fun ⟨(), said⟩ => said, fun said => ⟨(), said⟩⟩

/-- A run asks the gates one after the other and stops at the first error. -/
theorem result_runStage (stage : GateStage) (gates : List Gate) (view : GateView) :
    (runStage stage gates view).result =
      (gates.mapM (verdict stage view)).map fun _ => () := by
  -- Gates of the other stage are left out of the run, but say nothing against the request here.
  unfold runStage
  induction gates with
  | nil => rfl
  | cons gate gates inductionHypothesis =>
      rw [List.mapM_cons, List.filter_cons]
      by_cases here : gate.stage = stage
      · rw [if_pos (decide_eq_true here), checkAll, Audited.result_andThen, inductionHypothesis,
          verdict, if_pos here]
        cases (gate.check view).result <;> cases gates.mapM (verdict stage view) <;> rfl
      · rw [if_neg (by simpa using here), inductionHypothesis, verdict, if_neg here]
        cases gates.mapM (verdict stage view) <;> rfl

theorem stageAccepts_iff :
    StageAccepts stage gates view ↔ ∀ gate ∈ gates, verdict stage view gate = .ok () := by
  have read : StageAccepts stage gates view ↔
      ∃ values, gates.mapM (verdict stage view) = .ok values := by
    rw [StageAccepts, result_runStage]
    cases gates.mapM (verdict stage view) <;> simp [Except.map]
  rw [read, exists_mapM_eq_ok_iff]
  simp only [exists_verdict_iff, verdict_eq_ok_iff]

/-- A stage rejects with the error of its first gate that rejects. -/
theorem result_runStage_eq_error_iff
    {error : AuthError} :
    (runStage stage gates view).result = .error error ↔ FirstRejects stage gates view error := by
  have read : (runStage stage gates view).result = .error error ↔
      gates.mapM (verdict stage view) = .error error := by
    rw [result_runStage]
    cases gates.mapM (verdict stage view) <;> simp [Except.map]
  rw [read, mapM_eq_error_iff]
  simp only [exists_verdict_iff, verdict_eq_error_iff, FirstRejects]

/-- A gate of another stage makes no difference. -/
theorem runStage_of_other_stage
    {before after : List Gate}
    (elsewhere : gate.stage ≠ stage) :
    runStage stage (before ++ gate :: after) view = runStage stage (before ++ after) view := by
  simp [runStage, elsewhere]

/-! ## Warnings -/

/-- A gate that settings can ask for warns exactly when it rejects. -/
theorem warnsOnce_check
    (builtIn : gate.IsBuiltIn)
    (view : GateView) :
    WarnsOnce (gate.check view) := by
  cases gate with
  | allowedCallers enforce allowed =>
      simp only [check]
      split
      · exact .inl rfl
      · split
        · exact .inl rfl
        · exact .inr ⟨_, _, rfl⟩
  | deniedRole role =>
      cases role with
      | none => exact .inl rfl
      | some role =>
          simp only [check]
          split
          · exact .inl rfl
          · split
            · exact .inr ⟨_, _, rfl⟩
            · exact .inl rfl
  | custom name stage check => exact builtIn.elim

theorem warnsOnce_checkAll
    (builtIn : ∀ gate ∈ gates, gate.IsBuiltIn)
    (view : GateView) :
    WarnsOnce (checkAll view gates) := by
  induction gates with
  | nil => exact .inl rfl
  | cons gate gates inductionHypothesis =>
      obtain ⟨first, rest⟩ := List.forall_mem_cons.mp builtIn
      rcases warnsOnce_check first view with accepted | ⟨error, warning, rejected⟩
      · rw [checkAll, accepted, Audited.ok_andThen]
        exact inductionHypothesis rest
      · rw [checkAll, rejected, Audited.fail_andThen]
        exact .inr ⟨error, warning, rfl⟩

/-! ## Orders -/

/-- The order of allowed callers makes no difference at all to a gate. -/
theorem SameButOrder.check_eq
    (same : SameButOrder gate other)
    (view : GateView) :
    gate.check view = other.check view := by
  cases same with
  | @allowedCallers enforce pairs others permuted =>
      simp only [check]
      cases view.certificate with
      | none => rfl
      | some caller =>
          have listed : pairs.contains caller = others.contains caller := permuted.contains_eq
          dsimp only
          rw [listed]
  | deniedRole role => rfl

theorem SameButOrder.stage_eq (same : SameButOrder gate other) : gate.stage = other.stage := by
  cases same <;> rfl

/-- The order of the gates has no part in what a stage accepts. -/
theorem Reordered.stageAccepts_iff (reordered : Reordered gates others) :
    StageAccepts stage others view ↔ StageAccepts stage gates view := by
  obtain ⟨between, same, permuted⟩ := reordered
  -- Whether a stage accepts depends on the set of verdicts only, which both steps keep.
  have verdicts : gates.map (verdict stage view) = between.map (verdict stage view) := by
    rw [← List.forall₂_eq_eq_eq, List.forall₂_map_left_iff, List.forall₂_map_right_iff]
    refine same.imp fun gate other same => ?_
    rw [verdict, verdict, same.check_eq, same.stage_eq]
  calc StageAccepts stage others view
      ↔ ∀ said ∈ others.map (verdict stage view), said = .ok () := by
        rw [Gate.stageAccepts_iff, List.forall_mem_map]
    _ ↔ ∀ said ∈ gates.map (verdict stage view), said = .ok () := by
        simp only [verdicts, (permuted.map _).mem_iff]
    _ ↔ StageAccepts stage gates view := by
        rw [Gate.stageAccepts_iff, List.forall_mem_map]

/-- The gates that settings can ask for are run in order. -/
theorem runsInOrder
    (builtIn : ∀ gate ∈ gates, gate.IsBuiltIn)
    (stage : GateStage)
    (view : GateView) :
    RunsInOrder stage gates view where
  accepts := by simp only [stageAccepts_iff, verdict_eq_ok_iff]
  rejects _ := result_runStage_eq_error_iff
  warns := warnsOnce_checkAll (fun gate inside => builtIn gate (List.mem_of_mem_filter inside)) view
  ignores := by
    rintro before gate after rfl elsewhere
    exact runStage_of_other_stage elsewhere
  unordered _ := Reordered.stageAccepts_iff

/-! ## Gates of settings -/

theorem isWrittenPair_iff
    {text : String} :
    SecuritySettings.isWrittenPair text = true ↔ ∃ pair, DnPair.parse text = .ok pair := by
  unfold SecuritySettings.isWrittenPair
  cases DnPair.parse text <;> simp

theorem forall_problems_iff :
    (∀ problem ∈ settings.problems, problem.rule ≠ .allowedCallerFormat) ↔
      ∀ text ∈ settings.allowedCallers, SecuritySettings.isWrittenPair text = true := by
  rw [← List.all_eq_true]
  unfold SecuritySettings.problems Settings.Problem.check
  cases settings.allowedCallers.all SecuritySettings.isWrittenPair <;>
    cases settings.requiredRoles.isEmpty <;> simp

/-- Settings have their gates exactly if nothing is wrong with the list of allowed callers. -/
theorem exists_ofSettings_iff :
    (∃ gates, ofSettings settings = .ok gates) ↔
      ∀ problem ∈ settings.problems, problem.rule ≠ .allowedCallerFormat := by
  have read : (∃ gates, ofSettings settings = .ok gates) ↔
      ∃ pairs, settings.allowedCallers.mapM DnPair.parse = .ok pairs := by
    simp only [ofSettings_eq_ok]
    exact ⟨fun ⟨_, pairs, read, _⟩ => ⟨pairs, read⟩, fun ⟨pairs, read⟩ => ⟨_, pairs, read, rfl⟩⟩
  rw [read, exists_mapM_eq_ok_iff, forall_problems_iff]
  exact forall₂_congr fun _ _ => isWrittenPair_iff.symm

theorem isBuiltIn_of_ofSettings
    (made : ofSettings settings = .ok gates) :
    ∀ gate ∈ gates, gate.IsBuiltIn := by
  obtain ⟨pairs, -, rfl⟩ := ofSettings_eq_ok.mp made
  simp [IsBuiltIn, denying]

/-- The list of allowed callers may be written in any order. -/
theorem reordered_of_perm
    {texts : List String}
    (made : ofSettings settings = .ok gates)
    (permuted : settings.allowedCallers.Perm texts) :
    ∃ others, ofSettings { settings with allowedCallers := texts } = .ok others ∧
      Reordered gates others := by
  obtain ⟨pairs, read, rfl⟩ := ofSettings_eq_ok.mp made
  obtain ⟨otherPairs, otherRead, same⟩ := exists_mapM_eq_ok_of_perm permuted read
  refine ⟨_, ofSettings_eq_ok.mpr ⟨otherPairs, otherRead, rfl⟩, _, ?_, .refl _⟩
  exact .cons (.allowedCallers _ same) (.cons (.deniedRole _) .nil)

theorem stageRejects_of_eq_fail
    {error : AuthError}
    {warnings : List Warning}
    (stops : runStage stage gates view = .fail error warnings) :
    StageRejects stage gates view :=
  ⟨error, by rw [stops, Audited.result_fail]⟩

theorem not_stageRejects_of_eq_ok
    (passes : runStage stage gates view = .ok ()) :
    ¬ StageRejects stage gates view := by
  rintro ⟨error, stops⟩
  rw [passes, Audited.result_ok] at stops
  nomatch stops

/-- Without a chain there is no role that could deny access. -/
theorem runStage_afterAuthentication_of_none
    (made : ofSettings settings = .ok gates)
    (certificate : Option DnPair) :
    runStage .afterAuthentication gates ⟨certificate, none⟩ = .ok () := by
  obtain ⟨pairs, -, rfl⟩ := ofSettings_eq_ok.mp made
  rw [runStage_of_filter (denying settings.deniedAccessRole)]
  · unfold denying check
    cases settings.deniedAccessRole.filter fun role => !Text.isBlankText role.toList <;> rfl
  · simp [Gate.stage, denying]

/-- The gates of settings keep out what the settings keep out. -/
theorem enforces_of_ofSettings
    (made : ofSettings settings = .ok gates) :
    Enforces gates settings where
  before := by
    rintro ⟨certificate, presented⟩
    rcases runStage_beforeAuthentication made certificate presented with
      ⟨admitted, passes⟩ | ⟨caller, rfl, enforced, unlisted, stops⟩
    · refine iff_of_false (not_stageRejects_of_eq_ok passes) ?_
      rintro ⟨caller, shown, enforced, unlisted⟩
      exact unlisted (admitted enforced caller shown)
    · exact iff_of_true (stageRejects_of_eq_fail stops) ⟨caller, rfl, enforced, unlisted⟩
  after := by
    rintro ⟨certificate, presented⟩
    cases presented with
    | none =>
        have passes := runStage_afterAuthentication_of_none made certificate
        refine iff_of_false (not_stageRejects_of_eq_ok passes) ?_
        rintro ⟨chain, role, absent, -⟩
        nomatch absent
    | some chain =>
        rcases runStage_afterAuthentication made certificate chain with
          ⟨admitted, passes⟩ | ⟨role, denies, held, stops⟩
        · refine iff_of_false (not_stageRejects_of_eq_ok passes) ?_
          rintro ⟨other, role, same, denies, held⟩
          obtain rfl : chain = other := Option.some.inj same
          exact admitted role denies held
        · exact iff_of_true (stageRejects_of_eq_fail stops) ⟨chain, role, rfl, denies, held⟩

/-- Settings have gates exactly if the list of allowed callers is in order, and the gates keep out
what the settings say, however that list is ordered. Gates that settings can ask for, in any number
and order, are run stage by stage up to the first rejection, which comes with one warning; their
order and that of the allowed callers make no difference to what is let through. -/
theorem gates_decide_as_configured :
    (∀ settings,
      ((∃ gates, ofSettings settings = .ok gates) ↔
        ∀ problem ∈ settings.problems, problem.rule ≠ .allowedCallerFormat) ∧
      ∀ gates, ofSettings settings = .ok gates →
        Enforces gates settings ∧ (∀ gate ∈ gates, gate.IsBuiltIn) ∧
        ∀ texts, settings.allowedCallers.Perm texts →
          ∃ others, ofSettings { settings with allowedCallers := texts } = .ok others ∧
            Reordered gates others) ∧
    ∀ gates : List Gate, (∀ gate ∈ gates, gate.IsBuiltIn) →
      ∀ stage view, RunsInOrder stage gates view := by
  constructor
  · intro settings
    refine ⟨exists_ofSettings_iff, fun gates made => ?_⟩
    exact ⟨enforces_of_ofSettings made, isBuiltIn_of_ofSettings made,
      fun texts permuted => reordered_of_perm made permuted⟩
  · intro gates builtIn stage view
    exact runsInOrder builtIn stage view

/-- Settings that list two callers, one of them with blanks, and deny guests. -/
def guestless : SecuritySettings :=
  { allowedCallers := ["cn=proxy<cn=ca>", " CN=Server 2, ou=nova <cn=ca>"]
    deniedAccessRole := some "Guest" }

/-- The gates of these settings may be asked twice and in both orders. -/
theorem gates_decide_as_configured_guestless :
    ∃ gates, ofSettings guestless = .ok gates ∧ Enforces gates guestless ∧
      ∀ stage view, RunsInOrder stage (gates ++ gates.reverse) view := by
  obtain ⟨configured, ordered⟩ := gates_decide_as_configured
  obtain ⟨succeeds, decides⟩ := configured guestless
  obtain ⟨gates, made⟩ := succeeds.mpr (by decide +kernel)
  obtain ⟨enforces, builtIn, -⟩ := decides gates made
  refine ⟨gates, made, enforces, ordered (gates ++ gates.reverse) fun gate inside => ?_⟩
  exact builtIn gate (by simpa using inside)

end Gate
end Delegation
