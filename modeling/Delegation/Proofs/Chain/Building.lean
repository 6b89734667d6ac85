import Delegation.Proofs.Basic
import Delegation.Proofs.Chain.Authorities

/-!
# Chains from chains

Chains are built from members, from a chain and one more principal, and from a chain and other
labels for its members. What a chain keeps beside its members always follows from them, from the
roles that were required and from the time of creation that was given when its members were last
gathered. Other labels change nothing of that. No step changes the chains that are there already.
-/

namespace Delegation

/-- What a principal is, apart from its labels. -/
def Identity.unlabelled (identity : Identity) : DnPair × PrincipalType × NameSet × Int :=
  (identity.dn, identity.type, identity.roles, identity.created)

namespace Chain

/-! Primary identity, authorities and time of creation do not depend on labels. -/

section Labels

variable {first second : List Identity}

theorem map_congr_of_unlabelled
    {α : Type}
    (same : first.map Identity.unlabelled = second.map Identity.unlabelled)
    (view : DnPair × PrincipalType × NameSet × Int → α) :
    first.map (fun member => view member.unlabelled) =
      second.map fun member => view member.unlabelled := by
  simpa [Function.comp_def] using congrArg (List.map view) same

theorem primaryPosition?_of_unlabelled
    (same : first.map Identity.unlabelled = second.map Identity.unlabelled) :
    primaryPosition? first = primaryPosition? second :=
  primaryPosition?_congr
    (map_congr_of_unlabelled same fun (_, type, _, _) => decide (type = PrincipalType.user))

theorem earliestCreation?_of_unlabelled
    (same : first.map Identity.unlabelled = second.map Identity.unlabelled) :
    earliestCreation? first = earliestCreation? second :=
  congrArg List.min? (map_congr_of_unlabelled same fun (_, _, _, created) => created)

/-- The authorities of members are a view of their roles and the position of the primary one. -/
theorem deriveAuthorities?_eq
    (members : List Identity)
    (required : NameSet) :
    deriveAuthorities? members required =
      ((primaryPosition? members).bind fun position => (members.map (·.roles))[position]?).map
        fun roles => roles.filter fun role =>
          (members.map (·.roles)).any (·.isDisjoint required) || decide (role ∉ required) := by
  unfold deriveAuthorities? primary?
  cases primaryPosition? members with
  | none => rfl
  | some position =>
      simp [isIncomplete, Function.comp_def]

/-- The labels of members have no part in the authorities of a chain. -/
theorem deriveAuthorities?_of_unlabelled
    (same : first.map Identity.unlabelled = second.map Identity.unlabelled)
    (required : NameSet) :
    deriveAuthorities? first required = deriveAuthorities? second required := by
  have roles : first.map (·.roles) = second.map (·.roles) :=
    map_congr_of_unlabelled same fun (_, _, roles, _) => roles
  rw [deriveAuthorities?_eq, deriveAuthorities?_eq, roles, primaryPosition?_of_unlabelled same]

end Labels

/-- The members of two chains are the same, one by one, but for their labels. -/
def SameMembersButAuths (first second : Chain) : Prop :=
  first.members.map Identity.unlabelled = second.members.map Identity.unlabelled

/-- A chain describes another one: only the labels of its members may differ. -/
structure Describes (remote chain : Chain) : Prop where
  authorities : remote.authorities = chain.authorities
  created : remote.created = chain.created
  members : remote.SameMembersButAuths chain

/-- A chain with other labels describes the chain that it comes from. -/
theorem describes_withMemberAuthsAt
    (chain : Chain)
    (authsFor : Nat → Identity → NameSet) :
    (chain.withMemberAuthsAt authsFor).Describes chain where
  authorities := rfl
  created := rfl
  members := by
    rw [SameMembersButAuths, members_withMemberAuthsAt]
    apply map_mapIdx_of_eq
    intro place member
    rfl

/-- A chain together with the required roles and the time of creation that were given when its
members were last gathered. -/
structure Made where
  chain : Chain
  required : NameSet
  stated : Option Int

/-- A chain has members, and what else it keeps follows from them and from what was given. -/
structure Made.Sound (made : Made) : Prop where
  filled : made.chain.members ≠ []
  position : primaryPosition? made.chain.members = some made.chain.position
  authorities :
    deriveAuthorities? made.chain.members made.required = some made.chain.authorities
  /-- A given time of creation is the chain's. -/
  stated : ∀ time, made.stated = some time → made.chain.created = time
  /-- Where no time is given, it is the one of a member, and no member was created before. -/
  earliest : made.stated = none →
    (∃ member ∈ made.chain.members, member.created = made.chain.created) ∧
      ∀ member ∈ made.chain.members, made.chain.created ≤ member.created

theorem Made.sound_of_create
    {required : NameSet}
    {members : List Identity}
    {stated : Option Int}
    {chain : Chain}
    (built : create required members stated = .ok chain) :
    Made.Sound ⟨chain, required, stated⟩ where
  filled := chain.members_ne_nil
  position := chain.position_primary
  authorities := deriveAuthorities?_of_create built
  stated time given := by
    obtain rfl : stated = some time := given
    exact (create_eq_ok.mp built).2.2
  earliest ungiven := by
    obtain rfl : stated = none := ungiven
    obtain ⟨same, -, created⟩ := create_eq_ok.mp built
    obtain ⟨earliest, found⟩ := exists_earliestCreation? chain.members_ne_nil
    rw [← same, found] at created
    rw [← earliestCreation?_eq_some_iff, found]
    exact congrArg some created.symm

/-- What a chain keeps beside its members still follows from them after other labels. -/
theorem Made.Sound.withMemberAuthsAt
    {made : Made}
    (sound : made.Sound)
    (authsFor : Nat → Identity → NameSet) :
    Made.Sound { made with chain := made.chain.withMemberAuthsAt authsFor } where
  filled := members_ne_nil _
  position := position_primary _
  authorities := by
    rw [deriveAuthorities?_of_unlabelled (made.chain.describes_withMemberAuthsAt _).members]
    exact sound.authorities
  stated := sound.stated
  earliest ungiven := by
    rw [← earliestCreation?_eq_some_iff,
      earliestCreation?_of_unlabelled (made.chain.describes_withMemberAuthsAt _).members]
    exact earliestCreation?_eq_some_iff.mpr (sound.earliest ungiven)

/-! ## Steps and runs -/

/-- One way to get a chain, from nothing or from a chain that was made before. -/
inductive Step
  /-- Gather members. -/
  | create (required : NameSet) (members : List Identity) (stated : Option Int)
  /-- Gather the members of a chain and one more principal. -/
  | append (required : NameSet) (source : Nat) (hop : Identity)
  /-- Give other labels to the members of a chain, one after the other. -/
  | relabel (source : Nat) (authsFor : Nat → Identity → NameSet)

/-- The chain that a step makes of the ones that are there. -/
def Step.make? (made : List Made) : Step → Option Made
  | create required members stated =>
      (Chain.create required members stated).toOption.map (⟨·, required, stated⟩)
  | append required source hop =>
      made[source]?.bind fun origin =>
        (origin.chain.append required hop).toOption.map (⟨·, required, none⟩)
  | relabel source authsFor =>
      made[source]?.map fun origin =>
        { origin with chain := origin.chain.withMemberAuthsAt authsFor }

/-- A new chain is put behind the others. -/
def next (made : List Made) (step : Step) : List Made :=
  made ++ (step.make? made).toList

/-- All chains that come of some steps. -/
def run (steps : List Step) : List Made :=
  steps.foldl next []

theorem run_concat
    (steps : List Step)
    (step : Step) :
    run (steps ++ [step]) = next (run steps) step :=
  List.foldl_append

variable {made : List Made}

/-- What a step makes of sound chains is sound. -/
theorem Step.sound_of_make?
    {step : Step}
    {new : Made}
    (sound : ∀ old ∈ made, old.Sound)
    (makes : step.make? made = some new) :
    new.Sound := by
  cases step with
  | create required members stated =>
      simp only [make?, Option.map_eq_some_iff, toOption_eq_some_iff] at makes
      obtain ⟨chain, built, rfl⟩ := makes
      exact Made.sound_of_create built
  | append required source hop =>
      simp only [make?, Option.bind_eq_some_iff, Option.map_eq_some_iff,
        toOption_eq_some_iff] at makes
      obtain ⟨origin, -, chain, built, rfl⟩ := makes
      exact Made.sound_of_create built
  | relabel source authsFor =>
      simp only [make?, Option.map_eq_some_iff] at makes
      obtain ⟨origin, found, rfl⟩ := makes
      exact (sound origin (List.mem_of_getElem? found)).withMemberAuthsAt authsFor

/-- A step makes sound chains only, out of sound ones. -/
theorem sound_next
    (sound : ∀ old ∈ made, old.Sound)
    (step : Step) :
    ∀ new ∈ next made step, new.Sound := by
  intro new member
  rcases List.mem_append.mp member with old | made
  · exact sound new old
  · exact step.sound_of_make? sound (Option.mem_toList.mp made)

theorem sound_foldl_next
    (sound : ∀ old ∈ made, old.Sound)
    (steps : List Step) :
    ∀ new ∈ steps.foldl next made, new.Sound := by
  induction steps generalizing made with
  | nil => exact sound
  | cons step steps inductionHypothesis => exact inductionHypothesis (sound_next sound step)

theorem create_nil
    (required : NameSet)
    (stated : Option Int) :
    create required [] stated = .error .emptyChain := rfl

/-- A chain is built of a chain and one more principal, always. -/
theorem exists_append_eq_ok
    (required : NameSet)
    (chain : Chain)
    (hop : Identity) :
    ∃ longer, chain.append required hop = .ok longer ∧
      longer.members = chain.members ++ [hop] := by
  obtain ⟨longer, built⟩ :=
    exists_create_eq_ok (List.concat_ne_nil hop chain.members) required none
  exact ⟨longer, built, (create_eq_ok.mp built).1⟩

/-- After any steps every chain is sound. One more step leaves all chains as they are and adds the
one that it is meant to make: a chain of the given members, where there are any, a chain with one
more member at its end, or a chain that differs from its source in the labels of members only. -/
theorem run_keeps_sound (steps : List Step) :
    (∀ made ∈ run steps, made.Sound) ∧
    (∀ required members stated,
      if members = [] then
        run (steps ++ [.create required members stated]) = run steps
      else
        ∃ chain, chain.members = members ∧
          run (steps ++ [.create required members stated]) =
            run steps ++ [⟨chain, required, stated⟩]) ∧
    ∀ source origin, (run steps)[source]? = some origin →
      (∀ required hop, ∃ chain, chain.members = origin.chain.members ++ [hop] ∧
        run (steps ++ [.append required source hop]) =
          run steps ++ [⟨chain, required, none⟩]) ∧
      ∀ authsFor, ∃ chain, chain.Describes origin.chain ∧
        chain.position = origin.chain.position ∧
        (∀ place, (chain.members[place]?).map (·.auths) =
          (origin.chain.members[place]?).map (authsFor place)) ∧
        run (steps ++ [.relabel source authsFor]) =
          run steps ++ [⟨chain, origin.required, origin.stated⟩] := by
  simp only [run_concat]
  refine ⟨sound_foldl_next (List.forall_mem_nil _) steps, ?_, ?_⟩
  · intro required members stated
    split
    · rename_i empty
      rw [next, Step.make?, empty, create_nil]
      exact List.append_nil _
    · rename_i filled
      obtain ⟨chain, built⟩ := exists_create_eq_ok filled required stated
      refine ⟨chain, (create_eq_ok.mp built).1, ?_⟩
      simp [next, Step.make?, built, Except.toOption]
  · intro source origin found
    constructor
    · intro required hop
      obtain ⟨chain, built, members⟩ := exists_append_eq_ok required origin.chain hop
      refine ⟨chain, members, ?_⟩
      simp [next, Step.make?, found, built, Except.toOption]
    · intro authsFor
      refine ⟨_, origin.chain.describes_withMemberAuthsAt authsFor, rfl, ?_, ?_⟩
      · intro place
        simp [Function.comp_def]
      · simp [next, Step.make?, found]

end Chain
end Delegation
