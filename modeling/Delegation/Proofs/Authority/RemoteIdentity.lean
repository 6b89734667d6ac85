import Mathlib
import Delegation.Proofs.Authority.Errands
import Delegation.Proofs.Chain.Building

/-!
# Which chain a remote identity describes

The chain that comes back for a remote identity is the chain that it was made for, with
other labels. An answer that is kept is found again for every chain with the same members,
whatever its authorities and its creation time are. So the answer describes the members of
the chain that is asked for, and all of that chain only if it was made for one with the same
authorities and creation time.
-/

namespace Delegation
namespace Chain

/-- A chain with other labels describes the chain that it comes from. -/
theorem describes_withMemberAuths
    (chain : Chain)
    (authsFor : Identity → NameSet) :
    (chain.withMemberAuths authsFor).Describes chain := by
  rw [withMemberAuths_eq]
  exact chain.describes_withMemberAuthsAt fun _ => authsFor

/-- What describes a chain describes another one with the same members exactly when the
authorities and the creation times agree, too. -/
theorem Describes.iff_of_members_eq
    {remote source chain : Chain}
    (describes : remote.Describes source)
    (members : source.members = chain.members) :
    remote.Describes chain ↔
      source.authorities = chain.authorities ∧ source.created = chain.created := by
  constructor
  · intro other
    exact ⟨describes.authorities.symm.trans other.authorities,
      describes.created.symm.trans other.created⟩
  · rintro ⟨authorities, created⟩
    refine ⟨describes.authorities.trans authorities, describes.created.trans created, ?_⟩
    rw [SameMembersButAuths, ← members]
    exact describes.members

end Chain

namespace Authority

/-- A chain is one of some chains, with given members and labels of an authority. -/
def Granted
    (asked : Chain → Prop)
    (members : List Identity)
    (remote : Chain) : Prop :=
  ∃ source set, asked source ∧ source.members = members ∧ remote = Task.withLabels source set

theorem Granted.imp
    {asked wider : Chain → Prop}
    {members : List Identity}
    {remote : Chain}
    (granted : Granted asked members remote)
    (widen : ∀ source, asked source → wider source) :
    Granted wider members remote := by
  obtain ⟨source, set, wasAsked, same, made⟩ := granted
  exact ⟨source, set, widen source wasAsked, same, made⟩

/-- A kept chain was made for one with the members of its key. -/
def KeptGranted
    (asked : Chain → Prop)
    (key : CacheKey) : CachedResponse → Nat → Prop
  | .authorizations _, _ => True
  | .remoteIdentity remote, _ => Granted asked key.members remote

/-- A task has made a chain for its errand only, and brings one that was made for some chain
with the same members. -/
def Task.Brings
    (asked : Chain → Prop)
    (errand : Errand) : Task → Prop
  | keepIdentity chain remote => ∃ set, remote = withLabels chain set
  | finished result => ∀ remote, result = .ok (.remoteIdentity remote) →
      ∃ chain, errand = .remoteIdentity chain ∧ Granted asked chain.members remote
  | _ => True

namespace Task

variable {asked : Chain → Prop} {errand : Errand} {task : Task}

theorem Brings.imp
    {wider : Chain → Prop}
    (brings : task.Brings asked errand)
    (widen : ∀ source, asked source → wider source) :
    task.Brings wider errand := by
  cases task with
  | finished result =>
      intro remote brought
      obtain ⟨chain, same, granted⟩ := brings remote brought
      exact ⟨chain, same, granted.imp widen⟩
  | _ => exact brings

theorem brings_task (errand : Errand) : errand.task.Brings asked errand := by
  cases errand <;> trivial

theorem brings_of_remoteIdentity
    {chain remote : Chain}
    (same : errand = .remoteIdentity chain)
    (granted : Granted asked chain.members remote) :
    (finished (.ok (.remoteIdentity remote))).Brings asked errand := by
  intro brought equal
  simp only [Except.ok.injEq, Product.remoteIdentity.injEq] at equal
  subst equal
  exact ⟨chain, same, granted⟩

theorem brings_withSet
    (chain : Chain)
    (set : AuthorizationSet)
    (purpose : Purpose) :
    (withSet chain set purpose).Brings asked errand := by
  cases purpose with
  | labels => simp [withSet, Brings]
  | identity => exact ⟨set, rfl⟩

/-- A step makes a chain from that of the errand, or brings a kept one. -/
theorem Brings.step
    {client : Client}
    {script : Script}
    {session : Session}
    (brings : task.Brings asked errand)
    (serves : task.Serves errand)
    (isAsked : ∀ chain, errand = .remoteIdentity chain → asked chain)
    (every : session.cache.Every (KeptGranted asked)) :
    (task.step client script session).1.Brings asked errand := by
  cases task with
  | findIdentity chain =>
      simp only [Task.step, afterIdentity]
      split
      · rename_i remote found
        obtain ⟨written, granted, -⟩ := every.get?_eq_some found
        exact brings_of_remoteIdentity serves granted
      · trivial
  | findLabels chain includeRemote purpose =>
      simp only [Task.step, afterLabels]
      split
      · exact brings_withSet chain _ purpose
      · trivial
  | askLabels chain includeRemote purpose =>
      simp only [Task.step]
      cases (session.call client script .listAuthorizations chain includeRemote
        AuthorizationSet.ofJson?).1 with
      | ok set => trivial
      | error error => simp [afterAnswer, Brings]
  | keepLabels chain includeRemote purpose set => exact brings_withSet chain set purpose
  | keepIdentity chain remote =>
      obtain ⟨set, made⟩ := brings
      exact brings_of_remoteIdentity serves ⟨chain, set, isAsked chain serves, rfl, made⟩
  | askFlush chain includeRemote =>
      simp only [Task.step]
      cases (session.call client script .flushCredentials chain includeRemote
        Acknowledgement.ofJson?).1 with
      | ok acknowledgement => trivial
      | error error => simp [afterFlush, Brings]
  | dropKept chain acknowledgement => simp [Task.step, Brings]
  | finished result => exact brings

/-- What a task with an errand puts into the cache was made for a chain that was asked for. -/
theorem Brings.keptGranted
    (brings : task.Brings asked errand)
    (serves : task.Serves errand)
    (isAsked : ∀ chain, errand = .remoteIdentity chain → asked chain)
    {key : CacheKey}
    {response : CachedResponse}
    (keeps : task.keeps? = some (key, response))
    (now : Nat) :
    KeptGranted asked key response now := by
  cases task with
  | keepLabels chain includeRemote purpose set =>
      obtain ⟨rfl, rfl⟩ := Prod.mk.inj (Option.some.inj keeps)
      trivial
  | keepIdentity chain remote =>
      obtain ⟨rfl, rfl⟩ := Prod.mk.inj (Option.some.inj keeps)
      obtain ⟨set, made⟩ := brings
      exact ⟨chain, set, isAsked chain serves, rfl, made⟩
  | _ => simp [keeps?] at keeps

end Task

namespace Desk

/-- The remote identity of a chain was asked for at a desk. -/
def WasAsked (desk : Desk) (chain : Chain) : Prop :=
  desk.Accepted (.remoteIdentity chain)

/-- All that a desk keeps and all that is under way comes from chains that were asked for. -/
structure Sound (desk : Desk) : Prop where
  kept : desk.session.cache.Every (KeptGranted desk.WasAsked)
  underWay : ∀ errand task, (errand, task) ∈ desk.errands →
    task.Serves errand ∧ task.Brings desk.WasAsked errand

theorem sound_start (client : Client) : (start client).Sound :=
  ⟨Cache.every_empty _, by simp [start]⟩

/-- What was kept and under way stays sound when the desk moves on. -/
theorem Sound.later
    {desk next : Desk}
    (sound : desk.Sound)
    (widen : ∀ source, desk.WasAsked source → next.WasAsked source) :
    desk.session.cache.Every (KeptGranted next.WasAsked) ∧
      ∀ errand task, (errand, task) ∈ desk.errands →
        task.Serves errand ∧ task.Brings next.WasAsked errand := by
  constructor
  · refine sound.kept.imp ?_
    intro key response written granted
    cases response with
    | authorizations set => trivial
    | remoteIdentity remote => exact granted.imp widen
  · intro errand task onDesk
    obtain ⟨serves, brings⟩ := sound.underWay errand task onDesk
    exact ⟨serves, brings.imp widen⟩

/-- An errand on the desk takes its next step and leaves the desk sound. -/
theorem Sound.advance
    {desk : Desk}
    (sound : desk.Sound)
    (client : Client)
    (script : Script)
    (position : Nat) :
    (desk.next client script (.advance position)).Sound := by
  have widen : ∀ source, desk.WasAsked source →
      (desk.next client script (.advance position)).WasAsked source :=
    fun source asked => asked.next client script _
  cases found : desk.errands[position]? with
  | none =>
      have unchanged : desk.next client script (.advance position) = desk := by
        simp [Desk.next, found]
      rw [unchanged]
      exact sound
  | some entry =>
      obtain ⟨errand, task⟩ := entry
      have onDesk : (errand, task) ∈ desk.errands := List.mem_of_getElem? found
      have isAsked : ∀ chain, errand = .remoteIdentity chain →
          (desk.next client script (.advance position)).WasAsked chain := by
        rintro chain rfl
        exact widen chain (List.mem_map_of_mem onDesk)
      have moved : desk.next client script (.advance position) =
          ⟨(task.step client script desk.session).2,
            desk.errands.set position (errand, (task.step client script desk.session).1)⟩ := by
        simp [Desk.next, found]
      rw [moved] at widen isAsked ⊢
      obtain ⟨kept, underWay⟩ := sound.later widen
      obtain ⟨serves, brings⟩ := underWay errand task onDesk
      constructor
      · apply Task.every_step kept
        intro key response keeps
        exact brings.keptGranted serves isAsked keeps _
      · intro other stage inside
        rcases List.mem_or_eq_of_mem_set inside with old | new
        · exact underWay other stage old
        · obtain ⟨rfl, rfl⟩ := Prod.mk.inj new
          exact ⟨serves.step client script _, brings.step serves isAsked kept⟩

/-- A move keeps a desk sound. -/
theorem Sound.next
    {desk : Desk}
    (sound : desk.Sound)
    (client : Client)
    (script : Script)
    (move : Move) :
    (desk.next client script move).Sound := by
  obtain ⟨kept, underWay⟩ := sound.later fun source (asked : desk.WasAsked source) =>
    asked.next client script move
  cases move with
  | accept errand =>
      refine ⟨kept, ?_⟩
      intro other task onDesk
      rcases List.mem_append.mp onDesk with onDesk | new
      · exact underWay other task onDesk
      · simp only [List.mem_singleton, Prod.mk.injEq] at new
        obtain ⟨rfl, rfl⟩ := new
        exact ⟨Task.serves_task other, Task.brings_task other⟩
  | advance position => exact sound.advance client script position
  | wait duration => exact ⟨kept, underWay⟩
  | lose keeps => exact ⟨kept.lose keeps, underWay⟩

theorem sound_run
    (client : Client)
    (script : Script)
    (moves : List Move) :
    (run client script moves).Sound := by
  apply List.foldlRecOn (motive := Sound) moves _ (sound_start client)
  intro desk sound move _
  exact sound.next client script move

/-- A remote identity that comes back, computed or kept, has the members of the chain that it
was asked for, but for their labels. It has the authorities and the creation time of a chain
with these members that it was made for, on this or an earlier errand; so it describes the
chain that it was asked for exactly when those agree. -/
theorem remoteIdentity_describes_iff
    (client : Client)
    (script : Script)
    (moves : List Move)
    (chain remote : Chain)
    (answered : (Errand.remoteIdentity chain, Task.finished (.ok (.remoteIdentity remote))) ∈
      (run client script moves).errands) :
    remote.SameMembersButAuths chain ∧
      ∃ source, (run client script moves).WasAsked source ∧
        source.members = chain.members ∧
        remote.Describes source ∧
        (remote.Describes chain ↔
          source.authorities = chain.authorities ∧ source.created = chain.created) := by
  obtain ⟨other, same, source, set, asked, members, made⟩ :=
    ((sound_run client script moves).underWay _ _ answered).2 remote rfl
  obtain rfl : chain = other := Errand.remoteIdentity.inj same
  have describes : remote.Describes source := by
    rw [made]
    exact source.describes_withMemberAuths _
  refine ⟨?_, source, asked, members, describes, describes.iff_of_members_eq members⟩
  rw [Chain.SameMembersButAuths, ← members]
  exact describes.members

/-- The remote identity of the sample person is asked for where some roles are required, and
then again where none are. -/
def sampleMoves : List Move :=
  [.accept (.remoteIdentity (Sample.chain Chain.defaultRequired)),
    .advance 0, .advance 0, .advance 0, .advance 0, .advance 0,
    .accept (.remoteIdentity (Sample.chain ∅)), .advance 1]

/-- The second answer is the one that was made for the first chain. -/
theorem answered_sampleMoves :
    (Errand.remoteIdentity (Sample.chain ∅),
      Task.finished (.ok (.remoteIdentity
        (Task.withLabels (Sample.chain Chain.defaultRequired) {})))) ∈
      (run Sample.client Sample.script sampleMoves).errands := by
  apply List.mem_of_getElem? (i := 1)
  decide +kernel

theorem remoteIdentity_describes_iff_sample :
    (Errand.remoteIdentity (Sample.chain ∅),
        Task.finished (.ok (.remoteIdentity
          (Task.withLabels (Sample.chain Chain.defaultRequired) {})))) ∈
        (run Sample.client Sample.script sampleMoves).errands ∧
      (Task.withLabels (Sample.chain Chain.defaultRequired) {}).SameMembersButAuths
        (Sample.chain ∅) ∧
      ∃ source, (run Sample.client Sample.script sampleMoves).WasAsked source ∧
        source.members = (Sample.chain ∅).members ∧
        (Task.withLabels (Sample.chain Chain.defaultRequired) {}).Describes source ∧
        ((Task.withLabels (Sample.chain Chain.defaultRequired) {}).Describes
            (Sample.chain ∅) ↔
          source.authorities = (Sample.chain ∅).authorities ∧
            source.created = (Sample.chain ∅).created) :=
  ⟨answered_sampleMoves,
    remoteIdentity_describes_iff Sample.client Sample.script sampleMoves _ _
      answered_sampleMoves⟩

/-- A remote identity need not describe the chain that it was asked for: the person of the
sample has an authority more where no roles are required, and the answer lacks it. -/
theorem remoteIdentity_of_other_chain :
    ¬ ∀ (client : Client) (script : Script) (moves : List Move) (chain remote : Chain),
      (Errand.remoteIdentity chain, Task.finished (.ok (.remoteIdentity remote))) ∈
          (run client script moves).errands →
        remote.Describes chain := by
  intro always
  have describes := always _ _ _ _ _ answered_sampleMoves
  have differ : (Sample.chain Chain.defaultRequired).authorities ≠
      (Sample.chain ∅).authorities := by
    decide
  exact differ describes.authorities

end Desk
end Authority
end Delegation
