import Delegation.Proofs.Authority.Calls
import Delegation.Proofs.Authority.History

/-!
# Errands from beginning to end

What an errand comes to when nothing else happens meanwhile. Labels are found among the kept
answers, or asked for and kept when they arrive. A remote identity is found or made of such
labels, and a flush drops what is kept once the authority has acknowledged it.
-/

namespace Delegation
namespace Authority

namespace Session

/-- Ask for labels after a look into the kept answers. -/
def askAnew
    (client : Client)
    (script : Script)
    (chain : Chain)
    (includeRemote : Bool)
    (session : Session) : Except CallError AuthorizationSet × Session :=
  (session.find? (Task.labelsKey chain includeRemote)).2.call client script .listAuthorizations
    chain includeRemote AuthorizationSet.ofJson?

/-- Ask the authority to forget a chain. -/
def askFlush
    (client : Client)
    (script : Script)
    (chain : Chain)
    (includeRemote : Bool)
    (session : Session) : Except CallError Acknowledgement × Session :=
  session.call client script .flushCredentials chain includeRemote Acknowledgement.ofJson?

/-- No labels are found among the kept answers. -/
def LacksLabels
    (chain : Chain)
    (includeRemote : Bool)
    (session : Session) : Prop :=
  ∀ set, (session.find? (Task.labelsKey chain includeRemote)).1 ≠ some (.authorizations set)

/-- No remote identity is found among the kept answers. -/
def LacksIdentity
    (chain : Chain)
    (session : Session) : Prop :=
  ∀ remote, (session.find? (Task.identityKey chain)).1 ≠ some (.remoteIdentity remote)

/-- How labels come to be listed, and the session after it. -/
inductive Lists
    (client : Client)
    (script : Script)
    (chain : Chain)
    (includeRemote : Bool)
    (session : Session) : Except CallError AuthorizationSet → Session → Prop
  | kept (set : AuthorizationSet) :
      (session.find? (Task.labelsKey chain includeRemote)).1 = some (.authorizations set) →
      Lists client script chain includeRemote session (.ok set)
        (session.find? (Task.labelsKey chain includeRemote)).2
  | received (set : AuthorizationSet) :
      session.LacksLabels chain includeRemote →
      (session.askAnew client script chain includeRemote).1 = .ok set →
      Lists client script chain includeRemote session (.ok set)
        ((session.askAnew client script chain includeRemote).2.keep
          (Task.labelsKey chain includeRemote) (.authorizations set))
  | failed (error : CallError) :
      session.LacksLabels chain includeRemote →
      (session.askAnew client script chain includeRemote).1 = .error error →
      Lists client script chain includeRemote session (.error error)
        (session.askAnew client script chain includeRemote).2

/-- How an errand comes to be served, and the session after it. -/
inductive Serves
    (client : Client)
    (script : Script)
    (session : Session) : Errand → Except CallError Product → Session → Prop
  | labels (chain : Chain) (includeRemote : Bool) (set : AuthorizationSet) (after : Session) :
      session.Lists client script chain includeRemote (.ok set) after →
      Serves client script session (.listLabels chain includeRemote)
        (.ok (.authorizations set)) after
  | noLabels (chain : Chain) (includeRemote : Bool) (error : CallError) (after : Session) :
      session.Lists client script chain includeRemote (.error error) after →
      Serves client script session (.listLabels chain includeRemote) (.error error) after
  | keptIdentity (chain remote : Chain) :
      (session.find? (Task.identityKey chain)).1 = some (.remoteIdentity remote) →
      Serves client script session (.remoteIdentity chain) (.ok (.remoteIdentity remote))
        (session.find? (Task.identityKey chain)).2
  | identity (chain : Chain) (set : AuthorizationSet) (after : Session) :
      session.LacksIdentity chain →
      (session.find? (Task.identityKey chain)).2.Lists client script chain true (.ok set)
        after →
      Serves client script session (.remoteIdentity chain)
        (.ok (.remoteIdentity (Task.withLabels chain set)))
        (after.keep (Task.identityKey chain) (.remoteIdentity (Task.withLabels chain set)))
  | noIdentity (chain : Chain) (error : CallError) (after : Session) :
      session.LacksIdentity chain →
      (session.find? (Task.identityKey chain)).2.Lists client script chain true (.error error)
        after →
      Serves client script session (.remoteIdentity chain) (.error error) after
  | flushed (chain : Chain) (includeRemote : Bool) (acknowledgement : Acknowledgement) :
      (session.askFlush client script chain includeRemote).1 = .ok acknowledgement →
      Serves client script session (.flush chain includeRemote)
        (.ok (.acknowledged acknowledgement))
        ((session.askFlush client script chain includeRemote).2.drop chain)
  | notFlushed (chain : Chain) (includeRemote : Bool) (error : CallError) :
      (session.askFlush client script chain includeRemote).1 = .error error →
      Serves client script session (.flush chain includeRemote) (.error error)
        (session.askFlush client script chain includeRemote).2

/-- An errand that lists labels brings what is listed. -/
theorem Serves.lists
    {client : Client}
    {script : Script}
    {session after : Session}
    {chain : Chain}
    {includeRemote : Bool}
    {result : Except CallError Product}
    (serves : session.Serves client script (.listLabels chain includeRemote) result after) :
    ∃ listed, session.Lists client script chain includeRemote listed after ∧
      result = listed.map .authorizations := by
  cases serves with
  | labels chain includeRemote set after lists => exact ⟨_, lists, rfl⟩
  | noLabels chain includeRemote error after lists => exact ⟨_, lists, rfl⟩

end Session

namespace Task

variable {client : Client} {script : Script} {session : Session} {chain : Chain}

@[simp] theorem run_finished (result : Except CallError Product) :
    (finished result).run client script session = (result, session) :=
  run_of_finished rfl

theorem afterLabels_of_lacks
    {includeRemote : Bool}
    {purpose : Purpose}
    (lacks : session.LacksLabels chain includeRemote) :
    afterLabels chain includeRemote purpose
        (session.find? (labelsKey chain includeRemote)).1 =
      askLabels chain includeRemote purpose := by
  unfold afterLabels
  split
  · rename_i set found
    exact absurd found (lacks set)
  · rfl

theorem afterIdentity_of_lacks (lacks : session.LacksIdentity chain) :
    afterIdentity chain (session.find? (identityKey chain)).1 =
      findLabels chain true .identity := by
  unfold afterIdentity
  split
  · rename_i remote found
    exact absurd found (lacks remote)
  · rfl

/-- Labels are listed for a purpose, and then serve it. -/
theorem run_findLabels
    (client : Client)
    (script : Script)
    (session : Session)
    (chain : Chain)
    (includeRemote : Bool)
    (purpose : Purpose) :
    (∃ set after,
        session.Lists client script chain includeRemote (.ok set) after ∧
          (findLabels chain includeRemote purpose).run client script session =
            (withSet chain set purpose).run client script after) ∨
      ∃ error after,
        session.Lists client script chain includeRemote (.error error) after ∧
          (findLabels chain includeRemote purpose).run client script session =
            (.error error, after) := by
  rw [run_of_unfinished rfl]
  simp only [step]
  by_cases kept : ∃ set,
      (session.find? (labelsKey chain includeRemote)).1 = some (.authorizations set)
  · obtain ⟨set, found⟩ := kept
    rw [found]
    exact .inl ⟨set, _, .kept set found, rfl⟩
  · -- Nothing is found, or an answer of another kind, which does not count.
    have lacks : session.LacksLabels chain includeRemote := fun set found => kept ⟨set, found⟩
    rw [afterLabels_of_lacks lacks, run_of_unfinished rfl]
    simp only [step]
    cases answered : (session.askAnew client script chain includeRemote).1 with
    | error error =>
        refine .inr ⟨error, _, .failed error lacks answered, ?_⟩
        rw [Session.askAnew] at answered
        rw [answered, afterAnswer, run_finished]
        rfl
    | ok set =>
        refine .inl ⟨set, _, .received set lacks answered, ?_⟩
        rw [Session.askAnew] at answered
        rw [answered, afterAnswer, run_of_unfinished rfl]
        rfl

end Task

namespace Errand

/-- Every errand is served in one of the ways in which errands can be served. -/
theorem serves_run
    (client : Client)
    (script : Script)
    (session : Session)
    (errand : Errand) :
    session.Serves client script errand (errand.task.run client script session).1
      (errand.task.run client script session).2 := by
  cases errand with
  | listLabels chain includeRemote =>
      rw [task, Task.listLabels]
      rcases Task.run_findLabels client script session chain includeRemote .labels with
        ⟨set, after, lists, run⟩ | ⟨error, after, lists, run⟩
      · rw [run, Task.withSet, Task.run_finished]
        exact .labels chain includeRemote set after lists
      · rw [run]
        exact .noLabels chain includeRemote error after lists
  | flush chain includeRemote =>
      rw [task, Task.flush, Task.run_of_unfinished rfl]
      simp only [Task.step]
      cases answered : (session.askFlush client script chain includeRemote).1 with
      | error error =>
          have ends := Session.Serves.notFlushed chain includeRemote error answered
          rw [Session.askFlush] at answered ends
          rw [answered, Task.afterFlush, Task.run_finished]
          exact ends
      | ok acknowledgement =>
          have ends := Session.Serves.flushed chain includeRemote acknowledgement answered
          rw [Session.askFlush] at answered ends
          rw [answered, Task.afterFlush, Task.run_of_unfinished rfl, Task.step, Task.run_finished]
          exact ends
  | remoteIdentity chain =>
      rw [task, Task.remoteIdentity, Task.run_of_unfinished rfl]
      simp only [Task.step]
      by_cases kept : ∃ remote,
          (session.find? (Task.identityKey chain)).1 = some (.remoteIdentity remote)
      · obtain ⟨remote, found⟩ := kept
        rw [found, Task.afterIdentity, Task.run_finished]
        exact .keptIdentity chain remote found
      · have lacks : session.LacksIdentity chain := fun remote found => kept ⟨remote, found⟩
        rw [Task.afterIdentity_of_lacks lacks]
        rcases Task.run_findLabels client script _ chain true .identity with
          ⟨set, after, lists, run⟩ | ⟨error, after, lists, run⟩
        · rw [run, Task.withSet, Task.run_of_unfinished rfl, Task.step, Task.run_finished]
          exact .identity chain set after lacks lists
        · rw [run]
          exact .noIdentity chain error after lacks lists

end Errand
end Authority
end Delegation
