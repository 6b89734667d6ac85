import Mathlib
import Delegation.Proofs.Authority.History

/-!
# How old answers are

Labels are given out at most one life of the cache after they have arrived. A chain with
labels may be made of labels that are about to go, and is then kept for a life of its own:
what it tells may be nearly two lives old.
-/

namespace Delegation
namespace Authority

/-- Labels for members and a scope have arrived by a time, at most a span before it. -/
def ReceivedWithin
    (span time : Nat)
    (received : List Receipt)
    (members : List Identity)
    (includeRemote : Bool)
    (set : AuthorizationSet) : Prop :=
  ∃ receipt ∈ received, receipt.For members includeRemote ∧ receipt.set = set ∧
    receipt.time ≤ time ∧ time ≤ receipt.time + span

/-- A chain is one with given members and labels that have arrived by a time, at most a span
before it. -/
def MadeWithin
    (span time : Nat)
    (received : List Receipt)
    (members : List Identity)
    (remote : Chain) : Prop :=
  ∃ source set, source.members = members ∧ remote = Task.withLabels source set ∧
    ReceivedWithin span time received members true set

/-- A kept answer was written by now; labels at the time of their arrival, a chain at most a
life after the arrival of its labels. -/
def KeptReceived
    (life now : Nat)
    (received : List Receipt)
    (key : CacheKey)
    (response : CachedResponse)
    (written : Nat) : Prop :=
  written ≤ now ∧
    match response with
    | .authorizations set =>
        ReceivedWithin 0 written received key.members key.includeRemote set
    | .remoteIdentity remote => MadeWithin life written received key.members remote

/-- The age of what an errand brings: labels are at most a life old, and a chain was made at
most a life ago of labels that were then at most a life old. -/
structure Recent
    (life now : Nat)
    (received : List Receipt)
    (errand : Errand)
    (result : Except CallError Product) : Prop where
  labels : ∀ chain includeRemote set, errand = .listLabels chain includeRemote →
    result = .ok (.authorizations set) →
      ReceivedWithin life now received chain.members includeRemote set
  identity : ∀ chain remote, errand = .remoteIdentity chain →
    result = .ok (.remoteIdentity remote) →
      ∃ made, made ≤ now ∧ now ≤ made + life ∧
        MadeWithin life made received chain.members remote

/-- What a task has in hand is recent. -/
def Task.HoldsRecent
    (life now : Nat)
    (received : List Receipt)
    (errand : Errand) : Task → Prop
  | keepLabels chain includeRemote _ set =>
      ReceivedWithin 0 now received chain.members includeRemote set
  | keepIdentity chain remote => MadeWithin life now received chain.members remote
  | finished result => Recent life now received errand result
  | _ => True

/-- The kept answers of a session live as long as they may, and are recent. -/
structure Session.KeepsRecent
    (life : Nat)
    (received : List Receipt)
    (session : Session) : Prop where
  bound : session.cache.limits.life.nanos = life
  kept : session.cache.Every (KeptReceived life session.now received)

/-- A task works for an errand, and all that is kept and in hand is recent. -/
structure Task.IsFresh
    (life : Nat)
    (errand : Errand)
    (task : Task)
    (session : Session)
    (received : List Receipt) : Prop where
  keeps : session.KeepsRecent life received
  serves : task.Serves errand
  holds : task.HoldsRecent life session.now received errand

section Growth

variable {life span time now : Nat} {received : List Receipt}
variable {members : List Identity} {includeRemote : Bool} {set : AuthorizationSet}

theorem ReceivedWithin.append
    (within : ReceivedWithin span time received members includeRemote set)
    (more : List Receipt) :
    ReceivedWithin span time (received ++ more) members includeRemote set := by
  obtain ⟨receipt, old, rest⟩ := within
  exact ⟨receipt, List.mem_append_left _ old, rest⟩

/-- Labels that have just arrived are within a span at any time of it. -/
theorem ReceivedWithin.later
    (within : ReceivedWithin 0 time received members includeRemote set)
    (after : time ≤ now)
    (soon : now ≤ time + span) :
    ReceivedWithin span now received members includeRemote set := by
  obtain ⟨receipt, old, asked, same, arrived, recent⟩ := within
  exact ⟨receipt, old, asked, same, by omega, by omega⟩

theorem MadeWithin.append
    {remote : Chain}
    (made : MadeWithin span time received members remote)
    (more : List Receipt) :
    MadeWithin span time (received ++ more) members remote := by
  obtain ⟨source, set, same, equal, within⟩ := made
  exact ⟨source, set, same, equal, within.append more⟩

/-- What is kept stays traced when time passes and further labels arrive. -/
theorem KeptReceived.append
    {key : CacheKey}
    {response : CachedResponse}
    {written later : Nat}
    (kept : KeptReceived life now received key response written)
    (after : now ≤ later)
    (more : List Receipt) :
    KeptReceived life later (received ++ more) key response written := by
  obtain ⟨before, kept⟩ := kept
  refine ⟨Nat.le_trans before after, ?_⟩
  cases response with
  | authorizations set => exact ReceivedWithin.append kept more
  | remoteIdentity remote => exact MadeWithin.append kept more

theorem Session.keepsRecent_start (client : Client) :
    (Session.start client).KeepsRecent client.cacheLimits.life.nanos received :=
  ⟨rfl, Cache.every_empty _⟩

/-- A pause makes kept answers older, and still no older than they may be. -/
theorem Session.KeepsRecent.wait
    {session : Session}
    (keeps : session.KeepsRecent life received)
    (duration : Duration) :
    (session.wait duration).KeepsRecent life received := by
  refine ⟨keeps.bound, keeps.kept.imp ?_⟩
  intro key response written traced
  have older := traced.append (Nat.le_add_right session.now duration.nanos) []
  rw [List.append_nil] at older
  exact older

end Growth

namespace Task

variable {life : Nat} {received : List Receipt} {errand : Errand}
variable {client : Client} {script : Script} {session : Session} {task : Task}

theorem holdsRecent_task (now : Nat) (errand : Errand) :
    errand.task.HoldsRecent life now received errand := by
  cases errand <;> trivial

/-- Recent labels serve either purpose. -/
theorem holdsRecent_withSet
    {now : Nat}
    {chain : Chain}
    {includeRemote : Bool}
    {purpose : Purpose}
    {set : AuthorizationSet}
    (asks : purpose.Asks errand chain includeRemote)
    (within : ReceivedWithin life now received chain.members includeRemote set) :
    (withSet chain set purpose).HoldsRecent life now received errand := by
  cases purpose with
  | labels =>
      constructor
      · rintro other scope labels same ⟨⟩
        obtain ⟨rfl, rfl⟩ := Errand.listLabels.inj (asks.symm.trans same)
        exact within
      · rintro other remote same ⟨⟩
  | identity =>
      obtain ⟨same, rfl⟩ := asks
      exact ⟨chain, set, rfl, rfl, within⟩

/-- A chain is recent when it was made at most a life ago. -/
theorem recent_remoteIdentity
    {now made : Nat}
    {chain remote : Chain}
    (same : errand = .remoteIdentity chain)
    (before : made ≤ now)
    (soon : now ≤ made + life)
    (within : MadeWithin life made received chain.members remote) :
    Recent life now received errand (.ok (.remoteIdentity remote)) := by
  constructor
  · rintro other scope labels equal ⟨⟩
  · rintro other brought equal ⟨⟩
    obtain rfl := Errand.remoteIdentity.inj (same.symm.trans equal)
    exact ⟨made, before, soon, within⟩

/-- A result that brings no labels and no chain is recent. -/
theorem recent_of_neither
    {now : Nat}
    {result : Except CallError Product}
    (noLabels : ∀ set, result ≠ .ok (.authorizations set))
    (noChain : ∀ remote, result ≠ .ok (.remoteIdentity remote)) :
    Recent life now received errand result :=
  ⟨fun _ _ set _ equal => absurd equal (noLabels set),
    fun _ remote _ equal => absurd equal (noChain remote)⟩

/-- What is found among the kept answers is recent. -/
theorem holdsRecent_afterIdentity
    {chain : Chain}
    (keeps : session.KeepsRecent life received)
    (same : errand = .remoteIdentity chain) :
    (afterIdentity chain (session.find? (identityKey chain)).1).HoldsRecent
      life session.now received errand := by
  unfold afterIdentity
  split
  · rename_i remote found
    obtain ⟨written, ⟨before, within⟩, live⟩ := keeps.kept.get?_eq_some found
    rw [keeps.bound] at live
    exact recent_remoteIdentity same before (Nat.le_of_lt live) within
  · trivial

theorem holdsRecent_afterLabels
    {chain : Chain}
    {includeRemote : Bool}
    {purpose : Purpose}
    (keeps : session.KeepsRecent life received)
    (asks : purpose.Asks errand chain includeRemote) :
    (afterLabels chain includeRemote purpose
      (session.find? (labelsKey chain includeRemote)).1).HoldsRecent
        life session.now received errand := by
  unfold afterLabels
  split
  · rename_i set found
    obtain ⟨written, ⟨before, within⟩, live⟩ := keeps.kept.get?_eq_some found
    rw [keeps.bound] at live
    exact holdsRecent_withSet asks (ReceivedWithin.later within before (Nat.le_of_lt live))
  · trivial

/-- A step of a task keeps what it has in hand recent. -/
theorem HoldsRecent.step
    (holds : task.HoldsRecent life session.now received errand)
    (serves : task.Serves errand)
    (keeps : session.KeepsRecent life received) :
    (task.step client script session).1.HoldsRecent life
      (task.step client script session).2.now
      (received ++ (task.receipt? client script session).toList) errand := by
  cases task with
  | findIdentity chain =>
      simp only [receipt?, Option.toList_none, List.append_nil]
      exact holdsRecent_afterIdentity keeps serves
  | findLabels chain includeRemote purpose =>
      simp only [receipt?, Option.toList_none, List.append_nil]
      exact holdsRecent_afterLabels keeps serves
  | askLabels chain includeRemote purpose =>
      simp only [Task.step, receipt?]
      -- The labels of an answer have arrived when the call for them ends.
      cases (session.call client script .listAuthorizations chain includeRemote
        AuthorizationSet.ofJson?).1 with
      | ok set =>
          refine ⟨_, List.mem_append_right _ (List.mem_singleton_self _), ⟨rfl, rfl⟩, rfl, ?_⟩
          exact ⟨Nat.le_refl _, Nat.le_refl _⟩
      | error error => exact recent_of_neither (by simp) (by simp)
  | keepLabels chain includeRemote purpose set =>
      simp only [receipt?, Option.toList_none, List.append_nil]
      have within := holds.later (Nat.le_refl _) (Nat.le_add_right _ life)
      exact holdsRecent_withSet serves within
  | keepIdentity chain remote =>
      simp only [receipt?, Option.toList_none, List.append_nil]
      exact recent_remoteIdentity serves (Nat.le_refl _) (Nat.le_add_right _ _) holds
  | askFlush chain includeRemote =>
      simp only [Task.step]
      cases (session.call client script .flushCredentials chain includeRemote
        Acknowledgement.ofJson?).1 with
      | ok acknowledgement => trivial
      | error error => exact recent_of_neither (by simp) (by simp)
  | dropKept chain acknowledgement => exact recent_of_neither (by simp) (by simp)
  | finished result =>
      simp only [receipt?, Option.toList_none, List.append_nil]
      exact holds

/-- A step of a task keeps recent answers only. -/
theorem keepsRecent_step
    (holds : task.HoldsRecent life session.now received errand)
    (keeps : session.KeepsRecent life received) :
    (task.step client script session).2.KeepsRecent life
      (received ++ (task.receipt? client script session).toList) := by
  have after := now_le_step client script session task
  refine ⟨by rw [limits_step, keeps.bound], every_step (keeps.kept.imp ?_) ?_⟩
  · intro key response written traced
    exact traced.append after _
  · intro key response new
    cases task with
    | keepLabels chain includeRemote purpose set =>
        obtain ⟨rfl, rfl⟩ := Prod.mk.inj (Option.some.inj new)
        exact ⟨after, holds.append _⟩
    | keepIdentity chain remote =>
        obtain ⟨rfl, rfl⟩ := Prod.mk.inj (Option.some.inj new)
        exact ⟨after, holds.append _⟩
    | _ => simp [keeps?] at new

/-- Every step of a task keeps all recent. -/
theorem IsFresh.step
    (fresh : task.IsFresh life errand session received) :
    (task.step client script session).1.IsFresh life errand
      (task.step client script session).2
      (received ++ (task.receipt? client script session).toList) :=
  ⟨keepsRecent_step fresh.holds fresh.keeps, fresh.serves.step client script session,
    fresh.holds.step fresh.serves fresh.keeps⟩

end Task

namespace History

variable {client : Client} {script : Script} {history : History} {life : Nat}

/-- An errand is answered from what is recent, and leaves recent answers behind. -/
theorem recent_serve
    (keeps : history.session.KeepsRecent life history.received)
    (errand : Errand) :
    (history.serve client script errand).2.KeepsRecent life
        (history.receivedAfter client script errand) ∧
      Recent life (history.serve client script errand).2.now
        (history.receivedAfter client script errand) errand
        (history.serve client script errand).1 := by
  have before : errand.task.IsFresh life errand history.session history.received :=
    ⟨keeps, Task.serves_task errand, Task.holdsRecent_task _ errand⟩
  have after : (Task.finished (history.serve client script errand).1).IsFresh life errand
      (history.serve client script errand).2
      (history.receivedAfter client script errand) :=
    Task.run_induction (fun task session received fresh => fresh.step) before
  exact ⟨after.keeps, after.holds⟩

theorem keepsRecent_next
    (keeps : history.session.KeepsRecent life history.received)
    (event : Event) :
    (history.next client script event).session.KeepsRecent life
      (history.next client script event).received := by
  cases event with
  | serve errand => exact (recent_serve keeps errand).1
  | wait duration => exact keeps.wait duration
  | lose dropped => exact ⟨keeps.bound, keeps.kept.lose dropped⟩

theorem keepsRecent_run
    (client : Client)
    (script : Script)
    (events : List Event) :
    (run client script events).session.KeepsRecent client.cacheLimits.life.nanos
      (run client script events).received := by
  apply List.foldlRecOn
    (motive := fun history : History =>
      history.session.KeepsRecent client.cacheLimits.life.nanos history.received)
    events _ (Session.keepsRecent_start client)
  intro history keeps event _
  exact keepsRecent_next keeps event

/-- After any history, the labels that an errand brings had arrived at most a life of the
cache before. A remote identity that it brings was made at most a life before, of labels
that had arrived at most a life before that. -/
theorem serve_recent
    (client : Client)
    (script : Script)
    (events : List Event)
    (errand : Errand) :
    Recent client.cacheLimits.life.nanos
      ((run client script events).serve client script errand).2.now
      ((run client script events).receivedAfter client script errand) errand
      ((run client script events).serve client script errand).1 :=
  (recent_serve (keepsRecent_run client script events) errand).2

/-- Labels are listed, and used for a remote identity after most of a life; most of a life
passes again. -/
def sampleEvents : List Event :=
  [.serve (.listLabels (Sample.chain ∅) true), .wait (.ofSecs 50),
    .serve (.remoteIdentity (Sample.chain ∅)), .wait (.ofSecs 50)]

/-- The labels are the only ones that arrive. -/
theorem received_sampleEvents :
    (run Sample.client Sample.script sampleEvents).receivedAfter Sample.client Sample.script
        (.remoteIdentity (Sample.chain ∅)) =
      [⟨0, Sample.chain ∅, true, {}⟩] := by
  have before : (run Sample.client Sample.script sampleEvents).received =
      [⟨0, Sample.chain ∅, true, {}⟩] := by
    cbv
  have further : (Errand.remoteIdentity (Sample.chain ∅)).task.receipts Sample.client
      Sample.script (run Sample.client Sample.script sampleEvents).session = [] := by
    decide +kernel
  rw [receivedAfter, before, further]
  rfl

theorem answered_sampleEvents :
    ((run Sample.client Sample.script sampleEvents).serve Sample.client Sample.script
        (.remoteIdentity (Sample.chain ∅))).1 =
      .ok (.remoteIdentity (Task.withLabels (Sample.chain ∅) {})) := by
  decide +kernel

theorem now_sampleEvents :
    ((run Sample.client Sample.script sampleEvents).serve Sample.client Sample.script
        (.remoteIdentity (Sample.chain ∅))).2.now =
      (Duration.ofSecs 100).nanos := by
  decide +kernel

/-- A remote identity may come from labels that are older than a life: the kept chain of the
sample is given out when all that has ever arrived did so nearly two lives before. -/
theorem remoteIdentity_of_old_labels :
    ¬ ∀ (client : Client) (script : Script) (events : List Event) (chain remote : Chain),
      ((run client script events).serve client script (.remoteIdentity chain)).1 =
          .ok (.remoteIdentity remote) →
        ∃ receipt ∈ (run client script events).receivedAfter client script
            (.remoteIdentity chain),
          ((run client script events).serve client script (.remoteIdentity chain)).2.now ≤
            receipt.time + client.cacheLimits.life.nanos := by
  intro always
  obtain ⟨receipt, arrived, recent⟩ := always _ _ _ _ _ answered_sampleEvents
  rw [received_sampleEvents, List.mem_singleton] at arrived
  rw [now_sampleEvents, arrived] at recent
  exact absurd recent (by decide)

end History
end Authority
end Delegation
