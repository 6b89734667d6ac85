import Delegation.Proofs.Authority.Calls
import Delegation.Proofs.Authority.RemoteIdentity

/-!
# What is left after a flush

A flush drops what is kept for the members of a chain once the authority has answered it. What is
given out for these members afterwards was delivered by the authority after this answer, unless it
was in the hand of another errand when the flush dropped the rest: such an errand had received or
looked up its answer before, and puts it back into the cache after the flush.
-/

namespace Delegation
namespace Authority

namespace Session

variable {α : Type} {client : Client} {script : Script} {operation : Operation} {chain : Chain}
variable {includeRemote : Bool} {read : Json → Option α} {value : α}
variable {session after earlier later : Session}

/-- What has been received stays so when further requests are sent. -/
theorem Receives.extend
    (receives : session.Receives client script operation chain includeRemote read value after)
    (further : after.sent <+: later.sent) :
    session.Receives client script operation chain includeRemote read value later := by
  obtain ⟨request, number, asked, since, sent, delivers⟩ := receives
  obtain ⟨rest, equal⟩ := further
  refine ⟨request, number, asked, since, ?_, delivers⟩
  obtain ⟨inside, -⟩ := List.getElem?_eq_some_iff.mp sent
  rw [← equal, List.getElem?_append_left inside]
  exact sent

theorem Receives.since
    (receives : session.Receives client script operation chain includeRemote read value after)
    (before : earlier.sent <+: session.sent) :
    earlier.Receives client script operation chain includeRemote read value after := by
  obtain ⟨request, number, asked, since, rest⟩ := receives
  exact ⟨request, number, asked, Nat.le_trans before.length_le since, rest⟩

end Session

/-- Asking for a flush ends the errand with an error, or what is kept is dropped next. -/
theorem Task.step_askFlush
    (client : Client)
    (script : Script)
    (session : Session)
    (chain : Chain)
    (includeRemote : Bool) :
    (∃ error, ((askFlush chain includeRemote).step client script session).1 =
        .finished (.error error)) ∨
      ∃ acknowledgement, ((askFlush chain includeRemote).step client script session).1 =
          .dropKept chain acknowledgement ∧
        (session.call client script .flushCredentials chain includeRemote
          Acknowledgement.ofJson?).1 = .ok acknowledgement := by
  simp only [Task.step]
  cases (session.call client script .flushCredentials chain includeRemote
    Acknowledgement.ofJson?).1 with
  | ok acknowledgement => exact .inr ⟨acknowledgement, rfl, rfl⟩
  | error error => exact .inl ⟨error, rfl⟩

/-- A flush for the members of a chain. -/
structure FlushPoint where
  /-- The members. -/
  members : List Identity
  /-- The session when the authority has answered. -/
  answered : Session
  /-- The desk when what is kept is about to be dropped. -/
  dropping : Desk

namespace FlushPoint

variable (client : Client) (script : Script) (flush : FlushPoint) (session : Session)

/-- Labels of the members were delivered after the answer to the flush, or an errand had them in
hand when the flush dropped what was kept. -/
def AllowsLabels
    (includeRemote : Bool)
    (set : AuthorizationSet) : Prop :=
  (∃ chain, chain.members = flush.members ∧
    flush.answered.Receives client script .listAuthorizations chain includeRemote
      AuthorizationSet.ofJson? set session) ∨
  ∃ errand chain purpose, chain.members = flush.members ∧
    (errand, .keepLabels chain includeRemote purpose set) ∈ flush.dropping.errands

/-- A chain has such labels, or an errand had it in hand when the flush dropped what was kept. -/
def AllowsIdentity (remote : Chain) : Prop :=
  (∃ chain set, chain.members = flush.members ∧ remote = Task.withLabels chain set ∧
    flush.AllowsLabels client script session true set) ∨
  ∃ errand chain, chain.members = flush.members ∧
    (errand, .keepIdentity chain remote) ∈ flush.dropping.errands

/-- A kept answer for the members is allowed. -/
def AllowsKept (key : CacheKey) : CachedResponse → Prop
  | .authorizations set => key.members = flush.members →
      flush.AllowsLabels client script session key.includeRemote set
  | .remoteIdentity remote => key.members = flush.members →
      flush.AllowsIdentity client script session remote

/-- What a task has in hand for the members is allowed. -/
def AllowsTask : Task → Prop
  | .keepLabels chain includeRemote _ set => chain.members = flush.members →
      flush.AllowsLabels client script session includeRemote set
  | .keepIdentity chain remote => chain.members = flush.members →
      flush.AllowsIdentity client script session remote
  | _ => True

/-- What an errand for the members brings is allowed. -/
structure AllowsResult
    (errand : Errand)
    (result : Except CallError Product) : Prop where
  labels : ∀ chain includeRemote set, errand = .listLabels chain includeRemote →
    chain.members = flush.members → result = .ok (.authorizations set) →
      flush.AllowsLabels client script session includeRemote set
  identity : ∀ chain remote, errand = .remoteIdentity chain →
    chain.members = flush.members → result = .ok (.remoteIdentity remote) →
      flush.AllowsIdentity client script session remote

/-- A task for an errand has not ended, or what it brings is allowed. -/
def AllowsEnd
    (errand : Errand)
    (task : Task) : Prop :=
  ∀ result, task = .finished result → flush.AllowsResult client script session errand result

variable {client : Client} {script : Script} {flush : FlushPoint} {session later : Session}
variable {errand : Errand} {task : Task} {chain : Chain}

section Extend

variable (further : session.sent <+: later.sent)
include further

theorem AllowsLabels.extend
    {includeRemote : Bool}
    {set : AuthorizationSet}
    (allows : flush.AllowsLabels client script session includeRemote set) :
    flush.AllowsLabels client script later includeRemote set := by
  rcases allows with ⟨chain, same, receives⟩ | inHand
  · exact .inl ⟨chain, same, receives.extend further⟩
  · exact .inr inHand

theorem AllowsIdentity.extend
    {remote : Chain}
    (allows : flush.AllowsIdentity client script session remote) :
    flush.AllowsIdentity client script later remote := by
  rcases allows with ⟨chain, set, same, made, labels⟩ | inHand
  · exact .inl ⟨chain, set, same, made, labels.extend further⟩
  · exact .inr inHand

theorem AllowsKept.extend
    {key : CacheKey}
    {response : CachedResponse}
    (allows : flush.AllowsKept client script session key response) :
    flush.AllowsKept client script later key response := by
  cases response with
  | authorizations set => exact fun same => (allows same).extend further
  | remoteIdentity remote => exact fun same => (allows same).extend further

theorem AllowsTask.extend
    (allows : flush.AllowsTask client script session task) :
    flush.AllowsTask client script later task := by
  cases task with
  | keepLabels chain includeRemote purpose set => exact fun same => (allows same).extend further
  | keepIdentity chain remote => exact fun same => (allows same).extend further
  | _ => trivial

theorem AllowsResult.extend
    {result : Except CallError Product}
    (allows : flush.AllowsResult client script session errand result) :
    flush.AllowsResult client script later errand result where
  labels chain includeRemote set asked same brought :=
    (allows.labels chain includeRemote set asked same brought).extend further
  identity chain remote asked same brought :=
    (allows.identity chain remote asked same brought).extend further

/-- What a flush allows an errand to end with stays allowed as the session goes on. -/
theorem AllowsEnd.extend
    (allows : flush.AllowsEnd client script session errand task) :
    flush.AllowsEnd client script later errand task :=
  fun result same => (allows result same).extend further

end Extend

theorem allowsEnd_of_unfinished
    (unfinished : ∀ result, task ≠ .finished result) :
    flush.AllowsEnd client script session errand task :=
  fun result same => absurd same (unfinished result)

theorem allowsResult_of_neither
    {result : Except CallError Product}
    (noLabels : ∀ set, result ≠ .ok (.authorizations set))
    (noChain : ∀ remote, result ≠ .ok (.remoteIdentity remote)) :
    flush.AllowsResult client script session errand result :=
  ⟨fun _ _ set _ _ equal => absurd equal (noLabels set),
    fun _ remote _ _ equal => absurd equal (noChain remote)⟩

theorem allowsResult_remoteIdentity
    {remote : Chain}
    (asks : errand = .remoteIdentity chain)
    (allows : chain.members = flush.members →
      flush.AllowsIdentity client script session remote) :
    flush.AllowsResult client script session errand (.ok (.remoteIdentity remote)) := by
  constructor
  · rintro other includeRemote set asked same ⟨⟩
  · rintro other brought asked same ⟨⟩
    obtain rfl := Errand.remoteIdentity.inj (asks.symm.trans asked)
    exact allows same

/-- Allowed labels may be used for either purpose. -/
theorem allows_withSet
    {includeRemote : Bool}
    {purpose : Purpose}
    {set : AuthorizationSet}
    (asks : purpose.Asks errand chain includeRemote)
    (allows : chain.members = flush.members →
      flush.AllowsLabels client script session includeRemote set) :
    flush.AllowsTask client script session (Task.withSet chain set purpose) ∧
      flush.AllowsEnd client script session errand (Task.withSet chain set purpose) := by
  cases purpose with
  | labels =>
      refine ⟨trivial, ?_⟩
      rintro result ⟨⟩
      constructor
      · rintro other scope labels asked same ⟨⟩
        obtain ⟨rfl, rfl⟩ := Errand.listLabels.inj (asks.symm.trans asked)
        exact allows same
      · rintro other remote asked same ⟨⟩
  | identity =>
      obtain ⟨-, rfl⟩ := asks
      exact ⟨fun same => .inl ⟨chain, set, same, rfl, allows same⟩, nofun⟩

/-- A step of a task after a flush has allowed answers in hand, and brings one if it finishes the
task. -/
theorem allows_step
    (serves : task.Serves errand)
    (since : flush.answered.sent <+: session.sent)
    (kept : session.cache.Every fun key response _ =>
      flush.AllowsKept client script session key response)
    (holds : flush.AllowsTask client script session task) :
    flush.AllowsTask client script (task.step client script session).2
        (task.step client script session).1 ∧
      (flush.AllowsEnd client script session errand task →
        flush.AllowsEnd client script (task.step client script session).2 errand
          (task.step client script session).1) := by
  have further := task.sent_prefix_step client script session
  cases task with
  | findIdentity chain =>
      simp only [Task.step, Task.afterIdentity]
      split
      · rename_i remote found
        obtain ⟨written, allows, -⟩ := kept.get?_eq_some found
        refine ⟨trivial, fun _ => ?_⟩
        rintro result ⟨⟩
        exact (allowsResult_remoteIdentity serves allows).extend further
      · exact ⟨trivial, fun _ => allowsEnd_of_unfinished (by simp)⟩
  | findLabels chain includeRemote purpose =>
      simp only [Task.step, Task.afterLabels]
      split
      · rename_i set found
        obtain ⟨written, allows, -⟩ := kept.get?_eq_some found
        obtain ⟨next, ends⟩ := allows_withSet serves allows
        exact ⟨next.extend further, fun _ => ends.extend further⟩
      · exact ⟨trivial, fun _ => allowsEnd_of_unfinished (by simp)⟩
  | askLabels chain includeRemote purpose =>
      simp only [Task.step]
      cases arrives : (session.call client script .listAuthorizations chain includeRemote
        AuthorizationSet.ofJson?).1 with
      | ok set =>
          have receives := Session.receives_of_call_eq_ok arrives
          exact ⟨fun same => .inl ⟨chain, same, receives.since since⟩,
            fun _ => allowsEnd_of_unfinished (by simp [Task.afterAnswer])⟩
      | error error =>
          refine ⟨trivial, fun _ => ?_⟩
          rintro result ⟨⟩
          exact allowsResult_of_neither (by simp) (by simp)
  | keepLabels chain includeRemote purpose set =>
      obtain ⟨next, ends⟩ := allows_withSet serves holds
      exact ⟨next.extend further, fun _ => ends.extend further⟩
  | keepIdentity chain remote =>
      refine ⟨trivial, fun _ => ?_⟩
      rintro result ⟨⟩
      exact (allowsResult_remoteIdentity serves holds).extend further
  | askFlush chain includeRemote =>
      simp only [Task.step]
      cases (session.call client script .flushCredentials chain includeRemote
        Acknowledgement.ofJson?).1 with
      | ok acknowledgement =>
          exact ⟨trivial, fun _ => allowsEnd_of_unfinished (by simp [Task.afterFlush])⟩
      | error error =>
          refine ⟨trivial, fun _ => ?_⟩
          rintro result ⟨⟩
          exact allowsResult_of_neither (by simp) (by simp)
  | dropKept chain acknowledgement =>
      refine ⟨trivial, fun _ => ?_⟩
      rintro result ⟨⟩
      exact allowsResult_of_neither (by simp) (by simp)
  | finished result => exact ⟨trivial, id⟩

/-- A step after a flush keeps allowed answers only. -/
theorem allowsKept_step
    (kept : session.cache.Every fun key response _ =>
      flush.AllowsKept client script session key response)
    (holds : flush.AllowsTask client script session task) :
    (task.step client script session).2.cache.Every fun key response _ =>
      flush.AllowsKept client script (task.step client script session).2 key response := by
  have further := task.sent_prefix_step client script session
  refine Task.every_step (kept.imp fun key response written allows => allows.extend further) ?_
  intro key response new
  cases task with
  | keepLabels chain includeRemote purpose set =>
      obtain ⟨rfl, rfl⟩ := Prod.mk.inj (Option.some.inj new)
      exact AllowsKept.extend further holds
  | keepIdentity chain remote =>
      obtain ⟨rfl, rfl⟩ := Prod.mk.inj (Option.some.inj new)
      exact AllowsKept.extend further holds
  | _ => nomatch new

end FlushPoint

namespace Desk

variable {client : Client} {script : Script} {flush : FlushPoint} {desk : Desk}
variable {since : Nat}

/-- What holds of a desk after a flush: kept answers and those in hand are allowed, and so are the
results of the errands that have come in since. -/
structure IsFlushed
    (client : Client)
    (script : Script)
    (flush : FlushPoint)
    (since : Nat)
    (desk : Desk) : Prop where
  sent : flush.answered.sent <+: desk.session.sent
  kept : desk.session.cache.Every fun key response _ =>
    flush.AllowsKept client script desk.session key response
  holds : ∀ (position : Nat) errand task, desk.errands[position]? = some (errand, task) →
    flush.AllowsTask client script desk.session task
  ends : ∀ (position : Nat) errand task, desk.errands[position]? = some (errand, task) →
    since ≤ position → flush.AllowsEnd client script desk.session errand task

theorem IsFlushed.mono
    {other : Nat}
    (flushed : desk.IsFlushed client script flush since)
    (before : since ≤ other) :
    desk.IsFlushed client script flush other :=
  { flushed with
    ends := fun position errand task found new =>
      flushed.ends position errand task found (before.trans new) }

/-- A desk that was flushed stays so when another errand comes in. -/
theorem IsFlushed.accept
    (flushed : desk.IsFlushed client script flush since)
    (errand : Errand) :
    (desk.next client script (.accept errand)).IsFlushed client script flush since := by
  refine ⟨flushed.sent, flushed.kept, ?_, ?_⟩
  · intro position other task found
    rcases getElem?_of_concat found with found | ⟨-, same⟩
    · exact flushed.holds position other task found
    · obtain ⟨rfl, rfl⟩ := Prod.mk.inj same
      cases other <;> trivial
  · intro position other task found new
    rcases getElem?_of_concat found with found | ⟨-, same⟩
    · exact flushed.ends position other task found new
    · obtain ⟨rfl, rfl⟩ := Prod.mk.inj same
      cases other <;> exact nofun

/-- A desk that was flushed stays so when an errand takes a step. -/
theorem IsFlushed.advance
    (flushed : desk.IsFlushed client script flush since)
    (serves : ∀ errand task, (errand, task) ∈ desk.errands → task.Serves errand)
    (position : Nat) :
    (desk.next client script (.advance position)).IsFlushed client script flush since := by
  simp only [Desk.next]
  split
  · exact flushed
  · rename_i errand task found
    have further := task.sent_prefix_step client script desk.session
    have holds := flushed.holds position errand task found
    obtain ⟨nextHolds, nextEnds⟩ := FlushPoint.allows_step
      (serves errand task (List.mem_of_getElem? found)) flushed.sent flushed.kept holds
    refine ⟨flushed.sent.trans further, FlushPoint.allowsKept_step flushed.kept holds, ?_, ?_⟩
    · intro place other stage stands
      rcases getElem?_of_set stands with ⟨-, same⟩ | ⟨-, stands⟩
      · obtain ⟨rfl, rfl⟩ := Prod.mk.inj same
        exact nextHolds
      · exact (flushed.holds place other stage stands).extend further
    · intro place other stage stands new
      rcases getElem?_of_set stands with ⟨rfl, same⟩ | ⟨-, stands⟩
      · obtain ⟨rfl, rfl⟩ := Prod.mk.inj same
        exact nextEnds (flushed.ends _ _ _ found new)
      · exact (flushed.ends place other stage stands new).extend further

/-- A move leaves a flushed desk flushed. -/
theorem IsFlushed.next
    (flushed : desk.IsFlushed client script flush since)
    (serves : ∀ errand task, (errand, task) ∈ desk.errands → task.Serves errand)
    (move : Move) :
    (desk.next client script move).IsFlushed client script flush since := by
  have further := (precedes_next client script desk move).sent
  cases move with
  | accept errand => exact flushed.accept errand
  | advance position => exact flushed.advance serves position
  | wait duration =>
      refine ⟨flushed.sent, flushed.kept, flushed.holds, ?_⟩
      intro position errand task found new
      exact (flushed.ends position errand task found new).extend further
  | lose keeps =>
      refine ⟨flushed.sent, flushed.kept.lose keeps, flushed.holds, ?_⟩
      intro position errand task found new
      exact (flushed.ends position errand task found new).extend further

/-- A desk that was flushed stays so, whatever moves follow. -/
theorem IsFlushed.run
    {moves : List Move}
    (flushed : (run client script moves).IsFlushed client script flush since)
    (later : List Move) :
    (run client script (moves ++ later)).IsFlushed client script flush since := by
  induction later using List.reverseRecOn with
  | nil => simpa using flushed
  | append_singleton later move inductionHypothesis =>
      rw [← List.append_assoc, run_concat]
      refine inductionHypothesis.next ?_ move
      intro errand task onDesk
      exact ((sound_run client script _).underWay errand task onDesk).1

/-- When what is kept has been dropped, nothing is left for the members but what errands have in
hand. -/
theorem isFlushed_of_dropKept
    (client : Client)
    (script : Script)
    {position : Nat}
    {errand : Errand}
    {chain : Chain}
    {acknowledgement : Acknowledgement}
    {answered : Session}
    (dropped : desk.errands[position]? = some (errand, .dropKept chain acknowledgement))
    (sent : answered.sent <+: desk.session.sent) :
    (desk.next client script (.advance position)).IsFlushed client script
      ⟨chain.members, answered, desk⟩ desk.errands.length := by
  rw [next_advance dropped]
  refine ⟨sent, ?_, ?_, ?_⟩
  · intro entry kept
    obtain ⟨-, other⟩ := ResponseCache.mem_invalidateChain.mp kept
    cases response : entry.value with
    | authorizations set => exact fun same => absurd same other
    | remoteIdentity remote => exact fun same => absurd same other
  · intro place holder task found
    rcases getElem?_of_set found with ⟨-, same⟩ | ⟨-, found⟩
    · obtain ⟨rfl, rfl⟩ := Prod.mk.inj same
      trivial
    · have inHand := List.mem_of_getElem? found
      cases task with
      | keepLabels chain includeRemote purpose set =>
          exact fun same => .inr ⟨holder, chain, purpose, same, inHand⟩
      | keepIdentity chain remote => exact fun same => .inr ⟨holder, chain, same, inHand⟩
      | _ => trivial
  · intro place holder task found new
    obtain ⟨inside, -⟩ := List.getElem?_eq_some_iff.mp found
    rw [List.length_set] at inside
    omega

/-- A flush succeeds in the course of some moves. It is answered by the authority when its errand
is advanced, and drops what is kept when the errand is advanced again. -/
inductive Flushes
    (client : Client)
    (script : Script)
    (position : Nat)
    (chain : Chain)
    (includeRemote : Bool)
    (acknowledgement : Acknowledgement) : List Move → FlushPoint → Prop
  | intro (asking between rest : List Move) :
      (run client script asking).session.Receives client script .flushCredentials chain
        includeRemote Acknowledgement.ofJson? acknowledgement
        (run client script (asking ++ [.advance position])).session →
      (run client script (asking ++ .advance position :: between)).errands[position]? =
        some (.flush chain includeRemote, .dropKept chain acknowledgement) →
      Flushes client script position chain includeRemote acknowledgement
        (asking ++ .advance position :: (between ++ .advance position :: rest))
        ⟨chain.members, (run client script (asking ++ [.advance position])).session,
          run client script (asking ++ .advance position :: between)⟩

/-- Behind an acknowledged flush there is the moment at which the entries were dropped. -/
theorem exists_flushes
    {moves : List Move}
    {position : Nat}
    {chain : Chain}
    {includeRemote : Bool}
    {acknowledgement : Acknowledgement}
    (flushed : (run client script moves).errands[position]? =
      some (.flush chain includeRemote, .finished (.ok (.acknowledged acknowledgement)))) :
    ∃ flush, Flushes client script position chain includeRemote acknowledgement moves flush := by
  obtain ⟨dropping, rest, task, rfl, found, unfinished, taken⟩ :=
    exists_advance flushed (by simp [Errand.task, Task.flush])
  have serves := ((sound_run client script dropping).underWay _ _ (List.mem_of_getElem? found)).1
  obtain rfl | ⟨other, rfl⟩ | ⟨result, rfl⟩ := serves.of_flush
  · obtain ⟨error, equal⟩ | ⟨other, equal, -⟩ := Task.step_askFlush client script
      (run client script dropping).session chain includeRemote
    · simp [equal] at taken
    · simp [equal] at taken
  · obtain rfl : other = acknowledgement := by simpa [Task.step] using taken
    obtain ⟨asking, between, task, rfl, asked, -, taken⟩ :=
      exists_advance found (by simp [Errand.task, Task.flush])
    have serves := ((sound_run client script asking).underWay _ _ (List.mem_of_getElem? asked)).1
    obtain rfl | ⟨got, rfl⟩ | ⟨result, rfl⟩ := serves.of_flush
    · obtain ⟨error, equal⟩ | ⟨got, equal, succeeds⟩ := Task.step_askFlush client script
        (run client script asking).session chain includeRemote
      · simp [equal] at taken
      · obtain ⟨-, rfl⟩ := Task.dropKept.inj (equal.symm.trans taken)
        rw [List.append_assoc]
        refine ⟨_, .intro asking between rest ?_ found⟩
        rw [run_concat, next_advance asked]
        exact Session.receives_of_call_eq_ok succeeds
    · cases taken
    · cases taken
  · exact absurd taken unfinished

/-- The request for a flush has been sent when it is answered. -/
theorem Flushes.answered_pos
    {moves : List Move}
    {position : Nat}
    {chain : Chain}
    {includeRemote : Bool}
    {acknowledgement : Acknowledgement}
    (flushes : Flushes client script position chain includeRemote acknowledgement moves flush) :
    0 < flush.answered.sent.length := by
  obtain ⟨asking, between, rest, ⟨request, number, -, -, sent, -⟩, -⟩ := flushes
  obtain ⟨inside, -⟩ := List.getElem?_eq_some_iff.mp sent
  exact Nat.zero_lt_of_lt inside

/-- After a flush, what the desk keeps and what the errands bring that come in later is allowed. -/
theorem Flushes.isFlushed
    {moves : List Move}
    {position : Nat}
    {chain : Chain}
    {includeRemote : Bool}
    {acknowledgement : Acknowledgement}
    (flushes : Flushes client script position chain includeRemote acknowledgement moves flush)
    (later : List Move) :
    (run client script (moves ++ later)).IsFlushed client script flush
      (run client script moves).errands.length := by
  obtain ⟨asking, between, rest, received, dropped⟩ := flushes
  have answered : (run client script (asking ++ [.advance position])).Precedes
      (run client script (asking ++ .advance position :: between)) := by
    have precedes := precedes_run client script (asking ++ [.advance position]) between
    rwa [List.append_assoc] at precedes
  have emptied := isFlushed_of_dropKept client script dropped answered.sent
  rw [← run_concat] at emptied
  have now := emptied.run (rest ++ later)
  have waited := precedes_run client script (asking ++ .advance position :: between)
    (.advance position :: rest)
  simp only [List.append_assoc, List.cons_append, List.nil_append] at now waited ⊢
  exact now.mono waited.length_le

/-- A flush is final but for what is in hand. When it has succeeded, what a later errand brings
for the same members has been answered by the authority since it answered the flush, or an errand
had it in hand when the flush dropped what was kept. -/
theorem flush_final
    (client : Client)
    (script : Script)
    (first second : List Move)
    (position other : Nat)
    (chain : Chain)
    (includeRemote : Bool)
    (acknowledgement : Acknowledgement)
    (errand : Errand)
    (result : Except CallError Product)
    (flushed : (run client script first).errands[position]? =
      some (.flush chain includeRemote, .finished (.ok (.acknowledged acknowledgement))))
    (later : (run client script first).errands.length ≤ other)
    (brought : (run client script (first ++ second)).errands[other]? =
      some (errand, .finished result)) :
    ∃ flush,
      Flushes client script position chain includeRemote acknowledgement first flush ∧
      flush.AllowsResult client script (run client script (first ++ second)).session errand
        result := by
  obtain ⟨flush, flushes⟩ := exists_flushes flushed
  exact ⟨flush, flushes, (flushes.isFlushed second).ends other errand _ brought later result rfl⟩

end Desk

namespace Sample

/-- Labels for nobody, with a remark. -/
def remark : AuthorizationSet := { messages := ["old"] }

/-- An authority that makes the remark in its first answer only. -/
def remarkingOnce : Script := fun index =>
  if index = 0 then
    ⟨⟨0⟩, .given 200 { chunks := ["\x7b\"messages\":[\"old\"]\x7d".toUTF8.toList] }⟩
  else script index

/-- The labels of the sample person are received, and while they are in hand a flush for this
person begins and ends. -/
def flushMoves : List Desk.Move :=
  [.accept (.listLabels (chain ∅) true), .advance 0, .advance 0,
    .accept (.flush (chain ∅) true), .advance 1, .advance 1]

/-- The labels in hand are kept, and found again for an errand that comes in after the flush. -/
def laterMoves : List Desk.Move :=
  [.advance 0, .accept (.listLabels (chain ∅) true), .advance 2]

theorem flushed_flushMoves :
    (Desk.run client remarkingOnce flushMoves).errands[1]? =
      some (.flush (chain ∅) true, .finished (.ok (.acknowledged {}))) := by
  decide +kernel

theorem length_flushMoves : (Desk.run client remarkingOnce flushMoves).errands.length = 2 := by
  decide +kernel

theorem brought_laterMoves :
    (Desk.run client remarkingOnce (flushMoves ++ laterMoves)).errands[2]? =
      some (.listLabels (chain ∅) true, .finished (.ok (.authorizations remark))) := by
  decide +kernel

end Sample

namespace Desk

theorem flush_final_sample :
    (run Sample.client Sample.remarkingOnce Sample.flushMoves).errands[1]? =
        some (.flush (Sample.chain ∅) true, .finished (.ok (.acknowledged {}))) ∧
      (run Sample.client Sample.remarkingOnce Sample.flushMoves).errands.length ≤ 2 ∧
      (run Sample.client Sample.remarkingOnce
          (Sample.flushMoves ++ Sample.laterMoves)).errands[2]? =
        some (.listLabels (Sample.chain ∅) true,
          .finished (.ok (.authorizations Sample.remark))) ∧
      ∃ flush,
        Flushes Sample.client Sample.remarkingOnce 1 (Sample.chain ∅) true {}
          Sample.flushMoves flush ∧
        flush.AllowsResult Sample.client Sample.remarkingOnce
          (run Sample.client Sample.remarkingOnce
            (Sample.flushMoves ++ Sample.laterMoves)).session
          (.listLabels (Sample.chain ∅) true) (.ok (.authorizations Sample.remark)) :=
  ⟨Sample.flushed_flushMoves, Sample.length_flushMoves.le, Sample.brought_laterMoves,
    flush_final Sample.client Sample.remarkingOnce Sample.flushMoves Sample.laterMoves 1 2
      (Sample.chain ∅) true {} _ _ Sample.flushed_flushMoves Sample.length_flushMoves.le
      Sample.brought_laterMoves⟩

/-- Labels that are listed after a flush need not have been delivered since the authority answered
it: in the sample they have the remark that the authority makes in its first answer only, and the
answer to the flush comes after that. -/
theorem labels_of_before_flush :
    ¬ ∀ (client : Client) (script : Script) (first second : List Move) (position other : Nat)
        (chain : Chain) (includeRemote scope : Bool) (acknowledgement : Acknowledgement)
        (set : AuthorizationSet),
      (run client script first).errands[position]? =
          some (.flush chain includeRemote, .finished (.ok (.acknowledged acknowledgement))) →
        (run client script first).errands.length ≤ other →
          (run client script (first ++ second)).errands[other]? =
              some (.listLabels chain scope, .finished (.ok (.authorizations set))) →
            ∃ flush,
              Flushes client script position chain includeRemote acknowledgement first flush ∧
              flush.answered.Receives client script .listAuthorizations chain scope
                AuthorizationSet.ofJson? set (run client script (first ++ second)).session := by
  intro always
  obtain ⟨flush, flushes, list, number, -, since, -, delivers⟩ := always _ _ _ _ _ _ _ _ _ _ _
    Sample.flushed_flushMoves Sample.length_flushMoves.le Sample.brought_laterMoves
  have notFirst : number ≠ 0 := by
    have answered := flushes.answered_pos
    omega
  have remarks := Answer.outcome_eq_ok_iff.mpr delivers
  have plain : (Sample.script number).answer.outcome Sample.client.maxBytes
      AuthorizationSet.ofJson? = .ok {} := by
    cbv
  rw [Sample.remarkingOnce, if_neg notFirst, plain] at remarks
  have same : ({} : AuthorizationSet) = Sample.remark := Except.ok.inj remarks
  exact absurd same (by decide)

end Desk

end Authority
end Delegation
