import Mathlib.Data.List.Induction
import Delegation.Proofs.Authority.KeptAnswers
import Delegation.Proofs.Basic

/-!
# Errands of a client

What users ask of a client, and how it works through what they ask. On a desk many errands
are under way at once: each takes its steps one by one, and steps of others, pauses and
losses of kept answers may come between any two of them.
-/

namespace Delegation
namespace Authority

/-- What a user asks of a client. -/
inductive Errand
  /-- The labels of the members of a chain. -/
  | listLabels (chain : Chain) (includeRemote : Bool)
  /-- To flush what is held for a chain. -/
  | flush (chain : Chain) (includeRemote : Bool)
  /-- The chain with the labels of the authority. -/
  | remoteIdentity (chain : Chain)
  deriving DecidableEq

/-- The task of an errand, before its first step. -/
def Errand.task : Errand → Task
  | listLabels chain includeRemote => .listLabels chain includeRemote
  | flush chain includeRemote => .flush chain includeRemote
  | remoteIdentity chain => .remoteIdentity chain

deriving instance DecidableEq for Task

/-- Labels are listed as an errand asks for them. -/
def Purpose.Asks
    (errand : Errand)
    (chain : Chain)
    (includeRemote : Bool) : Purpose → Prop
  | labels => errand = .listLabels chain includeRemote
  | identity => errand = .remoteIdentity chain ∧ includeRemote = true

namespace Task

/-- A task is a stage of the work for an errand. -/
def Serves (errand : Errand) : Task → Prop
  | findIdentity chain => errand = .remoteIdentity chain
  | findLabels chain includeRemote purpose => purpose.Asks errand chain includeRemote
  | askLabels chain includeRemote purpose => purpose.Asks errand chain includeRemote
  | keepLabels chain includeRemote purpose _ => purpose.Asks errand chain includeRemote
  | keepIdentity chain _ => errand = .remoteIdentity chain
  | askFlush chain includeRemote => errand = .flush chain includeRemote
  | dropKept chain _ => ∃ includeRemote, errand = .flush chain includeRemote
  | finished _ => True

variable {errand : Errand}

theorem serves_task (errand : Errand) : errand.task.Serves errand := by
  cases errand <;> rfl

theorem serves_withSet
    {chain : Chain}
    {includeRemote : Bool}
    {purpose : Purpose}
    (asks : purpose.Asks errand chain includeRemote)
    (set : AuthorizationSet) :
    (withSet chain set purpose).Serves errand := by
  cases purpose with
  | labels => trivial
  | identity => exact asks.1

/-- A step goes on with the errand of a task. -/
theorem Serves.step
    {task : Task}
    (serves : task.Serves errand)
    (client : Client)
    (script : Script)
    (session : Session) :
    (task.step client script session).1.Serves errand := by
  cases task with
  | findIdentity chain =>
      simp only [Task.step, afterIdentity]
      split
      · trivial
      · exact ⟨serves, rfl⟩
  | findLabels chain includeRemote purpose =>
      simp only [Task.step, afterLabels]
      split
      · exact serves_withSet serves _
      · exact serves
  | askLabels chain includeRemote purpose =>
      simp only [Task.step]
      cases (session.call client script .listAuthorizations chain includeRemote
        AuthorizationSet.ofJson?).1 with
      | ok set => exact serves
      | error error => trivial
  | keepLabels chain includeRemote purpose set => exact serves_withSet serves set
  | askFlush chain includeRemote =>
      simp only [Task.step]
      cases (session.call client script .flushCredentials chain includeRemote
        Acknowledgement.ofJson?).1 with
      | ok acknowledgement => exact ⟨includeRemote, serves⟩
      | error error => trivial
  | keepIdentity | dropKept | finished => trivial

theorem Serves.of_flush
    {task : Task}
    {chain : Chain}
    {includeRemote : Bool}
    (serves : task.Serves (.flush chain includeRemote)) :
    task = .askFlush chain includeRemote ∨
      (∃ acknowledgement, task = .dropKept chain acknowledgement) ∨
      ∃ result, task = .finished result := by
  cases task with
  | findIdentity | keepIdentity => nomatch serves
  | findLabels chain includeRemote purpose | askLabels chain includeRemote purpose
  | keepLabels chain includeRemote purpose set =>
      cases purpose with
      | labels => nomatch serves
      | identity => nomatch serves.1
  | askFlush =>
      obtain ⟨rfl, rfl⟩ := Errand.flush.inj serves
      exact .inl rfl
  | dropKept chain acknowledgement =>
      obtain ⟨includeRemote, same⟩ := serves
      obtain ⟨rfl, rfl⟩ := Errand.flush.inj same
      exact .inr (.inl ⟨acknowledgement, rfl⟩)
  | finished result => exact .inr (.inr ⟨result, rfl⟩)

/-- A step sends requests behind those that were sent before. -/
theorem sent_prefix_step
    (client : Client)
    (script : Script)
    (session : Session)
    (task : Task) :
    session.sent <+: (task.step client script session).2.sent := by
  cases task with
  | askLabels chain includeRemote purpose => exact List.prefix_append _ _
  | askFlush chain includeRemote => exact List.prefix_append _ _
  | _ => exact List.prefix_rfl

end Task

/-- A client at work, with the errands so far and how far each of them is. -/
structure Desk where
  /-- The client's time, kept answers and requests. -/
  session : Session
  /-- The errands in the order in which they came in. -/
  errands : List (Errand × Task)

namespace Desk

/-- What happens next at a desk. -/
inductive Move
  /-- An errand comes in. -/
  | accept (errand : Errand)
  /-- The errand at a position takes its next step. -/
  | advance (position : Nat)
  /-- Time passes. -/
  | wait (duration : Duration)
  /-- The cache drops entries. -/
  | lose (keeps : CacheEntry CacheKey CachedResponse → Bool)

/-- The desk of a client that begins to work. -/
def start (client : Client) : Desk := ⟨.start client, []⟩

/-- The desk after a move. -/
def next (client : Client) (script : Script) (desk : Desk) : Move → Desk
  | .accept errand => { desk with errands := desk.errands ++ [(errand, errand.task)] }
  | .advance position =>
      match desk.errands[position]? with
      | none => desk
      | some (errand, task) =>
          let taken := task.step client script desk.session
          ⟨taken.2, desk.errands.set position (errand, taken.1)⟩
  | .wait duration => { desk with session := desk.session.wait duration }
  | .lose keeps => { desk with session := desk.session.lose keeps }

/-- The desk after a number of moves. -/
def run (client : Client) (script : Script) (moves : List Move) : Desk :=
  moves.foldl (next client script) (start client)

/-- An errand has come in. -/
def Accepted (desk : Desk) (errand : Errand) : Prop :=
  errand ∈ desk.errands.map (·.1)

/-- Advancing an errand changes its task and leaves the list of errands as it is. -/
theorem errands_set
    {errands : List (Errand × Task)}
    {position : Nat}
    {errand : Errand}
    {task : Task}
    (found : errands[position]? = some (errand, task))
    (taken : Task) :
    (errands.set position (errand, taken)).map (·.1) = errands.map (·.1) := by
  rw [List.map_set]
  apply List.ext_getElem?
  intro other
  by_cases same : position = other
  · subst same
    obtain ⟨inside, equal⟩ := List.getElem?_eq_some_iff.mp found
    simp [inside, equal]
  · simp [same]

/-- No move makes a desk forget an errand. -/
theorem Accepted.next
    {desk : Desk}
    {errand : Errand}
    (accepted : desk.Accepted errand)
    (client : Client)
    (script : Script)
    (move : Move) :
    (desk.next client script move).Accepted errand := by
  cases move with
  | accept other =>
      simp only [Accepted, Desk.next, List.map_append]
      exact List.mem_append_left _ accepted
  | advance position =>
      simp only [Accepted, Desk.next]
      split
      · exact accepted
      · rename_i other task found
        rw [errands_set found]
        exact accepted
  | wait duration => exact accepted
  | lose keeps => exact accepted

/-- Requests are sent and errands come in behind those that were there. -/
structure Precedes (desk later : Desk) : Prop where
  sent : desk.session.sent <+: later.session.sent
  errands : desk.errands.map (·.1) <+: later.errands.map (·.1)

namespace Precedes

variable {desk middle later : Desk}

theorem refl (desk : Desk) : desk.Precedes desk := ⟨List.prefix_rfl, List.prefix_rfl⟩

theorem trans
    (first : desk.Precedes middle)
    (second : middle.Precedes later) :
    desk.Precedes later :=
  ⟨first.sent.trans second.sent, first.errands.trans second.errands⟩

theorem length_le (precedes : desk.Precedes later) :
    desk.errands.length ≤ later.errands.length := by
  simpa using precedes.errands.length_le

end Precedes

/-- Advancing an errand takes the next step of its task. -/
theorem next_advance
    {client : Client}
    {script : Script}
    {desk : Desk}
    {position : Nat}
    {errand : Errand}
    {task : Task}
    (found : desk.errands[position]? = some (errand, task)) :
    desk.next client script (.advance position) =
      ⟨(task.step client script desk.session).2,
        desk.errands.set position (errand, (task.step client script desk.session).1)⟩ := by
  simp only [Desk.next, found]

section Runs

variable (client : Client) (script : Script)

theorem precedes_next
    (desk : Desk)
    (move : Move) :
    desk.Precedes (desk.next client script move) := by
  cases move with
  | accept errand =>
      refine ⟨List.prefix_rfl, ?_⟩
      simp only [Desk.next, List.map_append]
      exact List.prefix_append _ _
  | advance position =>
      simp only [Desk.next]
      split
      · exact .refl desk
      · rename_i errand task found
        have same := errands_set found (task.step client script desk.session).1
        exact ⟨task.sent_prefix_step client script desk.session, same ▸ List.prefix_rfl⟩
  | wait duration => exact ⟨List.prefix_rfl, List.prefix_rfl⟩
  | lose keeps => exact ⟨List.prefix_rfl, List.prefix_rfl⟩

theorem run_append
    (first second : List Move) :
    run client script (first ++ second) =
      second.foldl (Desk.next client script) (run client script first) :=
  List.foldl_append

/-- The desk after one more move. -/
theorem run_concat
    (moves : List Move)
    (move : Move) :
    run client script (moves ++ [move]) = (run client script moves).next client script move :=
  run_append client script moves [move]

theorem precedes_run
    (first second : List Move) :
    (run client script first).Precedes (run client script (first ++ second)) := by
  rw [run_append]
  exact List.foldlRecOn (motive := (run client script first).Precedes) second _ (.refl _)
    fun desk before move _ => before.trans (precedes_next client script desk move)

end Runs

variable {client : Client} {script : Script}

/-- An errand that has got to a task that it did not begin with has got there by a step. -/
theorem exists_advance
    {moves : List Move}
    {position : Nat}
    {errand : Errand}
    {task : Task}
    (found : (run client script moves).errands[position]? = some (errand, task))
    (begun : errand.task ≠ task) :
    ∃ before after earlier, moves = before ++ .advance position :: after ∧
      (run client script before).errands[position]? = some (errand, earlier) ∧
      earlier ≠ task ∧
      (earlier.step client script (run client script before).session).1 = task := by
  induction moves using List.reverseRecOn with
  | nil => nomatch found
  | append_singleton moves move inductionHypothesis =>
      have earlier :
          (run client script moves).errands[position]? = some (errand, task) →
            ∃ before after earlier, moves ++ [move] = before ++ .advance position :: after ∧
              (run client script before).errands[position]? = some (errand, earlier) ∧
              earlier ≠ task ∧
              (earlier.step client script (run client script before).session).1 = task := by
        intro found
        obtain ⟨before, after, earlier, rfl, taken⟩ := inductionHypothesis found
        exact ⟨before, after ++ [move], earlier, by simp, taken⟩
      rw [run_concat] at found
      cases move with
      | accept other =>
          rcases getElem?_of_concat found with found | ⟨-, same⟩
          · exact earlier found
          · obtain ⟨rfl, rfl⟩ := Prod.mk.inj same
            exact absurd rfl begun
      | advance other =>
          simp only [Desk.next] at found
          split at found
          · exact earlier found
          · rename_i holder stage stands
            rcases getElem?_of_set found with ⟨rfl, same⟩ | ⟨-, found⟩
            · obtain ⟨rfl, rfl⟩ := Prod.mk.inj same
              by_cases still :
                  stage = (stage.step client script (run client script moves).session).1
              · rw [← still] at earlier ⊢
                exact earlier stands
              · exact ⟨moves, [], stage, rfl, stands, still, rfl⟩
            · exact earlier found
      | wait duration => exact earlier found
      | lose keeps => exact earlier found

end Desk

/-! A small client at work, for runs that can be followed to their end. -/

namespace Sample

/-- A person with one role that is required as a rule. -/
def person : Identity :=
  ⟨.ofNames "cn=alice" "cn=ca", .user, .ofList ["Analyst", "AuthorizedUser"], ∅, 0⟩

/-- The chain of the person alone, made where some roles are required. -/
def chain (required : NameSet) : Chain where
  members := [person]
  position := 0
  position_primary := by decide
  authorities := (Chain.deriveAuthorities? [person] required).getD ∅
  created := 0

example (required : NameSet) :
    Chain.create required [person] none = .ok (chain required) := rfl

/-- A client that keeps its answers for a minute. -/
def client : Client where
  name := "remote"
  baseUri := { scheme := "http", host := some (.name "authority"), path := .segments [""] }
  maxBytes := none
  listPolicy := .default
  flushPolicy := .default
  cacheLimits := ⟨10, .ofSecs 60, .ofSecs 60⟩

/-- An authority that answers at once and grants nothing. -/
def script : Script := fun _ => ⟨⟨0⟩, .given 200 { chunks := [[0x7b, 0x7d]] }⟩

end Sample
end Authority
end Delegation
