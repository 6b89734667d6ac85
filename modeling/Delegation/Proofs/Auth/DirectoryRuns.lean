import Mathlib.Data.Finset.Card
import Mathlib.Data.List.Forall2
import Delegation.Proofs.Auth.Directory

/-!
# Directories over time

A directory is filled step by step and asked in between. Whatever the steps, it answers from what
was stored last under each pair, it answers all pairs of a request or names the first one that was
never stored, and it counts the pairs that were ever stored. Asking leaves it as it is.
-/

namespace Delegation
namespace Directory

/-- A use of a directory. -/
inductive Step
  /-- Store a principal whose type follows from its subject's units. -/
  | register (dn : DnPair) (roles auths : NameSet) (created : Int)
  /-- Store an identity as it is, while the directory is set up or later. -/
  | insert (identity : Identity)
  /-- Ask for the identities of some pairs. -/
  | lookup (pairs : List DnPair)

/-- The directory after a step. -/
def next (directory : Directory) : Step → Directory
  | .register dn roles auths created => directory.register dn roles auths created
  | .insert identity => directory.insert identity
  | .lookup _ => directory

/-- The directory after some steps from an empty one. -/
def run (serverUnits : List String) (steps : List Step) : Directory :=
  steps.foldl next (empty serverUnits)

/-- The identity that a step stores. Who is registered has the names, the roles, the labels and the
time that are given, and is a server if a unit of the subject is listed. -/
def Step.stored? (serverUnits : List String) : Step → Option Identity
  | .register dn roles auths created => some {
      dn := dn
      type := if Dn.hasListedUnit dn.subject serverUnits then .server else .user
      roles := roles
      auths := auths
      created := created }
  | .insert identity => some identity
  | .lookup _ => none

/-- All identities that some steps store, the latest at the end. -/
def history (serverUnits : List String) (steps : List Step) : List Identity :=
  steps.filterMap (Step.stored? serverUnits)

/-- An identity was stored under a pair, and no other one after it. -/
def IsLatest (history : List Identity) (pair : DnPair) (identity : Identity) : Prop :=
  identity.dn = pair ∧
    ∃ before after, history = before ++ identity :: after ∧ ∀ later ∈ after, later.dn ≠ pair

/-- Some identity was stored under a pair. -/
def WasStored (history : List Identity) (pair : DnPair) : Prop :=
  ∃ identity ∈ history, identity.dn = pair

/-- A directory answers a request from a history. -/
structure Answers (directory : Directory) (history : List Identity) (pairs : List DnPair) :
    Prop where
  /-- There are identities for the pairs exactly if all pairs were stored. -/
  succeeds : (∃ identities, directory.lookup pairs = .ok identities) ↔
    ∀ pair ∈ pairs, WasStored history pair
  /-- They are the latest ones, one for each pair in order. -/
  latest : ∀ identities, directory.lookup pairs = .ok identities →
    List.Forall₂ (IsLatest history) pairs identities
  /-- Otherwise the first pair that was not stored is named. -/
  fails : ∀ error, directory.lookup pairs = .error error →
    ∃ before pair after, pairs = before ++ pair :: after ∧
      (∀ earlier ∈ before, WasStored history earlier) ∧ ¬ WasStored history pair ∧
      error = .unknownIdentity pair

variable {directory : Directory} {stored : List Identity} {identity : Identity} {pair : DnPair}
  {pairs : List DnPair}

/-! ## Histories -/

theorem history_concat (serverUnits : List String) (steps : List Step) (step : Step) :
    history serverUnits (steps ++ [step]) =
      history serverUnits steps ++ (step.stored? serverUnits).toList := by
  rw [history, List.filterMap_append, ← history]
  cases stored : step.stored? serverUnits <;> simp [stored]

/-- The identity that was stored last under a pair. -/
def latest? (stored : List Identity) (pair : DnPair) : Option Identity :=
  stored.reverse.find? fun entry => decide (entry.dn = pair)

theorem latest?_concat (stored : List Identity) (identity : Identity) (pair : DnPair) :
    latest? (stored ++ [identity]) pair =
      if identity.dn = pair then some identity else latest? stored pair := by
  rw [latest?, List.reverse_append, List.reverse_singleton, List.singleton_append, List.find?_cons]
  by_cases here : identity.dn = pair <;> simp [latest?, here]

/-- The latest identity of a pair is the one after which no other of the pair was stored. -/
theorem latest?_eq_some_iff :
    latest? stored pair = some identity ↔ IsLatest stored pair identity := by
  rw [latest?, List.find?_eq_some_iff_append, decide_eq_true_iff, IsLatest]
  refine and_congr_right fun _ => ?_
  constructor
  · rintro ⟨after, before, reversed, others⟩
    refine ⟨before.reverse, after.reverse, ?_, ?_⟩
    · simpa using congrArg List.reverse reversed
    · simpa using others
  · rintro ⟨before, after, rfl, others⟩
    refine ⟨after.reverse, before.reverse, ?_, ?_⟩
    · simp
    · simpa using others

/-- There is a latest identity of a pair exactly if one was stored. -/
theorem isSome_latest?_iff : (latest? stored pair).isSome = true ↔ WasStored stored pair := by
  simp [latest?, WasStored, List.find?_isSome]

/-! ## Steps -/

/-- A directory holds the latest identity of each pair that was stored, and nothing else. -/
structure Reflects (directory : Directory) (stored : List Identity) : Prop where
  found : ∀ pair, directory.get? pair = latest? stored pair
  apart : (directory.entries.map (·.dn)).Nodup

theorem reflects_empty (serverUnits : List String) : Reflects (empty serverUnits) [] :=
  ⟨fun _ => rfl, .nil⟩

/-- Storing adds the pair of an identity at the end, unless it is there already. -/
theorem map_dn_store (identity : Identity) (entries : List Identity) :
    (store identity entries).map (·.dn) =
      if identity.dn ∈ entries.map (·.dn) then entries.map (·.dn)
      else entries.map (·.dn) ++ [identity.dn] := by
  induction entries with
  | nil => rfl
  | cons entry entries inductionHypothesis =>
      by_cases here : entry.dn = identity.dn
      · simp [store, here]
      · rw [store, if_neg here, List.map_cons, inductionHypothesis, List.map_cons]
        by_cases later : identity.dn ∈ entries.map (·.dn)
        · rw [if_pos later, if_pos (List.mem_cons_of_mem _ later)]
        · have absent : identity.dn ∉ entry.dn :: entries.map (·.dn) :=
            List.not_mem_cons_of_ne_of_not_mem (Ne.symm here) later
          rw [if_neg later, if_neg absent, List.cons_append]

/-- A directory that reflects what was stored still does so after one more identity. -/
theorem Reflects.insert
    (reflects : Reflects directory stored)
    (identity : Identity) :
    Reflects (directory.insert identity) (stored ++ [identity]) where
  found pair := by rw [get?_insert, latest?_concat, reflects.found]
  apart := by
    change ((store identity directory.entries).map (·.dn)).Nodup
    rw [map_dn_store]
    split
    · exact reflects.apart
    · rename_i absent
      rw [← List.concat_eq_append]
      exact reflects.apart.concat absent

/-- A step stores its identity behind the others, if it stores one. -/
theorem Reflects.next
    (reflects : Reflects directory stored)
    (step : Step) :
    Reflects (directory.next step) (stored ++ (step.stored? directory.serverUnits).toList) := by
  cases step with
  | register dn roles auths created => exact reflects.insert _
  | insert identity => exact reflects.insert identity
  | lookup pairs =>
      rw [Step.stored?, Option.toList_none, List.append_nil]
      exact reflects

theorem serverUnits_next (directory : Directory) (step : Step) :
    (directory.next step).serverUnits = directory.serverUnits := by
  cases step <;> rfl

theorem run_concat (serverUnits : List String) (steps : List Step) (step : Step) :
    run serverUnits (steps ++ [step]) = (run serverUnits steps).next step :=
  List.foldl_append

theorem serverUnits_run (serverUnits : List String) (steps : List Step) :
    (run serverUnits steps).serverUnits = serverUnits := by
  induction steps using List.reverseRecOn with
  | nil => rfl
  | append_singleton steps step inductionHypothesis =>
      rw [run_concat, serverUnits_next, inductionHypothesis]

/-- After any steps a directory holds the latest of what they stored. -/
theorem reflects_run (serverUnits : List String) (steps : List Step) :
    Reflects (run serverUnits steps) (history serverUnits steps) := by
  -- From the end of the steps, where the latest identities are.
  induction steps using List.reverseRecOn with
  | nil => exact reflects_empty serverUnits
  | append_singleton steps step inductionHypothesis =>
      have longer := inductionHypothesis.next step
      rw [serverUnits_run] at longer
      rw [run_concat, history_concat]
      exact longer

/-! ## Answers -/

/-- The directory knows a pair exactly if an identity of it was stored. -/
theorem Reflects.isSome_get?_iff
    (reflects : Reflects directory stored)
    (pair : DnPair) :
    (directory.get? pair).isSome = true ↔ WasStored stored pair := by
  rw [reflects.found, isSome_latest?_iff]

/-- A directory that reflects what was stored answers from it. -/
theorem Reflects.answers
    (reflects : Reflects directory stored)
    (pairs : List DnPair) :
    directory.Answers stored pairs where
  succeeds := by
    rw [exists_lookup_eq_ok_iff]
    exact forall₂_congr fun pair _ => reflects.isSome_get?_iff pair
  latest identities found := by
    have same := lookup_eq_ok.mp found
    rw [← List.forall₂_eq_eq_eq, List.forall₂_map_left_iff, List.forall₂_map_right_iff] at same
    refine same.imp fun pair identity stored => ?_
    rw [← latest?_eq_some_iff, ← reflects.found, stored]
  fails error failed := by
    obtain ⟨before, pair, after, cut, known, missing, same⟩ := lookup_eq_error.mp failed
    refine ⟨before, pair, after, cut, ?_, ?_, same⟩
    · exact fun earlier inside => (reflects.isSome_get?_iff earlier).mp (known earlier inside)
    · rw [← reflects.isSome_get?_iff, missing]
      exact Bool.false_ne_true

theorem Reflects.mem_map_dn_iff
    (reflects : Reflects directory stored)
    (pair : DnPair) :
    pair ∈ directory.entries.map (·.dn) ↔ pair ∈ stored.map (·.dn) := by
  have held : pair ∈ directory.entries.map (·.dn) ↔ (directory.get? pair).isSome = true := by
    simp [get?, List.find?_isSome]
  rw [held, reflects.isSome_get?_iff, WasStored, List.mem_map]

/-- As many identities are held as there are pairs in the history. -/
theorem Reflects.size_eq (reflects : Reflects directory stored) :
    directory.size = (stored.map (·.dn)).toFinset.card := by
  have pairs : (directory.entries.map (·.dn)).toFinset = (stored.map (·.dn)).toFinset := by
    ext pair
    rw [List.mem_toFinset, List.mem_toFinset, reflects.mem_map_dn_iff]
  rw [← pairs, List.toFinset_card_of_nodup reflects.apart, List.length_map, size]

/-- After any steps a request is answered from what these steps stored: if all of its pairs were
stored, with the latest identity for each, in order, and otherwise with the first pair that was
not. The size is the number of different pairs that were stored, and it makes no difference whether
a request is made. -/
theorem run_answers_latest (serverUnits : List String) (steps : List Step) :
    (∀ pairs, (run serverUnits steps).Answers (history serverUnits steps) pairs) ∧
    (run serverUnits steps).size =
      ((history serverUnits steps).map (·.dn)).toFinset.card ∧
    ∀ pairs later,
      run serverUnits (steps ++ .lookup pairs :: later) = run serverUnits (steps ++ later) := by
  have reflects := reflects_run serverUnits steps
  refine ⟨reflects.answers, reflects.size_eq, fun pairs later => ?_⟩
  rw [run, run, List.foldl_append, List.foldl_append, List.foldl_cons]
  rfl

end Directory
end Delegation
