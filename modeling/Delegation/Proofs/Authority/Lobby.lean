import Delegation.Proofs.Authority.SupplierVisits

/-!
# The lobby of a supplier

Callers who want the identity of a service come whenever they like and wait for the lock of its
supplier, which they may get in any order. One caller at most has the lock, so that no two requests
are under way at once, and the visits of all callers form one row.
-/

namespace Delegation
namespace Authority

/-- How far a caller is. -/
inductive Caller
  /-- It waits for the lock. -/
  | waiting
  /-- It has the lock. -/
  | inside (visit : Visit)
  /-- It has got what it came for. -/
  | served (supplied : Supplied)

/-- A caller has the lock. -/
def Caller.isInside : Caller → Bool
  | inside _ => true
  | _ => false

/-- Where callers of a supplier wait for its lock. -/
structure Lobby where
  /-- The supply, while nobody has the lock. -/
  supply : Supply
  /-- The callers in the order in which they came. -/
  callers : List Caller
  /-- The visits that are over, in order. -/
  visits : List Visit

namespace Lobby

/-- What happens next in a lobby. -/
inductive Move
  /-- A caller comes. -/
  | arrive
  /-- The caller at a position takes the lock, if nobody has it. -/
  | enter (position : Nat)
  /-- The caller at a position gives the lock back, after the time that its visit took. -/
  | leave (position : Nat)
  /-- Time passes while nobody has the lock. -/
  | wait (duration : Duration)

/-- Somebody has the lock. -/
def isLocked (lobby : Lobby) : Bool := lobby.callers.any Caller.isInside

/-- The lobby of a new supplier at a time. -/
def start (now : Nat) : Lobby := ⟨{ now := now }, [], []⟩

/-- The visit of a caller that takes the lock. -/
def visitOf
    (supplier : IdentitySupplier)
    (script : Script)
    (lobby : Lobby)
    (position : Nat) : Visit :=
  let got := supplier.get script lobby.supply
  ⟨position, lobby.supply, got.2, got.1⟩

/-- The lobby after a move. -/
def next
    (supplier : IdentitySupplier)
    (script : Script)
    (lobby : Lobby) : Move → Lobby
  | .arrive => { lobby with callers := lobby.callers ++ [.waiting] }
  | .enter position =>
      match lobby.callers[position]? with
      | some .waiting =>
          if lobby.isLocked then lobby
          else
            let visit := lobby.visitOf supplier script position
            { lobby with callers := lobby.callers.set position (.inside visit) }
      | _ => lobby
  | .leave position =>
      match lobby.callers[position]? with
      | some (.inside visit) =>
          ⟨visit.after, lobby.callers.set position (.served visit.supplied),
            lobby.visits ++ [visit]⟩
      | _ => lobby
  | .wait duration =>
      if lobby.isLocked then lobby else { lobby with supply := lobby.supply.wait duration }

/-- The lobby after a number of moves. -/
def run
    (supplier : IdentitySupplier)
    (script : Script)
    (now : Nat)
    (moves : List Move) : Lobby :=
  moves.foldl (next supplier script) (start now)

variable {supplier : IdentitySupplier} {script : Script} {now : Nat} {lobby : Lobby}

/-- What holds of a lobby at all times. -/
structure Orderly
    (supplier : IdentitySupplier)
    (script : Script)
    (now : Nat)
    (lobby : Lobby) : Prop where
  /-- The visits were made one after the other. -/
  log : VisitLog supplier script now lobby.visits lobby.supply
  /-- Who has the lock makes a visit that begins now. -/
  inside : ∀ (position : Nat) (visit : Visit), lobby.callers[position]? = some (.inside visit) →
    visit = lobby.visitOf supplier script position
  /-- One caller at most has the lock. -/
  exclusive : ∀ (position other : Nat) (visit another : Visit),
    lobby.callers[position]? = some (.inside visit) →
      lobby.callers[other]? = some (.inside another) → position = other
  /-- Who is served has made a visit. -/
  served : ∀ (position : Nat) (supplied : Supplied),
    lobby.callers[position]? = some (.served supplied) →
      ∃ visit ∈ lobby.visits, visit.caller = position ∧ visit.supplied = supplied

/-- A new supplier has no callers. -/
theorem orderly_start
    (supplier : IdentitySupplier)
    (script : Script)
    (now : Nat) :
    Orderly supplier script now (start now) where
  log := .start
  inside := by simp [start]
  exclusive := by simp [start]
  served := by simp [start]

/-- While nobody has the lock, no caller makes a visit. -/
theorem not_inside_of_not_isLocked
    (free : lobby.isLocked = false)
    (position : Nat)
    (visit : Visit) :
    lobby.callers[position]? ≠ some (.inside visit) := by
  intro found
  have none := List.any_eq_false.mp free _ (List.mem_of_getElem? found)
  exact none rfl

/-- Who does not wait was there before somebody came. -/
theorem getElem?_of_arrive
    {callers : List Caller}
    {caller : Caller}
    {position : Nat}
    (stands : caller ≠ .waiting)
    (found : (callers ++ [.waiting])[position]? = some caller) :
    callers[position]? = some caller := by
  rcases getElem?_of_concat found with found | ⟨-, rfl⟩
  · exact found
  · exact absurd rfl stands

/-- Who comes has to wait and changes nothing. -/
theorem Orderly.arrive
    (orderly : Orderly supplier script now lobby) :
    Orderly supplier script now (lobby.next supplier script .arrive) where
  log := orderly.log
  inside position visit found :=
    orderly.inside position visit (getElem?_of_arrive (by simp) found)
  exclusive position other visit another found otherFound :=
    orderly.exclusive position other visit another (getElem?_of_arrive (by simp) found)
      (getElem?_of_arrive (by simp) otherFound)
  served position supplied found :=
    orderly.served position supplied (getElem?_of_arrive (by simp) found)

/-- Who takes the lock is alone with it. -/
theorem Orderly.enter
    (orderly : Orderly supplier script now lobby)
    (position : Nat) :
    Orderly supplier script now (lobby.next supplier script (.enter position)) := by
  simp only [Lobby.next]
  split
  · split
    · exact orderly
    · rename_i free
      have none := not_inside_of_not_isLocked (Bool.eq_false_iff.mpr free)
      refine ⟨orderly.log, ?_, ?_, ?_⟩
      · intro place visit found
        rcases getElem?_of_set found with ⟨rfl, same⟩ | ⟨-, found⟩
        · exact Caller.inside.inj same
        · exact absurd found (none place visit)
      · intro place other visit another found otherFound
        rcases getElem?_of_set found with ⟨rfl, -⟩ | ⟨-, found⟩
        · rcases getElem?_of_set otherFound with ⟨rfl, -⟩ | ⟨-, otherFound⟩
          · rfl
          · exact absurd otherFound (none other another)
        · exact absurd found (none place visit)
      · intro place supplied found
        rcases getElem?_of_set found with ⟨-, same⟩ | ⟨-, found⟩
        · nomatch same
        · exact orderly.served place supplied found
  · exact orderly

/-- Who gives the lock back has made one more visit, and nobody is left with it. -/
theorem Orderly.leave
    (orderly : Orderly supplier script now lobby)
    (position : Nat) :
    Orderly supplier script now (lobby.next supplier script (.leave position)) := by
  simp only [Lobby.next]
  split
  · rename_i visit holder
    have made := orderly.inside position visit holder
    -- Nobody but the holder was inside, so nobody is inside now.
    have none : ∀ (place : Nat) (other : Visit),
        (lobby.callers.set position (.served visit.supplied))[place]? ≠
          some (.inside other) := by
      intro place other found
      rcases getElem?_of_set found with ⟨-, same⟩ | ⟨elsewhere, found⟩
      · nomatch same
      · exact elsewhere (orderly.exclusive place position other visit found holder)
    refine ⟨?_, ?_, ?_, ?_⟩
    · rw [made]
      exact .visit orderly.log rfl
    · exact fun place other found => absurd found (none place other)
    · exact fun place _ other _ found _ => absurd found (none place other)
    · intro place supplied found
      rcases getElem?_of_set found with ⟨rfl, same⟩ | ⟨-, found⟩
      · refine ⟨visit, List.mem_append_right _ (List.mem_singleton_self visit), ?_, ?_⟩
        · rw [made]
          rfl
        · exact (Caller.served.inj same).symm
      · obtain ⟨earlier, member, known⟩ := orderly.served place supplied found
        exact ⟨earlier, List.mem_append_left _ member, known⟩
  · exact orderly

/-- Time passes without visits. -/
theorem Orderly.wait
    (orderly : Orderly supplier script now lobby)
    (duration : Duration) :
    Orderly supplier script now (lobby.next supplier script (.wait duration)) := by
  simp only [Lobby.next]
  split
  · exact orderly
  · rename_i free
    have none := not_inside_of_not_isLocked (Bool.eq_false_iff.mpr free)
    exact {
      log := orderly.log.wait duration
      inside := fun position visit found => absurd found (none position visit)
      exclusive := orderly.exclusive
      served := orderly.served }

theorem Orderly.next
    (orderly : Orderly supplier script now lobby)
    (move : Move) :
    Orderly supplier script now (lobby.next supplier script move) := by
  cases move with
  | arrive => exact orderly.arrive
  | enter position => exact orderly.enter position
  | leave position => exact orderly.leave position
  | wait duration => exact orderly.wait duration

/-- At all times, one caller at most has the lock, and the visits follow one another. -/
theorem orderly_run
    (supplier : IdentitySupplier)
    (script : Script)
    (now : Nat)
    (moves : List Move) :
    Orderly supplier script now (run supplier script now moves) := by
  induction moves using List.reverseRecOn with
  | nil => exact orderly_start supplier script now
  | append_singleton moves move inductionHypothesis =>
      rw [run, List.foldl_append]
      exact inductionHypothesis.next move

/-- Whenever callers come and in whatever order they get the lock, each one makes a sound visit,
and the visits follow one another without overlap. Once there is an identity, every later visit
gets one, and identities are fetched at least a validity apart. -/
theorem run_sound
    (supplier : IdentitySupplier)
    (script : Script)
    (now : Nat)
    (moves : List Move) :
    let lobby := run supplier script now moves
    (∀ (earlier : List Visit) (visit : Visit) (later : List Visit),
      lobby.visits = earlier ++ visit :: later →
      visit.Sound supplier script earlier) ∧
    (lobby.visits.Pairwise fun first second =>
      first.supplied.chain.isSome = true → second.supplied.chain.isSome = true) ∧
    (lobby.visits.Pairwise fun first second => ∀ chain other : Chain,
      first.ComesTo supplier script (.ok chain) → second.ComesTo supplier script (.ok other) →
        first.after.now + supplier.validity.nanos ≤ second.after.now) ∧
    (lobby.visits.Pairwise fun first second => first.after.now ≤ second.before.now) ∧
    (∀ (position other : Nat) (visit another : Visit),
      lobby.callers[position]? = some (.inside visit) →
        lobby.callers[other]? = some (.inside another) → position = other) ∧
    ∀ (position : Nat) (supplied : Supplied), lobby.callers[position]? = some (.served supplied) →
      ∃ visit ∈ lobby.visits, visit.caller = position ∧ visit.supplied = supplied := by
  intro lobby
  have orderly : Orderly supplier script now lobby := orderly_run supplier script now moves
  refine ⟨?_, orderly.log.stays_supplied, orderly.log.fetches_apart, orderly.log.one_after_another,
    orderly.exclusive, orderly.served⟩
  intro earlier visit later visits
  have log := orderly.log
  rw [visits] at log
  exact log.sound

/-- The second caller has got the lock, so the first one has to wait for it. -/
example (supplier : IdentitySupplier) (script : Script) :
    (run supplier script 0 [.arrive, .arrive, .enter 1, .enter 0, .leave 0,
      .leave 1]).visits.map (·.caller) = [1] := rfl

end Lobby

namespace Sample

/-- An address that is not one of the web. -/
def ftpIssuer : Url where
  scheme := "ftp"
  host := some (.name "issuer")
  path := .segments ["token"]

/-- A supplier that is to fetch from there. -/
def ftpSupplier : IdentitySupplier where
  uri := ftpIssuer
  timeout := .ofSecs 30
  validity := .ofSecs 86400
  decoder := .ofSecret [0x6B] ∅

end Sample

/-- Settings may name an address that is not one of the web. Nothing has been fetched from it, so a
fetch is due, but no request is sent. -/
theorem Lobby.due_without_request :
    IdentitySupplier.ofSettings { uri := "ftp://issuer/token" } Sample.ftpSupplier.decoder =
        .ok Sample.ftpSupplier ∧
      ∃ visit, (run Sample.ftpSupplier unreachable 0 [.arrive, .enter 0, .leave 0]).visits =
          [visit] ∧
        visit.IsDue Sample.ftpSupplier unreachable [] ∧ ¬ visit.Asks := by
  have read : Url.parse? "ftp://issuer/token" = some Sample.ftpIssuer := by decide +kernel
  refine ⟨?_, _, rfl, ?_, by decide +kernel⟩
  · rw [IdentitySupplier.ofSettings, read]
    rfl
  · intro chain time fetched
    exact absurd fetched Visit.not_lastFetched_nil

end Authority
end Delegation
