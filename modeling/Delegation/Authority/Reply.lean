import Delegation.Authority.Failure
import Delegation.Json.Reader

/-!
# Replies of a remote authority

What comes back for one request: nothing, or a status with a body that arrives in pieces.
A body is read up to a limit, and what an outcome means follows from status and body.
-/

namespace Delegation
namespace Authority

/-- The body of a reply. -/
structure Body where
  /-- The length that the reply promises. -/
  declared : Option Nat := none
  /-- The pieces in which the body arrives. -/
  chunks : List (List UInt8) := []
  /-- What breaks the connection after these pieces, if anything does. -/
  broken : Option String := none
  deriving DecidableEq

namespace Body

/-- The bytes at the end of the pieces, unless the connection broke. -/
def finish (body : Body) (held : List UInt8) : Except Failure (List UInt8) :=
  match body.broken with
  | some detail => .error (.transport detail)
  | none => .ok held

/-- A body that is being read under a limit. -/
structure Reading where
  /-- The bytes that are held. -/
  held : List UInt8
  /-- The pieces that are still to come. -/
  left : List (List UInt8)

/-- Add the next piece to the bytes that are held, if there is one and they stay within the
limit. -/
def Reading.next? (limit : Nat) : Reading → Except Failure (Option Reading)
  | ⟨_, []⟩ => .ok none
  | ⟨held, chunk :: left⟩ =>
      if limit < held.length + chunk.length then .error (.tooLarge limit)
      else .ok (some ⟨held ++ chunk, left⟩)

theorem Reading.length_left_of_next?
    {limit : Nat}
    {reading other : Reading}
    (next : reading.next? limit = .ok (some other)) :
    other.left.length < reading.left.length := by
  obtain ⟨held, _ | ⟨chunk, left⟩⟩ := reading
  · cases next
  · rw [next?] at next
    split at next
    · cases next
    · obtain rfl := Option.some.inj (Except.ok.inj next)
      exact Nat.lt_succ_self _

/-- Add one piece after the other until none is left. -/
def collect (body : Body) (limit : Nat) (reading : Reading) : Except Failure (List UInt8) :=
  match _ : reading.next? limit with
  | .error failure => .error failure
  | .ok none => body.finish reading.held
  | .ok (some other) => body.collect limit other
termination_by reading.left.length
decreasing_by exact Reading.length_left_of_next? ‹_›

/-- Read a body. Under a limit, neither the promised nor the actual length may exceed it. -/
def read (body : Body) : Option Nat → Except Failure (List UInt8)
  | none => body.finish body.chunks.flatten
  | some limit =>
      if body.declared.any (limit < ·) then .error (.tooLarge limit)
      else body.collect limit ⟨[], body.chunks⟩

end Body

/-- What comes back for a request. -/
inductive Answer
  /-- No connection is made, so the request does not arrive. -/
  | refused
  /-- The connection fails after the request. -/
  | lost (detail : String)
  /-- A status with a body. -/
  | given (status : Nat) (body : Body)
  deriving DecidableEq

namespace Answer

/-- The request has arrived at the remote side. -/
def arrived : Answer → Bool
  | refused => false
  | _ => true

/-- The document in the body of an answer. -/
def document {α : Type} (read : Json → Option α) (bytes : List UInt8) : Except Failure α :=
  match (Json.readBytes? bytes).bind read with
  | some value => .ok value
  | none => .error (.undecodable "unexpected document")

/-- What an answer means: server errors and all statuses but successes are failures, and the
body of a success is read. -/
def outcome {α : Type} (limit : Option Nat) (read : Json → Option α) :
    Answer → Except Failure α
  | refused => .error (.transport "error sending request")
  | lost detail => .error (.transport detail)
  | given status body =>
      if 500 ≤ status ∧ status < 600 then .error (.serverError status)
      else if 200 ≤ status ∧ status < 300 then
        match body.read limit with
        | .ok bytes => document read bytes
        | .error failure => .error failure
      else .error (.clientError status)

end Answer

/-- An answer and the time that it takes. -/
structure Reply where
  /-- The time from the request to the end of the answer. -/
  takes : Duration
  /-- What comes back. -/
  answer : Answer
  deriving DecidableEq

/-- The replies of a remote side to its requests, by their number. -/
abbrev Script := Nat → Reply

/-- A remote side that no connection reaches. -/
def unreachable : Script :=
  fun _ => ⟨⟨0⟩, .refused⟩

end Authority
end Delegation
