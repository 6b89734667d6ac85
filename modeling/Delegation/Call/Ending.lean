import Delegation.Time.Duration

/-!
# How calls end

A call is tried until it succeeds, fails for good, uses up its retries, or runs out of time.
-/

namespace Delegation
namespace Call

/-- One try of an operation: how long it takes and what comes out. -/
structure Attempt (ε α : Type) where
  /-- The time from its start to its end. -/
  takes : Duration
  /-- What comes out. -/
  outcome : Except ε α

/-- How a call ends. -/
inductive Ending (ε α : Type)
  /-- An attempt succeeded. -/
  | succeeded (value : α)
  /-- An attempt failed for good. -/
  | failed (error : ε)
  /-- The last attempt failed and no retry was left. -/
  | exhausted (retries : Nat) (last : ε)
  /-- The time limit passed first. -/
  | elapsed (limit : Duration)
  deriving DecidableEq

namespace Ending

variable {ε α : Type}

/-- The wording of an ending of a retried operation; none for a success. -/
def retryMessage? (describe : ε → String) : Ending ε α → Option String
  | succeeded _ => none
  | failed error => some ("Operation failed: " ++ describe error)
  | exhausted retries last =>
      some ("Max retries (" ++ toString retries ++ ") exceeded: " ++ describe last)
  | elapsed limit => some ("Operation timed out after " ++ limit.render)

/-- The wording of an ending of a retried operation under a time limit: everything but the
limit itself is an ending of the retried operation inside. None for a success. -/
def limitedMessage? (describe : ε → String) : Ending ε α → Option String
  | succeeded _ => none
  | elapsed limit => some ("Operation timed out after " ++ limit.render)
  | other => (other.retryMessage? describe).map ("Operation failed: " ++ ·)

end Ending

/-- An event on the way through a call. -/
inductive Event (ε : Type)
  /-- An attempt failed and the next one is waited for. -/
  | waiting (retry budget : Nat) (error : ε) (delay : Duration)
  /-- An attempt failed and no retry is left. -/
  | exhausted (budget : Nat) (error : ε)
  deriving DecidableEq

namespace Event

variable {ε : Type}

/-- The wording of an event. -/
def message (describe : ε → String) : Event ε → String
  | waiting retry budget error delay =>
      "Retry attempt " ++ toString retry ++ "/" ++ toString budget ++ " after " ++
        describe error ++ ", waiting " ++ delay.render
  | exhausted .. => "Max retries reached"

/-- The named fields of an event. -/
def fields (describe : ε → String) : Event ε → List (String × String)
  | waiting .. => []
  | exhausted budget error =>
      [("max_retries", toString budget), ("error", describe error)]

end Event
end Call
end Delegation
