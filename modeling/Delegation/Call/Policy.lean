import Delegation.Call.Ending

/-!
# Retries and time limits

A failed attempt is retried after a fixed delay while the failure is worth a retry and the
budget lasts. A time limit bounds the whole call, attempts and delays together. Whatever
ends exactly at the limit still counts; what would end later is cut off there.
-/

namespace Delegation
namespace Call

/-- A retry budget and the delay before each retry. -/
structure RetryPolicy where
  /-- How many attempts may follow the first one. -/
  maxRetries : Nat
  /-- The wait before each of them. -/
  delay : Duration
  deriving DecidableEq

namespace RetryPolicy

/-- Five retries, two seconds apart. -/
def default : RetryPolicy := ⟨5, .ofSecs 2⟩

/-- The largest number of attempts that is counted. -/
def countLimit : Nat := 0xFFFFFFFF

/-- The number of attempts that the budget allows, as far as it is counted. -/
def maxAttempts (policy : RetryPolicy) : Nat :=
  min (policy.maxRetries + 1) countLimit

end RetryPolicy

/-- A retry policy under a time limit. -/
structure Policy where
  /-- The bound of the whole call. -/
  limit : Duration
  /-- Retries within it. -/
  retry : RetryPolicy
  deriving DecidableEq

namespace Policy

/-- Thirty seconds for the default retries. -/
def default : Policy := ⟨.ofSecs 30, .default⟩

instance : Inhabited Policy := ⟨default⟩

/-- The inspection form of a policy. -/
def inspect (policy : Policy) : String :=
  "CallPolicy \x7b timeout: TimeoutConfig \x7b duration: " ++ policy.limit.render ++
    " \x7d, retry: RetryConfig \x7b max_retries: " ++ toString policy.retry.maxRetries ++
    ", delay: " ++ policy.retry.delay.render ++ " \x7d \x7d"

end Policy

/-- A call that has ended. -/
structure Run (ε α : Type) where
  /-- How it ended. -/
  ending : Ending ε α
  /-- How many attempts were started. -/
  attempts : Nat
  /-- The time from its start to its end, in nanoseconds. -/
  elapsed : Nat
  /-- The events on the way, in order. -/
  events : List (Event ε)

namespace Run

variable {ε α : Type}

/-- The run with an event in front. -/
def after (event : Event ε) (run : Run ε α) : Run ε α :=
  { run with events := event :: run.events }

end Run

variable {ε α : Type}

/-- A time lies within a limit, if there is one. -/
def isWithin (limit : Option Duration) (time : Nat) : Bool :=
  match limit with
  | none => true
  | some limit => decide (time ≤ limit.nanos)

/-- The run that a limit cuts off. -/
def cutOff (limit : Option Duration) (attempts : Nat) (events : List (Event ε)) : Run ε α :=
  let limit := limit.getD ⟨0⟩
  ⟨.elapsed limit, attempts, limit.nanos, events⟩

/-- Run attempts from the one that follows `failures` failed ones, which starts at `time`. -/
def runFrom (policy : RetryPolicy) (limit : Option Duration) (isRetryable : ε → Bool)
    (script : Nat → Attempt ε α) (failures time : Nat) : Run ε α :=
  let attempt := script failures
  let ended := time + attempt.takes.nanos
  if isWithin limit ended then
    match attempt.outcome with
    | .ok value => ⟨.succeeded value, failures + 1, ended, []⟩
    | .error error =>
        if isRetryable error then
          if failures < policy.maxRetries then
            let event := .waiting (failures + 1) policy.maxRetries error policy.delay
            let next := ended + policy.delay.nanos
            if isWithin limit next then
              (runFrom policy limit isRetryable script (failures + 1) next).after event
            else
              cutOff limit (failures + 1) [event]
          else
            ⟨.exhausted policy.maxRetries error, failures + 1, ended,
              [.exhausted policy.maxRetries error]⟩
        else
          ⟨.failed error, failures + 1, ended, []⟩
  else
    cutOff limit (failures + 1) []
termination_by policy.maxRetries - failures

/-- Run an operation with retries; the script gives its attempts by number. -/
def RetryPolicy.run (policy : RetryPolicy) (isRetryable : ε → Bool)
    (script : Nat → Attempt ε α) : Run ε α :=
  runFrom policy none isRetryable script 0 0

/-- Run an operation with retries under a time limit. -/
def Policy.run (policy : Policy) (isRetryable : ε → Bool) (script : Nat → Attempt ε α) :
    Run ε α :=
  runFrom policy.retry (some policy.limit) isRetryable script 0 0

/-- Run a single attempt under a time limit. -/
def Attempt.runWithin (attempt : Attempt ε α) (limit : Duration) : Run ε α :=
  runFrom ⟨0, ⟨0⟩⟩ (some limit) (fun _ => false) (fun _ => attempt) 0 0

end Call
end Delegation
