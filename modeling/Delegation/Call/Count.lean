import Delegation.Call.Policy

/-!
# Counted failures

A run with retries counts its failures in a word of 32 bits. The count goes up before it is
compared with the budget. Below the largest budget it stays in range; beside the largest
one it would have to exceed its own largest value, and overflows.
-/

namespace Delegation
namespace Call

variable {ε α : Type}

/-- One more failure does not fit into the count. -/
def isFull (count : UInt32) : Prop :=
  count.toNat = RetryPolicy.countLimit

instance (count : UInt32) : Decidable (isFull count) :=
  inferInstanceAs (Decidable (_ = _))

theorem toNat_add_one {count : UInt32} (room : ¬ isFull count) :
    (count + 1).toNat = count.toNat + 1 := by
  have range := count.toNat_lt
  rw [isFull, RetryPolicy.countLimit] at room
  rw [UInt32.toNat_add, UInt32.toNat_one]
  omega

/-- Run attempts from one that starts at `time`, with a budget of retries and a count of
failures of 32 bits each; nothing comes out where the count overflows. -/
def runCountedFrom (budget : UInt32) (delay : Duration) (limit : Option Duration)
    (isRetryable : ε → Bool) (script : Nat → Attempt ε α) (count : UInt32)
    (attempts time : Nat) : Option (Run ε α) :=
  let attempt := script attempts
  let ended := time + attempt.takes.nanos
  if isWithin limit ended then
    match attempt.outcome with
    | .ok value => some ⟨.succeeded value, attempts + 1, ended, []⟩
    | .error error =>
        if isRetryable error then
          if room : isFull count then
            none
          else if budget < count + 1 then
            some ⟨.exhausted budget.toNat error, attempts + 1, ended,
              [.exhausted budget.toNat error]⟩
          else
            let event := .waiting (count + 1).toNat budget.toNat error delay
            let next := ended + delay.nanos
            if isWithin limit next then
              (runCountedFrom budget delay limit isRetryable script (count + 1) (attempts + 1)
                next).map (Run.after event)
            else
              some (cutOff limit (attempts + 1) [event])
        else
          some ⟨.failed error, attempts + 1, ended, []⟩
  else
    some (cutOff limit (attempts + 1) [])
termination_by RetryPolicy.countLimit - count.toNat
decreasing_by
  have range := count.toNat_lt
  rw [toNat_add_one room]
  rw [isFull, RetryPolicy.countLimit] at room
  rw [RetryPolicy.countLimit]
  omega

/-- Run an operation with a counted budget of retries, under a time limit if there is one. -/
def runCounted (budget : UInt32) (delay : Duration) (limit : Option Duration)
    (isRetryable : ε → Bool) (script : Nat → Attempt ε α) : Option (Run ε α) :=
  runCountedFrom budget delay limit isRetryable script 0 0 0

end Call
end Delegation
