import Delegation.Authority.Failure
import Delegation.Call.Count
import Delegation.Proofs.Call.Schedule

/-!
# When the count of failures is exact

With any budget but the largest one, a run that counts its failures in 32 bits is the run that
counts them without a bound. An operation that always fails is therefore tried once more than
it may be retried, and this is the number that is told afterwards. With the largest budget the
count overflows, and the number that is told is one too small.
-/

namespace Delegation
namespace Call

variable {ε α : Type} {budget : UInt32} {delay : Duration} {limit : Option Duration}
variable {isRetryable : ε → Bool} {script : Nat → Attempt ε α}

theorem not_isFull_of_le
    {count : UInt32}
    (below : budget.toNat < RetryPolicy.countLimit)
    (inside : count.toNat ≤ budget.toNat) :
    ¬ isFull count :=
  fun full => Nat.not_lt_of_le inside (full ▸ below)

/-- As long as a count has room, it exceeds the budget where the failures do. -/
theorem lt_add_one_iff
    {count : UInt32}
    (room : ¬ isFull count)
    (budget : UInt32) :
    budget < count + 1 ↔ ¬ count.toNat < budget.toNat := by
  rw [UInt32.lt_iff_toNat_lt, toNat_add_one room]
  omega

/-- Below the largest budget, a run with a counted budget is the run with the same budget. -/
theorem runCountedFrom_eq
    {count : UInt32}
    {failures : Nat}
    (below : budget.toNat < RetryPolicy.countLimit)
    (inside : failures ≤ budget.toNat)
    (counted : count.toNat = failures)
    (time : Nat) :
    runCountedFrom budget delay limit isRetryable script count failures time =
      some (runFrom ⟨budget.toNat, delay⟩ limit isRetryable script failures time) := by
  have room : ¬ isFull count := not_isFull_of_le below (counted ▸ inside)
  have up : (count + 1).toNat = failures + 1 := by rw [toNat_add_one room, counted]
  have spent := lt_add_one_iff room budget
  rw [counted] at spent
  rw [runCountedFrom, runFrom]
  simp only [room, spent, up, dif_neg, not_false_eq_true, ite_not]
  cases isWithin limit (time + (script failures).takes.nanos) with
  | false => rfl
  | true =>
    cases (script failures).outcome with
    | ok value => rfl
    | error error =>
      cases retryable : isRetryable error with
      | false => simp only [retryable, if_true, Bool.false_eq_true, if_false]
      | true =>
        -- The count only has a say where another attempt may follow.
        by_cases left : failures < budget.toNat
        · have further := runCountedFrom_eq below left up
            (time + (script failures).takes.nanos + delay.nanos)
          simp only [retryable, left, further, if_true, Option.map_some]
          split <;> rfl
        · simp only [retryable, left, if_true, if_false]
termination_by budget.toNat - failures

theorem runCounted_eq
    (below : budget.toNat < RetryPolicy.countLimit) :
    runCounted budget delay limit isRetryable script =
      some (runFrom ⟨budget.toNat, delay⟩ limit isRetryable script 0 0) :=
  runCountedFrom_eq below (Nat.zero_le _) rfl 0

section Overflow

variable {count : UInt32} {attempts time : Nat}

/-- A failure that no longer fits into the count ends a run without a result. -/
theorem runCountedFrom_of_isFull
    (transient : (script attempts).isTransient isRetryable = true)
    (full : isFull count) :
    runCountedFrom budget delay none isRetryable script count attempts time = none := by
  obtain ⟨error, outcome, retryable⟩ := RetryPolicy.error_of_isTransient transient
  rw [runCountedFrom]
  simp [isWithin, outcome, retryable, full]

/-- A failure within the budget is followed by the next attempt. -/
theorem runCountedFrom_of_transient
    (transient : (script attempts).isTransient isRetryable = true)
    (room : ¬ isFull count)
    (left : count.toNat < budget.toNat) :
    ∃ event later,
      runCountedFrom budget delay none isRetryable script count attempts time =
        (runCountedFrom budget delay none isRetryable script (count + 1) (attempts + 1)
          later).map (Run.after event) := by
  obtain ⟨error, outcome, retryable⟩ := RetryPolicy.error_of_isTransient transient
  have unspent : ¬ budget < count + 1 := by
    rw [lt_add_one_iff room, not_not]
    exact left
  refine ⟨.waiting (count + 1).toNat budget.toNat error delay,
    time + (script attempts).takes.nanos + delay.nanos, ?_⟩
  conv_lhs => rw [runCountedFrom]
  simp only [isWithin, outcome, retryable, room, unspent, if_true, if_false, dif_neg,
    not_false_eq_true]

/-- Beside the largest budget the count of an operation that always fails overflows. -/
theorem runCountedFrom_overflows
    (largest : isFull budget)
    (failing : ∀ number, (script number).isTransient isRetryable = true)
    {rest : Nat}
    (ahead : count.toNat + rest = RetryPolicy.countLimit) :
    runCountedFrom budget delay none isRetryable script count attempts time = none := by
  -- The count has room for `rest` more failures, and the budget admits all of them.
  induction rest generalizing count attempts time with
  | zero => exact runCountedFrom_of_isFull (failing attempts) ahead
  | succ rest inductionHypothesis =>
      have room : ¬ isFull count := by
        rw [isFull]
        omega
      have left : count.toNat < budget.toNat := by
        rw [largest]
        omega
      have further : (count + 1).toNat + rest = RetryPolicy.countLimit := by
        rw [toNat_add_one room]
        omega
      obtain ⟨event, later, run⟩ := runCountedFrom_of_transient (failing attempts) room left
      rw [run, inductionHypothesis further]
      rfl

end Overflow

section Exhaustion

variable {policy : RetryPolicy}

theorem RetryPolicy.deciding_of_failing
    (failing : ∀ number, (script number).isTransient isRetryable = true) :
    policy.deciding isRetryable script = policy.maxRetries := by
  rcases policy.deciding_spec isRetryable script with settled | last
  · rw [failing] at settled
    contradiction
  · exact last

/-- An operation that always fails is tried once more than it may be retried. -/
theorem RetryPolicy.run_of_failing
    (failing : ∀ number, (script number).isTransient isRetryable = true) :
    ∃ last, (script policy.maxRetries).outcome = .error last ∧
      (policy.run isRetryable script).ending = .exhausted policy.maxRetries last ∧
      (policy.run isRetryable script).attempts = policy.maxRetries + 1 := by
  obtain ⟨last, outcome, retryable⟩ := error_of_isTransient (failing policy.maxRetries)
  have run : runFrom policy none isRetryable script 0 (policy.startOf script 0) = _ :=
    runFrom_of_inTime rfl (Nat.zero_add _)
  rw [startOf_zero, deciding_of_failing failing] at run
  refine ⟨last, outcome, ?_, ?_⟩
  · rw [RetryPolicy.run, run]
    simp [Attempt.endingUnder, outcome, retryable]
  · rw [RetryPolicy.run, run]

/-- An operation that always fails with errors that are worth a retry is tried once more than its
budget has retries. Below the largest budget the count of failures does not overflow on the way,
and the number of attempts is the one that the policy allows and that a failed call tells. With
the largest budget the number that is told is the largest one that is counted. -/
theorem runCounted_exhausts
    (budget : UInt32)
    (delay : Duration)
    (failing : ∀ number, (script number).isTransient isRetryable = true) :
    let policy : RetryPolicy := ⟨budget.toNat, delay⟩
    let told (last : Authority.Failure) : Except Authority.Failure α :=
      Authority.resultOf (.exhausted budget.toNat last)
    (budget.toNat < RetryPolicy.countLimit →
        ∃ run last, runCounted budget delay none isRetryable script = some run ∧
          (script budget.toNat).outcome = .error last ∧
          run.ending = .exhausted budget.toNat last ∧
          run.attempts = budget.toNat + 1 ∧ run.attempts = policy.maxAttempts) ∧
      (budget.toNat = RetryPolicy.countLimit → policy.maxAttempts = RetryPolicy.countLimit) ∧
      ∀ last, told last = .error (.unavailable policy.maxAttempts last.status?) := by
  intro policy told
  refine ⟨fun below => ?_, fun largest => ?_, fun last => rfl⟩
  · obtain ⟨last, outcome, ending, attempts⟩ := policy.run_of_failing failing
    have allowed : policy.maxAttempts = budget.toNat + 1 := Nat.min_eq_left below
    exact ⟨_, last, runCounted_eq below, outcome, ending, attempts, attempts.trans allowed.symm⟩
  · have counted : RetryPolicy.countLimit ≤ budget.toNat + 1 := largest ▸ Nat.le_succ _
    exact Nat.min_eq_right counted

/-- All attempts fail at once. -/
def sampleScript : Nat → Attempt Unit Unit := fun _ => ⟨⟨0⟩, .error ()⟩

/-- The second largest budget is counted to its end. -/
theorem runCounted_exhausts_sample :
    (∀ number, (sampleScript number).isTransient (fun _ => true) = true) ∧
      ∃ run, runCounted 0xFFFFFFFE ⟨0⟩ none (fun _ => true) sampleScript = some run ∧
        run.attempts = 0xFFFFFFFF := by
  have failing : ∀ number, (sampleScript number).isTransient (fun _ => true) = true :=
    fun _ => rfl
  obtain ⟨run, last, counted, -, -, attempts, -⟩ :=
    (runCounted_exhausts 0xFFFFFFFE ⟨0⟩ failing).1 (by decide)
  exact ⟨failing, run, counted, attempts⟩

/-- The largest budget is not counted to its end: the count of an operation that always fails
overflows, and one attempt more than the policy allows would use the budget up. -/
theorem runCounted_overflows :
    (∀ number, (sampleScript number).isTransient (fun _ => true) = true) ∧
      runCounted 0xFFFFFFFF ⟨0⟩ none (fun _ => true) sampleScript = none ∧
      RetryPolicy.maxAttempts ⟨(0xFFFFFFFF : UInt32).toNat, ⟨0⟩⟩ ≠
        (0xFFFFFFFF : UInt32).toNat + 1 := by
  have largest : isFull 0xFFFFFFFF := by decide
  have failing : ∀ number, (sampleScript number).isTransient (fun _ => true) = true :=
    fun _ => rfl
  exact ⟨failing, runCountedFrom_overflows largest failing (Nat.zero_add _), by decide⟩

end Exhaustion

end Call
end Delegation
