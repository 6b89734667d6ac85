import Mathlib.Algebra.BigOperators.Intervals
import Mathlib.Data.Nat.Find
import Delegation.Call.Policy

/-!
# When calls end

The attempts of a call have a schedule in which no limit has a say: each one starts when the one
before it has failed and the delay has passed, up to the attempt that decides the call. A
call whose deciding attempt ends within its limit follows its schedule to the end. Any other
one is cut off at the limit, inside the last attempt that has started by then or inside the
wait after it.
-/

namespace Delegation
namespace Call

variable {ε α : Type}

/-- An attempt fails with an error that is worth a retry. -/
def Attempt.isTransient
    (isRetryable : ε → Bool)
    (attempt : Attempt ε α) : Bool :=
  match attempt.outcome with
  | .ok _ => false
  | .error error => isRetryable error

/-- How a call ends that an attempt decides: with its value, with its error, or with an error
that would be worth a retry if one were left. -/
def Attempt.endingUnder
    (policy : RetryPolicy)
    (isRetryable : ε → Bool)
    (attempt : Attempt ε α) : Ending ε α :=
  match attempt.outcome with
  | .ok value => .succeeded value
  | .error error =>
      if isRetryable error then .exhausted policy.maxRetries error else .failed error

/-- The event of an attempt that decides a call. -/
def Attempt.closing
    (policy : RetryPolicy)
    (isRetryable : ε → Bool)
    (attempt : Attempt ε α) : List (Event ε) :=
  match attempt.outcome with
  | .ok _ => []
  | .error error =>
      if isRetryable error then [.exhausted policy.maxRetries error] else []

/-- The number of the retry that an event announces. -/
def Event.retry? : Event ε → Option Nat
  | waiting retry .. => some retry
  | exhausted .. => none

namespace RetryPolicy

/-- The attempt that decides a call, counted from zero: the first one that does not fail with
an error that is worth a retry, at the latest the last one of the budget. -/
def deciding
    (policy : RetryPolicy)
    (isRetryable : ε → Bool)
    (script : Nat → Attempt ε α) : Nat :=
  Nat.find (⟨policy.maxRetries, .inr rfl⟩ :
    ∃ number, (script number).isTransient isRetryable = false ∨ number = policy.maxRetries)

/-- When an attempt starts: after all attempts before it and as many delays. -/
def startOf
    (policy : RetryPolicy)
    (script : Nat → Attempt ε α)
    (number : Nat) : Nat :=
  (∑ earlier ∈ Finset.range number, (script earlier).takes.nanos) + number * policy.delay.nanos

/-- When an attempt ends: after all attempts up to it and the delays between them. -/
def endOf
    (policy : RetryPolicy)
    (script : Nat → Attempt ε α)
    (number : Nat) : Nat :=
  (∑ each ∈ Finset.range (number + 1), (script each).takes.nanos) + number * policy.delay.nanos

/-- The event of the wait that follows a failed attempt. -/
def waitAfter?
    (policy : RetryPolicy)
    (script : Nat → Attempt ε α)
    (number : Nat) : Option (Event ε) :=
  match (script number).outcome with
  | .ok _ => none
  | .error error => some (.waiting (number + 1) policy.maxRetries error policy.delay)

/-- The events of the waits that follow some failed attempts. -/
def waitsAfter
    (policy : RetryPolicy)
    (script : Nat → Attempt ε α)
    (numbers : List Nat) : List (Event ε) :=
  numbers.filterMap (policy.waitAfter? script)

variable {policy : RetryPolicy} {isRetryable : ε → Bool} {script : Nat → Attempt ε α}
variable {limit : Option Duration} {number : Nat}

theorem endOf_eq :
    policy.endOf script number = policy.startOf script number + (script number).takes.nanos := by
  rw [endOf, startOf, Finset.sum_range_succ]
  omega

theorem startOf_succ :
    policy.startOf script (number + 1) = policy.endOf script number + policy.delay.nanos := by
  rw [startOf, endOf, Nat.succ_mul]
  omega

@[simp] theorem startOf_zero : policy.startOf script 0 = 0 := by
  simp [startOf]

theorem startOf_mono : Monotone (policy.startOf script) := by
  apply monotone_nat_of_le_succ
  intro number
  rw [startOf_succ, endOf_eq]
  omega

theorem startOf_le_endOf : policy.startOf script number ≤ policy.endOf script number := by
  rw [endOf_eq]
  exact Nat.le_add_right _ _

/-- An attempt ends before any later one starts. -/
theorem endOf_le_startOf
    {later : Nat}
    (before : number < later) :
    policy.endOf script number ≤ policy.startOf script later :=
  calc policy.endOf script number
      ≤ policy.startOf script (number + 1) := by
        rw [startOf_succ]
        exact Nat.le_add_right _ _
    _ ≤ policy.startOf script later := startOf_mono before

theorem endOf_mono : Monotone (policy.endOf script) :=
  monotone_nat_of_le_succ fun number =>
    Nat.le_trans (endOf_le_startOf (Nat.lt_succ_self number)) startOf_le_endOf

theorem deciding_le : policy.deciding isRetryable script ≤ policy.maxRetries :=
  Nat.find_min' _ (.inr rfl)

/-- The attempt that decides a call is not followed by a retry. -/
theorem deciding_spec
    (policy : RetryPolicy)
    (isRetryable : ε → Bool)
    (script : Nat → Attempt ε α) :
    (script (policy.deciding isRetryable script)).isTransient isRetryable = false ∨
      policy.deciding isRetryable script = policy.maxRetries :=
  Nat.find_spec (p := fun number =>
    (script number).isTransient isRetryable = false ∨ number = policy.maxRetries) _

/-- All attempts before the one that decides a call are followed by a retry. -/
theorem transient_of_lt_deciding
    (earlier : number < policy.deciding isRetryable script) :
    (script number).isTransient isRetryable = true := by
  have undecided := Nat.find_min _ earlier
  simp only [not_or, Bool.not_eq_false] at undecided
  exact undecided.1

theorem error_of_isTransient
    {attempt : Attempt ε α}
    (transient : attempt.isTransient isRetryable = true) :
    ∃ error, attempt.outcome = .error error ∧ isRetryable error = true := by
  unfold Attempt.isTransient at transient
  cases outcome : attempt.outcome with
  | ok value => simp [outcome] at transient
  | error error => exact ⟨error, rfl, by simpa [outcome] using transient⟩

end RetryPolicy

section Limits

variable {limit : Option Duration} {earlier later : Nat}

theorem isWithin_of_le
    (within : isWithin limit later = true)
    (before : earlier ≤ later) :
    isWithin limit earlier = true := by
  cases limit with
  | none => rfl
  | some limit =>
      simp only [isWithin, decide_eq_true_eq] at within ⊢
      exact Nat.le_trans before within

theorem lt_of_isWithin
    (within : isWithin limit earlier = true)
    (late : isWithin limit later = false) :
    earlier < later := by
  by_contra notBefore
  rw [isWithin_of_le within (Nat.le_of_not_lt notBefore)] at late
  exact Bool.noConfusion late

end Limits

section Steps

variable {policy : RetryPolicy} {limit : Option Duration} {isRetryable : ε → Bool}
variable {script : Nat → Attempt ε α} {failures : Nat}

/-- An attempt that would end too late is cut off. -/
theorem runFrom_of_late
    (late : isWithin limit (policy.endOf script failures) = false) :
    runFrom policy limit isRetryable script failures (policy.startOf script failures) =
      cutOff limit (failures + 1) [] := by
  rw [RetryPolicy.endOf_eq] at late
  rw [runFrom]
  simp [late]

/-- The attempt that decides a call ends it. -/
theorem runFrom_deciding
    (inTime : isWithin limit
      (policy.endOf script (policy.deciding isRetryable script)) = true) :
    runFrom policy limit isRetryable script (policy.deciding isRetryable script)
        (policy.startOf script (policy.deciding isRetryable script)) =
      ⟨(script (policy.deciding isRetryable script)).endingUnder policy isRetryable,
        policy.deciding isRetryable script + 1,
        policy.endOf script (policy.deciding isRetryable script),
        (script (policy.deciding isRetryable script)).closing policy isRetryable⟩ := by
  have spec := policy.deciding_spec isRetryable script
  generalize policy.deciding isRetryable script = last at inTime spec ⊢
  rw [RetryPolicy.endOf_eq] at inTime
  rw [runFrom, RetryPolicy.endOf_eq]
  simp only [inTime, if_true, Attempt.endingUnder, Attempt.closing]
  cases outcome : (script last).outcome with
  | ok value => rfl
  | error error =>
      cases retryable : isRetryable error with
      | false => simp [retryable]
      | true =>
          have exhausted : last = policy.maxRetries := by
            simpa [Attempt.isTransient, outcome, retryable] using spec
          simp [exhausted, retryable]

/-- After an attempt that is worth a retry comes a wait, and then the next attempt unless the
limit falls into the wait. -/
theorem runFrom_of_transient
    (earlier : failures < policy.deciding isRetryable script)
    (inTime : isWithin limit (policy.endOf script failures) = true) :
    ∃ event, policy.waitAfter? script failures = some event ∧
      runFrom policy limit isRetryable script failures (policy.startOf script failures) =
        if isWithin limit (policy.startOf script (failures + 1)) then
          (runFrom policy limit isRetryable script (failures + 1)
            (policy.startOf script (failures + 1))).after event
        else
          cutOff limit (failures + 1) [event] := by
  obtain ⟨error, outcome, retryable⟩ :=
    RetryPolicy.error_of_isTransient (RetryPolicy.transient_of_lt_deciding earlier)
  have left : failures < policy.maxRetries :=
    Nat.lt_of_lt_of_le earlier RetryPolicy.deciding_le
  refine ⟨_, by rw [RetryPolicy.waitAfter?, outcome], ?_⟩
  rw [RetryPolicy.endOf_eq] at inTime
  rw [RetryPolicy.startOf_succ, RetryPolicy.endOf_eq, runFrom]
  simp [inTime, outcome, retryable, left]

end Steps

section Runs

variable {policy : RetryPolicy} {limit : Option Duration} {isRetryable : ε → Bool}
variable {script : Nat → Attempt ε α} {failures : Nat}

/-- A call whose deciding attempt ends in time follows its schedule to the end. -/
theorem runFrom_of_inTime
    (inTime : isWithin limit
      (policy.endOf script (policy.deciding isRetryable script)) = true)
    {rest : Nat}
    (ahead : failures + rest = policy.deciding isRetryable script) :
    runFrom policy limit isRetryable script failures (policy.startOf script failures) =
      ⟨(script (policy.deciding isRetryable script)).endingUnder policy isRetryable,
        policy.deciding isRetryable script + 1,
        policy.endOf script (policy.deciding isRetryable script),
        policy.waitsAfter script (List.range' failures rest) ++
          (script (policy.deciding isRetryable script)).closing policy isRetryable⟩ := by
  -- Up to the deciding attempt, `rest` more attempts fail, and each of them in time.
  induction rest generalizing failures with
  | zero =>
      obtain rfl := ahead
      exact runFrom_deciding inTime
  | succ rest inductionHypothesis =>
      have earlier : failures < policy.deciding isRetryable script := by omega
      have further : failures + 1 + rest = policy.deciding isRetryable script := by omega
      have ends := isWithin_of_le inTime (RetryPolicy.endOf_mono earlier.le)
      have starts : isWithin limit (policy.startOf script (failures + 1)) = true := by
        exact isWithin_of_le inTime
          (Nat.le_trans (RetryPolicy.startOf_mono earlier) RetryPolicy.startOf_le_endOf)
      obtain ⟨event, waits, run⟩ := runFrom_of_transient earlier ends
      rw [run, if_pos starts, inductionHypothesis further]
      simp [Run.after, RetryPolicy.waitsAfter, List.range'_succ, waits]

/-- Where a limit cuts a call off: inside an attempt that has started by then, or inside the
wait after a failed one. Beside the attempt stands the number of waits that have begun. -/
inductive CutsAt
    (policy : RetryPolicy)
    (limit : Option Duration)
    (script : Nat → Attempt ε α)
    (last : Nat) : Nat → Nat → Prop
  | attempt (number : Nat) :
      number ≤ last →
      isWithin limit (policy.startOf script number) = true →
      isWithin limit (policy.endOf script number) = false →
      CutsAt policy limit script last number number
  | wait (number : Nat) :
      number < last →
      isWithin limit (policy.endOf script number) = true →
      isWithin limit (policy.startOf script (number + 1)) = false →
      CutsAt policy limit script last number (number + 1)

/-- A call whose deciding attempt would end too late is cut off. -/
theorem runFrom_of_tooLate
    (late : isWithin limit
      (policy.endOf script (policy.deciding isRetryable script)) = false)
    (started : isWithin limit (policy.startOf script failures) = true)
    {rest : Nat}
    (ahead : failures + rest = policy.deciding isRetryable script) :
    ∃ number begun,
      CutsAt policy limit script (policy.deciding isRetryable script) number
          (failures + begun) ∧
        runFrom policy limit isRetryable script failures (policy.startOf script failures) =
          cutOff limit (number + 1) (policy.waitsAfter script (List.range' failures begun)) := by
  induction rest generalizing failures with
  | zero =>
      obtain rfl := ahead
      exact ⟨_, 0, .attempt _ (Nat.le_refl _) started late, runFrom_of_late late⟩
  | succ rest inductionHypothesis =>
      have earlier : failures < policy.deciding isRetryable script := by omega
      have further : failures + 1 + rest = policy.deciding isRetryable script := by omega
      -- The limit falls into this attempt, into the wait after it, or into what follows.
      cases ends : isWithin limit (policy.endOf script failures) with
      | false => exact ⟨failures, 0, .attempt _ earlier.le started ends, runFrom_of_late ends⟩
      | true =>
          obtain ⟨event, waits, run⟩ := runFrom_of_transient earlier ends
          rw [run]
          cases next : isWithin limit (policy.startOf script (failures + 1)) with
          | false =>
              refine ⟨failures, 1, .wait _ earlier ends next, ?_⟩
              simp [RetryPolicy.waitsAfter, waits]
          | true =>
              obtain ⟨number, begun, cuts, cut⟩ := inductionHypothesis next further
              refine ⟨number, begun + 1, by rwa [← Nat.succ_add_eq_add_succ], ?_⟩
              rw [if_pos rfl, cut]
              simp [Run.after, cutOff, RetryPolicy.waitsAfter, List.range'_succ, waits]

end Runs

section Counts

variable {policy : RetryPolicy} {limit : Option Duration} {isRetryable : ε → Bool}
variable {script : Nat → Attempt ε α} {last number begun : Nat}

/-- Where a call is cut off, exactly the attempts up to the deciding one that start within the
limit have started. -/
theorem CutsAt.started_iff
    (cuts : CutsAt policy limit script last number begun)
    {index : Nat} :
    index < number + 1 ↔
      index ≤ last ∧ isWithin limit (policy.startOf script index) = true := by
  cases cuts with
  | attempt inside starts ends =>
      constructor
      · intro before
        have notAfter : index ≤ number := Nat.le_of_lt_succ before
        exact ⟨Nat.le_trans notAfter inside,
          isWithin_of_le starts (RetryPolicy.startOf_mono notAfter)⟩
      · rintro ⟨-, within⟩
        by_contra after
        exact Nat.not_lt_of_le (RetryPolicy.endOf_le_startOf (Nat.le_of_not_lt after))
          (lt_of_isWithin within ends)
  | wait inside ends next =>
      constructor
      · intro before
        have notAfter : index ≤ number := Nat.le_of_lt_succ before
        have beforeEnd : policy.startOf script index ≤ policy.endOf script number :=
          Nat.le_trans (RetryPolicy.startOf_mono notAfter) RetryPolicy.startOf_le_endOf
        exact ⟨Nat.le_trans notAfter inside.le, isWithin_of_le ends beforeEnd⟩
      · rintro ⟨-, within⟩
        exact RetryPolicy.startOf_mono.reflect_lt (lt_of_isWithin within next)

/-- Where a call is cut off, exactly the waits have begun that follow an attempt before the
deciding one which ends within the limit. -/
theorem CutsAt.begun_iff
    (cuts : CutsAt policy limit script last number begun)
    {index : Nat} :
    index < begun ↔ index < last ∧ isWithin limit (policy.endOf script index) = true := by
  cases cuts with
  | attempt inside starts ends =>
      constructor
      · intro before
        exact ⟨Nat.lt_of_lt_of_le before inside,
          isWithin_of_le starts (RetryPolicy.endOf_le_startOf before)⟩
      · rintro ⟨-, within⟩
        exact RetryPolicy.endOf_mono.reflect_lt (lt_of_isWithin within ends)
  | wait inside ends next =>
      constructor
      · intro before
        have notAfter : index ≤ number := Nat.le_of_lt_succ before
        exact ⟨Nat.lt_of_le_of_lt notAfter inside,
          isWithin_of_le ends (RetryPolicy.endOf_mono notAfter)⟩
      · rintro ⟨-, within⟩
        have starts := isWithin_of_le within RetryPolicy.startOf_le_endOf
        exact RetryPolicy.startOf_mono.reflect_lt (lt_of_isWithin starts next)

/-- The numbers below a bound with a property that holds up to some number. -/
theorem filter_range_eq
    {test : Nat → Bool}
    (initial : ∀ index, index < begun ↔ index < last ∧ test index = true) :
    (List.range last).filter test = List.range begun := by
  have bounded : begun ≤ last := by
    by_contra above
    exact absurd ((initial last).mp (Nat.lt_of_not_le above)).1 (Nat.lt_irrefl last)
  obtain ⟨rest, rfl⟩ := Nat.exists_eq_add_of_le bounded
  rw [List.range_add, List.filter_append, List.filter_eq_self.mpr, List.filter_eq_nil_iff.mpr,
    List.append_nil]
  · intro index beyond
    simp only [List.mem_map, List.mem_range] at beyond
    obtain ⟨extra, small, rfl⟩ := beyond
    intro holds
    have before := (initial (begun + extra)).mpr ⟨by omega, holds⟩
    omega
  · intro index before
    exact ((initial index).mp (List.mem_range.mp before)).2

theorem retry?_waitsAfter
    {numbers : List Nat}
    (failed : ∀ number ∈ numbers, number < policy.deciding isRetryable script) :
    (policy.waitsAfter script numbers).filterMap Event.retry? = numbers.map (· + 1) := by
  induction numbers with
  | nil => rfl
  | cons number numbers inductionHypothesis =>
      obtain ⟨error, outcome, -⟩ := RetryPolicy.error_of_isTransient
        (RetryPolicy.transient_of_lt_deciding (failed number List.mem_cons_self))
      have others := inductionHypothesis fun other inside =>
        failed other (List.mem_cons_of_mem _ inside)
      rw [RetryPolicy.waitsAfter] at others ⊢
      simp [RetryPolicy.waitAfter?, outcome, Event.retry?, others]

theorem exhausted_not_mem_waitsAfter
    {numbers : List Nat}
    {budget : Nat}
    {error : ε} :
    Event.exhausted budget error ∉ policy.waitsAfter script numbers := by
  simp only [RetryPolicy.waitsAfter, List.mem_filterMap, not_exists, not_and]
  intro number _
  unfold RetryPolicy.waitAfter?
  split <;> simp

@[simp] theorem retry?_closing (attempt : Attempt ε α) :
    (attempt.closing policy isRetryable).filterMap Event.retry? = [] := by
  unfold Attempt.closing
  split
  · rfl
  · split <;> rfl

/-- The end of a budget is announced exactly when a call ends with it. -/
theorem exhausted_mem_closing_iff {attempt : Attempt ε α} :
    (∃ budget error, Event.exhausted budget error ∈ attempt.closing policy isRetryable) ↔
      ∃ retries error, attempt.endingUnder policy isRetryable = .exhausted retries error := by
  unfold Attempt.closing Attempt.endingUnder
  cases attempt.outcome with
  | ok value => simp
  | error error => cases retryable : isRetryable error <;> simp [retryable]

/-- The attempt that decides a call makes it succeed exactly with its own value. -/
theorem endingUnder_eq_succeeded_iff
    {attempt : Attempt ε α}
    {value : α} :
    attempt.endingUnder policy isRetryable = .succeeded value ↔ attempt.outcome = .ok value := by
  unfold Attempt.endingUnder
  cases attempt.outcome with
  | ok other => simp
  | error error => cases retryable : isRetryable error <;> simp [retryable]

end Counts

namespace Policy

variable {policy : Policy} {isRetryable : ε → Bool} {script : Nat → Attempt ε α}

/-- The attempts before the deciding one that end within the limit: a wait follows each. -/
def followed
    (policy : Policy)
    (isRetryable : ε → Bool)
    (script : Nat → Attempt ε α) : List Nat :=
  (List.range (policy.retry.deciding isRetryable script)).filter fun number =>
    decide (policy.retry.endOf script number ≤ policy.limit.nanos)

theorem lt_deciding_of_mem_followed
    {number : Nat}
    (inside : number ∈ policy.followed isRetryable script) :
    number < policy.retry.deciding isRetryable script :=
  List.mem_range.mp (List.mem_filter.mp inside).1

/-- In a call that is not cut off, a wait follows each attempt before the deciding one. -/
theorem followed_of_inTime
    (inTime : policy.retry.endOf script (policy.retry.deciding isRetryable script) ≤
      policy.limit.nanos) :
    policy.followed isRetryable script =
      List.range (policy.retry.deciding isRetryable script) := by
  apply List.filter_eq_self.mpr
  intro number before
  have earlier := (List.mem_range.mp before).le
  exact decide_eq_true (Nat.le_trans (RetryPolicy.endOf_mono earlier) inTime)

theorem run_of_inTime
    (inTime : policy.retry.endOf script (policy.retry.deciding isRetryable script) ≤
      policy.limit.nanos) :
    policy.run isRetryable script =
      ⟨(script (policy.retry.deciding isRetryable script)).endingUnder policy.retry isRetryable,
        policy.retry.deciding isRetryable script + 1,
        policy.retry.endOf script (policy.retry.deciding isRetryable script),
        policy.retry.waitsAfter script (policy.followed isRetryable script) ++
          (script (policy.retry.deciding isRetryable script)).closing policy.retry
            isRetryable⟩ := by
  have within : isWithin (some policy.limit)
      (policy.retry.endOf script (policy.retry.deciding isRetryable script)) = true :=
    decide_eq_true inTime
  have run := runFrom_of_inTime within (Nat.zero_add _)
  rw [RetryPolicy.startOf_zero, ← List.range_eq_range'] at run
  rw [followed_of_inTime inTime]
  exact run

theorem run_of_tooLate
    (late : policy.limit.nanos <
      policy.retry.endOf script (policy.retry.deciding isRetryable script)) :
    ∃ number count,
      policy.followed isRetryable script = List.range count ∧
        policy.run isRetryable script =
          ⟨.elapsed policy.limit, number + 1, policy.limit.nanos,
            policy.retry.waitsAfter script (policy.followed isRetryable script)⟩ ∧
        ∀ index, index < number + 1 ↔
          index ≤ policy.retry.deciding isRetryable script ∧
            policy.retry.startOf script index ≤ policy.limit.nanos := by
  have tooLate : isWithin (some policy.limit)
      (policy.retry.endOf script (policy.retry.deciding isRetryable script)) = false :=
    decide_eq_false (Nat.not_le_of_lt late)
  have started : isWithin (some policy.limit) (policy.retry.startOf script 0) = true := by
    simp [isWithin]
  obtain ⟨number, count, cuts, cut⟩ := runFrom_of_tooLate tooLate started (Nat.zero_add _)
  rw [RetryPolicy.startOf_zero, ← List.range_eq_range'] at cut
  have counted : policy.followed isRetryable script = List.range count :=
    filter_range_eq fun index => by simpa [isWithin] using cuts.begun_iff
  refine ⟨number, count, counted, ?_, fun index => ?_⟩
  · rw [counted]
    exact cut
  · rw [cuts.started_iff, isWithin, decide_eq_true_eq]

theorem exists_followed_eq_range
    (policy : Policy)
    (isRetryable : ε → Bool)
    (script : Nat → Attempt ε α) :
    ∃ count, policy.followed isRetryable script = List.range count := by
  rcases Nat.lt_or_ge policy.limit.nanos
    (policy.retry.endOf script (policy.retry.deciding isRetryable script)) with late | inTime
  · obtain ⟨-, count, counted, -⟩ := run_of_tooLate late
    exact ⟨count, counted⟩
  · exact ⟨_, followed_of_inTime inTime⟩

/-- The waits of a call are announced by the numbers from one on. -/
theorem retry?_followed
    (policy : Policy)
    (isRetryable : ε → Bool)
    (script : Nat → Attempt ε α) :
    (policy.retry.waitsAfter script (policy.followed isRetryable script)).filterMap
        Event.retry? =
      List.range' 1 (policy.followed isRetryable script).length := by
  rw [retry?_waitsAfter fun number => lt_deciding_of_mem_followed]
  obtain ⟨count, counted⟩ := policy.exists_followed_eq_range isRetryable script
  rw [counted, List.length_range, List.range'_eq_map_range]
  simp [Nat.add_comm]

theorem attempts_pos
    (policy : Policy)
    (isRetryable : ε → Bool)
    (script : Nat → Attempt ε α) :
    0 < (policy.run isRetryable script).attempts := by
  rcases Nat.lt_or_ge policy.limit.nanos
    (policy.retry.endOf script (policy.retry.deciding isRetryable script)) with late | inTime
  · obtain ⟨number, -, -, cut, -⟩ := run_of_tooLate late
    rw [cut]
    exact Nat.succ_pos number
  · rw [run_of_inTime inTime]
    exact Nat.succ_pos _

/-- A call that succeeds has its value from its last attempt. -/
theorem outcome_of_succeeded
    {value : α}
    (succeeded : (policy.run isRetryable script).ending = .succeeded value) :
    ∃ number, (policy.run isRetryable script).attempts = number + 1 ∧
      (script number).outcome = .ok value := by
  rcases Nat.lt_or_ge policy.limit.nanos
    (policy.retry.endOf script (policy.retry.deciding isRetryable script)) with late | inTime
  · obtain ⟨number, -, -, cut, -⟩ := run_of_tooLate late
    rw [cut] at succeeded
    nomatch succeeded
  · rw [run_of_inTime inTime] at succeeded ⊢
    exact ⟨policy.retry.deciding isRetryable script, rfl,
      endingUnder_eq_succeeded_iff.mp succeeded⟩

example :
    let policy : Policy := ⟨.ofSecs 4, ⟨2, .ofSecs 1⟩⟩
    let failing : Attempt Unit Unit := ⟨.ofSecs 1, .error ()⟩
    let run := policy.run (fun _ => true) fun _ => failing
    run.ending = .elapsed (.ofSecs 4) ∧ run.attempts = 3 ∧
      run.events.filterMap Event.retry? = [1, 2] := by
  cbv

end Policy

/-! A single attempt under a limit. -/

namespace Attempt

variable {ε α : Type} {attempt : Attempt ε α} {limit : Duration}

/-- An attempt that is over in time ends with its outcome. -/
theorem runWithin_of_inTime
    (inTime : attempt.takes.nanos ≤ limit.nanos) :
    attempt.runWithin limit =
      ⟨match attempt.outcome with
        | .ok value => .succeeded value
        | .error error => .failed error,
        1, attempt.takes.nanos, []⟩ := by
  rw [runWithin, runFrom]
  cases attempt.outcome <;> simp [isWithin, inTime]

/-- An attempt that takes too long is cut off at the limit. -/
theorem runWithin_of_late
    (late : limit.nanos < attempt.takes.nanos) :
    attempt.runWithin limit = ⟨.elapsed limit, 1, limit.nanos, []⟩ := by
  rw [runWithin, runFrom]
  simp [isWithin, Nat.not_le_of_lt late, cutOff]

end Attempt
end Call
end Delegation
