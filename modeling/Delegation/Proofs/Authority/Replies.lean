import Delegation.Authority.Failure
import Delegation.Authority.Reply
import Delegation.Proofs.Call.Schedule

/-!
# What replies conclude

How a body is cut into pieces makes no difference to what is read of it. A reply passes when it
is a failure of the connection or of the server, and a call goes on after it. Any other reply
concludes the call, and so does one that passes when no retry is left.
-/

namespace Delegation
namespace Authority

namespace Body

variable {body : Body} {bound : Nat} {limit : Option Nat}

/-- The bytes of a body. -/
def bytes (body : Body) : List UInt8 :=
  body.chunks.flatten

/-- A body promises or has more bytes than a bound. -/
def Exceeds (body : Body) (bound : Nat) : Prop :=
  body.declared.any (bound < ·) = true ∨ bound < body.bytes.length

/-- A body stays within the limit, if there is one. -/
def Fits (body : Body) (limit : Option Nat) : Prop :=
  ∀ bound ∈ limit, ¬ body.Exceeds bound

section Collecting

variable {reading other : Reading} {failure : Failure}

/-- Collecting goes on from where a step of the reading leads. -/
theorem collect_of_next?
    (body : Body)
    (next : reading.next? bound = .ok (some other)) :
    body.collect bound reading = body.collect bound other := by
  rw [collect]
  split <;> simp_all

/-- Collecting ends with the failure of the step that has no room for its piece. -/
theorem collect_of_overflow
    (body : Body)
    (next : reading.next? bound = .error failure) :
    body.collect bound reading = .error failure := by
  rw [collect]
  split <;> simp_all

theorem collect_nil
    (body : Body)
    (bound : Nat)
    (held : List UInt8) :
    body.collect bound ⟨held, []⟩ = body.finish held := by
  rw [collect]
  rfl

end Collecting

/-- The pieces of a body are read as if they came in one. -/
theorem collect_eq
    {held : List UInt8}
    {chunks : List (List UInt8)}
    (within : held.length ≤ bound) :
    body.collect bound ⟨held, chunks⟩ =
      if bound < (held ++ chunks.flatten).length then .error (.tooLarge bound)
      else body.finish (held ++ chunks.flatten) := by
  induction chunks generalizing held with
  | nil =>
      rw [collect_nil, List.flatten_nil, List.append_nil, if_neg (Nat.not_lt_of_le within)]
  | cons chunk chunks inductionHypothesis =>
      rw [List.flatten_cons, ← List.append_assoc]
      by_cases beyond : bound < held.length + chunk.length
      · have next : Reading.next? bound ⟨held, chunk :: chunks⟩ = .error (.tooLarge bound) :=
          if_pos beyond
        rw [collect_of_overflow body next, if_pos]
        simp only [List.length_append]
        omega
      · have next : Reading.next? bound ⟨held, chunk :: chunks⟩ =
            .ok (some ⟨held ++ chunk, chunks⟩) :=
          if_neg beyond
        have further : (held ++ chunk).length ≤ bound := by
          rw [List.length_append]
          omega
        rw [collect_of_next? body next, inductionHypothesis further]

/-- Reading under a bound depends on the announced and the actual length only, not on the pieces.
-/
theorem read_some (body : Body) (bound : Nat) :
    body.read (some bound) =
      if body.declared.any (bound < ·) then .error (.tooLarge bound)
      else if bound < body.bytes.length then .error (.tooLarge bound)
      else body.finish body.bytes := by
  rw [read, collect_eq (Nat.zero_le bound)]
  rfl

/-- A body that is longer than the bound, or says so, is refused for its length. -/
theorem read_of_exceeds (exceeds : body.Exceeds bound) :
    body.read (some bound) = .error (.tooLarge bound) := by
  rw [read_some]
  rcases exceeds with promised | long
  · rw [if_pos promised]
  · rw [if_pos long, ite_self]

theorem read_of_fits (fits : body.Fits limit) : body.read limit = body.finish body.bytes := by
  cases limit with
  | none => rfl
  | some bound =>
      obtain ⟨unpromised, short⟩ := not_or.mp (fits bound rfl)
      rw [read_some, if_neg unpromised, if_neg short]

end Body

namespace Answer

variable {α : Type} {limit : Option Nat} {read : Json → Option α} {answer : Answer}
variable {retries : Nat} {result : Except Failure α}

/-- The status of a success. -/
def isSuccess (status : Nat) : Prop := 200 ≤ status ∧ status < 300

/-- The status of a failure of the server. -/
def isServerError (status : Nat) : Prop := 500 ≤ status ∧ status < 600

/-- A reply that passes: the connection failed, at the latest while a body was read that stayed
within the limit, or the server did. Beside it stands the status, if the server gave one. -/
inductive Passes (limit : Option Nat) : Answer → Option Nat → Prop
  | refused : Passes limit .refused none
  | lost (detail : String) : Passes limit (.lost detail) none
  | serverError (status : Nat) (body : Body) :
      isServerError status → Passes limit (.given status body) (some status)
  | broken (status : Nat) (body : Body) (detail : String) :
      isSuccess status → body.Fits limit → body.broken = some detail →
      Passes limit (.given status body) none

/-- What a reply makes of a call that goes on no longer. -/
inductive Concludes
    (limit : Option Nat)
    (read : Json → Option α)
    (retries : Nat) : Answer → Except Failure α → Prop
  /-- A success whose body stays within the limit is the document of a value. -/
  | delivered (status : Nat) (body : Body) (value : α) :
      isSuccess status → body.Fits limit → body.broken = none →
      (Json.readBytes? body.bytes).bind read = some value →
      Concludes limit read retries (.given status body) (.ok value)
  /-- The body of a success goes beyond the limit. -/
  | tooLarge (status : Nat) (body : Body) (bound : Nat) :
      isSuccess status → limit = some bound → body.Exceeds bound →
      Concludes limit read retries (.given status body) (.error (.tooLarge bound))
  /-- The body of a success is no document of a value. -/
  | undecodable (status : Nat) (body : Body) :
      isSuccess status → body.Fits limit → body.broken = none →
      (Json.readBytes? body.bytes).bind read = none →
      Concludes limit read retries (.given status body)
        (.error (.undecodable "unexpected document"))
  /-- The status is neither that of a success nor that of a failure of the server. -/
  | rejected (status : Nat) (body : Body) :
      ¬ isSuccess status → ¬ isServerError status →
      Concludes limit read retries (.given status body) (.error (.clientError status))
  /-- The reply passes and no retry is left. -/
  | exhausted (answer : Answer) (status : Option Nat) :
      Passes limit answer status →
      Concludes limit read retries answer (.error (.unavailable (retries + 1) status))

theorem outcome_of_serverError
    {status : Nat}
    {body : Body}
    (serverError : isServerError status) :
    (Answer.given status body).outcome limit read = .error (.serverError status) :=
  if_pos serverError

/-- A reply of success comes to what the document in its body is. -/
theorem outcome_of_success
    {status : Nat}
    {body : Body}
    (success : isSuccess status) :
    (Answer.given status body).outcome limit read =
      match body.read limit with
      | .ok bytes => document read bytes
      | .error failure => .error failure := by
  have noServerError : ¬ (500 ≤ status ∧ status < 600) := by
    have below := success.2
    omega
  exact (if_neg noServerError).trans (if_pos success)

theorem outcome_of_broken
    {status : Nat}
    {body : Body}
    {detail : String}
    (success : isSuccess status)
    (fits : body.Fits limit)
    (broken : body.broken = some detail) :
    (Answer.given status body).outcome limit read = .error (.transport detail) := by
  rw [outcome_of_success success, Body.read_of_fits fits, Body.finish, broken]

theorem outcome_of_whole
    {status : Nat}
    {body : Body}
    (success : isSuccess status)
    (fits : body.Fits limit)
    (whole : body.broken = none) :
    (Answer.given status body).outcome limit read = document read body.bytes := by
  rw [outcome_of_success success, Body.read_of_fits fits, Body.finish, whole]

theorem outcome_of_exceeds
    {status bound : Nat}
    {body : Body}
    (success : isSuccess status)
    (exceeds : body.Exceeds bound) :
    (Answer.given status body).outcome (some bound) read = .error (.tooLarge bound) := by
  rw [outcome_of_success success, Body.read_of_exceeds exceeds]

/-- A status of neither success nor server error is reported as it is. -/
theorem outcome_of_rejected
    {status : Nat}
    {body : Body}
    (noSuccess : ¬ isSuccess status)
    (noServerError : ¬ isServerError status) :
    (Answer.given status body).outcome limit read = .error (.clientError status) :=
  (if_neg noServerError).trans (if_neg noSuccess)

/-- A reply that passes means a failure that is worth a retry, with the same status. -/
theorem Passes.outcome
    {status : Option Nat}
    (passes : answer.Passes limit status)
    (read : Json → Option α) :
    ∃ failure, answer.outcome limit read = .error failure ∧ failure.isRetryable = true ∧
      failure.status? = status := by
  cases passes with
  | refused => exact ⟨_, rfl, rfl, rfl⟩
  | lost detail => exact ⟨_, rfl, rfl, rfl⟩
  | serverError status body serverError =>
      exact ⟨_, outcome_of_serverError serverError, rfl, rfl⟩
  | broken status body detail success fits broken =>
      exact ⟨_, outcome_of_broken success fits broken, rfl, rfl⟩

section Conclusions

variable {policy : Call.RetryPolicy} {attempt : Call.Attempt Failure α} {failure : Failure}

theorem resultOf_of_ok
    {value : α}
    (outcome : attempt.outcome = .ok value) :
    resultOf (attempt.endingUnder policy Failure.isRetryable) = .ok value := by
  rw [Call.Attempt.endingUnder, outcome]
  rfl

/-- A failure that is not worth another attempt is the result of the call. -/
theorem resultOf_of_final
    (outcome : attempt.outcome = .error failure)
    (final : failure.isRetryable = false) :
    resultOf (attempt.endingUnder policy Failure.isRetryable) = .error failure := by
  rw [Call.Attempt.endingUnder, outcome]
  simp [final, resultOf]

/-- A failure that every attempt meets makes the authority unavailable, after one attempt more
than the retries. -/
theorem resultOf_of_transient
    (bounded : policy.maxRetries < Call.RetryPolicy.countLimit)
    (outcome : attempt.outcome = .error failure)
    (transient : failure.isRetryable = true) :
    resultOf (attempt.endingUnder policy Failure.isRetryable) =
      .error (.unavailable (policy.maxRetries + 1) failure.status?) := by
  rw [Call.Attempt.endingUnder, outcome]
  simp [transient, resultOf, Nat.min_eq_left bounded]

/-- What a reply concludes is the result of a call that the reply decides. -/
theorem Concludes.resultOf_eq
    (bounded : policy.maxRetries < Call.RetryPolicy.countLimit)
    (outcome : attempt.outcome = answer.outcome limit read)
    (concludes : answer.Concludes limit read policy.maxRetries result) :
    resultOf (attempt.endingUnder policy Failure.isRetryable) = result := by
  cases concludes with
  | delivered status body value success fits whole decoded =>
      refine resultOf_of_ok (outcome.trans ?_)
      rw [outcome_of_whole success fits whole, document, decoded]
  | tooLarge status body bound success limited exceeds =>
      subst limited
      exact resultOf_of_final (outcome.trans (outcome_of_exceeds success exceeds)) rfl
  | undecodable status body success fits whole undecoded =>
      refine resultOf_of_final (outcome.trans ?_) rfl
      rw [outcome_of_whole success fits whole, document, undecoded]
  | rejected status body noSuccess noServerError =>
      exact resultOf_of_final (outcome.trans (outcome_of_rejected noSuccess noServerError)) rfl
  | exhausted answer status passes =>
      obtain ⟨failure, failed, transient, same⟩ := passes.outcome read
      rw [resultOf_of_transient bounded (outcome.trans failed) transient, same]

/-- Every reply concludes something. -/
theorem exists_concludes
    (limit : Option Nat)
    (read : Json → Option α)
    (retries : Nat)
    (answer : Answer) :
    ∃ result, answer.Concludes limit read retries result := by
  cases answer with
  | refused => exact ⟨_, .exhausted _ _ .refused⟩
  | lost detail => exact ⟨_, .exhausted _ _ (.lost detail)⟩
  | given status body =>
      by_cases serverError : isServerError status
      · exact ⟨_, .exhausted _ _ (.serverError status body serverError)⟩
      by_cases success : isSuccess status
      · by_cases fits : body.Fits limit
        · cases broken : body.broken with
          | some detail =>
              exact ⟨_, .exhausted _ _ (.broken status body detail success fits broken)⟩
          | none =>
              cases decoded : (Json.readBytes? body.bytes).bind read with
              | none => exact ⟨_, .undecodable status body success fits broken decoded⟩
              | some value => exact ⟨_, .delivered status body value success fits broken decoded⟩
        · obtain ⟨bound, limited, exceeds⟩ : ∃ bound, limit = some bound ∧ body.Exceeds bound := by
            simpa [Body.Fits] using fits
          exact ⟨_, .tooLarge status body bound success limited exceeds⟩
      · exact ⟨_, .rejected status body success serverError⟩

/-- When every attempt meets the same answer, the result of the call is what the answer
concludes. -/
theorem resultOf_eq_iff
    (bounded : policy.maxRetries < Call.RetryPolicy.countLimit)
    (outcome : attempt.outcome = answer.outcome limit read) :
    resultOf (attempt.endingUnder policy Failure.isRetryable) = result ↔
      answer.Concludes limit read policy.maxRetries result := by
  constructor
  · rintro rfl
    obtain ⟨other, concludes⟩ := exists_concludes limit read policy.maxRetries answer
    rwa [concludes.resultOf_eq bounded outcome]
  · exact Concludes.resultOf_eq bounded outcome

/-- A call goes on after a reply exactly if the reply passes. -/
theorem isTransient_iff
    (outcome : attempt.outcome = answer.outcome limit read) :
    attempt.isTransient Failure.isRetryable = true ↔ ∃ status, answer.Passes limit status := by
  constructor
  · intro transient
    obtain ⟨error, failed, retryable⟩ := Call.RetryPolicy.error_of_isTransient transient
    rw [outcome] at failed
    obtain ⟨result, concludes⟩ := exists_concludes limit read 0 answer
    cases concludes with
    | delivered status body value success fits whole decoded =>
        rw [outcome_of_whole success fits whole, document, decoded] at failed
        contradiction
    | tooLarge status body bound success limited exceeds =>
        subst limited
        rw [outcome_of_exceeds success exceeds] at failed
        obtain rfl := Except.error.inj failed
        contradiction
    | undecodable status body success fits whole undecoded =>
        rw [outcome_of_whole success fits whole, document, undecoded] at failed
        obtain rfl := Except.error.inj failed
        contradiction
    | rejected status body noSuccess noServerError =>
        rw [outcome_of_rejected noSuccess noServerError] at failed
        obtain rfl := Except.error.inj failed
        contradiction
    | exhausted answer status passes => exact ⟨status, passes⟩
  · rintro ⟨status, passes⟩
    obtain ⟨failure, failed, retryable, -⟩ := passes.outcome read
    rw [Call.Attempt.isTransient, outcome, failed]
    exact retryable

end Conclusions

end Answer
end Authority
end Delegation
