import Delegation.Authority.Operation
import Delegation.Call.Policy

/-!
# Failures of remote calls

Why a call to a remote authority brought no usable answer. Server errors and failures of the
transport pass and are worth a retry; all others are final.
-/

namespace Delegation
namespace Authority

/-- Why a remote call brought no usable answer. -/
inductive Failure
  /-- The authority rejects the request. -/
  | clientError (status : Nat)
  /-- The authority is at fault. -/
  | serverError (status : Nat)
  /-- No retry was left; the status is that of the last answer, if there was one. -/
  | unavailable (attempts : Nat) (lastStatus : Option Nat)
  /-- The time limit passed. -/
  | timedOut (limit : Duration)
  /-- No connection, or one that broke. -/
  | transport (detail : String)
  /-- The answer is longer than the limit. -/
  | tooLarge (limit : Nat)
  /-- The answer is not the expected document. -/
  | undecodable (detail : String)
  deriving DecidableEq

namespace Failure

/-- The short tag of a failure. -/
def tag : Failure → String
  | clientError _ => "client_error"
  | serverError _ => "server_error"
  | unavailable .. => "service_unavailable"
  | timedOut _ => "timeout"
  | transport _ => "transport"
  | tooLarge _ => "response_too_large"
  | undecodable _ => "decode"

/-- The wording of a failure. -/
def message : Failure → String
  | clientError status =>
      "Remote authority rejected the request (status " ++ toString status ++ ")"
  | serverError status => "Remote authority error (status " ++ toString status ++ ")"
  | unavailable attempts _ =>
      "Remote authority unavailable after " ++ toString attempts ++ " attempts"
  | timedOut limit => "Timed out after " ++ limit.render
  | transport detail => "Transport error: " ++ detail
  | tooLarge limit => "Response exceeded " ++ toString limit ++ " bytes"
  | undecodable detail => "Failed to decode response: " ++ detail

/-- A failure that may pass. -/
def isRetryable : Failure → Bool
  | serverError _ => true
  | transport _ => true
  | _ => false

/-- The status of the answer that caused a failure, if an answer did. -/
def status? : Failure → Option Nat
  | clientError status => some status
  | serverError status => some status
  | unavailable _ lastStatus => lastStatus
  | _ => none

end Failure

/-- The result of a call that has ended: a call cut off by its limit has timed out, and one
without retries left found the authority unavailable. -/
def resultOf {α : Type} : Call.Ending Failure α → Except Failure α
  | .succeeded value => .ok value
  | .failed failure => .error failure
  | .exhausted retries last =>
      .error (.unavailable (min (retries + 1) Call.RetryPolicy.countLimit) last.status?)
  | .elapsed limit => .error (.timedOut limit)

/-- A remote operation that failed on behalf of a principal. -/
structure CallError where
  /-- The subject of the primary identity of the chain. -/
  principal : String
  /-- What was asked. -/
  operation : Operation
  /-- Why it failed. -/
  cause : Failure
  deriving DecidableEq

namespace CallError

/-- The wording of an error. -/
def message (error : CallError) : String :=
  error.operation.name ++ " failed for " ++ error.principal ++ ": " ++ error.cause.message

/-- The status of the answer that caused an error, if an answer did. -/
def status? (error : CallError) : Option Nat :=
  error.cause.status?

end CallError
end Authority
end Delegation
