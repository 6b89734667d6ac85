import Delegation.Authority.ServerIdentity
import Delegation.Proofs.Authority.Replies
import Delegation.Proofs.ChainToken.Soundness

/-!
# What replies to a supplier mean

A supplier fetches a chain if the reply to its request comes in time, is a success and brings a
token that is accepted. Any other reply means a failure, one that tells what went wrong. From an
address that is not one of the web nothing can be fetched, and no request is sent.
-/

namespace Delegation
namespace Authority

/-- What a reply to a supplier means at a time in seconds: the chain of a token, or why there is
none. -/
inductive Reply.Means (supplier : IdentitySupplier) (secs : Int) :
    Reply → Except FetchFault Chain → Prop
  /-- The text of a success, without blanks around it, is a token with a chain. -/
  | accepted (takes : Duration) (status : Nat) (body : Body) (chain : Chain) :
      takes.nanos ≤ supplier.timeout.nanos → Answer.isSuccess status → body.broken = none →
      (supplier.decoder.decode secs
        (String.ofList (Text.trim (bodyText body.bytes)))).result = .ok chain →
      Means supplier secs ⟨takes, .given status body⟩ (.ok chain)
  /-- The text of a success is no token that is accepted. -/
  | badToken (takes : Duration) (status : Nat) (body : Body) (error : AuthError) :
      takes.nanos ≤ supplier.timeout.nanos → Answer.isSuccess status → body.broken = none →
      (supplier.decoder.decode secs
        (String.ofList (Text.trim (bodyText body.bytes)))).result = .error error →
      Means supplier secs ⟨takes, .given status body⟩ (.error (.token error))
  /-- The connection breaks within the body of a success. -/
  | broken (takes : Duration) (status : Nat) (body : Body) (detail : String) :
      takes.nanos ≤ supplier.timeout.nanos → Answer.isSuccess status →
      body.broken = some detail →
      Means supplier secs ⟨takes, .given status body⟩ (.error (.transport detail))
  /-- The status is not that of a success. -/
  | rejected (takes : Duration) (status : Nat) (body : Body) :
      takes.nanos ≤ supplier.timeout.nanos → ¬ Answer.isSuccess status →
      Means supplier secs ⟨takes, .given status body⟩ (.error (.answered status))
  /-- The connection fails after the request. -/
  | lost (takes : Duration) (detail : String) :
      takes.nanos ≤ supplier.timeout.nanos →
      Means supplier secs ⟨takes, .lost detail⟩ (.error (.transport detail))
  /-- No connection is made. -/
  | refused (takes : Duration) :
      takes.nanos ≤ supplier.timeout.nanos →
      Means supplier secs ⟨takes, .refused⟩ (.error (.transport "error sending request"))
  /-- The reply takes too long, whatever it would be. -/
  | late (takes : Duration) (answer : Answer) :
      supplier.timeout.nanos < takes.nanos →
      Means supplier secs ⟨takes, answer⟩ (.error (.timedOut supplier.timeout))

namespace IdentitySupplier

variable {supplier : IdentitySupplier} {script : Script} {supply : Supply}

theorem isSendable_iff :
    supplier.isSendable = true ↔ supplier.uri.scheme ∈ ["http", "https"] :=
  List.contains_iff_mem

/-- What comes of a reply at a time in seconds, and the warnings of the decoder. -/
def hear
    (supplier : IdentitySupplier)
    (secs : Int)
    (reply : Reply) : Except FetchFault Chain × List Warning :=
  match textOf ((⟨reply.takes, reply.answer.text⟩ :
      Call.Attempt FetchFault (List Char)).runWithin supplier.timeout).ending with
  | .error fault => (.error fault, [])
  | .ok text =>
      let decoded := supplier.decoder.decode secs (String.ofList (Text.trim text))
      (decoded.result.mapError .token, decoded.warnings)

theorem hear_of_late
    {takes : Duration}
    {answer : Answer}
    (secs : Int)
    (late : supplier.timeout.nanos < takes.nanos) :
    supplier.hear secs ⟨takes, answer⟩ = (.error (.timedOut supplier.timeout), []) := by
  rw [hear, Call.Attempt.runWithin_of_late late]
  rfl

theorem hear_of_error
    {takes : Duration}
    {answer : Answer}
    {fault : FetchFault}
    (secs : Int)
    (inTime : takes.nanos ≤ supplier.timeout.nanos)
    (failed : answer.text = .error fault) :
    supplier.hear secs ⟨takes, answer⟩ = (.error fault, []) := by
  rw [hear, Call.Attempt.runWithin_of_inTime inTime, failed]
  rfl

/-- The text of a reply in time is trimmed and decoded. -/
theorem hear_of_text
    {takes : Duration}
    {answer : Answer}
    {text : List Char}
    (secs : Int)
    (inTime : takes.nanos ≤ supplier.timeout.nanos)
    (came : answer.text = .ok text) :
    supplier.hear secs ⟨takes, answer⟩ =
      ((supplier.decoder.decode secs (String.ofList (Text.trim text))).result.mapError .token,
        (supplier.decoder.decode secs (String.ofList (Text.trim text))).warnings) := by
  rw [hear, Call.Attempt.runWithin_of_inTime inTime, came]
  rfl

end IdentitySupplier

section Texts

variable {status : Nat} {body : Body}

theorem Answer.text_of_rejected
    (noSuccess : ¬ Answer.isSuccess status) :
    (Answer.given status body).text = .error (.answered status) :=
  if_neg noSuccess

theorem Answer.text_of_broken
    {detail : String}
    (success : Answer.isSuccess status)
    (broken : body.broken = some detail) :
    (Answer.given status body).text = .error (.transport detail) :=
  (if_pos success).trans (by rw [broken])

theorem Answer.text_of_whole
    (success : Answer.isSuccess status)
    (whole : body.broken = none) :
    (Answer.given status body).text = .ok (bodyText body.bytes) :=
  (if_pos success).trans (by rw [whole, Body.bytes])

end Texts

namespace Reply.Means

variable {supplier : IdentitySupplier} {secs : Int} {reply : Reply}
variable {outcome other : Except FetchFault Chain}

/-- What a reply means is what comes of it. -/
theorem hear_eq (means : reply.Means supplier secs outcome) :
    (supplier.hear secs reply).1 = outcome := by
  cases means with
  | accepted takes status body chain inTime success whole accepted =>
      rw [supplier.hear_of_text secs inTime (Answer.text_of_whole success whole), accepted]
      rfl
  | badToken takes status body error inTime success whole refused =>
      rw [supplier.hear_of_text secs inTime (Answer.text_of_whole success whole), refused]
      rfl
  | broken takes status body detail inTime success broken =>
      rw [supplier.hear_of_error secs inTime (Answer.text_of_broken success broken)]
  | rejected takes status body inTime noSuccess =>
      rw [supplier.hear_of_error secs inTime (Answer.text_of_rejected noSuccess)]
  | lost takes detail inTime => rw [supplier.hear_of_error secs inTime rfl]
  | refused takes inTime => rw [supplier.hear_of_error secs inTime rfl]
  | late takes answer late => rw [supplier.hear_of_late secs late]

/-- A reply means one thing only. -/
theorem unique
    (means : reply.Means supplier secs outcome)
    (again : reply.Means supplier secs other) :
    outcome = other :=
  means.hear_eq.symm.trans again.hear_eq

end Reply.Means

namespace IdentitySupplier

variable {supplier : IdentitySupplier} {script : Script} {supply : Supply}

/-- What comes of a reply is what it means. -/
theorem means_hear
    (supplier : IdentitySupplier)
    (secs : Int)
    (reply : Reply) :
    reply.Means supplier secs (supplier.hear secs reply).1 := by
  obtain ⟨takes, answer⟩ := reply
  rcases Nat.lt_or_ge supplier.timeout.nanos takes.nanos with late | inTime
  · rw [hear_of_late secs late]
    exact .late takes answer late
  cases answer with
  | refused =>
      rw [hear_of_error secs inTime rfl]
      exact .refused takes inTime
  | lost detail =>
      rw [hear_of_error secs inTime rfl]
      exact .lost takes detail inTime
  | given status body =>
      by_cases success : Answer.isSuccess status
      · cases broken : body.broken with
        | some detail =>
            rw [hear_of_error secs inTime (Answer.text_of_broken success broken)]
            exact .broken takes status body detail inTime success broken
        | none =>
            rw [hear_of_text secs inTime (Answer.text_of_whole success broken)]
            cases decoded : (supplier.decoder.decode secs
                (String.ofList (Text.trim (bodyText body.bytes)))).result with
            | ok chain => exact .accepted takes status body chain inTime success broken decoded
            | error error => exact .badToken takes status body error inTime success broken decoded
      · rw [hear_of_error secs inTime (Answer.text_of_rejected success)]
        exact .rejected takes status body inTime success

/-- The decoder warns of tokens, never of fetches, and of nothing if it accepts one. -/
theorem warnings_hear
    (supplier : IdentitySupplier)
    (secs : Int)
    (reply : Reply) :
    (∀ chain, (supplier.hear secs reply).1 = .ok chain → (supplier.hear secs reply).2 = []) ∧
      ∀ message stale, .identityNotRefreshed message stale ∉ (supplier.hear secs reply).2 := by
  unfold hear
  split
  · simp
  · rename_i text came
    have decodes := supplier.decoder.decodes_decode secs (String.ofList (Text.trim text))
    generalize supplier.decoder.decode secs (String.ofList (Text.trim text)) = audited at decodes ⊢
    cases decodes with
    | accepted claims chain read users created => simp [Audited.ok]
    | empty claims read => simp [Audited.fail]
    | refused error read => simp [Audited.fail]

/-- A fetch from another address than one of the web fails at once. -/
theorem fetch_of_unsendable
    (unsendable : supplier.isSendable = false) :
    supplier.fetch script supply = (.error (.transport "builder error"), [], supply) := by
  have fails : supplier.attempt (script supply.sent) =
      ⟨⟨0⟩, .error (.transport "builder error")⟩ := by
    rw [attempt, unsendable]
    rfl
  rw [fetch, fails, unsendable, Call.Attempt.runWithin_of_inTime (Nat.zero_le _)]
  rfl

/-- The supply after one more request, which takes its time. -/
def asked
    (supplier : IdentitySupplier)
    (script : Script)
    (supply : Supply) : Supply :=
  { supply with
    now := supply.now + min (script supply.sent).takes.nanos supplier.timeout.nanos
    sent := supply.sent + 1 }

/-- A fetch from an address of the web sends a request and hears its reply. -/
theorem fetch_of_sendable
    (sendable : supplier.isSendable = true) :
    let after := supplier.asked script supply
    let heard := supplier.hear after.nowSecs (script supply.sent)
    supplier.fetch script supply = (heard.1, heard.2, after) := by
  intro after heard
  let reply := script supply.sent
  have attempted : supplier.attempt reply = ⟨reply.takes, reply.answer.text⟩ := by
    rw [attempt, sendable]
    rfl
  have elapsed : (Call.Attempt.runWithin
      ⟨reply.takes, reply.answer.text⟩ supplier.timeout).elapsed =
        min reply.takes.nanos supplier.timeout.nanos := by
    rcases Nat.lt_or_ge supplier.timeout.nanos reply.takes.nanos with late | inTime
    · rw [Call.Attempt.runWithin_of_late late, Nat.min_eq_right late.le]
    · rw [Call.Attempt.runWithin_of_inTime inTime, Nat.min_eq_left inTime]
  rw [fetch, attempted, sendable, elapsed, if_pos rfl]
  simp only [heard, after, hear, asked]
  cases textOf (Call.Attempt.runWithin
    ⟨reply.takes, reply.answer.text⟩ supplier.timeout).ending <;> rfl

end IdentitySupplier
end Authority
end Delegation
