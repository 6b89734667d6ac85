import Delegation.Proofs.Http.Guarding

/-!
# Requests with a token

Where tokens are honoured, a readable token decides alone: its request is refused or let
through with the chain of the token. A token with bytes that are no visible characters is as
good as none, and the request is examined as by a guard that honours no tokens.
-/

namespace Delegation
namespace Http

/-- The mark of a token is readable, so it is read where all that follows it is. -/
theorem visibleText?_bearerMark (rest : List UInt8) :
    visibleText? (Text.utf8String bearerMark ++ rest) =
      (visibleText? rest).map (bearerMark ++ ·) := by
  have visible : (Text.utf8String bearerMark).all isVisible = true := by decide
  have text : (Text.utf8String bearerMark).map (fun byte => Char.ofNat byte.toNat) =
      bearerMark.toList := by
    decide
  simp only [visibleText?, List.all_append, visible, Bool.true_and, List.map_append, text]
  split <;> simp [String.ofList_append]

/-- What is presented behind the mark is the token, up to blanks around it. -/
theorem Request.bearerToken?_eq
    {request : Request}
    {rest : List UInt8}
    (presented : request.value? authorizationName =
      some (Text.utf8String bearerMark ++ rest)) :
    request.bearerToken? = (visibleText? rest).map Text.trimString := by
  rw [bearerToken?, text?, presented, Option.bind_some, visibleText?_bearerMark]
  cases visibleText? rest with
  | none => rfl
  | some text =>
      have behind : Text.afterWord bearerMark.toList (bearerMark.toList ++ text.toList) =
          some text.toList :=
        Text.afterWord_eq_some.mpr rfl
      simp [behind, Text.trimString]

namespace Guard

/-- A guard that honours no tokens. -/
def withoutTokens (guard : Guard) : Guard := { guard with decoder := none }

/-- A request is refused, or let through with the chain of the token that some bytes spell. -/
def StandsOnToken
    (guard : Guard)
    (decoder : ChainToken.Decoder)
    (now : Int)
    (bytes : List UInt8)
    (result : Except AuthError (Option AuthenticatedChain)) : Prop :=
  (∃ error, result = .error error) ∨
    ∃ text chain, visibleText? bytes = some text ∧
      (decoder.decode now (Text.trimString text)).result = .ok chain ∧
      result = .ok (some (guard.attach chain))

variable {guard : Guard} {decoder : ChainToken.Decoder} {now : Int} {request : Request}
variable {rest : List UInt8}

/-- Without a token it does not matter whether tokens are honoured. -/
theorem examine_withoutTokens_of_tokenless
    (tokenless : guard.Tokenless request)
    (now : Int) :
    guard.examine now request = guard.withoutTokens.examine now request := by
  have presented : ∀ certificate, guard.presentedChain now certificate request =
      guard.withoutTokens.presentedChain now certificate request := by
    intro certificate
    rw [presentedChain_of_tokenless tokenless, presentedChain_of_tokenless (.inl rfl)]
    rfl
  unfold examine authenticate
  simp only [presented]
  rfl

/-- A token that is read decides alone. -/
theorem standsOnToken_of_bearerToken?
    {text : String}
    (honoured : guard.decoder = some decoder)
    (token : request.bearerToken? = some (Text.trimString text))
    (readable : visibleText? rest = some text) :
    guard.StandsOnToken decoder now rest (guard.examine now request).result := by
  cases examined : (guard.examine now request).result with
  | error error => exact .inl ⟨error, rfl⟩
  | ok answer =>
      obtain ⟨certificate, presented, -, -, made, -, rfl⟩ := examine_eq_ok.mp examined
      simp only [presentedChain, honoured, token, chainFromToken,
        Audited.result_andThen_eq_ok, Audited.result_ok, Except.ok.injEq] at made
      obtain ⟨chain, decoded, rfl⟩ := made
      exact .inr ⟨text, chain, readable, decoded, rfl⟩

/-- Where tokens are honoured, a request with a token is refused or let through with the chain
of the token, exactly when the token can be read or a guard without tokens would refuse the
request. Where it cannot be read, the request is examined as by such a guard. -/
theorem standsOnToken_iff
    (honoured : guard.decoder = some decoder)
    (presented : request.value? authorizationName =
      some (Text.utf8String bearerMark ++ rest)) :
    (guard.StandsOnToken decoder now rest (guard.examine now request).result ↔
      (∃ text, visibleText? rest = some text) ∨
        ∃ error, (guard.withoutTokens.examine now request).result = .error error) ∧
      (visibleText? rest = none →
        guard.examine now request = guard.withoutTokens.examine now request) := by
  have token := Request.bearerToken?_eq presented
  cases readable : visibleText? rest with
  | some text =>
      rw [readable, Option.map_some] at token
      refine ⟨⟨fun _ => .inl ⟨text, rfl⟩, fun _ => ?_⟩, by simp⟩
      exact standsOnToken_of_bearerToken? honoured token readable
  | none =>
      rw [readable, Option.map_none] at token
      have same : guard.examine now request = guard.withoutTokens.examine now request :=
        examine_withoutTokens_of_tokenless (.inr token) now
      refine ⟨?_, fun _ => same⟩
      rw [same]
      constructor
      · rintro (refused | ⟨text, chain, read, -⟩)
        · exact .inr refused
        · simp [readable] at read
      · rintro (⟨text, read⟩ | refused)
        · simp at read
        · exact .inl refused

/-- A decoder for tokens that the guard of the sample honours. -/
def sampleDecoder : ChainToken.Decoder := .ofSecret (Text.utf8String "secret") ∅

/-- The server of the sample presents a token of one byte that is no visible character. -/
def sampleTokenRequest : Request :=
  Sample.request [(authorizationName, Text.utf8String bearerMark ++ [0xE9])]

theorem value?_sampleTokenRequest :
    sampleTokenRequest.value? authorizationName =
      some (Text.utf8String bearerMark ++ [0xE9]) := rfl

/-- The sample is let through with the chain of the server. -/
theorem examine_sampleTokenRequest :
    ((Sample.guard (some sampleDecoder)).examine 0 sampleTokenRequest).result =
      .ok (some ((Sample.guard (some sampleDecoder)).attach Sample.chain)) := by
  rfl

theorem standsOnToken_iff_sample :
    (Sample.guard (some sampleDecoder)).decoder = some sampleDecoder ∧
      sampleTokenRequest.value? authorizationName =
        some (Text.utf8String bearerMark ++ [0xE9]) ∧
      ((Sample.guard (some sampleDecoder)).StandsOnToken sampleDecoder 0 [0xE9]
          ((Sample.guard (some sampleDecoder)).examine 0 sampleTokenRequest).result ↔
        (∃ text, visibleText? [0xE9] = some text) ∨
          ∃ error, ((Sample.guard (some sampleDecoder)).withoutTokens.examine 0
            sampleTokenRequest).result = .error error) ∧
      (visibleText? [0xE9] = none →
        (Sample.guard (some sampleDecoder)).examine 0 sampleTokenRequest =
          (Sample.guard (some sampleDecoder)).withoutTokens.examine 0 sampleTokenRequest) :=
  ⟨rfl, value?_sampleTokenRequest, standsOnToken_iff rfl value?_sampleTokenRequest⟩

/-- A token that is presented and cannot be read does not stop a request: that of the sample
is let through with the chain of its trusted headers. -/
theorem attached_despite_token :
    ¬ ∀ (guard : Guard) (decoder : ChainToken.Decoder) (now : Int) (request : Request)
      (rest : List UInt8),
      guard.decoder = some decoder →
        request.value? authorizationName = some (Text.utf8String bearerMark ++ rest) →
          guard.StandsOnToken decoder now rest (guard.examine now request).result := by
  intro always
  have stands := always (Sample.guard (some sampleDecoder)) sampleDecoder 0
    sampleTokenRequest [0xE9] rfl value?_sampleTokenRequest
  rw [examine_sampleTokenRequest] at stands
  have unreadable : visibleText? [0xE9] = none := by decide
  rcases stands with ⟨error, refused⟩ | ⟨text, chain, readable, -⟩
  · simp at refused
  · simp [unreadable] at readable

end Guard
end Http
end Delegation
