import Delegation.Proofs.Authority.Calls
import Delegation.Proofs.Authority.Errands
import Delegation.Proofs.Dn.HeaderRoundTrip

/-!
# The chain in the headers of a call

Every request of a call carries the subjects and the issuers of its chain. Whoever reads the
headers finds exactly these names where no name holds a bracket. A bracket inside a name is
neither escaped nor refused, and with one of each kind a single member is read as two.
-/

namespace Delegation

namespace Chain

variable {chain : Chain} {name : String}

theorem normalize_of_mem_subjects (member : name ∈ chain.subjects) : Dn.normalize name = name := by
  obtain ⟨identity, -, rfl⟩ := List.mem_map.mp member
  exact identity.dn.normalize_subject

theorem normalize_of_mem_issuers (member : name ∈ chain.issuers) : Dn.normalize name = name := by
  obtain ⟨identity, -, rfl⟩ := List.mem_map.mp member
  exact identity.dn.normalize_issuer

end Chain

namespace Authority
namespace Client

variable {α : Type} {client : Client} {script : Script} {operation : Operation} {chain : Chain}
variable {includeRemote : Bool} {read : Json → Option α} {request : Request}

/-- Every attempt of a call sends the one request that its arguments give. -/
theorem mem_requests_call_iff :
    request ∈ (client.call script operation chain includeRemote read).requests ↔
      client.request? operation chain includeRemote = some request := by
  rcases client.requests_call script operation chain includeRemote read with
    ⟨unsendable, none⟩ | ⟨sent, attempts, sendable, some⟩
  · rw [none, unsendable]
    simp
  · rw [some, sendable, List.mem_replicate, Option.some.injEq, eq_comm]
    exact and_iff_right (Nat.succ_ne_zero attempts)

theorem eq_forChain_of_mem_requests
    (sent : request ∈ (client.call script operation chain includeRemote read).requests) :
    ∃ url, request = Request.forChain url chain := by
  obtain ⟨mapped, -⟩ := Option.filter_eq_some_iff.mp (mem_requests_call_iff.mp sent)
  obtain ⟨url, -, equal⟩ := Option.map_eq_some_iff.mp mapped
  exact ⟨url, equal.symm⟩

/-- From the headers that a call sends for a chain, the names of the chain are read exactly if
none of them holds a bracket. Where one does, other names are read or the header is refused;
where none does, the header is refused only for an empty name. -/
theorem headers_tell_chain
    (sent : request ∈ (client.call script operation chain includeRemote read).requests) :
    (∀ decoded, Dn.splitHeader request.entities true = .ok decoded →
      (decoded = chain.subjects ↔ ∀ name ∈ chain.subjects, Dn.Unbracketed name.toList)) ∧
    (∀ decoded, Dn.splitHeader request.issuers true = .ok decoded →
      (decoded = chain.issuers ↔ ∀ name ∈ chain.issuers, Dn.Unbracketed name.toList)) ∧
    ((∀ name ∈ chain.subjects, name ≠ "" ∧ Dn.Unbracketed name.toList) →
      Dn.splitHeader request.entities true = .ok chain.subjects) ∧
    ((∀ name ∈ chain.issuers, name ≠ "" ∧ Dn.Unbracketed name.toList) →
      Dn.splitHeader request.issuers true = .ok chain.issuers) := by
  obtain ⟨url, rfl⟩ := eq_forChain_of_mem_requests sent
  refine ⟨?_, ?_, ?_, ?_⟩
  · exact fun decoded => Dn.decoded_eq_iff fun name => Chain.normalize_of_mem_subjects
  · exact fun decoded => Dn.decoded_eq_iff fun name => Chain.normalize_of_mem_issuers
  · exact Dn.splitHeader_buildHeader fun name => Chain.normalize_of_mem_subjects
  · exact Dn.splitHeader_buildHeader fun name => Chain.normalize_of_mem_issuers

end Client

/-! The headers of two small chains. -/

namespace Sample

/-- Where the sample client asks for labels. -/
def labelsUrl : Url where
  scheme := "http"
  host := some (.name "authority")
  path := .segments ["listEffectiveAuthorizations"]
  query := some "includeRemoteServices=true"

/-- The request of the sample client for the labels of a chain. -/
def labelsRequest (chain : Chain) : Request :=
  .forChain labelsUrl chain

/-- The chain of a person whose name holds a closing and an opening bracket. -/
def bracketedChain : Chain where
  members := [⟨.ofNames "cn=a><cn=b" "cn=ca", .user, ∅, ∅, 0⟩]
  position := 0
  position_primary := by decide
  authorities := ∅
  created := 0

theorem labelsRequest_sent
    {chain : Chain}
    (sendable : (labelsRequest chain).isSendable = true) :
    labelsRequest chain ∈
      (client.call script .listAuthorizations chain true AuthorizationSet.ofJson?).requests := by
  have endpoint : Request.endpoint? client.baseUri .listAuthorizations true = some labelsUrl := by
    decide
  rw [Client.mem_requests_call_iff, Client.request?, endpoint, Option.map_some]
  exact Option.filter_eq_some_iff.mpr ⟨rfl, sendable⟩

/-- The names of the small chain are read from the headers of its request. -/
theorem headers_tell_chain_sample :
    labelsRequest (chain ∅) ∈
        (client.call script .listAuthorizations (chain ∅) true
          AuthorizationSet.ofJson?).requests ∧
      Dn.splitHeader (labelsRequest (chain ∅)).entities true = .ok (chain ∅).subjects ∧
      Dn.splitHeader (labelsRequest (chain ∅)).issuers true = .ok (chain ∅).issuers := by
  have sendable : (labelsRequest (chain ∅)).isSendable = true := by decide +kernel
  have sent := labelsRequest_sent sendable
  obtain ⟨-, -, subjects, issuers⟩ := Client.headers_tell_chain sent
  exact ⟨sent, subjects (by decide +kernel), issuers (by decide +kernel)⟩

/-- One member is read as two. -/
theorem headers_tell_other_names :
    labelsRequest bracketedChain ∈
        (client.call script .listAuthorizations bracketedChain true
          AuthorizationSet.ofJson?).requests ∧
      Dn.splitHeader (labelsRequest bracketedChain).entities true = .ok ["cn=a", "cn=b"] ∧
      bracketedChain.subjects = ["cn=a><cn=b"] := by
  refine ⟨labelsRequest_sent (by decide +kernel), ?_, ?_⟩ <;> decide +kernel

end Sample

end Authority
end Delegation
