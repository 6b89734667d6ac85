import Delegation.Proofs.Authority.Calls
import Delegation.Proofs.Dn.HeaderRoundTrip
import Delegation.Proofs.Url.WebAddress

/-!
# What can be sent

A request can be sent to a web address whose path has segments, on behalf of a chain whose
names hold no controls. Clients that are set up from settings with a web address have such an
address.
-/

namespace Delegation

namespace Url

/-- An address of the web, below which other addresses can be. -/
def IsWeb (url : Url) : Prop :=
  url.scheme ∈ ["http", "https"] ∧ ∃ list, url.path = .segments list

theorem path_of_parse?
    {text : String}
    {url : Url}
    (read : parse? text = some url)
    (web : url.scheme ∈ ["http", "https"]) :
    ∃ list, url.path = .segments list := by
  obtain ⟨-, bare, tail, -, -, -, rfl⟩ := exists_leads read web
  exact ⟨_, rfl⟩

end Url

namespace Authority
namespace Request

/-- A character that stands in a header value: no control other than the tab. -/
def isHeaderChar (c : Char) : Bool :=
  (decide (0x20 ≤ c.toNat) && c.toNat != 0x7F) || c == '\t'

theorem isHeaderByte_ofNat_iff
    {code : Nat}
    (small : code < 0x100) :
    isHeaderByte (UInt8.ofNat code) = true ↔ 0x20 ≤ code ∧ code ≠ 0x7F ∨ code = 0x09 := by
  have value : (UInt8.ofNat code).toNat = code := by
    rw [UInt8.toNat_ofNat']
    omega
  simp only [isHeaderByte, Bool.or_eq_true, Bool.and_eq_true, decide_eq_true_eq, bne_iff_ne,
    beq_iff_eq, UInt8.le_iff_toNat_le, ← UInt8.toNat_inj, ne_eq, value]
  exact Iff.rfl

theorem isHeaderByte_of_le
    {code : Nat}
    (large : 0x80 ≤ code)
    (small : code < 0x100) :
    isHeaderByte (UInt8.ofNat code) = true :=
  (isHeaderByte_ofNat_iff small).mpr (.inl (by omega))

theorem isHeaderChar_iff
    {c : Char} :
    isHeaderChar c = true ↔ 0x20 ≤ c.toNat ∧ c.toNat ≠ 0x7F ∨ c.toNat = 0x09 := by
  have tab : c = '\t' ↔ c.toNat = 0x09 := Char.toNat_inj.symm
  simp only [isHeaderChar, Bool.or_eq_true, Bool.and_eq_true, decide_eq_true_eq, bne_iff_ne,
    beq_iff_eq, tab, ne_eq]

/-- A character stands in a header exactly if all its bytes do. -/
theorem forall_isHeaderByte_iff
    {c : Char} :
    (∀ byte ∈ String.utf8EncodeChar c, isHeaderByte byte = true) ↔ isHeaderChar c = true := by
  have code : c.val.toNat = c.toNat := rfl
  rw [isHeaderChar_iff]
  unfold String.utf8EncodeChar
  simp only [code]
  -- Only the first 128 characters have one byte, and the others have no byte below 128.
  split
  · rw [List.forall_mem_singleton]
    exact isHeaderByte_ofNat_iff (by omega)
  split
  · refine iff_of_true (fun byte inside => ?_) (.inl (by omega))
    simp only [List.mem_cons, List.not_mem_nil, or_false] at inside
    rcases inside with rfl | rfl <;> exact isHeaderByte_of_le (by omega) (by omega)
  split
  · refine iff_of_true (fun byte inside => ?_) (.inl (by omega))
    simp only [List.mem_cons, List.not_mem_nil, or_false] at inside
    rcases inside with rfl | rfl | rfl <;> exact isHeaderByte_of_le (by omega) (by omega)
  · refine iff_of_true (fun byte inside => ?_) (.inl (by omega))
    simp only [List.mem_cons, List.not_mem_nil, or_false] at inside
    rcases inside with rfl | rfl | rfl | rfl <;> exact isHeaderByte_of_le (by omega) (by omega)

theorem isHeaderValue_iff
    {value : String} :
    isHeaderValue value = true ↔ ∀ c ∈ value.toList, isHeaderChar c = true := by
  rw [isHeaderValue, Text.utf8String, Text.utf8, List.all_flatMap, List.all_eq_true]
  simp only [List.all_eq_true, forall_isHeaderByte_iff]

/-- Names make a header value exactly if they hold no controls. -/
theorem isHeaderValue_buildHeader_iff
    {names : List String} :
    isHeaderValue (Dn.buildHeader names) = true ↔
      ∀ name ∈ names, name.toList.all isHeaderChar = true := by
  simp only [isHeaderValue_iff, Dn.toList_buildHeader, List.flatMap_map, List.mem_flatMap,
    List.all_eq_true]
  constructor
  · intro header name member c inside
    exact header c ⟨name, member, by simp [Dn.bracketed, inside]⟩
  · rintro header c ⟨name, member, written⟩
    obtain rfl | inside | rfl : c = '<' ∨ c ∈ name.toList ∨ c = '>' := by
      simpa [Dn.bracketed] using written
    · decide
    · exact header name member c inside
    · decide

/-- Every operation has an address below a web address, with its scheme. -/
theorem exists_endpoint
    {base : Url}
    (web : base.IsWeb)
    (operation : Operation)
    (includeRemote : Bool) :
    ∃ url, endpoint? base operation includeRemote = some url ∧ url.scheme = base.scheme := by
  obtain ⟨-, list, path⟩ := web
  simp only [endpoint?, Url.sibling?, path, Option.map_some]
  exact ⟨_, rfl, rfl⟩

end Request

/-- The names of a chain hold no controls, so they can stand in headers. -/
def HasHeaderNames (chain : Chain) : Prop :=
  ∀ name ∈ chain.subjects ++ chain.issuers, name.toList.all Request.isHeaderChar = true

instance (chain : Chain) : Decidable (HasHeaderNames chain) := by
  unfold HasHeaderNames
  infer_instance

namespace Client

variable {client : Client} {operation : Operation} {chain : Chain} {includeRemote : Bool}

/-- A request for a chain can be sent exactly to a web address with names that a header can hold.
-/
theorem isSendable_forChain_iff
    {url : Url} :
    (Request.forChain url chain).isSendable = true ↔
      url.scheme ∈ ["http", "https"] ∧ HasHeaderNames chain := by
  simp only [Request.isSendable, Request.forChain, Bool.and_eq_true, List.contains_iff_mem,
    Request.isHeaderValue_buildHeader_iff, HasHeaderNames, List.forall_mem_append, and_assoc]

/-- There is a request for every operation of a web client and every chain with proper names. -/
theorem exists_request
    (web : client.baseUri.IsWeb)
    (proper : HasHeaderNames chain)
    (operation : Operation)
    (includeRemote : Bool) :
    ∃ url, Request.endpoint? client.baseUri operation includeRemote = some url ∧
      (Request.forChain url chain).isSendable = true := by
  obtain ⟨url, endpoint, same⟩ := Request.exists_endpoint web operation includeRemote
  exact ⟨url, endpoint, isSendable_forChain_iff.mpr ⟨same ▸ web.1, proper⟩⟩

/-- A call has a request exactly if the client is one of the web and the names are proper. -/
theorem exists_request?_iff :
    (∃ request, client.request? operation chain includeRemote = some request) ↔
      client.baseUri.IsWeb ∧ HasHeaderNames chain := by
  constructor
  · rintro ⟨request, asked⟩
    unfold request? Request.endpoint? Url.sibling? at asked
    cases path : client.baseUri.path with
    | plain text => simp [path] at asked
    | segments list =>
        rw [path] at asked
        obtain ⟨made, sendable⟩ := Option.filter_eq_some_iff.mp asked
        obtain rfl := Option.some.inj made
        obtain ⟨scheme, proper⟩ := isSendable_forChain_iff.mp sendable
        exact ⟨⟨scheme, list, path⟩, proper⟩
  · rintro ⟨web, proper⟩
    obtain ⟨url, endpoint, sendable⟩ := exists_request web proper operation includeRemote
    exact ⟨Request.forChain url chain, by simp [request?, endpoint, sendable]⟩

theorem request?_eq_none_iff :
    client.request? operation chain includeRemote = none ↔
      ¬ (client.baseUri.IsWeb ∧ HasHeaderNames chain) := by
  rw [← @exists_request?_iff client operation chain includeRemote, not_exists,
    Option.eq_none_iff_forall_ne_some]

/-- Clients that are set up with a web address have one below which operations can be. -/
theorem isWeb_of_ofSettings
    {name : String}
    {settings : FederationSettings}
    (configured : ofSettings name settings = .ok client)
    (web : client.baseUri.scheme ∈ ["http", "https"]) :
    client.baseUri.IsWeb := by
  unfold ofSettings at configured
  split at configured
  · contradiction
  · rename_i url read
    obtain rfl := Except.ok.inj configured
    obtain ⟨list, path⟩ := Url.path_of_parse? read web
    refine ⟨web, ?_⟩
    simp only [Url.closed, path, Url.Path.closed]
    split
    · exact ⟨_, rfl⟩
    · exact ⟨_, rfl⟩

end Client
end Authority
end Delegation
