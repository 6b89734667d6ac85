import Delegation.Bytes.Base64
import Delegation.Proofs.Basic

/-!
# Base64 reads what it writes

In the alphabet of URLs each number below 64 has a character of its own, so that the groups of
a written text are known from it, and with them its bytes. A text that can be read holds
characters of the alphabet only, and no dot is among them.
-/

namespace Delegation
namespace Base64
namespace Alphabet

/-- The numbers below 64 whose characters write some bytes. -/
def groups : List UInt8 → List Nat
  | [] => []
  | [a] => [a.toNat * 16 / 64, a.toNat * 16 % 64]
  | [a, b] =>
      let bits := (a.toNat * 256 + b.toNat) * 4
      [bits / 4096, bits / 64 % 64, bits % 64]
  | a :: b :: c :: bytes =>
      let bits := (a.toNat * 256 + b.toNat) * 256 + c.toNat
      bits / 262144 :: bits / 4096 % 64 :: bits / 64 % 64 :: bits % 64 :: groups bytes

theorem lt_of_mem_groups
    {bytes : List UInt8}
    {value : Nat}
    (inside : value ∈ groups bytes) :
    value < 64 := by
  fun_induction groups bytes with
  | case1 => simp at inside
  | case2 a =>
      have small := a.toNat_lt
      simp only [List.mem_cons, List.not_mem_nil, or_false] at inside
      omega
  | case3 a b bits =>
      have first := a.toNat_lt
      have second := b.toNat_lt
      simp only [List.mem_cons, List.not_mem_nil, or_false] at inside
      omega
  | case4 a b c bytes bits inductionHypothesis =>
      have first := a.toNat_lt
      have second := b.toNat_lt
      have third := c.toNat_lt
      simp only [List.mem_cons] at inside
      rcases inside with same | same | same | same | inside
      all_goals first | omega | exact inductionHypothesis inside

theorem ofNat_eq
    (byte : UInt8)
    {value : Nat}
    (same : value % 256 = byte.toNat) :
    UInt8.ofNat value = byte :=
  UInt8.toNat_inj.mp (by simpa using same)

/-- The bytes are known from their groups. -/
theorem bytesOf?_groups (bytes : List UInt8) :
    bytesOf? (groups bytes) = some bytes := by
  fun_induction groups bytes with
  | case1 => rfl
  | case2 a =>
      have small := a.toNat_lt
      have whole : a.toNat * 16 / 64 * 64 + a.toNat * 16 % 64 = a.toNat * 16 := by omega
      simp only [bytesOf?, whole, Nat.mul_mod_left, if_true]
      rw [ofNat_eq a (by omega)]
  | case3 a b bits =>
      have first := a.toNat_lt
      have second := b.toNat_lt
      have whole : (bits / 4096 * 64 + bits / 64 % 64) * 64 + bits % 64 = bits := by omega
      have filled : bits % 4 = 0 := Nat.mul_mod_left _ _
      simp only [bytesOf?, whole, filled, if_true]
      rw [ofNat_eq a (by omega), ofNat_eq b (by omega)]
  | case4 a b c bytes bits inductionHypothesis =>
      have first := a.toNat_lt
      have second := b.toNat_lt
      have third := c.toNat_lt
      have whole : ((bits / 262144 * 64 + bits / 4096 % 64) * 64 + bits / 64 % 64) * 64 +
          bits % 64 = bits := by omega
      simp only [bytesOf?, whole, inductionHypothesis]
      rw [ofNat_eq a (by omega), ofNat_eq b (by omega),
        ofNat_eq c (by omega)]
      rfl

theorem encode_url (bytes : List UInt8) :
    url.encode bytes = (groups bytes).map url.charOf := by
  fun_induction groups bytes with
  | case1 | case2 | case3 => rfl
  | case4 a b c bytes bits inductionHypothesis =>
      rw [encode, inductionHypothesis]
      rfl

/-- Each number below 64 is read off its character. -/
theorem valueOf?_charOf_url : ∀ value < 64, url.valueOf? (url.charOf value) = some value := by
  decide

/-- A written text is read as the bytes that it writes. -/
theorem decode?_encode_url (bytes : List UInt8) :
    url.decode? (url.encode bytes) = some bytes := by
  have values : ((groups bytes).map url.charOf).mapM url.valueOf? = some (groups bytes) :=
    mapM_map_eq_some fun value inside => valueOf?_charOf_url value (lt_of_mem_groups inside)
  have unfilled : url.unfilled? ((groups bytes).map url.charOf) =
      some ((groups bytes).map url.charOf) := rfl
  rw [encode_url, decode?, unfilled, Option.bind_eq_bind, Option.bind_some, values,
    Option.bind_eq_bind, Option.bind_some, bytesOf?_groups]

/-- A text that can be read holds no dot, which is no character of the alphabet. -/
theorem dot_not_mem_of_decode?_url
    {text : List Char}
    {bytes : List UInt8}
    (read : url.decode? text = some bytes) :
    '.' ∉ text := by
  have unfilled : url.unfilled? text = some text := rfl
  rw [decode?, unfilled, Option.bind_eq_bind, Option.bind_some, Option.bind_eq_bind,
    Option.bind_eq_some_iff] at read
  obtain ⟨values, found, -⟩ := read
  rw [mapM_eq_some_iff] at found
  intro inside
  have strange : url.valueOf? '.' ∈ values.map some := found ▸ List.mem_map_of_mem inside
  rw [show url.valueOf? '.' = none from by decide] at strange
  simp at strange

end Alphabet
end Base64
end Delegation
