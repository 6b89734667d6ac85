import Delegation.Url.Percent

/-!
# What percent encoding leaves

What is encoded holds, apart from characters that stand for themselves, only percent signs and
hexadecimal digits. None of these is encoded in a path, nor is any of them a slash, so an encoded
segment of a path is one that stays as it is.
-/

namespace Delegation
namespace Url

variable {encoded : Char → Bool} {text : List Char} {c : Char}

/-- The characters that codes are written with. -/
def codeChars : List Char :=
  "%0123456789ABCDEF".toList

theorem hexDigit_mem_codeChars : ∀ value < 16, hexDigit value ∈ codeChars := by
  decide

/-- The code of a byte is written in the percent sign and hexadecimal digits. -/
theorem mem_codeChars_of_mem_encodeByte
    {byte : UInt8}
    (inside : c ∈ encodeByte byte) :
    c ∈ codeChars := by
  have small : byte.toNat < 256 := byte.toNat_lt
  simp only [encodeByte, List.mem_cons, List.not_mem_nil, or_false] at inside
  rcases inside with rfl | rfl | rfl
  · decide
  · exact hexDigit_mem_codeChars _ (by omega)
  · exact hexDigit_mem_codeChars _ (by omega)

/-- What is encoded holds characters that need not be and those of codes. -/
theorem mem_encode
    (inside : c ∈ encode encoded text) :
    c ∈ text ∧ encoded c = false ∨ c ∈ codeChars := by
  obtain ⟨d, member, written⟩ := List.mem_flatMap.mp inside
  unfold encodeChar at written
  split at written
  · obtain ⟨byte, -, coded⟩ := List.mem_flatMap.mp written
    exact .inr (mem_codeChars_of_mem_encodeByte coded)
  · rename_i plain
    obtain rfl := List.mem_singleton.mp written
    exact .inl ⟨member, Bool.not_eq_true _ ▸ plain⟩

theorem codeChars_stay : ∀ c ∈ codeChars, pathSet c = false ∧ c ≠ '/' ∧ c ≠ '\\' := by
  have checked : codeChars.all (fun c => !pathSet c && c != '/' && c != '\\') = true := by decide
  intro c inside
  simpa [and_assoc] using List.all_eq_true.mp checked c inside

/-- Nothing that was encoded for a path holds a character that a path encodes. -/
theorem pathSet_of_mem_encode (inside : c ∈ encode pathSet text) : pathSet c = false := by
  rcases mem_encode inside with ⟨-, plain⟩ | coded
  · exact plain
  · exact (codeChars_stay c coded).1

theorem encodeChar_ne_nil (encoded : Char → Bool) (c : Char) : encodeChar encoded c ≠ [] := by
  unfold encodeChar
  split
  · have filled : String.utf8EncodeChar c ≠ [] := by
      rw [← List.length_pos_iff, String.length_utf8EncodeChar]
      exact c.utf8Size_pos
    obtain ⟨byte, bytes, coded⟩ := List.exists_cons_of_ne_nil filled
    rw [coded, List.flatMap_cons]
    exact List.cons_ne_nil _ _
  · exact List.cons_ne_nil _ _

/-- Encoding leaves no text empty that is not. -/
theorem encode_ne_nil (filled : text ≠ []) : encode encoded text ≠ [] := by
  obtain ⟨c, rest, rfl⟩ := List.exists_cons_of_ne_nil filled
  rw [encode, List.flatMap_cons]
  exact List.append_ne_nil_of_left_ne_nil (encodeChar_ne_nil encoded c) _

end Url
end Delegation
