import Delegation.Proofs.Text.LowerCase
import Delegation.Text.AsciiCase

/-!
# Two ways to lower-case

Full lower-casing treats the letters A to Z as their own lower-casing does, and more letters
besides. So texts that are compared without the case of these letters are compared as they are
with full lower-casing, if lower-casing changes nothing else in the text that is not yet small.
-/

namespace Delegation
namespace Text

/-- The letters A to Z. -/
def asciiCapitals : List Char :=
  "ABCDEFGHIJKLMNOPQRSTUVWXYZ".toList

/-- Lower-casing changes none but the letters A to Z. -/
def LowersAsAscii (text : List Char) : Prop :=
  asciiLower text = lower text

instance (text : List Char) : Decidable (LowersAsAscii text) :=
  inferInstanceAs (Decidable (_ = _))

section Letters

variable {c : Char}

/-- The capitals of ASCII are the only characters that change. -/
theorem toLower_eq_or_mem (c : Char) : c.toLower = c ∨ c ∈ asciiCapitals := by
  unfold Char.toLower
  split
  · rename_i range
    right
    have codes : ∀ code ∈ List.range' 65 26, Char.ofNat code ∈ asciiCapitals := by decide
    rw [← Char.ofNat_toNat c]
    apply codes
    obtain ⟨least, greatest⟩ := range
    have lower : 65 ≤ c.toNat := UInt32.le_iff_toNat_le.mp least
    have upper : c.toNat ≤ 90 := UInt32.le_iff_toNat_le.mp greatest
    rw [List.mem_range'_1]
    omega
  · exact .inl rfl

theorem asciiCapitals_not_small : (asciiCapitals.all fun c => !isSmall c) = true := by
  decide +kernel

theorem asciiCapitals_like_small_letters :
    (asciiCapitals.all fun c => (isCased c.toLower == isCased c) &&
      (isCaseIgnorable c.toLower == isCaseIgnorable c) &&
      (c.toLower != capitalSigma) && (c != capitalSigma) &&
      (lowerAt [] c.toLower [] == lowerAt [] c [])) = true := by
  decide +kernel

/-- A letter A to Z and its small form look the same where case is concerned, and neither is a
sigma. -/
theorem case_toLower_of_mem (capital : c ∈ asciiCapitals) :
    isCased c.toLower = isCased c ∧ isCaseIgnorable c.toLower = isCaseIgnorable c ∧
      c.toLower ≠ capitalSigma ∧ c ≠ capitalSigma ∧
      lowerAt [] c.toLower [] = lowerAt [] c [] := by
  simpa [and_assoc] using List.all_eq_true.mp asciiCapitals_like_small_letters c capital

theorem asciiCapitals_and_small_letters :
    (asciiCapitals.all fun c => (c.toLower.toLower == c.toLower) && (c.toLower.toUpper == c)) =
      true := by
  decide +kernel

/-- A letter a to z is the small form of itself and of its capital only. -/
theorem toLower_eq_iff_of_mem
    {capital : Char}
    (listed : capital ∈ asciiCapitals) :
    c.toLower = capital.toLower ↔ c = capital.toLower ∨ c = capital := by
  have back : ∀ letter ∈ asciiCapitals,
      letter.toLower.toLower = letter.toLower ∧ letter.toLower.toUpper = letter := by
    simpa using asciiCapitals_and_small_letters
  constructor
  · intro same
    rcases toLower_eq_or_mem c with small | letter
    · exact .inl (small.symm.trans same)
    · exact .inr <| calc
        c = c.toLower.toUpper := (back c letter).2.symm
        _ = capital.toLower.toUpper := by rw [same]
        _ = capital := (back capital listed).2
  · rintro (rfl | rfl)
    · exact (back capital listed).1
    · rfl

theorem toLower_of_isSmall (small : isSmall c = true) : c.toLower = c := by
  rcases toLower_eq_or_mem c with same | capital
  · exact same
  · simpa [small] using List.all_eq_true.mp asciiCapitals_not_small c capital

theorem isCased_toLower (c : Char) : isCased c.toLower = isCased c := by
  rcases toLower_eq_or_mem c with same | capital
  · rw [same]
  · exact (case_toLower_of_mem capital).1

theorem isCaseIgnorable_toLower (c : Char) : isCaseIgnorable c.toLower = isCaseIgnorable c := by
  rcases toLower_eq_or_mem c with same | capital
  · rw [same]
  · exact (case_toLower_of_mem capital).2.1

/-- Only the sigma heeds what stands around it. -/
theorem lowerAt_of_ne_capitalSigma
    (plain : c ≠ capitalSigma)
    (before after : List Char) :
    lowerAt before c after = lowerAt [] c [] := by
  rw [lowerAt, lowerAt, if_neg plain, if_neg plain]

end Letters

section Texts

variable {text first second : List Char}

theorem meetsCased_asciiLower (text : List Char) :
    meetsCased (asciiLower text) = meetsCased text := by
  have ignorable : isCaseIgnorable ∘ Char.toLower = isCaseIgnorable :=
    funext isCaseIgnorable_toLower
  rw [meetsCased, meetsCased, asciiLower, List.dropWhile_map, ignorable]
  cases text.dropWhile isCaseIgnorable with
  | nil => rfl
  | cons c rest => exact isCased_toLower c

/-- Whether its surroundings are lowered first has no part in how a character is lowered. -/
theorem lowerAt_asciiLower (before : List Char) (c : Char) (after : List Char) :
    lowerAt (asciiLower before) c.toLower (asciiLower after) = lowerAt before c after := by
  rcases toLower_eq_or_mem c with same | capital
  · rw [same, lowerAt, meetsCased_asciiLower, meetsCased_asciiLower, ← lowerAt]
  · obtain ⟨-, -, smallPlain, plain, equal⟩ := case_toLower_of_mem capital
    rw [lowerAt_of_ne_capitalSigma smallPlain, equal, ← lowerAt_of_ne_capitalSigma plain before]

theorem lowerFrom_asciiLower (before text : List Char) :
    lowerFrom (asciiLower before) (asciiLower text) = lowerFrom before text := by
  induction text generalizing before with
  | nil => rfl
  | cons c text inductionHypothesis =>
      exact congrArg₂ (· ++ ·) (lowerAt_asciiLower before c text)
        (inductionHypothesis (c :: before))

/-- Nothing of the letters A to Z is left for lower-casing when they are small already. -/
@[simp] theorem lower_asciiLower (text : List Char) : lower (asciiLower text) = lower text :=
  lowerFrom_asciiLower [] text

/-- No letter A to Z is left after lower-casing. -/
@[simp] theorem asciiLower_lower (text : List Char) : asciiLower (lower text) = lower text := by
  have same : ∀ c ∈ lower text, c.toLower = id c :=
    fun c written => toLower_of_isSmall (isSmall_of_mem_lowerFrom written)
  rw [asciiLower, List.map_congr_left same, List.map_id]

/-- A text agrees with a lower-cased one up to the case of A to Z exactly if the two are the same
after lower-casing and lower-casing changes none but these letters in the text. -/
theorem eqIgnoringAsciiCase_lower_iff :
    eqIgnoringAsciiCase first (lower second) = true ↔
      lower first = lower second ∧ LowersAsAscii first := by
  rw [eqIgnoringAsciiCase, beq_iff_eq, asciiLower_lower, LowersAsAscii]
  constructor
  · intro same
    have lowered : lower first = lower second := by
      rw [← lower_asciiLower, same, lower_lower]
    exact ⟨lowered, same.trans lowered.symm⟩
  · rintro ⟨lowered, ascii⟩
    exact ascii.trans lowered

end Texts

end Text
end Delegation
