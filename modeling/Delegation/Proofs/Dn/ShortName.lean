import Delegation.Dn.Basic
import Delegation.Proofs.Text.AsciiCase
import Delegation.Proofs.Text.Cutting
import Delegation.Proofs.Text.Trimming

/-!
# Short names

The short name of a principal is the last word of its common name, where only spaces end a word.
A name without a common name is its own short name, less the blanks at its ends, as long as it is
one word: of several words it keeps the last one, too.
-/

namespace Delegation
namespace Dn

/-- A word is what follows the last space of a text, or a whole text without spaces. -/
def IsLastWord (text word : List Char) : Prop :=
  ' ' ∉ word ∧ (word = text ∨ ∃ front, text = front ++ ' ' :: word)

/-- The key of common names in any case. -/
def commonNameKeys : List (List Char) :=
  ["cn".toList, "cN".toList, "Cn".toList, "CN".toList]

/-- A relative name with the key of common names gives its value; blanks around the two do not
count. -/
def IsCommonName (rdn value : List Char) : Prop :=
  ∃ front back, rdn = front ++ '=' :: back ∧ '=' ∉ front ∧
    Text.trim front ∈ commonNameKeys ∧ value = Text.trim back

/-- The value of the first common name among the relative names of a name. -/
def FirstCommonName (dn value : List Char) : Prop :=
  ∃ before rdn after, rdns dn = before ++ rdn :: after ∧ IsCommonName rdn value ∧
    ∀ other ∈ before, ∀ value, ¬ IsCommonName other value

/-- A short name is the last word of the first common name, or else the whole name. -/
structure IsShortName (dn name : List Char) : Prop where
  word : ∀ value, FirstCommonName dn value → IsLastWord value name
  whole : (∀ value, ¬ FirstCommonName dn value) → name = Text.trim dn

variable {text word rdn key value dn : List Char} {names : List (List Char)}

/-! ## Words -/

theorem isLastWord_lastWord (text : List Char) : IsLastWord text (lastWord text) := by
  unfold lastWord
  cases cut : Text.cutLast ' ' text with
  | none => exact ⟨Text.cutLast_eq_none_iff.mp cut, .inl rfl⟩
  | some parts =>
      obtain ⟨equal, absent⟩ := Text.cutLast_eq_some_iff.mp cut
      exact ⟨absent, .inr ⟨parts.1, equal⟩⟩

/-- The last word of a text is the whole text exactly if there is no space in it. -/
theorem isLastWord_self_iff : IsLastWord text text ↔ ' ' ∉ text :=
  and_iff_left (.inl rfl)

theorem IsLastWord.eq_lastWord (last : IsLastWord text word) : word = lastWord text := by
  unfold lastWord
  obtain ⟨absent, rfl | ⟨front, rfl⟩⟩ := last
  · rw [Text.cutLast_eq_none_iff.mpr absent]
  · rw [Text.cutLast_eq_some_iff.mpr ⟨rfl, absent⟩]

/-! ## Common names -/

theorem keyAndValue_eq_some_iff :
    keyAndValue rdn = some (key, value) ↔
      ∃ front back, rdn = front ++ '=' :: back ∧ '=' ∉ front ∧
        Text.trim front = key ∧ Text.trim back = value := by
  simp only [keyAndValue, Option.map_eq_some_iff, Prod.mk.injEq]
  constructor
  · rintro ⟨⟨front, back⟩, cut, trimmed⟩
    obtain ⟨equal, absent⟩ := Text.cutFirst_eq_some cut
    exact ⟨front, back, equal, absent, trimmed⟩
  · rintro ⟨front, back, rfl, absent, trimmed⟩
    exact ⟨(front, back), Text.cutFirst_append_cons absent back, trimmed⟩

/-- The listed keys are `cn` up to the case of its letters. -/
theorem mem_commonNameKeys_iff :
    key ∈ commonNameKeys ↔ Text.eqIgnoringAsciiCase key "cn".toList = true := by
  have lowered : Text.asciiLower "cn".toList = ['c', 'n'] := by decide
  have capitalC : 'C' ∈ Text.asciiCapitals := by decide
  have capitalN : 'N' ∈ Text.asciiCapitals := by decide
  have first (c : Char) : c.toLower = 'c' ↔ c = 'c' ∨ c = 'C' :=
    Text.toLower_eq_iff_of_mem capitalC
  have second (c : Char) : c.toLower = 'n' ↔ c = 'n' ∨ c = 'N' :=
    Text.toLower_eq_iff_of_mem capitalN
  rw [Text.eqIgnoringAsciiCase, beq_iff_eq, lowered, Text.asciiLower]
  -- Only texts of two characters can be a key.
  rcases key with _ | ⟨c, _ | ⟨d, _ | ⟨more, key⟩⟩⟩
  · simp [commonNameKeys]
  · simp [commonNameKeys]
  · simp only [commonNameKeys, List.map_cons, List.map_nil, List.cons.injEq, first, second,
      or_and_right]
    simp [and_or_left, or_assoc]
  · simp [commonNameKeys]

theorem valueOf?_singleton_eq_some_iff :
    valueOf? "cn" [rdn] = some value ↔ IsCommonName rdn value := by
  have found : valueOf? "cn" [rdn] = some value ↔
      ∃ key, keyAndValue rdn = some (key, value) ∧
        Text.eqIgnoringAsciiCase key "cn".toList = true := by
    cases parts : keyAndValue rdn with
    | none => simp [valueOf?, parts]
    | some both =>
        obtain ⟨key, other⟩ := both
        cases cn : Text.eqIgnoringAsciiCase key "cn".toList <;> simp_all [valueOf?]
  simp only [found, ← mem_commonNameKeys_iff, keyAndValue_eq_some_iff]
  constructor
  · rintro ⟨_, ⟨front, back, equal, absent, rfl, rfl⟩, listed⟩
    exact ⟨front, back, equal, absent, listed, rfl⟩
  · rintro ⟨front, back, equal, absent, listed, rfl⟩
    exact ⟨_, ⟨front, back, equal, absent, rfl, rfl⟩, listed⟩

theorem valueOf?_eq_some_iff :
    valueOf? "cn" (rdns dn) = some value ↔ FirstCommonName dn value := by
  have single (names : List (List Char)) :
      valueOf? "cn" names = names.findSome? fun rdn => valueOf? "cn" [rdn] := by
    simp [valueOf?]
  rw [single, List.findSome?_eq_some_iff]
  simp only [valueOf?_singleton_eq_some_iff, FirstCommonName, Option.eq_none_iff_forall_ne_some,
    ne_eq]

theorem FirstCommonName.trim_eq (first : FirstCommonName dn value) : Text.trim value = value := by
  obtain ⟨_, _, _, _, ⟨_, back, _, _, _, rfl⟩, _⟩ := first
  exact Text.trim_trim back

/-! ## Short names -/

theorem toList_shortName (name : String) :
    (shortName name).toList =
      lastWord (Text.trim ((valueOf? "cn" (rdns name.toList)).getD name.toList)) :=
  String.toList_ofList

/-- Short names are single words. -/
theorem space_not_mem_shortName (name : String) : ' ' ∉ (shortName name).toList := by
  rw [toList_shortName]
  exact (isLastWord_lastWord _).1

/-- The common name gives its last word. -/
theorem isLastWord_shortName_of_first
    {name : String}
    (first : FirstCommonName name.toList value) :
    IsLastWord value (shortName name).toList := by
  rw [toList_shortName, valueOf?_eq_some_iff.mpr first, Option.getD_some, first.trim_eq]
  exact isLastWord_lastWord value

/-- Without a common name the whole name gives its last word. -/
theorem isLastWord_shortName_of_none
    {name : String}
    (none : ∀ value, ¬ FirstCommonName name.toList value) :
    IsLastWord (Text.trim name.toList) (shortName name).toList := by
  have missing : valueOf? "cn" (rdns name.toList) = .none :=
    Option.eq_none_iff_forall_ne_some.mpr fun value found =>
      none value (valueOf?_eq_some_iff.mp found)
  rw [toList_shortName, missing, Option.getD_none]
  exact isLastWord_lastWord _

/-- The short name is the last word of the first common name. Without a common name it is the last
word of the whole name, so that it is right exactly for names that have a common name or no space
between their ends. -/
theorem isShortName_shortName_iff (name : String) :
    (∀ value, FirstCommonName name.toList value → IsLastWord value (shortName name).toList) ∧
    ((∀ value, ¬ FirstCommonName name.toList value) →
      IsLastWord (Text.trim name.toList) (shortName name).toList) ∧
    (IsShortName name.toList (shortName name).toList ↔
      (∃ value, FirstCommonName name.toList value) ∨ ' ' ∉ Text.trim name.toList) := by
  refine ⟨fun value => isLastWord_shortName_of_first, isLastWord_shortName_of_none, ?_⟩
  constructor
  · intro right
    by_cases named : ∃ value, FirstCommonName name.toList value
    · exact .inl named
    · rw [← right.whole (not_exists.mp named)]
      exact .inr (space_not_mem_shortName name)
  · intro condition
    refine ⟨fun value => isLastWord_shortName_of_first, fun unnamed => ?_⟩
    have single : ' ' ∉ Text.trim name.toList := condition.resolve_left (not_exists.mpr unnamed)
    rw [(isLastWord_shortName_of_none unnamed).eq_lastWord,
      ← (isLastWord_self_iff.mpr single).eq_lastWord]

/-- A name of two words that has no common name is cut all the same. -/
theorem shortName_cuts_whole_name :
    shortName "o=nova labs" = "labs" ∧
      (∀ value, ¬ FirstCommonName "o=nova labs".toList value) ∧
      ¬ IsShortName "o=nova labs".toList (shortName "o=nova labs").toList := by
  have unnamed : ∀ value, ¬ FirstCommonName "o=nova labs".toList value := by
    intro value first
    have missing : valueOf? "cn" (rdns "o=nova labs".toList) = none := by decide +kernel
    rw [valueOf?_eq_some_iff.mpr first] at missing
    nomatch missing
  refine ⟨by decide +kernel, unnamed, fun right => ?_⟩
  have whole := right.whole unnamed
  revert whole
  decide +kernel

end Dn
end Delegation
