import Delegation.Proofs.Dn.HeaderGrammar
import Delegation.Proofs.Dn.NormalForm

/-!
# Reading back a built header

Names are put into brackets and nothing in them is escaped. Where no name holds a bracket, the
value that is built of them is read back as these very names. A value that is built of other
names is read as different ones, if it is read at all.
-/

namespace Delegation
namespace Dn

/-- A text without brackets keeps its borders in a list. -/
def Unbracketed (text : List Char) : Prop :=
  '<' ∉ text ∧ '>' ∉ text

instance (text : List Char) : Decidable (Unbracketed text) :=
  inferInstanceAs (Decidable (_ ∧ _))

section Entries

variable {entries texts first second : List (List Char)} {text : List Char}

theorem trim_flatMap_bracketed (texts : List (List Char)) :
    Text.trim (texts.flatMap bracketed) = texts.flatMap bracketed := by
  have openVisible : Text.isBlank '<' = false := by decide
  have closeVisible : Text.isBlank '>' = false := by decide
  rcases List.eq_nil_or_concat texts with rfl | ⟨front, last, rfl⟩
  · rfl
  · have closed : ∃ body, (front.concat last).flatMap bracketed = body ++ ['>'] :=
      ⟨front.flatMap bracketed ++ '<' :: last, by simp [bracketed]⟩
    have opened : ∃ rest, (front.concat last).flatMap bracketed = '<' :: rest := by
      cases front <;> exact ⟨_, rfl⟩
    obtain ⟨rest, opening⟩ := opened
    obtain ⟨body, closing⟩ := closed
    rw [Text.trim, opening, Text.trimLeft_cons_of_not_isBlank rest openVisible, ← opening, closing,
      Text.trimRight_concat_of_not_isBlank body closeVisible]

/-- Texts in brackets list the entries that look the same in brackets. -/
theorem lists_flatMap_bracketed_iff :
    Lists (texts.flatMap bracketed) entries ↔
      entries.flatMap bracketed = texts.flatMap bracketed ∧
        ∀ entry ∈ entries, isEntry entry = true := by
  constructor
  · intro lists
    generalize joined : texts.flatMap bracketed = value at lists
    cases lists with
    | none => exact ⟨rfl, List.forall_mem_nil _⟩
    | one nonempty bare =>
        cases texts with
        | nil => exact absurd joined.symm nonempty
        | cons text texts =>
            rw [← joined] at bare
            simp [bracketed] at bare
    | bracketed nonempty valid => exact ⟨rfl, valid⟩
  · rintro ⟨same, valid⟩
    rw [← same]
    by_cases nonempty : entries = []
    · subst nonempty
      exact .none
    · exact .bracketed nonempty valid

/-- Without closing brackets inside, no two lists look the same in brackets. -/
theorem flatMap_bracketed_inj
    (firstInner : ∀ text ∈ first, '>' ∉ text)
    (secondInner : ∀ text ∈ second, '>' ∉ text)
    (same : first.flatMap bracketed = second.flatMap bracketed) :
    first = second := by
  induction first generalizing second with
  | nil =>
      cases second with
      | nil => rfl
      | cons text second => simp [bracketed] at same
  | cons text first inductionHypothesis =>
      cases second with
      | nil => simp [bracketed] at same
      | cons other second =>
          obtain ⟨textInner, firstRest⟩ := List.forall_mem_cons.mp firstInner
          obtain ⟨otherInner, secondRest⟩ := List.forall_mem_cons.mp secondInner
          simp only [List.flatMap_cons, bracketed, List.cons_append, List.append_assoc,
            List.nil_append, List.cons.injEq, true_and] at same
          obtain ⟨rfl, rest⟩ := Text.append_cons_inj textInner otherInner same
          rw [inductionHypothesis firstRest secondRest rest]

theorem Unbracketed.normalizeChars
    (unbracketed : Unbracketed text) :
    Unbracketed (normalizeChars text) :=
  ⟨fun inside => unbracketed.1 (mem_of_mem_normalizeChars (by decide) (by decide) inside),
    fun inside => unbracketed.2 (mem_of_mem_normalizeChars (by decide) (by decide) inside)⟩

/-- A normal form that is not empty and holds no bracket is an entry. -/
theorem isEntry_of_normal
    (normal : Dn.normalizeChars text = text)
    (filled : text ≠ [])
    (unbracketed : Unbracketed text) :
    isEntry text = true := by
  have visible : Text.trim text ≠ [] := by
    rwa [← normal, trim_normalizeChars, normal]
  simp [isEntry, Text.isBlankText, visible, unbracketed.1, unbracketed.2]

end Entries

section Headers

variable {names decoded : List String}

/-- The names that a header value lists are in normal form. -/
theorem ListsNames.normalize
    {value : String}
    (lists : ListsNames value names) :
    ∀ name ∈ names, normalize name = name := by
  obtain ⟨entries, -, rfl⟩ := lists
  rw [List.forall_mem_map]
  intro entry _
  rw [Dn.normalize, String.toList_ofList, normalizeChars_normalizeChars]

theorem toList_buildHeader (names : List String) :
    (buildHeader names).toList = (names.map String.toList).flatMap bracketed := by
  simp [buildHeader, bracketed, List.flatMap_map]

theorem listsNames_buildHeader_iff :
    ListsNames (buildHeader names) decoded ↔
      ∃ entries : List (List Char),
        entries.flatMap bracketed = (names.map String.toList).flatMap bracketed ∧
        (∀ entry ∈ entries, isEntry entry = true) ∧
          decoded = entries.map fun entry => String.ofList (normalizeChars entry) := by
  rw [ListsNames, toList_buildHeader, trim_flatMap_bracketed]
  simp only [lists_flatMap_bracketed_iff, and_assoc]

theorem map_normalize_eq_self
    (normal : ∀ name ∈ names, normalize name = name) :
    (names.map String.toList).map (fun text => String.ofList (normalizeChars text)) = names := by
  rw [List.map_map]
  exact (List.map_congr_left normal).trans (List.map_id names)

/-- Entries that look in brackets like names without brackets are these names. -/
theorem entries_eq_of_unbracketed
    {entries : List (List Char)}
    (valid : ∀ entry ∈ entries, isEntry entry = true)
    (unbracketed : ∀ name ∈ names, Unbracketed name.toList)
    (same : entries.flatMap bracketed = (names.map String.toList).flatMap bracketed) :
    entries = names.map String.toList := by
  have closed : ∀ text ∈ names.map String.toList, '>' ∉ text :=
    List.forall_mem_map.mpr fun name member => (unbracketed name member).2
  exact flatMap_bracketed_inj (fun entry inside => (not_mem_of_isEntry (valid entry inside)).2)
    closed same

/-- Names in normal form are read back from the value that is built of them exactly if none of
them holds a bracket; if one does, other names are read or the value is refused. -/
theorem decoded_eq_iff
    (normal : ∀ name ∈ names, normalize name = name)
    (accepted : splitHeader (buildHeader names) true = .ok decoded) :
    decoded = names ↔ ∀ name ∈ names, Unbracketed name.toList := by
  obtain ⟨entries, same, valid, rfl⟩ :=
    listsNames_buildHeader_iff.mp (splitHeader_eq_ok.mp accepted)
  constructor
  · rintro equal name member
    rw [← equal] at member
    obtain ⟨entry, inside, rfl⟩ := List.mem_map.mp member
    have unbracketed : Unbracketed entry := not_mem_of_isEntry (valid entry inside)
    rw [String.toList_ofList]
    exact unbracketed.normalizeChars
  · intro unbracketed
    rw [entries_eq_of_unbracketed valid unbracketed same, map_normalize_eq_self normal]

/-- Names in normal form without brackets, none of them empty, are read back. -/
theorem splitHeader_buildHeader
    (normal : ∀ name ∈ names, normalize name = name)
    (proper : ∀ name ∈ names, name ≠ "" ∧ Unbracketed name.toList) :
    splitHeader (buildHeader names) true = .ok names := by
  rw [splitHeader_eq_ok, listsNames_buildHeader_iff]
  refine ⟨names.map String.toList, rfl, ?_, (map_normalize_eq_self normal).symm⟩
  rw [List.forall_mem_map]
  intro name member
  obtain ⟨nonempty, unbracketed⟩ := proper name member
  refine isEntry_of_normal ?_ ?_ unbracketed
  · rw [← toList_normalize, normal name member]
  · simpa using nonempty

/-- A list of texts is read back from the value that is built of it exactly if each of them is a
normal form, not empty and free of brackets. -/
theorem splitHeader_buildHeader_eq_self_iff (names : List String) :
    splitHeader (buildHeader names) true = .ok names ↔
      ∀ name ∈ names, name ≠ "" ∧ normalize name = name ∧ Unbracketed name.toList := by
  constructor
  · intro accepted
    have listed : ListsNames (buildHeader names) names := splitHeader_eq_ok.mp accepted
    have normal := listed.normalize
    have unbracketed := (decoded_eq_iff normal accepted).mp rfl
    obtain ⟨entries, same, valid, -⟩ := listsNames_buildHeader_iff.mp listed
    have found := entries_eq_of_unbracketed valid unbracketed same
    intro name member
    refine ⟨?_, normal name member, unbracketed name member⟩
    -- An entry is not blank, so no name is empty.
    rintro rfl
    have entry : isEntry [] = true := valid [] (found ▸ List.mem_map_of_mem member)
    exact absurd entry (by decide)
  · intro proper
    exact splitHeader_buildHeader (fun name member => (proper name member).2.1)
      fun name member => ⟨(proper name member).1, (proper name member).2.2⟩

/-- Normal forms do not suffice: an empty text is one, and so is a text with brackets inside. -/
example :
    normalize "" = "" ∧ splitHeader (buildHeader [""]) true ≠ .ok [""] ∧
      normalize "a><b" = "a><b" ∧ splitHeader (buildHeader ["a><b"]) true = .ok ["a", "b"] := by
  decide +kernel

end Headers

end Dn
end Delegation
