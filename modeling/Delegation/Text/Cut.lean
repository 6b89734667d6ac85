/-!
# Cutting texts

A text is cut at the first or last occurrence of a character, or at every occurrence
of a character or of a fixed word. Nothing but the separators is lost.
-/

namespace Delegation
namespace Text

/-- The parts before and after the first `mark`, if there is one. -/
def cutFirst (mark : Char) : List Char → Option (List Char × List Char)
  | [] => none
  | c :: text =>
      if c = mark then some ([], text)
      else (cutFirst mark text).map fun parts => (c :: parts.1, parts.2)

/-- The parts before and after the last `mark`, if there is one. -/
def cutLast (mark : Char) (text : List Char) : Option (List Char × List Char) :=
  (cutFirst mark text.reverse).map fun parts => (parts.2.reverse, parts.1.reverse)

/-- A cut gives back the text when the mark is put between the parts. -/
theorem cutFirst_eq_some {mark : Char} {text head tail : List Char}
    (cut : cutFirst mark text = some (head, tail)) :
    text = head ++ mark :: tail ∧ mark ∉ head := by
  induction text generalizing head with
  | nil => simp [cutFirst] at cut
  | cons c text ih =>
      unfold cutFirst at cut
      by_cases same : c = mark
      · simp only [same, if_true, Option.some.injEq, Prod.mk.injEq] at cut
        obtain ⟨rfl, rfl⟩ := cut
        simp [same]
      · simp only [same, if_false, Option.map_eq_some_iff] at cut
        obtain ⟨⟨front, back⟩, found, equal⟩ := cut
        obtain ⟨rfl, rfl⟩ := Prod.mk.inj equal
        obtain ⟨rfl, absent⟩ := ih found
        exact ⟨rfl, by simp [absent, Ne.symm same]⟩

/-- There is no cut exactly when the mark does not occur. -/
theorem cutFirst_eq_none {mark : Char} {text : List Char} :
    cutFirst mark text = none ↔ mark ∉ text := by
  induction text with
  | nil => simp [cutFirst]
  | cons c text ih =>
      unfold cutFirst
      by_cases same : c = mark
      · simp [same]
      · simp [same, ih, Ne.symm same]

/-- A text that starts with `word` gives what follows it. -/
def afterWord : List Char → List Char → Option (List Char)
  | [], text => some text
  | _ :: _, [] => none
  | w :: word, c :: text => if w = c then afterWord word text else none

/-- What follows the word is the text without the word. -/
theorem afterWord_eq_some {word text rest : List Char} :
    afterWord word text = some rest ↔ text = word ++ rest := by
  induction word generalizing text with
  | nil => simp [afterWord, eq_comm]
  | cons w word ih =>
      cases text with
      | nil => simp [afterWord]
      | cons c text =>
          by_cases same : w = c
          · simp [afterWord, same, ih]
          · simp [afterWord, same, Ne.symm same]

/-- The parts before and after the first occurrence of `word`, if there is one. -/
def cutWord (word : List Char) : List Char → Option (List Char × List Char)
  | [] => (afterWord word []).map fun rest => ([], rest)
  | c :: text =>
      match afterWord word (c :: text) with
      | some rest => some ([], rest)
      | none => (cutWord word text).map fun parts => (c :: parts.1, parts.2)

/-- The pieces between the occurrences of a mark; at least one. -/
def piecesAt (mark : Char) : List Char → List (List Char)
  | [] => [[]]
  | c :: text =>
      if c = mark then [] :: piecesAt mark text
      else
        match piecesAt mark text with
        | [] => [[c]]
        | piece :: pieces => (c :: piece) :: pieces

/-- The pieces between the occurrences of the two-character word `first second`, read from
the left without overlap; at least one. -/
def piecesAtPair (first second : Char) : List Char → List (List Char)
  | [] => [[]]
  | [c] => [[c]]
  | c :: d :: text =>
      if c = first ∧ d = second then [] :: piecesAtPair first second text
      else
        match piecesAtPair first second (d :: text) with
        | [] => [[c]]
        | piece :: pieces => (c :: piece) :: pieces

/-- Join pieces with a mark between neighbours. -/
def joinWith (mark : List Char) (pieces : List (List Char)) : List Char :=
  mark.intercalate pieces

end Text
end Delegation
