import Delegation.Dn.Header
import Delegation.Proofs.Text.Cutting

/-!
# The grammar of a list of names

A header value lists entries in one of three ways: it is empty, it is one entry without any
bracket, or it is a number of entries in brackets with nothing between them. Reading a value
gives the entries that it lists and fails where it lists none.
-/

namespace Delegation
namespace Text

variable {first second : Char}

/-- There is always a piece. -/
theorem piecesAtPair_ne_nil (text : List Char) :
    piecesAtPair first second text ≠ [] := by
  fun_cases piecesAtPair first second text <;> simp_all

/-- A text without the first mark is one piece. -/
theorem piecesAtPair_of_not_mem
    {text : List Char}
    (absent : first ∉ text) :
    piecesAtPair first second text = [text] := by
  fun_induction piecesAtPair first second text <;> simp_all

/-- The text in front of a pair is a piece of its own. -/
theorem piecesAtPair_append
    {head : List Char}
    (absent : first ∉ head)
    (tail : List Char) :
    piecesAtPair first second (head ++ first :: second :: tail) =
      head :: piecesAtPair first second tail := by
  induction head with
  | nil => simp [piecesAtPair]
  | cons c head inductionHypothesis =>
      obtain ⟨other, absent⟩ := List.ne_and_not_mem_of_not_mem_cons absent
      have pieces := inductionHypothesis absent
      -- The definition looks at two characters, so the second one is made visible.
      cases head <;> simp_all [piecesAtPair, Ne.symm other]

end Text

namespace Dn

/-- An entry in brackets. -/
def bracketed (entry : List Char) : List Char := '<' :: (entry ++ ['>'])

/-- A trimmed header value lists some entries. -/
inductive Lists : List Char → List (List Char) → Prop
  /-- An empty value lists none. -/
  | none : Lists [] []
  /-- A value without a bracket is one entry. -/
  | one {text : List Char} (nonempty : text ≠ []) (bare : '<' ∉ text) : Lists text [text]
  /-- Entries in brackets stand next to each other. -/
  | bracketed {entries : List (List Char)} (nonempty : entries ≠ [])
      (valid : ∀ entry ∈ entries, isEntry entry = true) :
      Lists (entries.flatMap Dn.bracketed) entries

/-- The pieces of a body in brackets are its entries. -/
theorem flatMap_bracketed_piecesAtPair (body : List Char) :
    (Text.piecesAtPair '>' '<' body).flatMap bracketed = bracketed body := by
  fun_induction Text.piecesAtPair '>' '<' body <;> simp_all [bracketed]

theorem not_mem_of_isEntry
    {entry : List Char}
    (valid : isEntry entry = true) :
    '<' ∉ entry ∧ '>' ∉ entry := by
  simp_all [isEntry]

/-- Entries next to each other are found again between their outermost brackets. -/
theorem exists_body
    {entries : List (List Char)}
    (nonempty : entries ≠ [])
    (valid : ∀ entry ∈ entries, isEntry entry = true) :
    ∃ body, entries.flatMap bracketed = bracketed body ∧
      Text.piecesAtPair '>' '<' body = entries := by
  induction entries with
  | nil => exact absurd rfl nonempty
  | cons entry entries inductionHypothesis =>
      have closed := (not_mem_of_isEntry (valid entry List.mem_cons_self)).2
      cases entries with
      | nil => exact ⟨entry, by simp, Text.piecesAtPair_of_not_mem closed⟩
      | cons next entries =>
          obtain ⟨body, joined, pieces⟩ := inductionHypothesis (List.cons_ne_nil _ _)
            fun other inside => valid other (List.mem_cons_of_mem _ inside)
          refine ⟨entry ++ '>' :: '<' :: body, ?_, ?_⟩
          · rw [List.flatMap_cons, joined]
            simp [bracketed]
          · rw [Text.piecesAtPair_append closed, pieces]

theorem bracketBody?_eq_some
    {text body : List Char} :
    bracketBody? text = some body ↔ text = bracketed body := by
  constructor
  · intro found
    unfold bracketBody? at found
    split at found
    · simp at found
    · rename_i rest opened
      split at found
      · rename_i inner closed
        obtain rfl := Option.some.inj found
        rw [Text.afterWord_eq_some.mp opened, (Text.cutLast_eq_some_iff.mp closed).1]
        rfl
      · simp at found
  · rintro rfl
    have closed : Text.cutLast '>' (body ++ ['>']) = some (body, []) :=
      Text.cutLast_eq_some_iff.mpr ⟨rfl, List.not_mem_nil⟩
    simp [bracketBody?, bracketed, Text.afterWord, closed]

/-- Reading a trimmed value gives exactly the entries that it lists. -/
theorem headerEntries?_eq_some
    {text : List Char}
    {entries : List (List Char)} :
    headerEntries? text = some entries ↔ Lists text entries := by
  constructor
  · intro found
    unfold headerEntries? at found
    split at found
    · rename_i empty
      obtain rfl := List.isEmpty_iff.mp empty
      obtain rfl := Option.some.inj found
      exact .none
    · rename_i nonempty
      split at found
      · rename_i bare
        obtain rfl := Option.some.inj found
        exact .one (by simpa using nonempty) (by simpa using bare)
      · split at found
        · simp at found
        · rename_i body opened
          obtain rfl := bracketBody?_eq_some.mp opened
          simp only [Option.ite_none_right_eq_some, Option.some.injEq, List.all_eq_true] at found
          obtain ⟨valid, rfl⟩ := found
          rw [← flatMap_bracketed_piecesAtPair]
          exact .bracketed (Text.piecesAtPair_ne_nil body) valid
  · intro lists
    cases lists with
    | none => rfl
    | one nonempty bare => simp [headerEntries?, nonempty, bare]
    | bracketed nonempty valid =>
        obtain ⟨body, joined, pieces⟩ := exists_body nonempty valid
        have opened := bracketBody?_eq_some.mpr joined
        have all : entries.all isEntry = true := List.all_eq_true.mpr valid
        have mark : '<' ∈ bracketed body := List.mem_cons_self
        have filled : bracketed body ≠ [] := List.cons_ne_nil _ _
        rw [joined] at opened ⊢
        simp [headerEntries?, opened, pieces, all, mark, filled]

/-- A value lists its entries in one way only. -/
theorem Lists.unique
    {text : List Char}
    {first second : List (List Char)}
    (lists : Lists text first)
    (other : Lists text second) :
    first = second := by
  rw [← headerEntries?_eq_some] at lists other
  exact Option.some.inj (lists.symm.trans other)

/-- A header value lists names: the normal forms of its entries. -/
def ListsNames (value : String) (names : List String) : Prop :=
  ∃ entries, Lists (Text.trim value.toList) entries ∧
    names = entries.map fun entry => String.ofList (normalizeChars entry)

/-- Reading a header value gives exactly the names that it lists. -/
theorem splitHeader_eq_ok
    {value : String}
    {names : List String} :
    splitHeader value true = .ok names ↔ ListsNames value names := by
  simp only [ListsNames, ← headerEntries?_eq_some, splitHeader]
  cases headerEntries? (Text.trim value.toList) with
  | none => simp
  | some entries => simp [eq_comm]

end Dn
end Delegation
