import Delegation.Text.Cut

/-!
# Texts cut at a mark

A text that is put together from two parts and a mark between them is cut into these parts, at
its first mark if the first part has none and at its last mark if the second part has none. A run
of characters that belong together ends before the first one that does not. Cut at every mark, a
text gives the pieces between the marks.
-/

namespace Delegation
namespace Text

variable {mark : Char} {head tail text : List Char}

theorem cutFirst_append_cons
    (absent : mark ∉ head)
    (tail : List Char) :
    cutFirst mark (head ++ mark :: tail) = some (head, tail) := by
  induction head with
  | nil => simp [cutFirst]
  | cons c head inductionHypothesis =>
      obtain ⟨other, absent⟩ := List.ne_and_not_mem_of_not_mem_cons absent
      rw [List.cons_append, cutFirst, if_neg (Ne.symm other), inductionHypothesis absent]
      rfl

/-- A part without the mark has no cut; the text is cut behind it. -/
theorem cutFirst_append
    (absent : mark ∉ head)
    (tail : List Char) :
    cutFirst mark (head ++ tail) =
      (cutFirst mark tail).map fun parts => (head ++ parts.1, parts.2) := by
  induction head with
  | nil => simp
  | cons c head inductionHypothesis =>
      obtain ⟨other, absent⟩ := List.ne_and_not_mem_of_not_mem_cons absent
      rw [List.cons_append, cutFirst, if_neg (Ne.symm other), inductionHypothesis absent,
        Option.map_map]
      rfl

/-- Texts with a mark in them are the same before and after their first one. -/
theorem append_cons_inj
    {other rest : List Char}
    (absent : mark ∉ head)
    (otherAbsent : mark ∉ other)
    (same : head ++ mark :: tail = other ++ mark :: rest) :
    head = other ∧ tail = rest := by
  have cut := congrArg (cutFirst mark) same
  rw [cutFirst_append_cons absent, cutFirst_append_cons otherAbsent] at cut
  exact Prod.mk.inj (Option.some.inj cut)

/-- A text has no mark, or is cut at its first one. -/
theorem not_mem_or_cut (mark : Char) (text : List Char) :
    mark ∉ text ∨ ∃ head tail, text = head ++ mark :: tail ∧ mark ∉ head := by
  cases cut : cutFirst mark text with
  | none => exact .inl (cutFirst_eq_none.mp cut)
  | some parts => exact .inr ⟨parts.1, parts.2, cutFirst_eq_some cut⟩

/-- The last mark has none behind it. -/
theorem cutLast_eq_some_iff :
    cutLast mark text = some (head, tail) ↔ text = head ++ mark :: tail ∧ mark ∉ tail := by
  simp only [cutLast, Option.map_eq_some_iff, Prod.mk.injEq]
  constructor
  · rintro ⟨⟨back, front⟩, found, rfl, rfl⟩
    obtain ⟨reversed, absent⟩ := cutFirst_eq_some found
    exact ⟨by simpa using congrArg List.reverse reversed, by simpa using absent⟩
  · rintro ⟨rfl, absent⟩
    refine ⟨(tail.reverse, head.reverse), ?_, List.reverse_reverse _, List.reverse_reverse _⟩
    have reversed : mark ∉ tail.reverse := by simpa using absent
    simpa using cutFirst_append_cons reversed head.reverse

theorem cutLast_eq_none_iff : cutLast mark text = none ↔ mark ∉ text := by
  rw [cutLast, Option.map_eq_none_iff, cutFirst_eq_none, List.mem_reverse]

/-! ## Runs -/

variable {run rest : List Char} {belongs : Char → Bool}

theorem takeWhile_append_of_stop
    (inside : ∀ c ∈ run, belongs c = true)
    (stops : ∀ c, rest.head? = some c → belongs c = false) :
    (run ++ rest).takeWhile belongs = run := by
  rw [List.takeWhile_append_of_pos inside]
  cases rest with
  | nil => exact List.append_nil run
  | cons c rest => simp [stops c rfl]

theorem dropWhile_append_of_stop
    (inside : ∀ c ∈ run, belongs c = true)
    (stops : ∀ c, rest.head? = some c → belongs c = false) :
    (run ++ rest).dropWhile belongs = rest := by
  rw [List.dropWhile_append_of_pos inside]
  cases rest with
  | nil => rfl
  | cons c rest => simp [stops c rfl]

/-! ## Pieces -/

theorem piecesAt_eq_splitOn (mark : Char) (text : List Char) :
    piecesAt mark text = text.splitOn mark := by
  induction text with
  | nil => rfl
  | cons c text inductionHypothesis =>
      rw [piecesAt, inductionHypothesis, List.splitOn_cons_eq_if_modifyHead]
      by_cases here : c = mark
      · rw [if_pos here, if_pos (beq_iff_eq.mpr here)]
      · rw [if_neg here, if_neg (by simpa using here)]
        cases pieces : text.splitOn mark with
        | nil => exact absurd pieces (List.splitOn_ne_nil mark text)
        | cons piece pieces => rfl

theorem piecesAt_ne_nil (mark : Char) (text : List Char) : piecesAt mark text ≠ [] := by
  rw [piecesAt_eq_splitOn]
  exact List.splitOn_ne_nil mark text

/-- A text without the mark is a piece of its own. -/
theorem piecesAt_of_not_mem (absent : mark ∉ text) : piecesAt mark text = [text] := by
  rw [piecesAt_eq_splitOn, List.splitOn_eq_singleton absent]

/-- A mark parts the pieces in front of it from those behind. -/
theorem piecesAt_append_cons (mark : Char) (head tail : List Char) :
    piecesAt mark (head ++ mark :: tail) = piecesAt mark head ++ piecesAt mark tail := by
  simp only [piecesAt_eq_splitOn, List.splitOn_append_cons_self]

/-- Pieces hold no mark and nothing that is not in the text. -/
theorem mem_of_mem_piecesAt
    {piece : List Char}
    {c : Char}
    (member : piece ∈ piecesAt mark text)
    (inside : c ∈ piece) :
    c ≠ mark ∧ c ∈ text := by
  induction text generalizing piece with
  | nil =>
      obtain rfl : piece = [] := by simpa [piecesAt] using member
      nomatch inside
  | cons d text inductionHypothesis =>
      have later {other : List Char} (found : other ∈ piecesAt mark text) (held : c ∈ other) :
          c ≠ mark ∧ c ∈ d :: text :=
        (inductionHypothesis found held).imp_right (List.mem_cons_of_mem d)
      rw [piecesAt] at member
      by_cases here : d = mark
      · rw [if_pos here] at member
        rcases List.mem_cons.mp member with rfl | found
        · nomatch inside
        · exact later found inside
      · rw [if_neg here] at member
        cases pieces : piecesAt mark text with
        | nil => exact absurd pieces (piecesAt_ne_nil mark text)
        | cons first rest =>
            rw [pieces] at member later
            rcases List.mem_cons.mp member with rfl | found
            · rcases List.mem_cons.mp inside with rfl | held
              · exact ⟨here, List.mem_cons_self⟩
              · exact later List.mem_cons_self held
            · exact later (List.mem_cons_of_mem first found) inside

/-- A text that ends with another character has a last piece with something in it. -/
theorem exists_last_piece
    {c : Char}
    (ends : text.getLast? = some c)
    (other : c ≠ mark) :
    ∃ pieces last, piecesAt mark text = pieces ++ [last] ∧ last ≠ [] := by
  cases cut : cutLast mark text with
  | none =>
      refine ⟨[], text, piecesAt_of_not_mem (cutLast_eq_none_iff.mp cut), ?_⟩
      rintro rfl
      nomatch ends
  | some parts =>
      obtain ⟨rfl, absent⟩ := cutLast_eq_some_iff.mp cut
      refine ⟨piecesAt mark parts.1, parts.2, ?_, ?_⟩
      · rw [piecesAt_append_cons, piecesAt_of_not_mem absent]
      · intro empty
        rw [empty, List.getLast?_concat] at ends
        exact other (Option.some.inj ends).symm

end Text
end Delegation
