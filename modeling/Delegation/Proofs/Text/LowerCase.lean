import Mathlib.Data.List.Induction
import Delegation.Proofs.Text.Trimming
import Delegation.Text.Lowercase

/-!
# Lower case between marks

Marks are the blanks and the punctuation of distinguished names and of their lists. They have
no case, no letter becomes one, and no word goes on behind one. So a text is lower-cased part
by part between its marks, before or after it is trimmed, and once is enough.
-/

namespace Delegation
namespace Text

/-- A blank, or punctuation of distinguished names and of lists of them. -/
def isMark (c : Char) : Bool :=
  isBlank c || [',', '\\', '=', '+', '<', '>'].contains c

/-- The codes of the marks. -/
def markCodes : List Nat :=
  List.range' 0x9 5 ++ List.range' 0x2000 11 ++
    [0x20, 0x2B, 0x2C, 0x3C, 0x3D, 0x3E, 0x5C, 0x85, 0xA0, 0x1680, 0x2028, 0x2029, 0x202F, 0x205F,
     0x3000]

/-- No capital of one run becomes a capital of another: the small letters lie outside the other
run, or in its gaps. -/
def CaseRun.avoids (run other : CaseRun) : Bool :=
  (run.image + (run.last - run.first)).blt other.first || other.last.blt run.image ||
    (other.step == 2 && (run.step == 2 || run.first == run.last) &&
      run.image % 2 != other.first % 2)

/-- A character that lower-casing leaves alone, wherever it stands. -/
def isSmall (c : Char) : Bool :=
  c != dottedCapitalI && caseRuns.all fun run => !run.covers c.toNat

section Tables

variable {c d m : Char}

theorem toNat_mem_markCodes (mark : isMark m = true) : m.toNat ∈ markCodes := by
  simp only [isMark, isBlank, List.contains_cons, List.contains_nil, Bool.or_eq_true,
    Bool.and_eq_true, decide_eq_true_eq, beq_iff_eq, Bool.or_false] at mark
  simp only [markCodes, List.mem_append, List.mem_range'_1, List.mem_cons, List.not_mem_nil,
    or_false]
  rcases mark with blank | rfl | rfl | rfl | rfl | rfl | rfl
  · omega
  all_goals simp

theorem capitals_not_marks :
    (caseRuns.all fun run => markCodes.all fun code => !run.covers code) = true := by
  decide +kernel

theorem smallLetters_not_marks :
    (caseRuns.all fun run => markCodes.all fun code =>
      code.blt run.image || (run.image + (run.last - run.first)).blt code) = true := by
  decide +kernel

theorem smallLetters_not_capitals :
    (caseRuns.all fun run => caseRuns.all run.avoids) = true := by
  decide +kernel

theorem smallLetters_not_dottedCapitalI :
    (caseRuns.all fun run => Nat.blt 0x130 run.image ||
      (run.image + (run.last - run.first)).blt 0x130) = true := by
  decide +kernel

theorem marks_without_case :
    ((casedRanges ++ caseIgnorableRanges).all fun range => markCodes.all fun code =>
      code.blt range.1 || range.2.blt code) = true := by
  decide +kernel

theorem nul_not_capital : (caseRuns.all fun run => !run.covers 0) = true := by
  decide +kernel

theorem CaseRun.avoids_sound
    {run other : CaseRun}
    {code : Nat}
    (avoids : run.avoids other = true)
    (capital : run.covers code = true) :
    other.covers (run.map code) = false := by
  simp only [CaseRun.covers, Bool.and_eq_true, decide_eq_true_eq, beq_iff_eq] at capital
  obtain ⟨⟨atLeast, atMost⟩, inStep⟩ := capital
  simp only [CaseRun.avoids, Bool.or_eq_true, Nat.blt_eq, Bool.and_eq_true, beq_iff_eq,
    bne_iff_ne] at avoids
  rw [Bool.eq_false_iff]
  intro covered
  simp only [CaseRun.covers, Bool.and_eq_true, decide_eq_true_eq, beq_iff_eq] at covered
  obtain ⟨⟨otherAtLeast, otherAtMost⟩, otherInStep⟩ := covered
  unfold CaseRun.map at otherAtLeast otherAtMost otherInStep
  rcases avoids with (before | behind) | ⟨⟨otherStep, step | single⟩, parity⟩
  · omega
  · omega
  · rw [otherStep] at otherInStep
    rw [step] at inStep
    omega
  · rw [otherStep] at otherInStep
    omega

/-- A letter becomes a small letter of its run, or has none. -/
theorem toNat_lowerChar (c : Char) :
    lowerChar c = c ∧ (∀ run ∈ caseRuns, run.covers c.toNat = false) ∨
      (lowerChar c).toNat = 0 ∨
      ∃ run ∈ caseRuns, run.covers c.toNat = true ∧ (lowerChar c).toNat = run.map c.toNat := by
  unfold lowerChar
  cases found : caseRuns.find? (·.covers c.toNat) with
  | none =>
      left
      simpa using found
  | some run =>
      right
      have covered : run.covers c.toNat = true := by simpa using List.find?_some found
      by_cases valid : (run.map c.toNat).isValidChar
      · right
        refine ⟨run, List.mem_of_find?_eq_some found, covered, ?_⟩
        change (Char.ofNat (run.map c.toNat)).toNat = run.map c.toNat
        rw [Char.ofNat, dif_pos valid]
        rfl
      · left
        change (Char.ofNat (run.map c.toNat)).toNat = 0
        rw [Char.ofNat, dif_neg valid]
        rfl

/-- A character that no run of capitals covers stays as it is. -/
theorem lowerChar_of_not_covered
    (small : caseRuns.all (fun run => !run.covers c.toNat) = true) :
    lowerChar c = c := by
  rcases toNat_lowerChar c with ⟨same, -⟩ | nul | ⟨run, known, capital, -⟩
  · exact same
  · unfold lowerChar
    rw [List.find?_eq_none.mpr (by simpa using small)]
  · have other := List.all_eq_true.mp small run known
    simp [capital] at other

theorem isSmall_of_isMark (mark : isMark m = true) : isSmall m = true := by
  have code := toNat_mem_markCodes mark
  have small : caseRuns.all (fun run => !run.covers m.toNat) = true := by
    rw [List.all_eq_true]
    intro run known
    exact List.all_eq_true.mp (List.all_eq_true.mp capitals_not_marks run known) _ code
  have dotless : m ≠ dottedCapitalI := by
    rintro rfl
    exact absurd code (by decide)
  simp [isSmall, small, dotless]

theorem lowerAt_of_isSmall
    (small : isSmall c = true)
    (before after : List Char) :
    lowerAt before c after = [c] := by
  obtain ⟨dotless, uncovered⟩ : c ≠ dottedCapitalI ∧ _ := by simpa [isSmall] using small
  have plain : c ≠ capitalSigma := by
    rintro rfl
    exact absurd small (by decide)
  have same : lowerChar c = c := lowerChar_of_not_covered (by simpa using uncovered)
  rw [lowerAt, if_neg plain, if_neg dotless, same]

/-- A mark stays as it is, whatever surrounds it. -/
theorem lowerAt_of_isMark
    (mark : isMark m = true)
    (before after : List Char) :
    lowerAt before m after = [m] :=
  lowerAt_of_isSmall (isSmall_of_isMark mark) before after

theorem lowerAt_ne_nil (before after : List Char) : lowerAt before c after ≠ [] := by
  unfold lowerAt
  split
  · exact List.cons_ne_nil _ _
  · split <;> exact List.cons_ne_nil _ _

/-- What lower-casing writes is in lower case. -/
theorem isSmall_of_mem_lowerAt
    {before after : List Char}
    (written : d ∈ lowerAt before c after) :
    isSmall d = true := by
  unfold lowerAt at written
  split at written
  · obtain rfl := List.mem_singleton.mp written
    split <;> decide +kernel
  split at written
  · obtain rfl | rfl : d = 'i' ∨ d = '\u0307' := by simpa using written
    all_goals decide +kernel
  obtain rfl := List.mem_singleton.mp written
  rename_i dotless
  rcases toNat_lowerChar c with ⟨same, uncovered⟩ | nul | ⟨run, known, capital, image⟩
  · simpa [isSmall, same, dotless] using uncovered
  · rw [isSmall, nul, nul_not_capital, Bool.and_true, bne_iff_ne]
    intro equal
    rw [equal] at nul
    exact absurd nul (by decide)
  · rw [isSmall, image, Bool.and_eq_true, bne_iff_ne, List.all_eq_true]
    constructor
    · intro equal
      have apart := List.all_eq_true.mp smallLetters_not_dottedCapitalI run known
      have code : (0x130 : Nat) = run.map c.toNat := by rw [← image, equal]; rfl
      simp only [CaseRun.covers, Bool.and_eq_true, decide_eq_true_eq] at capital
      simp only [Bool.or_eq_true, Nat.blt_eq] at apart
      unfold CaseRun.map at code
      omega
    · intro other otherKnown
      have avoids := List.all_eq_true.mp (List.all_eq_true.mp smallLetters_not_capitals run known)
        other otherKnown
      rw [CaseRun.avoids_sound avoids capital, Bool.not_false]

/-- A mark is only written for the mark itself. -/
theorem eq_of_mem_lowerAt
    {before after : List Char}
    (mark : isMark m = true)
    (written : m ∈ lowerAt before c after) :
    c = m := by
  have code := toNat_mem_markCodes mark
  unfold lowerAt at written
  split at written
  · obtain rfl := List.mem_singleton.mp written
    exfalso
    revert code
    split <;> decide
  split at written
  · obtain rfl | rfl : m = 'i' ∨ m = '\u0307' := by simpa using written
    all_goals exact absurd code (by decide)
  obtain rfl := List.mem_singleton.mp written
  rcases toNat_lowerChar c with ⟨same, -⟩ | nul | ⟨run, known, capital, image⟩
  · exact same.symm
  · rw [nul] at code
    exact absurd code (by decide)
  · rw [image] at code
    have apart := List.all_eq_true.mp (List.all_eq_true.mp smallLetters_not_marks run known) _ code
    simp only [CaseRun.covers, Bool.and_eq_true, decide_eq_true_eq] at capital
    simp only [Bool.or_eq_true, Nat.blt_eq, CaseRun.map] at apart
    omega

end Tables

section Parts

variable {c d m : Char} {text : List Char}

theorem not_inRanges_of_isMark
    {ranges : List (Nat × Nat)}
    (known : ∀ range ∈ ranges, range ∈ casedRanges ++ caseIgnorableRanges)
    (mark : isMark m = true) :
    inRanges ranges m.toNat = false := by
  have code := toNat_mem_markCodes mark
  rw [Bool.eq_false_iff]
  intro inside
  obtain ⟨range, member, bounds⟩ := List.any_eq_true.mp inside
  have apart := List.all_eq_true.mp
    (List.all_eq_true.mp marks_without_case range (known range member)) _ code
  simp only [Bool.and_eq_true, decide_eq_true_eq] at bounds
  simp only [Bool.or_eq_true, Nat.blt_eq] at apart
  omega

/-- Whether a letter with case comes first is settled in front of a mark. -/
theorem meetsCased_append_cons
    (mark : isMark m = true)
    (first second : List Char) :
    meetsCased (first ++ m :: second) = meetsCased first := by
  have seen : isCaseIgnorable m = false :=
    not_inRanges_of_isMark (fun _ => List.mem_append_right _) mark
  have caseless : isCased m = false :=
    not_inRanges_of_isMark (fun _ => List.mem_append_left _) mark
  induction first with
  | nil => simp [meetsCased, seen, caseless]
  | cons c first inductionHypothesis =>
      unfold meetsCased at inductionHypothesis ⊢
      rw [List.cons_append, List.dropWhile_cons, List.dropWhile_cons]
      by_cases ignorable : isCaseIgnorable c = true
      · rw [if_pos ignorable, if_pos ignorable, inductionHypothesis]
      · rw [if_neg ignorable, if_neg ignorable]

/-- What stands behind a mark has no part in how a character in front of it is lowered. -/
theorem lowerAt_append_cons_after
    (mark : isMark m = true)
    (before after rest : List Char) :
    lowerAt before c (after ++ m :: rest) = lowerAt before c after := by
  rw [lowerAt, meetsCased_append_cons mark, ← lowerAt]

/-- What stands in front of a mark has no part in how the text behind it is lowered. -/
theorem lowerFrom_append_cons_before
    (mark : isMark m = true)
    (before rest text : List Char) :
    lowerFrom (before ++ m :: rest) text = lowerFrom before text := by
  induction text generalizing before with
  | nil => rfl
  | cons c text inductionHypothesis =>
      rw [lowerFrom, lowerFrom, ← List.cons_append, inductionHypothesis, lowerAt,
        meetsCased_append_cons mark, ← lowerAt]

theorem lowerFrom_append_cons
    (mark : isMark m = true)
    (before first second : List Char) :
    lowerFrom before (first ++ m :: second) = lowerFrom before first ++ m :: lower second := by
  induction first generalizing before with
  | nil =>
      have start := lowerFrom_append_cons_before mark [] before second
      have here : lowerAt before m second = [m] := lowerAt_of_isMark mark before second
      rw [List.nil_append] at start
      rw [List.nil_append, lowerFrom, lowerFrom, here, start]
      rfl
  | cons c first inductionHypothesis =>
      rw [List.cons_append, lowerFrom, lowerFrom, inductionHypothesis,
        lowerAt_append_cons_after mark, List.append_assoc]

/-- A text is lower-cased on either side of a mark. -/
theorem lower_append_cons
    (mark : isMark m = true)
    (first second : List Char) :
    lower (first ++ m :: second) = lower first ++ m :: lower second :=
  lowerFrom_append_cons mark [] first second

theorem lower_cons
    (mark : isMark m = true)
    (text : List Char) :
    lower (m :: text) = m :: lower text :=
  lower_append_cons mark [] text

/-- A mark in a lowered text stands where it stood before, between the lowered parts. -/
theorem lowerFrom_eq_append_cons
    {before front back : List Char}
    (mark : isMark m = true)
    (equal : lowerFrom before text = front ++ m :: back) :
    ∃ first second, text = first ++ m :: second ∧ lowerFrom before first = front ∧
      lower second = back := by
  induction text generalizing before front with
  | nil => simp [lowerFrom] at equal
  | cons c after inductionHypothesis =>
      -- The mark is written for the first character, or comes from behind it.
      by_cases here : m ∈ lowerAt before c after ∧ front = []
      · obtain ⟨written, rfl⟩ := here
        obtain rfl := eq_of_mem_lowerAt mark written
        have split := lowerFrom_append_cons mark before [] after
        rw [List.nil_append] at split
        rw [split] at equal
        exact ⟨[], after, rfl, rfl, by simpa [lowerFrom] using equal⟩
      · obtain ⟨rest, rfl, behind⟩ :
            ∃ rest, front = lowerAt before c after ++ rest ∧
              lowerFrom (c :: before) after = rest ++ m :: back := by
          rw [lowerFrom] at equal
          rcases List.append_eq_append_iff.mp equal with
            ⟨rest, same, behind⟩ | ⟨rest, same, behind⟩
          · exact ⟨rest, same, behind⟩
          · cases rest with
            | nil => exact ⟨[], by simpa using same.symm, by simpa using behind.symm⟩
            | cons d rest =>
                obtain ⟨rfl, -⟩ := List.cons.inj behind
                have written : m ∈ lowerAt before c after := by simp [same]
                obtain rfl := eq_of_mem_lowerAt mark written
                rw [lowerAt_of_isMark mark] at same
                cases front with
                | nil => exact absurd ⟨written, rfl⟩ here
                | cons e front => simp at same
        obtain ⟨first, second, rfl, same, lowered⟩ := inductionHypothesis behind
        refine ⟨c :: first, second, rfl, ?_, lowered⟩
        rw [lowerFrom, same, lowerAt_append_cons_after mark]

/-- Where a lower-cased text has a mark, the text has it too. -/
theorem lower_eq_append_cons
    {front back : List Char}
    (mark : isMark m = true)
    (equal : lower text = front ++ m :: back) :
    ∃ first second, text = first ++ m :: second ∧ lower first = front ∧ lower second = back :=
  lowerFrom_eq_append_cons mark equal

theorem mem_lower_iff
    (mark : isMark m = true) :
    m ∈ lower text ↔ m ∈ text := by
  constructor
  · intro written
    obtain ⟨front, back, equal⟩ := List.append_of_mem written
    obtain ⟨first, second, rfl, -⟩ := lower_eq_append_cons mark equal
    simp
  · intro inside
    obtain ⟨first, second, rfl⟩ := List.append_of_mem inside
    simp [lower_append_cons mark]

theorem lowerFrom_concat
    (before text : List Char)
    (c : Char) :
    ∃ front, lowerFrom before (text ++ [c]) = front ++ lowerAt (text.reverse ++ before) c [] := by
  induction text generalizing before with
  | nil => exact ⟨[], by simp [lowerFrom]⟩
  | cons d text inductionHypothesis =>
      obtain ⟨front, equal⟩ := inductionHypothesis (d :: before)
      refine ⟨lowerAt before d (text ++ [c]) ++ front, ?_⟩
      rw [List.cons_append, lowerFrom, equal]
      simp

/-- A lower-cased text ends with a mark only where the text does. -/
theorem exists_lower_concat
    (text : List Char)
    (c : Char) :
    ∃ front d, lower (text ++ [c]) = front ++ [d] ∧ (isMark d = true → d = c) := by
  obtain ⟨front, equal⟩ := lowerFrom_concat [] text c
  rcases List.eq_nil_or_concat (lowerAt (text.reverse ++ []) c []) with none | ⟨init, d, last⟩
  · exact absurd none (lowerAt_ne_nil _ _)
  · have written : d ∈ lowerAt (text.reverse ++ []) c [] := by rw [last]; simp
    refine ⟨front ++ init, d, ?_, fun mark => (eq_of_mem_lowerAt mark written).symm⟩
    rw [lower, equal, last, List.concat_eq_append, List.append_assoc]

/-- A lower-cased text begins with a mark only where the text does. -/
theorem exists_lower_cons
    (c : Char)
    (text : List Char) :
    ∃ d back, lower (c :: text) = d :: back ∧ (isMark d = true → d = c) := by
  cases written : lowerAt [] c text with
  | nil => exact absurd written (lowerAt_ne_nil _ _)
  | cons d init =>
      have first : d ∈ lowerAt [] c text := by simp [written]
      refine ⟨d, init ++ lowerFrom [c] text, ?_, fun mark => (eq_of_mem_lowerAt mark first).symm⟩
      rw [lower, lowerFrom, written, List.cons_append]

@[simp] theorem lower_eq_nil_iff : lower text = [] ↔ text = [] := by
  cases text with
  | nil => simp
  | cons c text =>
      obtain ⟨d, back, equal, -⟩ := exists_lower_cons c text
      simp [equal]

theorem isMark_of_isBlank (blank : isBlank c = true) : isMark c = true := by
  simp [isMark, blank]

/-- What is written for a visible character is visible, if marks are only written for marks. -/
theorem isBlank_eq_false_of_only
    (only : isMark d = true → d = c)
    (visible : isBlank c = false) :
    isBlank d = false := by
  rw [Bool.eq_false_iff]
  intro blank
  rw [only (isMark_of_isBlank blank), visible] at blank
  contradiction

/-- Lowering and taking blanks from the front may be done in either order. -/
theorem trimLeft_lower (text : List Char) : trimLeft (lower text) = lower (trimLeft text) := by
  induction text with
  | nil => rfl
  | cons c text inductionHypothesis =>
      cases blank : isBlank c with
      | true =>
          rw [lower_cons (isMark_of_isBlank blank), trimLeft_cons, trimLeft_cons, if_pos blank,
            if_pos blank, inductionHypothesis]
      | false =>
          obtain ⟨d, back, equal, only⟩ := exists_lower_cons c text
          have visible : isBlank d = false := isBlank_eq_false_of_only only blank
          rw [trimLeft_cons_of_not_isBlank text blank, equal,
            trimLeft_cons_of_not_isBlank back visible]

/-- Lowering and taking blanks from the end may be done in either order. -/
theorem trimRight_lower (text : List Char) :
    trimRight (lower text) = lower (trimRight text) := by
  induction text using List.reverseRecOn with
  | nil => rfl
  | append_singleton text c inductionHypothesis =>
      cases blank : isBlank c with
      | true =>
          rw [lower_append_cons (isMark_of_isBlank blank), lower_nil,
            trimRight_concat_of_isBlank _ blank, trimRight_concat_of_isBlank _ blank,
            inductionHypothesis]
      | false =>
          obtain ⟨front, d, equal, only⟩ := exists_lower_concat text c
          have visible : isBlank d = false := isBlank_eq_false_of_only only blank
          rw [trimRight_concat_of_not_isBlank text blank, equal,
            trimRight_concat_of_not_isBlank front visible]

/-- It makes no difference whether a text is trimmed or lower-cased first. -/
theorem trim_lower (text : List Char) : trim (lower text) = lower (trim text) := by
  rw [trim, trimLeft_lower, trimRight_lower, trim]

theorem lowerFrom_of_isSmall
    (before : List Char)
    (small : ∀ c ∈ text, isSmall c = true) :
    lowerFrom before text = text := by
  induction text generalizing before with
  | nil => rfl
  | cons c text inductionHypothesis =>
      obtain ⟨first, others⟩ := List.forall_mem_cons.mp small
      rw [lowerFrom, lowerAt_of_isSmall first, inductionHypothesis _ others]
      rfl

/-- Nothing that lowering writes could be lowered again. -/
theorem isSmall_of_mem_lowerFrom
    {before : List Char}
    (written : d ∈ lowerFrom before text) :
    isSmall d = true := by
  induction text generalizing before with
  | nil => simp [lowerFrom] at written
  | cons c text inductionHypothesis =>
      rw [lowerFrom, List.mem_append] at written
      rcases written with here | behind
      · exact isSmall_of_mem_lowerAt here
      · exact inductionHypothesis behind

/-- Lower-casing once is enough. -/
@[simp] theorem lower_lower (text : List Char) : lower (lower text) = lower text :=
  lowerFrom_of_isSmall [] fun _ written => isSmall_of_mem_lowerFrom written

end Parts

end Text
end Delegation
