import Delegation.Text.Blank

/-!
# Trimmed texts

Trimming takes blanks off the two ends of a text and nothing else. Where a visible character
stands inside a text, one end is trimmed on either side of it.
-/

namespace Delegation
namespace Text

variable {c : Char} {first second text : List Char}

/-- A text is blank throughout, or some blanks stand in front of a visible character. -/
theorem blank_or_visible (text : List Char) :
    (∀ c ∈ text, isBlank c = true) ∨
      ∃ front c rest, text = front ++ c :: rest ∧ (∀ d ∈ front, isBlank d = true) ∧
        isBlank c = false := by
  induction text with
  | nil => exact .inl (List.forall_mem_nil _)
  | cons c text inductionHypothesis =>
      cases visible : isBlank c with
      | false => exact .inr ⟨[], c, text, rfl, List.forall_mem_nil _, visible⟩
      | true =>
          rcases inductionHypothesis with blank | ⟨front, d, rest, rfl, blanks, seen⟩
          · exact .inl (List.forall_mem_cons.mpr ⟨visible, blank⟩)
          · exact .inr ⟨c :: front, d, rest, rfl, List.forall_mem_cons.mpr ⟨visible, blanks⟩, seen⟩

theorem trimLeft_eq_nil
    (blank : ∀ c ∈ text, isBlank c = true) :
    trimLeft text = [] := by
  induction text with
  | nil => rfl
  | cons c text inductionHypothesis =>
      obtain ⟨blankHead, blankTail⟩ := List.forall_mem_cons.mp blank
      rw [trimLeft_cons, if_pos blankHead, inductionHypothesis blankTail]

theorem trimRight_eq_nil
    (blank : ∀ c ∈ text, isBlank c = true) :
    trimRight text = [] := by
  have reversed : trimLeft text.reverse = [] :=
    trimLeft_eq_nil fun c inside => blank c (List.mem_reverse.mp inside)
  simpa [trimRight, trimLeft] using reversed

/-- In front of a visible character only the text before it is trimmed. -/
theorem trimLeft_append_cons
    (visible : isBlank c = false)
    (first second : List Char) :
    trimLeft (first ++ c :: second) = trimLeft first ++ c :: second := by
  induction first with
  | nil => exact trimLeft_cons_of_not_isBlank second visible
  | cons d first inductionHypothesis =>
      rw [List.cons_append, trimLeft_cons, trimLeft_cons]
      split
      · exact inductionHypothesis
      · rfl

/-- Behind a visible character only the text after it is trimmed. -/
theorem trimRight_append_cons
    (visible : isBlank c = false)
    (first second : List Char) :
    trimRight (first ++ c :: second) = first ++ c :: trimRight second := by
  have mirrored := trimLeft_append_cons visible second.reverse first.reverse
  unfold trimLeft at mirrored
  simp [trimRight, mirrored]

/-- Around a visible character, trimming takes blanks from the front and from the end apart. -/
theorem trim_append_cons
    (visible : isBlank c = false)
    (first second : List Char) :
    trim (first ++ c :: second) = trimLeft first ++ c :: trimRight second := by
  rw [trim, trimLeft_append_cons visible, trimRight_append_cons visible]

/-- A blank at the end makes no difference. -/
theorem trimRight_concat_of_isBlank
    (text : List Char)
    (blank : isBlank c = true) :
    trimRight (text ++ [c]) = trimRight text := by
  simp [trimRight, blank]

/-- It makes no difference which end is trimmed first. -/
theorem trimLeft_trimRight (text : List Char) :
    trimLeft (trimRight text) = trim text := by
  rcases blank_or_visible text with blank | ⟨front, c, rest, rfl, -, visible⟩
  · rw [trimRight_eq_nil blank, trim, trimLeft_eq_nil blank]
    rfl
  · rw [trimRight_append_cons visible, trimLeft_append_cons visible, trim_append_cons visible]

@[simp] theorem trimLeft_trimLeft (text : List Char) :
    trimLeft (trimLeft text) = trimLeft text := by
  rcases blank_or_visible text with blank | ⟨front, c, rest, rfl, blanks, visible⟩
  · rw [trimLeft_eq_nil blank, trimLeft_nil]
  · rw [trimLeft_append_cons visible, trimLeft_eq_nil blanks, List.nil_append]
    exact trimLeft_cons_of_not_isBlank rest visible

@[simp] theorem trimRight_trimRight (text : List Char) :
    trimRight (trimRight text) = trimRight text := by
  have mirrored := trimLeft_trimLeft text.reverse
  unfold trimLeft at mirrored
  simp [trimRight, mirrored]

@[simp] theorem trimLeft_trim (text : List Char) : trimLeft (trim text) = trim text := by
  rw [← trimLeft_trimRight, trimLeft_trimLeft]

@[simp] theorem trimRight_trim (text : List Char) : trimRight (trim text) = trim text := by
  rw [trim, trimRight_trimRight]

@[simp] theorem trim_trim (text : List Char) : trim (trim text) = trim text := by
  rw [trim, trimLeft_trim, trimRight_trim]

@[simp] theorem trim_trimLeft (text : List Char) : trim (trimLeft text) = trim text := by
  rw [trim, trimLeft_trimLeft, trim]

@[simp] theorem trim_trimRight (text : List Char) : trim (trimRight text) = trim text := by
  rw [← trimLeft_trimRight, trimRight_trimRight, trimLeft_trimRight]

theorem trimLeft_of_trim (trimmed : trim text = text) : trimLeft text = text := by
  rw [← trimmed, trimLeft_trim]

theorem trimRight_of_trim (trimmed : trim text = text) : trimRight text = text := by
  rw [← trimmed, trimRight_trim]

/-- Trimmed texts on both sides of a visible character make a trimmed text. -/
theorem trim_append_cons_of_trim
    (visible : isBlank c = false)
    (firstTrimmed : trim first = first)
    (secondTrimmed : trim second = second) :
    trim (first ++ c :: second) = first ++ c :: second := by
  rw [trim_append_cons visible, trimLeft_of_trim firstTrimmed, trimRight_of_trim secondTrimmed]

/-- A text is what is left of it after trimming, between blanks. -/
theorem exists_trim (text : List Char) :
    ∃ front back, text = front ++ trim text ++ back ∧
      (∀ c ∈ front, isBlank c = true) ∧ ∀ c ∈ back, isBlank c = true := by
  rcases blank_or_visible text with blank | ⟨front, c, rest, rfl, blanks, visible⟩
  · refine ⟨text, [], ?_, blank, List.forall_mem_nil _⟩
    rw [trim, trimLeft_eq_nil blank, trimRight_nil, List.append_nil, List.append_nil]
  · rcases blank_or_visible rest.reverse with
      blankRest | ⟨back, d, others, equal, blanksBehind, seen⟩
    · refine ⟨front, rest, ?_, blanks, fun d inside => blankRest d (List.mem_reverse.mpr inside)⟩
      have nothing : trimRight rest = [] :=
        trimRight_eq_nil fun d inside => blankRest d (List.mem_reverse.mpr inside)
      rw [trim_append_cons visible, trimLeft_eq_nil blanks, nothing]
      simp
    · refine ⟨front, back.reverse, ?_, blanks,
        fun e inside => blanksBehind e (List.mem_reverse.mp inside)⟩
      have restEqual : rest = others.reverse ++ d :: back.reverse := by
        simpa using congrArg List.reverse equal
      have nothing : trimRight back.reverse = [] :=
        trimRight_eq_nil fun e inside => blanksBehind e (List.mem_reverse.mp inside)
      rw [trim_append_cons visible, trimLeft_eq_nil blanks, restEqual, trimRight_append_cons seen,
        nothing]
      simp

/-- Nothing is left of a text exactly if all of it is blank. -/
theorem trim_eq_nil_iff : trim text = [] ↔ ∀ c ∈ text, isBlank c = true := by
  constructor
  · intro nothing
    obtain ⟨front, back, equal, blanks, blanksBehind⟩ := exists_trim text
    rw [nothing, List.append_nil] at equal
    rw [equal]
    exact List.forall_mem_append.mpr ⟨blanks, blanksBehind⟩
  · intro blank
    rw [trim, trimLeft_eq_nil blank, trimRight_nil]

theorem mem_of_mem_trimLeft (inside : c ∈ trimLeft text) : c ∈ text :=
  (List.dropWhile_sublist _).subset inside

theorem mem_of_mem_trimRight (inside : c ∈ trimRight text) : c ∈ text := by
  rw [trimRight, List.mem_reverse] at inside
  exact List.mem_reverse.mp (mem_of_mem_trimLeft inside)

/-- Trimming adds no characters. -/
theorem mem_of_mem_trim (inside : c ∈ trim text) : c ∈ text :=
  mem_of_mem_trimLeft (mem_of_mem_trimRight inside)

end Text
end Delegation
