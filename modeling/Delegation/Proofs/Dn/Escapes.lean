import Delegation.Dn.Basic
import Delegation.Proofs.Text.LowerCase

/-!
# Protected commas

A comma separates relative names unless the backslash in front of it protects it. Whether it is
protected is seen from the text before the comma. Names that are joined with commas are found
again, apart from those that end with a protecting backslash: each of these takes the comma
and the name behind it along.
-/

namespace Delegation
namespace Dn

/-- The text ends with a backslash that protects whatever comes next. -/
def endsEscaping (text : List Char) : Bool :=
  text.foldl (fun isOpen c => !isOpen && c == '\\') false

/-- No comma of the text separates. -/
def Whole (text : List Char) : Prop :=
  commaPieces text = [text]

instance (text : List Char) : Decidable (Whole text) :=
  inferInstanceAs (Decidable (_ = _))

/-- What becomes of names that are joined with commas: a name that ends escaping takes the
comma and the next name along. -/
def mergeEscaping : List (List Char) → List (List Char)
  | [] => []
  | [name] => [name]
  | name :: next :: names =>
      if endsEscaping name then extendHead (name ++ [',']) (mergeEscaping (next :: names))
      else name :: mergeEscaping (next :: names)

section EndsEscaping

variable {c : Char} {text : List Char}

@[simp] theorem endsEscaping_nil : endsEscaping [] = false := rfl

theorem endsEscaping_cons_cons (c : Char) (text : List Char) :
    endsEscaping ('\\' :: c :: text) = endsEscaping text := by
  simp [endsEscaping]

/-- Whether a text ends escaping depends only on what stands behind a character that is no
backslash. -/
theorem endsEscaping_append_cons
    (plain : c ≠ '\\')
    (first second : List Char) :
    endsEscaping (first ++ c :: second) = endsEscaping second := by
  have closed : (c == '\\') = false := beq_eq_false_iff_ne.mpr plain
  simp [endsEscaping, closed]

theorem endsEscaping_cons
    (plain : c ≠ '\\')
    (text : List Char) :
    endsEscaping (c :: text) = endsEscaping text :=
  endsEscaping_append_cons plain [] text

theorem endsEscaping_concat (text : List Char) (c : Char) :
    endsEscaping (text ++ [c]) = (!endsEscaping text && c == '\\') := by
  simp [endsEscaping]

/-- A text that ends escaping ends in a backslash that is not escaped itself. -/
theorem exists_eq_concat_of_endsEscaping
    (opened : endsEscaping text = true) :
    ∃ front, text = front ++ ['\\'] ∧ endsEscaping front = false := by
  rcases List.eq_nil_or_concat text with rfl | ⟨front, c, rfl⟩
  · simp at opened
  · rw [List.concat_eq_append, endsEscaping_concat, Bool.and_eq_true, Bool.not_eq_true',
      beq_iff_eq] at opened
    obtain ⟨closed, rfl⟩ := opened
    exact ⟨front, List.concat_eq_append, closed⟩

theorem ne_backslash_of_isBlank (blank : Text.isBlank c = true) : c ≠ '\\' := by
  rintro rfl
  exact absurd blank (by decide)

theorem ne_comma_of_isBlank (blank : Text.isBlank c = true) : c ≠ ',' := by
  rintro rfl
  exact absurd blank (by decide)

/-- Blanks in front of a text protect nothing. -/
@[simp] theorem endsEscaping_trimLeft (text : List Char) :
    endsEscaping (Text.trimLeft text) = endsEscaping text := by
  induction text with
  | nil => rfl
  | cons c text inductionHypothesis =>
      rw [Text.trimLeft_cons]
      split
      · rename_i blank
        rw [inductionHypothesis, endsEscaping_cons (ne_backslash_of_isBlank blank)]
      · rfl

/-- Trimming a text that ends in no blank does not change whether it ends escaping. -/
theorem endsEscaping_trim_of_trimRight
    (trimmed : Text.trimRight text = text) :
    endsEscaping (Text.trim text) = endsEscaping text := by
  rw [← Text.trimLeft_trimRight, trimmed, endsEscaping_trimLeft]

theorem endsEscaping_trim_append_cons
    (plain : c ≠ '\\')
    (visible : Text.isBlank c = false)
    (first second : List Char) :
    endsEscaping (Text.trim (first ++ c :: second)) = endsEscaping (Text.trim second) := by
  rw [Text.trim_append_cons visible, endsEscaping_append_cons plain, ← Text.trimLeft_trimRight,
    endsEscaping_trimLeft]

/-- Trimming can uncover a backslash at the end, but never takes one away. -/
theorem endsEscaping_trim
    (opened : endsEscaping text = true) :
    endsEscaping (Text.trim text) = true := by
  obtain ⟨front, rfl, -⟩ := exists_eq_concat_of_endsEscaping opened
  rw [endsEscaping_trim_of_trimRight, opened]
  exact Text.trimRight_concat_of_not_isBlank front (by decide)

@[simp] theorem endsEscaping_lower (text : List Char) :
    endsEscaping (Text.lower text) = endsEscaping text := by
  induction text using List.reverseRecOn with
  | nil => rfl
  | append_singleton text c inductionHypothesis =>
      by_cases backslash : c = '\\'
      · subst backslash
        have lowered : Text.lower (text ++ ['\\']) = Text.lower text ++ ['\\'] :=
          Text.lower_append_cons (by decide) text []
        rw [lowered, endsEscaping_concat, endsEscaping_concat, inductionHypothesis]
      · obtain ⟨front, d, lowered, only⟩ := Text.exists_lower_concat text c
        have other : d ≠ '\\' := by
          rintro rfl
          exact backslash (only (by decide)).symm
        rw [lowered, endsEscaping_append_cons other, endsEscaping_append_cons backslash]

end EndsEscaping

section Pieces

variable {c : Char} {text first second : List Char} {names : List (List Char)}

theorem extendHead_ne_nil (front : List Char) (pieces : List (List Char)) :
    extendHead front pieces ≠ [] := by
  cases pieces <;> exact List.cons_ne_nil _ _

/-- Pieces that are put behind others do not take part in extending the first. -/
theorem extendHead_append
    {pieces : List (List Char)}
    (filled : pieces ≠ [])
    (front : List Char)
    (others : List (List Char)) :
    extendHead front (pieces ++ others) = extendHead front pieces ++ others := by
  cases pieces with
  | nil => exact absurd rfl filled
  | cons piece pieces => rfl

theorem extendHead_extendHead (front back : List Char) (pieces : List (List Char)) :
    extendHead front (extendHead back pieces) = extendHead (front ++ back) pieces := by
  cases pieces <;> simp [extendHead]

/-- Extending the first piece leaves their number. -/
theorem length_extendHead
    {pieces : List (List Char)}
    (filled : pieces ≠ [])
    (front : List Char) :
    (extendHead front pieces).length = pieces.length := by
  cases pieces with
  | nil => exact absurd rfl filled
  | cons piece pieces => rfl

theorem commaPieces_ne_nil (text : List Char) : commaPieces text ≠ [] := by
  fun_cases commaPieces text
  case case1 => exact List.cons_ne_nil _ _
  case case2 => exact List.cons_ne_nil _ _
  case case3 => exact extendHead_ne_nil _ _
  case case4 => exact List.cons_ne_nil _ _
  case case5 => exact extendHead_ne_nil _ _

theorem commaPieces_cons
    (plain : c ≠ '\\')
    (other : c ≠ ',')
    (text : List Char) :
    commaPieces (c :: text) = extendHead [c] (commaPieces text) := by
  rw [commaPieces]
  all_goals simp [plain, other]

/-- A text is read character by character, and a backslash with the character it protects. -/
@[elab_as_elim]
theorem pieces_induction
    {motive : List Char → Prop}
    (nil : motive [])
    (backslash : motive ['\\'])
    (escape : ∀ c text, motive text → motive ('\\' :: c :: text))
    (comma : ∀ text, motive text → motive (',' :: text))
    (plain : ∀ c text, c ≠ '\\' → c ≠ ',' → motive text → motive (c :: text))
    (text : List Char) : motive text := by
  induction text using commaPieces.induct with
  | case1 => exact nil
  | case2 => exact backslash
  | case3 c text inductionHypothesis => exact escape c text inductionHypothesis
  | case4 text inductionHypothesis => exact comma text inductionHypothesis
  | case5 c text single protects separates inductionHypothesis =>
      refine plain c text ?_ separates inductionHypothesis
      rintro rfl
      cases text with
      | nil => exact single rfl rfl
      | cons d text => exact protects d text rfl rfl

/-- A comma that is not protected separates. -/
theorem commaPieces_append_cons
    (closed : endsEscaping first = false)
    (second : List Char) :
    commaPieces (first ++ ',' :: second) = commaPieces first ++ commaPieces second := by
  induction first using pieces_induction with
  | nil => rfl
  | backslash => exact absurd closed (by decide)
  | escape c text inductionHypothesis =>
      rw [endsEscaping_cons_cons] at closed
      rw [List.cons_append, List.cons_append, commaPieces, commaPieces, inductionHypothesis closed,
        extendHead_append (commaPieces_ne_nil text)]
  | comma text inductionHypothesis =>
      rw [endsEscaping_cons (by decide)] at closed
      rw [List.cons_append, commaPieces, commaPieces, inductionHypothesis closed, List.cons_append]
  | plain c text plain other inductionHypothesis =>
      rw [endsEscaping_cons plain] at closed
      rw [List.cons_append, commaPieces_cons plain other, commaPieces_cons plain other,
        inductionHypothesis closed, extendHead_append (commaPieces_ne_nil text)]

theorem whole_nil : Whole [] := rfl

theorem Whole.cons_cons (whole : Whole text) (c : Char) : Whole ('\\' :: c :: text) := by
  rw [Whole, commaPieces, whole]
  rfl

theorem Whole.cons (whole : Whole text) (plain : c ≠ '\\') (other : c ≠ ',') :
    Whole (c :: text) := by
  rw [Whole, commaPieces_cons plain other, whole]
  rfl

theorem Whole.of_cons_cons (whole : Whole ('\\' :: c :: text)) : Whole text := by
  rw [Whole, commaPieces] at whole
  cases pieces : commaPieces text with
  | nil => exact absurd pieces (commaPieces_ne_nil text)
  | cons piece pieces => simp_all [Whole]

/-- A text is whole when each of its commas is protected by what stands before it. -/
theorem whole_iff :
    Whole text ↔ ∀ first second, text = first ++ ',' :: second → endsEscaping first = true := by
  constructor
  · rintro whole first second rfl
    by_contra separates
    rw [Bool.not_eq_true] at separates
    rw [Whole, commaPieces_append_cons separates] at whole
    have count := congrArg List.length whole
    have firstFilled := List.length_pos_iff.mpr (commaPieces_ne_nil first)
    have secondFilled := List.length_pos_iff.mpr (commaPieces_ne_nil second)
    rw [List.length_append, List.length_singleton] at count
    omega
  · intro inner
    induction text using pieces_induction with
    | nil => exact whole_nil
    | backslash => rfl
    | escape c text inductionHypothesis =>
        refine (inductionHypothesis ?_).cons_cons c
        rintro first second rfl
        have protected_ := inner ('\\' :: c :: first) second rfl
        rwa [endsEscaping_cons_cons] at protected_
    | comma text inductionHypothesis => exact absurd (inner [] text rfl) (by decide)
    | plain c text plain other inductionHypothesis =>
        refine (inductionHypothesis ?_).cons plain other
        rintro first second rfl
        have protected_ := inner (c :: first) second rfl
        rwa [endsEscaping_cons plain] at protected_

/-- Pieces stay whole if what extends the first keeps every piece whole. -/
theorem whole_of_mem_extendHead
    {front : List Char}
    {pieces : List (List Char)}
    (filled : pieces ≠ [])
    (extend : ∀ piece, Whole piece → Whole (front ++ piece))
    (whole : ∀ piece ∈ pieces, Whole piece) :
    ∀ piece ∈ extendHead front pieces, Whole piece := by
  cases pieces with
  | nil => exact absurd rfl filled
  | cons piece pieces =>
      obtain ⟨head, others⟩ := List.forall_mem_cons.mp whole
      exact List.forall_mem_cons.mpr ⟨extend piece head, others⟩

/-- The pieces of a text do not fall apart again. -/
theorem whole_of_mem_commaPieces (text : List Char) : ∀ piece ∈ commaPieces text, Whole piece := by
  induction text using pieces_induction with
  | nil => exact List.forall_mem_singleton.mpr rfl
  | backslash => exact List.forall_mem_singleton.mpr rfl
  | escape c text inductionHypothesis =>
      rw [commaPieces]
      exact whole_of_mem_extendHead (commaPieces_ne_nil text)
        (fun piece whole => whole.cons_cons c) inductionHypothesis
  | comma text inductionHypothesis =>
      rw [commaPieces]
      exact List.forall_mem_cons.mpr ⟨rfl, inductionHypothesis⟩
  | plain c text plain other inductionHypothesis =>
      rw [commaPieces_cons plain other]
      exact whole_of_mem_extendHead (commaPieces_ne_nil text)
        (fun piece whole => whole.cons plain other) inductionHypothesis

/-- A character that neither protects nor separates leaves each side of it to itself. -/
theorem whole_append_cons_iff
    (plain : c ≠ '\\')
    (other : c ≠ ',') :
    Whole (first ++ c :: second) ↔ Whole first ∧ Whole second := by
  simp only [whole_iff]
  constructor
  · intro inner
    constructor
    · rintro front back rfl
      exact inner front (back ++ c :: second) (by simp)
    · rintro front back rfl
      have opened := inner (first ++ c :: front) back (by simp)
      rwa [endsEscaping_append_cons plain] at opened
  · rintro ⟨innerFirst, innerSecond⟩ front back equal
    rcases List.append_eq_append_iff.mp equal with ⟨rest, rfl, behind⟩ | ⟨rest, rfl, behind⟩
    · cases rest with
      | nil => exact absurd (List.cons.inj behind).1 other
      | cons d rest =>
          obtain ⟨rfl, rfl⟩ := List.cons.inj behind
          rw [endsEscaping_append_cons plain]
          exact innerSecond rest back rfl
    · cases rest with
      | nil => exact absurd (List.cons.inj behind).1.symm other
      | cons d rest =>
          obtain ⟨rfl, rfl⟩ := List.cons.inj behind
          exact innerFirst front rest rfl

theorem whole_of_not_mem (absent : ',' ∉ text) : Whole text := by
  rw [whole_iff]
  rintro first second rfl
  exact absurd (by simp) absent

theorem whole_of_blank (blank : ∀ c ∈ text, Text.isBlank c = true) : Whole text :=
  whole_of_not_mem fun inside => absurd (blank ',' inside) (by decide)

/-- Blanks at the end make no difference to whether a text is whole. -/
theorem whole_append_blanks_iff
    {blanks : List Char}
    (blank : ∀ c ∈ blanks, Text.isBlank c = true) :
    Whole (text ++ blanks) ↔ Whole text := by
  cases blanks with
  | nil => rw [List.append_nil]
  | cons c blanks =>
      obtain ⟨blankHead, blankTail⟩ := List.forall_mem_cons.mp blank
      rw [whole_append_cons_iff (ne_backslash_of_isBlank blankHead) (ne_comma_of_isBlank blankHead)]
      exact and_iff_left (whole_of_blank blankTail)

/-- Blanks in front make no difference to whether a text is whole. -/
theorem whole_blanks_append_iff
    {blanks : List Char}
    (blank : ∀ c ∈ blanks, Text.isBlank c = true) :
    Whole (blanks ++ text) ↔ Whole text := by
  rcases List.eq_nil_or_concat blanks with rfl | ⟨front, c, rfl⟩
  · rw [List.nil_append]
  · rw [List.concat_eq_append] at blank ⊢
    have blankLast : Text.isBlank c = true := blank c (by simp)
    rw [List.append_assoc, List.singleton_append,
      whole_append_cons_iff (ne_backslash_of_isBlank blankLast) (ne_comma_of_isBlank blankLast)]
    exact and_iff_right (whole_of_blank fun d inside => blank d (List.mem_append_left _ inside))

theorem whole_trim_iff : Whole (Text.trim text) ↔ Whole text := by
  obtain ⟨front, back, equal, blanks, blanksBehind⟩ := Text.exists_trim text
  conv_rhs => rw [equal]
  rw [whole_append_blanks_iff blanksBehind, whole_blanks_append_iff blanks]

theorem whole_lower_iff : Whole (Text.lower text) ↔ Whole text := by
  simp only [whole_iff]
  constructor
  · rintro inner first second rfl
    have opened := inner _ _ (Text.lower_append_cons (by decide) first second)
    rwa [endsEscaping_lower] at opened
  · intro inner front back equal
    obtain ⟨first, second, rfl, rfl, -⟩ := Text.lower_eq_append_cons (by decide) equal
    rw [endsEscaping_lower]
    exact inner first second rfl

end Pieces

section Joining

variable {name : List Char} {names : List (List Char)}

@[simp] theorem joinWith_nil : Text.joinWith [','] [] = [] := rfl

theorem joinWith_cons_cons (name next : List Char) (names : List (List Char)) :
    Text.joinWith [','] (name :: next :: names) =
      name ++ ',' :: Text.joinWith [','] (next :: names) := by
  simp [Text.joinWith]

theorem joinWith_singleton (name : List Char) : Text.joinWith [','] [name] = name := by
  simp [Text.joinWith]

/-- Extending the first piece extends the text that the pieces join to. -/
theorem joinWith_extendHead
    {pieces : List (List Char)}
    (filled : pieces ≠ [])
    (front : List Char) :
    Text.joinWith [','] (extendHead front pieces) = front ++ Text.joinWith [','] pieces := by
  cases pieces with
  | nil => exact absurd rfl filled
  | cons piece pieces =>
      cases pieces with
      | nil => rw [extendHead_cons, joinWith_singleton, joinWith_singleton]
      | cons next pieces =>
          rw [extendHead_cons, joinWith_cons_cons, joinWith_cons_cons, List.append_assoc]

theorem joinWith_cons
    (filled : names ≠ [])
    (name : List Char) :
    Text.joinWith [','] (name :: names) = name ++ ',' :: Text.joinWith [','] names := by
  cases names with
  | nil => exact absurd rfl filled
  | cons next names => exact joinWith_cons_cons name next names

/-- Nothing is lost when a text is cut. -/
theorem joinWith_commaPieces (text : List Char) :
    Text.joinWith [','] (commaPieces text) = text := by
  induction text using pieces_induction with
  | nil => rfl
  | backslash => rfl
  | escape c text inductionHypothesis =>
      rw [commaPieces, joinWith_extendHead (commaPieces_ne_nil text), inductionHypothesis]
      rfl
  | comma text inductionHypothesis =>
      rw [commaPieces, joinWith_cons (commaPieces_ne_nil text), inductionHypothesis]
      rfl
  | plain c text plain other inductionHypothesis =>
      rw [commaPieces_cons plain other, joinWith_extendHead (commaPieces_ne_nil text),
        inductionHypothesis]
      rfl

/-- Joining adds no characters but commas. -/
theorem mem_joinWith_iff
    {c : Char}
    (other : c ≠ ',') :
    c ∈ Text.joinWith [','] names ↔ ∃ name ∈ names, c ∈ name := by
  induction names with
  | nil => simp
  | cons name names inductionHypothesis =>
      cases names with
      | nil => simp [joinWith_singleton]
      | cons next names =>
          rw [joinWith_cons_cons, List.mem_append, List.mem_cons, inductionHypothesis]
          simp [other]

/-- A name that ends escaping takes the character behind it along. -/
theorem commaPieces_append_of_endsEscaping
    (opened : endsEscaping name = true)
    (whole : Whole name)
    (c : Char)
    (rest : List Char) :
    commaPieces (name ++ c :: rest) = extendHead (name ++ [c]) (commaPieces rest) := by
  induction name using pieces_induction with
  | nil => simp at opened
  | backslash => rfl
  | escape d text inductionHypothesis =>
      rw [endsEscaping_cons_cons] at opened
      rw [List.cons_append, List.cons_append, commaPieces,
        inductionHypothesis opened whole.of_cons_cons, extendHead_extendHead]
      rfl
  | comma text inductionHypothesis =>
      exact absurd (whole_iff.mp whole [] text rfl) (by decide)
  | plain d text plain other inductionHypothesis =>
      rw [endsEscaping_cons plain] at opened
      have split : Whole ([] ++ d :: text) := whole
      have wholeText : Whole text := ((whole_append_cons_iff plain other).mp split).2
      rw [List.cons_append, commaPieces_cons plain other, inductionHypothesis opened wholeText,
        extendHead_extendHead]
      rfl

theorem mergeEscaping_ne_nil (filled : names ≠ []) : mergeEscaping names ≠ [] := by
  fun_cases mergeEscaping names
  case case1 => exact absurd rfl filled
  case case2 => exact List.cons_ne_nil _ _
  case case3 => exact extendHead_ne_nil _ _
  case case4 => exact List.cons_ne_nil _ _

/-- Joining whole names and cutting at the commas again merges those that end escaping. -/
theorem commaPieces_joinWith
    (filled : names ≠ [])
    (whole : ∀ name ∈ names, Whole name) :
    commaPieces (Text.joinWith [','] names) = mergeEscaping names := by
  fun_induction mergeEscaping names with
  | case1 => exact absurd rfl filled
  | case2 name =>
      rw [joinWith_singleton]
      exact whole name (List.mem_singleton.mpr rfl)
  | case3 name next names opened inductionHypothesis =>
      obtain ⟨wholeName, others⟩ := List.forall_mem_cons.mp whole
      rw [joinWith_cons_cons, commaPieces_append_of_endsEscaping opened wholeName,
        inductionHypothesis (List.cons_ne_nil _ _) others]
  | case4 name next names closed inductionHypothesis =>
      obtain ⟨wholeName, others⟩ := List.forall_mem_cons.mp whole
      rw [joinWith_cons_cons, commaPieces_append_cons (by simpa using closed), wholeName,
        inductionHypothesis (List.cons_ne_nil _ _) others]
      rfl

/-- Merging changes how names are told apart, and nothing in the joined text. -/
theorem joinWith_mergeEscaping (names : List (List Char)) :
    Text.joinWith [','] (mergeEscaping names) = Text.joinWith [','] names := by
  fun_induction mergeEscaping names with
  | case1 => rfl
  | case2 name => rfl
  | case3 name next names opened inductionHypothesis =>
      rw [joinWith_extendHead (mergeEscaping_ne_nil (List.cons_ne_nil _ _)), inductionHypothesis,
        joinWith_cons_cons, List.append_assoc, List.singleton_append]
  | case4 name next names closed inductionHypothesis =>
      rw [joinWith_cons (mergeEscaping_ne_nil (List.cons_ne_nil _ _)), inductionHypothesis,
        joinWith_cons_cons]

/-- Merging gives no more names than there were. -/
theorem length_mergeEscaping_le (names : List (List Char)) :
    (mergeEscaping names).length ≤ names.length := by
  fun_induction mergeEscaping names with
  | case1 => exact Nat.le_refl _
  | case2 name => exact Nat.le_refl _
  | case3 name next names opened inductionHypothesis =>
      rw [length_extendHead (mergeEscaping_ne_nil (List.cons_ne_nil _ _))]
      exact Nat.le_succ_of_le inductionHypothesis
  | case4 name next names closed inductionHypothesis =>
      exact Nat.succ_le_succ inductionHypothesis

/-- As many names come back as were joined when none of them ends escaping, up to the last. -/
theorem length_mergeEscaping_iff :
    (mergeEscaping names).length = names.length ↔
      ∀ name ∈ names.dropLast, endsEscaping name = false := by
  fun_induction mergeEscaping names with
  | case1 => simp
  | case2 name => simp
  | case3 name next names opened inductionHypothesis =>
      have shorter := length_mergeEscaping_le (next :: names)
      rw [length_extendHead (mergeEscaping_ne_nil (List.cons_ne_nil _ _)), List.dropLast_cons_cons,
        List.forall_mem_cons, opened]
      simp only [List.length_cons] at shorter ⊢
      constructor
      · omega
      · rintro ⟨impossible, -⟩
        contradiction
  | case4 name next names closed inductionHypothesis =>
      rw [List.dropLast_cons_cons, List.forall_mem_cons, ← inductionHypothesis, List.length_cons,
        List.length_cons, Nat.add_right_cancel_iff]
      exact (and_iff_right (by simpa using closed)).symm

/-- Nothing is merged when no name but the last ends escaping. -/
theorem mergeEscaping_of_closed
    (closed : ∀ name ∈ names.dropLast, endsEscaping name = false) :
    mergeEscaping names = names := by
  fun_induction mergeEscaping names with
  | case1 => rfl
  | case2 name => rfl
  | case3 name next names opened inductionHypothesis =>
      have closedHead := closed name (by simp)
      rw [opened] at closedHead
      contradiction
  | case4 name next names closedHead inductionHypothesis =>
      rw [List.dropLast_cons_cons, List.forall_mem_cons] at closed
      rw [inductionHypothesis closed.2]

/-- The joined names come back when none of them ends escaping, up to the last. -/
theorem mergeEscaping_eq_self_iff :
    mergeEscaping names = names ↔ ∀ name ∈ names.dropLast, endsEscaping name = false := by
  constructor
  · intro equal
    rw [← length_mergeEscaping_iff, equal]
  · exact mergeEscaping_of_closed

end Joining

end Dn
end Delegation
