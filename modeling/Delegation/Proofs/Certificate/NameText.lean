import Delegation.Certificate.Name
import Delegation.Proofs.Dn.NormalForm

/-!
# Names of certificates as text

The text of a name escapes the commas in its values, and neither the backslashes nor the plus
signs in them. So a comma behind a backslash is not protected after all, a backslash at the end
of a value protects the comma behind its part, and a plus sign is read as the border of two
attributes. Names with no such values are told apart by their texts.
-/

namespace Delegation
namespace Certificate

open Dn

section EscapedCommas

variable {value first second front back : List Char} {c : Char}

@[simp] theorem escapeCommas_nil : escapeCommas [] = [] := rfl

theorem escapeCommas_comma (value : List Char) :
    escapeCommas (',' :: value) = '\\' :: ',' :: escapeCommas value := rfl

theorem escapeCommas_cons (other : c ≠ ',') (value : List Char) :
    escapeCommas (c :: value) = c :: escapeCommas value := by
  simp [escapeCommas, other]

/-- Commas are escaped each for itself. -/
theorem escapeCommas_append (first second : List Char) :
    escapeCommas (first ++ second) = escapeCommas first ++ escapeCommas second :=
  List.flatMap_append

theorem mem_of_mem_escapeCommas
    (plain : c ≠ '\\')
    (inside : c ∈ escapeCommas value) :
    c ∈ value := by
  obtain ⟨d, member, written⟩ := List.mem_flatMap.mp inside
  split at written
  · rename_i comma
    simp only [List.mem_cons, plain, List.not_mem_nil, or_false, false_or] at written
    rwa [written, ← comma]
  · rwa [List.mem_singleton.mp written]

/-- Each comma of an escaped value is one of the value, with the backslash in front of it. -/
theorem escapeCommas_eq_append_comma
    (equal : escapeCommas value = front ++ ',' :: back) :
    ∃ first second, value = first ++ ',' :: second ∧ front = escapeCommas first ++ ['\\'] ∧
      back = escapeCommas second := by
  induction value generalizing front with
  | nil => simp at equal
  | cons c value inductionHypothesis =>
      by_cases comma : c = ','
      · subst comma
        rw [escapeCommas_comma] at equal
        cases front with
        | nil => exact absurd (List.cons.inj equal).1 (by decide)
        | cons d front =>
            obtain ⟨rfl, behind⟩ := List.cons.inj equal
            cases front with
            | nil => exact ⟨[], value, rfl, rfl, (List.cons.inj behind).2.symm⟩
            | cons e front =>
                obtain ⟨rfl, inner⟩ := List.cons.inj behind
                obtain ⟨first, second, rfl, rfl, rfl⟩ := inductionHypothesis inner
                exact ⟨',' :: first, second, rfl, rfl, rfl⟩
      · rw [escapeCommas_cons comma] at equal
        cases front with
        | nil => exact absurd (List.cons.inj equal).1 comma
        | cons d front =>
            obtain ⟨rfl, rest⟩ := List.cons.inj equal
            obtain ⟨first, second, rfl, rfl, rfl⟩ := inductionHypothesis rest
            exact ⟨c :: first, second, rfl, by rw [escapeCommas_cons comma]; rfl, rfl⟩

/-- No escaped value starts with a comma. -/
theorem escapeCommas_ne_comma_cons (value rest : List Char) :
    escapeCommas value ≠ ',' :: rest := by
  intro equal
  have leading : escapeCommas value = [] ++ ',' :: rest := equal
  obtain ⟨first, second, -, bare, -⟩ := escapeCommas_eq_append_comma leading
  simp at bare

theorem escapeCommas_cons_ne_nil (c : Char) (value : List Char) :
    escapeCommas (c :: value) ≠ [] := by
  by_cases comma : c = ','
  · subst comma
    exact List.cons_ne_nil _ _
  · rw [escapeCommas_cons comma]
    exact List.cons_ne_nil _ _

/-- Different values stay different. -/
theorem escapeCommas_inj (same : escapeCommas first = escapeCommas second) : first = second := by
  induction first generalizing second with
  | nil =>
      cases second with
      | nil => rfl
      | cons d second => exact absurd same.symm (escapeCommas_cons_ne_nil d second)
  | cons c first inductionHypothesis =>
      cases second with
      | nil => exact absurd same (escapeCommas_cons_ne_nil c first)
      | cons d second =>
          by_cases firstComma : c = ',' <;> by_cases secondComma : d = ','
          · subst firstComma secondComma
            rw [escapeCommas_comma, escapeCommas_comma] at same
            rw [inductionHypothesis (List.cons.inj (List.cons.inj same).2).2]
          · subst firstComma
            rw [escapeCommas_comma, escapeCommas_cons secondComma] at same
            exact absurd (List.cons.inj same).2.symm (escapeCommas_ne_comma_cons second _)
          · subst secondComma
            rw [escapeCommas_comma, escapeCommas_cons firstComma] at same
            exact absurd (List.cons.inj same).2 (escapeCommas_ne_comma_cons first _)
          · rw [escapeCommas_cons firstComma, escapeCommas_cons secondComma] at same
            obtain ⟨rfl, rest⟩ := List.cons.inj same
            rw [inductionHypothesis rest]

@[simp] theorem endsEscaping_escapeCommas (value : List Char) :
    endsEscaping (escapeCommas value) = endsEscaping value := by
  induction value using List.reverseRecOn with
  | nil => rfl
  | append_singleton value c inductionHypothesis =>
      rw [escapeCommas_append]
      by_cases comma : c = ','
      · subst comma
        have escaped : escapeCommas value ++ escapeCommas [','] =
            (escapeCommas value ++ ['\\']) ++ ',' :: [] := by
          simp [escapeCommas_comma]
        rw [escaped, endsEscaping_append_cons (by decide), endsEscaping_append_cons (by decide)]
      · rw [escapeCommas_cons comma, escapeCommas_nil, endsEscaping_concat, endsEscaping_concat,
          inductionHypothesis]

/-- No comma of a value follows a backslash that protects it, so the escape in front of it is
not protected itself. -/
def CommasSeparate (value : List Char) : Prop :=
  ∀ first second, value = first ++ ',' :: second → endsEscaping first = false

/-- An escaped value is whole exactly if its commas would separate without the escapes. -/
theorem whole_escapeCommas_iff : Whole (escapeCommas value) ↔ CommasSeparate value := by
  rw [whole_iff]
  constructor
  · rintro inner first second rfl
    have opened := inner (escapeCommas first ++ ['\\']) (escapeCommas second)
      (by simp [escapeCommas_append, escapeCommas_comma])
    simpa [endsEscaping_concat] using opened
  · intro separate front back equal
    obtain ⟨first, second, rfl, rfl, -⟩ := escapeCommas_eq_append_comma equal
    rw [endsEscaping_concat, endsEscaping_escapeCommas, separate first second rfl]
    rfl

instance (value : List Char) : Decidable (CommasSeparate value) :=
  decidable_of_iff _ whole_escapeCommas_iff

theorem trimLeft_escapeCommas (value : List Char) :
    Text.trimLeft (escapeCommas value) = escapeCommas (Text.trimLeft value) := by
  induction value with
  | nil => rfl
  | cons c value inductionHypothesis =>
      by_cases comma : c = ','
      · subst comma
        rfl
      · rw [escapeCommas_cons comma, Text.trimLeft_cons, Text.trimLeft_cons]
        split
        · exact inductionHypothesis
        · rw [escapeCommas_cons comma]

theorem trimRight_escapeCommas (value : List Char) :
    Text.trimRight (escapeCommas value) = escapeCommas (Text.trimRight value) := by
  induction value using List.reverseRecOn with
  | nil => rfl
  | append_singleton value c inductionHypothesis =>
      rw [escapeCommas_append]
      by_cases blank : Text.isBlank c = true
      · rw [escapeCommas_cons (ne_comma_of_isBlank blank), escapeCommas_nil,
          Text.trimRight_concat_of_isBlank _ blank, Text.trimRight_concat_of_isBlank _ blank,
          inductionHypothesis]
      · rw [Bool.not_eq_true] at blank
        have last : ∃ body, escapeCommas [c] = body ++ [c] := by
          by_cases comma : c = ','
          · exact ⟨['\\'], by rw [comma]; rfl⟩
          · exact ⟨[], escapeCommas_cons comma []⟩
        obtain ⟨body, escaped⟩ := last
        rw [Text.trimRight_concat_of_not_isBlank value blank, escapeCommas_append, escaped,
          ← List.append_assoc, Text.trimRight_concat_of_not_isBlank _ blank]

/-- Escaping commas and trimming may be done in either order. -/
theorem trim_escapeCommas (value : List Char) :
    Text.trim (escapeCommas value) = escapeCommas (Text.trim value) := by
  rw [Text.trim, trimLeft_escapeCommas, trimRight_escapeCommas, Text.trim]

theorem escapeCommas_of_not_mem (absent : ',' ∉ value) : escapeCommas value = value := by
  induction value with
  | nil => rfl
  | cons c value inductionHypothesis =>
      obtain ⟨other, absent⟩ := List.ne_and_not_mem_of_not_mem_cons absent
      rw [escapeCommas_cons (Ne.symm other), inductionHypothesis absent]

/-- Escaping commas and lower-casing may be done in either order. -/
theorem lower_escapeCommas (value : List Char) :
    Text.lower (escapeCommas value) = escapeCommas (Text.lower value) := by
  have mark : Text.isMark ',' = true := by decide
  rcases Text.not_mem_or_cut ',' value with plain | ⟨head, tail, rfl, plain⟩
  · have loweredPlain : ',' ∉ Text.lower value := by rwa [Text.mem_lower_iff mark]
    rw [escapeCommas_of_not_mem plain, escapeCommas_of_not_mem loweredPlain]
  · have loweredPlain : ',' ∉ Text.lower head := by rwa [Text.mem_lower_iff mark]
    rw [escapeCommas_append, escapeCommas_comma, Text.lower_append_cons (by decide),
      Text.lower_cons mark, lower_escapeCommas tail, Text.lower_append_cons mark,
      escapeCommas_append, escapeCommas_comma, escapeCommas_of_not_mem plain,
      escapeCommas_of_not_mem loweredPlain]
termination_by value.length
decreasing_by
  rename_i equal
  simp [equal]
  omega

end EscapedCommas

section Parts

variable {item other : TextAttribute} {items others first second : List TextAttribute}

/-- Nothing in the key of an attribute separates parts, attributes or values. -/
def TextAttribute.PlainKey (item : TextAttribute) : Prop :=
  ',' ∉ item.key.toList ∧ '=' ∉ item.key.toList ∧ '+' ∉ item.key.toList

/-- What follows the value of an attribute in the text of its part. -/
def furtherText : List TextAttribute → List Char
  | [] => []
  | item :: items => '+' :: renderPart (item :: items)

/-- A relative name starts with its first attribute, and the others follow after plus signs. -/
theorem renderPart_cons (item : TextAttribute) (items : List TextAttribute) :
    renderPart (item :: items) =
      item.key.toList ++ '=' :: (escapeCommas item.value.toList ++ furtherText items) := by
  cases items <;> simp [renderPart, furtherText, TextAttribute.render]

theorem renderPart_cons_cons (item other : TextAttribute) (items : List TextAttribute) :
    renderPart (item :: other :: items) = item.render ++ '+' :: renderPart (other :: items) := by
  simp [renderPart]

theorem trim_renderPart_ne_nil (filled : items ≠ []) : Text.trim (renderPart items) ≠ [] := by
  cases items with
  | nil => exact absurd rfl filled
  | cons item items =>
      rw [renderPart_cons, Text.trim_append_cons (by decide)]
      simp

/-- A part is not cut inside if none of its values is. -/
theorem whole_renderPart_iff
    (plain : ∀ item ∈ items, item.PlainKey) :
    Whole (renderPart items) ↔ ∀ item ∈ items, CommasSeparate item.value.toList := by
  induction items with
  | nil => simp [renderPart, whole_nil]
  | cons item items inductionHypothesis =>
      obtain ⟨plainKey, others⟩ := List.forall_mem_cons.mp plain
      have further : Whole (escapeCommas item.value.toList ++ furtherText items) ↔
          Whole (escapeCommas item.value.toList) ∧ Whole (renderPart items) := by
        cases items with
        | nil => simp [furtherText, renderPart, whole_nil]
        | cons other items => exact whole_append_cons_iff (by decide) (by decide)
      rw [renderPart_cons, whole_append_cons_iff (by decide) (by decide), further,
        whole_escapeCommas_iff, inductionHypothesis others, List.forall_mem_cons]
      exact and_iff_right (whole_of_not_mem plainKey.1)

/-- The last value of a part says whether the part ends escaping. -/
theorem endsEscaping_trim_renderPart
    (last : item ∈ items.getLast?) :
    endsEscaping (Text.trim (renderPart items)) = endsEscaping (Text.trim item.value.toList) := by
  induction items with
  | nil => simp at last
  | cons head items inductionHypothesis =>
      cases items with
      | nil =>
          obtain rfl : head = item := by simpa using last
          rw [renderPart_cons, endsEscaping_trim_append_cons (by decide) (by decide), furtherText,
            List.append_nil, trim_escapeCommas, endsEscaping_escapeCommas]
      | cons other items =>
          rw [renderPart_cons_cons, endsEscaping_trim_append_cons (by decide) (by decide)]
          exact inductionHypothesis (by simpa using last)

end Parts

section Attributes

variable {item other : TextAttribute} {items others first second : List TextAttribute}

/-- An attribute up to letter case and blanks around its key and its value. -/
def TextAttribute.form (item : TextAttribute) : List Char × List Char :=
  (Text.lower (Text.trim item.key.toList), Text.lower (Text.trim item.value.toList))

/-- Nothing in the value of an attribute looks like the border of two attributes. -/
def TextAttribute.PlainValue (item : TextAttribute) : Prop :=
  '+' ∉ item.value.toList

/-- Texts are the same on both sides of the first mark, where one follows at all. -/
theorem append_inj_of_not_mem
    {mark : Char}
    {front back rest tail : List Char}
    (frontPlain : mark ∉ front)
    (backPlain : mark ∉ back)
    (restMark : ∀ c ∈ rest.head?, c = mark)
    (tailMark : ∀ c ∈ tail.head?, c = mark)
    (same : front ++ rest = back ++ tail) :
    front = back ∧ rest = tail := by
  induction front generalizing back with
  | nil =>
      cases back with
      | nil => exact ⟨rfl, same⟩
      | cons d back =>
          rw [List.nil_append] at same
          have first : d = mark := restMark d (by rw [same]; rfl)
          simp [first] at backPlain
  | cons c front inductionHypothesis =>
      cases back with
      | nil =>
          rw [List.nil_append] at same
          have first : c = mark := tailMark c (by rw [← same]; rfl)
          simp [first] at frontPlain
      | cons d back =>
          obtain ⟨rfl, inner⟩ := List.cons.inj same
          obtain ⟨rfl, outer⟩ := inductionHypothesis (List.not_mem_of_not_mem_cons frontPlain)
            (List.not_mem_of_not_mem_cons backPlain) inner
          exact ⟨rfl, outer⟩

/-- What follows the first attribute is nothing or starts with a plus sign. -/
theorem trimRight_furtherText (items : List TextAttribute) :
    Text.trimRight (furtherText items) = [] ∨
      Text.trimRight (furtherText items) = '+' :: Text.trimRight (renderPart items) := by
  cases items with
  | nil => exact .inl rfl
  | cons item items => exact .inr (Text.trimRight_append_cons (by decide) [] _)

theorem head?_lower_trimRight_furtherText (items : List TextAttribute) :
    ∀ c ∈ (Text.lower (Text.trimRight (furtherText items))).head?, c = '+' := by
  rcases trimRight_furtherText items with nothing | marked
  · simp [nothing]
  · rw [marked, Text.lower_cons (by decide)]
    simp

/-- What stands of a value in the trimmed text of a part is the value, up to blanks at its end. -/
theorem exists_shown (value : List Char) (items : List TextAttribute) :
    ∃ shown, Text.lower (Text.trimRight (escapeCommas value ++ furtherText items)) =
        shown ++ Text.lower (Text.trimRight (furtherText items)) ∧
      Text.trim shown = escapeCommas (Text.lower (Text.trim value)) ∧
      ('+' ∉ value → '+' ∉ shown) := by
  have mark : Text.isMark '+' = true := by decide
  have plain : ∀ text, '+' ∉ text → '+' ∉ Text.lower (escapeCommas text) := by
    intro text absent
    rw [Text.mem_lower_iff mark]
    exact fun inside => absent (mem_of_mem_escapeCommas (by decide) inside)
  cases items with
  | nil =>
      refine ⟨Text.lower (escapeCommas (Text.trimRight value)), ?_, ?_, fun absent => ?_⟩
      · simp [furtherText, trimRight_escapeCommas]
      · rw [Text.trim_lower, trim_escapeCommas, Text.trim_trimRight, lower_escapeCommas]
      · exact plain _ fun inside => absent (Text.mem_of_mem_trimRight inside)
  | cons item items =>
      refine ⟨Text.lower (escapeCommas value), ?_, ?_, plain value⟩
      · have behind : Text.trimRight (furtherText (item :: items)) =
            '+' :: Text.trimRight (renderPart (item :: items)) :=
          Text.trimRight_append_cons (by decide) [] _
        rw [behind, furtherText, Text.trimRight_append_cons (by decide),
          Text.lower_append_cons mark, Text.lower_cons mark]
      · rw [Text.trim_lower, trim_escapeCommas, lower_escapeCommas]

/-- The values that stand at the same place of two trimmed texts are the same. -/
theorem lower_trim_eq
    {value others : List Char}
    (valuePlain : '+' ∉ value)
    (othersPlain : '+' ∉ others)
    (same : Text.lower (Text.trimRight (escapeCommas value ++ furtherText first)) =
      Text.lower (Text.trimRight (escapeCommas others ++ furtherText second))) :
    Text.lower (Text.trim value) = Text.lower (Text.trim others) ∧
      Text.lower (Text.trimRight (furtherText first)) =
        Text.lower (Text.trimRight (furtherText second)) := by
  obtain ⟨shown, equal, trimmed, plain⟩ := exists_shown value first
  obtain ⟨otherShown, otherEqual, otherTrimmed, otherPlain⟩ := exists_shown others second
  rw [equal, otherEqual] at same
  obtain ⟨rfl, rest⟩ := append_inj_of_not_mem (plain valuePlain) (otherPlain othersPlain)
    (head?_lower_trimRight_furtherText first) (head?_lower_trimRight_furtherText second) same
  exact ⟨escapeCommas_inj (trimmed.symm.trans otherTrimmed), rest⟩

theorem form_eq
    (keys : Text.lower (Text.trim item.key.toList) = Text.lower (Text.trim other.key.toList))
    (values : Text.lower (Text.trim item.value.toList) =
      Text.lower (Text.trim other.value.toList)) :
    item.form = other.form :=
  Prod.ext keys values

theorem not_mem_lower_trim
    {mark : Char}
    {text : List Char}
    (isMark : Text.isMark mark = true)
    (absent : mark ∉ text) :
    mark ∉ Text.lower (Text.trim text) := by
  rw [Text.mem_lower_iff isMark]
  exact fun inside => absent (Text.mem_of_mem_trim inside)

theorem lower_trimRight_furtherText_cons (item : TextAttribute) (items : List TextAttribute) :
    Text.lower (Text.trimRight (furtherText (item :: items))) =
      '+' :: (Text.lower item.key.toList ++ '=' ::
        Text.lower (Text.trimRight (escapeCommas item.value.toList ++ furtherText items))) := by
  rw [furtherText, renderPart_cons, ← List.cons_append, Text.trimRight_append_cons (by decide),
    Text.lower_append_cons (by decide), Text.lower_cons (by decide), List.cons_append]

/-- The normal form of a relative name starts with the trimmed key and value of its first
attribute. -/
theorem normalizeRdn_renderPart_cons
    (plain : item.PlainKey)
    (items : List TextAttribute) :
    ∃ value, normalizeRdn (renderPart (item :: items)) =
        Text.lower (Text.trim item.key.toList) ++
          '=' :: Text.lower (Text.trimRight (escapeCommas value ++ furtherText items)) ∧
      Text.trim value = Text.trim item.value.toList ∧
      ('+' ∉ item.value.toList → '+' ∉ value) := by
  refine ⟨Text.trimLeft item.value.toList, ?_, Text.trim_trimLeft _,
    fun absent inside => absent (Text.mem_of_mem_trimLeft inside)⟩
  have front : Text.trimLeft (escapeCommas item.value.toList ++ furtherText items) =
      escapeCommas (Text.trimLeft item.value.toList) ++ furtherText items := by
    cases items with
    | nil => simp [furtherText, trimLeft_escapeCommas]
    | cons other items =>
        rw [furtherText, Text.trimLeft_append_cons (by decide), trimLeft_escapeCommas]
  have trimmed : Text.trim (escapeCommas item.value.toList ++ furtherText items) =
      Text.trimRight (escapeCommas (Text.trimLeft item.value.toList) ++ furtherText items) := by
    rw [Text.trim, front]
  rw [renderPart_cons, normalizeRdn_eq, tidyRdn_append_cons plain.2.1,
    Text.lower_append_cons (by decide), trimmed]

/-- Plain attributes have the same forms if what they add to a relative name has the same normal
form. -/
theorem map_form_eq_of_furtherText
    (firstPlain : ∀ item ∈ first, item.PlainKey ∧ item.PlainValue)
    (secondPlain : ∀ item ∈ second, item.PlainKey ∧ item.PlainValue)
    (same : Text.lower (Text.trimRight (furtherText first)) =
      Text.lower (Text.trimRight (furtherText second))) :
    first.map TextAttribute.form = second.map TextAttribute.form := by
  induction first generalizing second with
  | nil =>
      cases second with
      | nil => rfl
      | cons other second =>
          rw [lower_trimRight_furtherText_cons] at same
          simp [furtherText] at same
  | cons item first inductionHypothesis =>
      cases second with
      | nil =>
          rw [lower_trimRight_furtherText_cons] at same
          simp [furtherText] at same
      | cons other second =>
          obtain ⟨⟨itemKey, itemValue⟩, firstRest⟩ := List.forall_mem_cons.mp firstPlain
          obtain ⟨⟨otherKey, otherValue⟩, secondRest⟩ := List.forall_mem_cons.mp secondPlain
          have mark : Text.isMark '=' = true := by decide
          rw [lower_trimRight_furtherText_cons, lower_trimRight_furtherText_cons] at same
          obtain ⟨keys, behind⟩ := Text.append_cons_inj
            ((Text.mem_lower_iff mark).not.mpr itemKey.2.1)
            ((Text.mem_lower_iff mark).not.mpr otherKey.2.1) (List.cons.inj same).2
          obtain ⟨values, further⟩ := lower_trim_eq itemValue otherValue behind
          have trimmedKeys := congrArg Text.trim keys
          rw [Text.trim_lower, Text.trim_lower] at trimmedKeys
          rw [List.map_cons, List.map_cons, form_eq trimmedKeys values,
            inductionHypothesis firstRest secondRest further]

/-- Parts with the same normal form have the same attributes, up to letter case and blanks. -/
theorem map_form_eq_of_normalizeRdn
    (firstPlain : ∀ item ∈ first, item.PlainKey ∧ item.PlainValue)
    (secondPlain : ∀ item ∈ second, item.PlainKey ∧ item.PlainValue)
    (firstFilled : first ≠ [])
    (secondFilled : second ≠ [])
    (same : normalizeRdn (renderPart first) = normalizeRdn (renderPart second)) :
    first.map TextAttribute.form = second.map TextAttribute.form := by
  obtain ⟨item, first, rfl⟩ := List.exists_cons_of_ne_nil firstFilled
  obtain ⟨other, second, rfl⟩ := List.exists_cons_of_ne_nil secondFilled
  obtain ⟨⟨itemKey, itemValue⟩, firstRest⟩ := List.forall_mem_cons.mp firstPlain
  obtain ⟨⟨otherKey, otherValue⟩, secondRest⟩ := List.forall_mem_cons.mp secondPlain
  obtain ⟨value, equal, trimmed, plain⟩ := normalizeRdn_renderPart_cons itemKey first
  obtain ⟨others, otherEqual, otherTrimmed, otherPlain⟩ :=
    normalizeRdn_renderPart_cons otherKey second
  rw [equal, otherEqual] at same
  obtain ⟨keys, behind⟩ := Text.append_cons_inj (not_mem_lower_trim (by decide) itemKey.2.1)
    (not_mem_lower_trim (by decide) otherKey.2.1) same
  obtain ⟨values, further⟩ := lower_trim_eq (plain itemValue) (otherPlain otherValue) behind
  rw [trimmed, otherTrimmed] at values
  rw [List.map_cons, List.map_cons, form_eq keys values,
    map_form_eq_of_furtherText firstRest secondRest further]

end Attributes

section Names

variable {parts : List (List TextAttribute)}

/-- The text of a name shows its parts: no comma in a value follows a backslash that protects it,
and only the first part, which is written last, may end with such a backslash. -/
def ShowsParts (parts : List (List TextAttribute)) : Prop :=
  (∀ part ∈ parts, ∀ item ∈ part, CommasSeparate item.value.toList) ∧
    ∀ part ∈ parts.tail, ∀ item ∈ part.getLast?,
      endsEscaping (Text.trim item.value.toList) = false

instance (parts : List (List TextAttribute)) : Decidable (ShowsParts parts) :=
  inferInstanceAs (Decidable (_ ∧ _))

/-- A name as certificates hold it: each part has an attribute, and each attribute a plain key. -/
def WellFormed (parts : List (List TextAttribute)) : Prop :=
  ∀ part ∈ parts, part ≠ [] ∧ ∀ item ∈ part, item.PlainKey

/-- The relative names of the text of a name are its parts exactly if the text shows them. -/
theorem rdns_normalize_renderName_iff
    (wellFormed : WellFormed parts) :
    rdns (normalize (renderName parts)).toList =
        parts.reverse.map (fun part => normalizeRdn (renderPart part)) ↔
      ShowsParts parts := by
  have visible : ∀ text ∈ parts.reverse.map renderPart, Text.trim text ≠ [] := by
    rw [List.forall_mem_map]
    intro part member
    exact trim_renderPart_ne_nil (wellFormed part (List.mem_reverse.mp member)).1
  have kept := rdns_normalizeChars_joinWith_iff visible
  rw [List.map_map] at kept
  rw [toList_normalize, renderName, String.toList_ofList, ShowsParts]
  refine kept.trans (and_congr ?_ ?_)
  · rw [List.forall_mem_map]
    simp only [List.mem_reverse]
    exact forall₂_congr fun part member => whole_renderPart_iff (wellFormed part member).2
  · rw [← List.map_dropLast, List.forall_mem_map, List.dropLast_reverse]
    simp only [List.mem_reverse]
    refine forall₂_congr fun part member => ?_
    have filled := (wellFormed part (List.mem_of_mem_tail member)).1
    obtain ⟨item, last⟩ : ∃ item, part.getLast? = some item :=
      ⟨part.getLast filled, List.getLast?_eq_some_getLast filled⟩
    rw [endsEscaping_trim_renderPart last]
    simp [last]

/-- Lists that agree under one function agree under every function that it determines. -/
theorem map_eq_map_of_map_eq_map
    {α β γ : Type}
    {read : α → β}
    {tell : α → γ}
    {first second : List α}
    (determines : ∀ item ∈ first, ∀ other ∈ second, read item = read other → tell item = tell other)
    (same : first.map read = second.map read) :
    first.map tell = second.map tell := by
  induction first generalizing second with
  | nil =>
      cases second with
      | nil => rfl
      | cons other second => simp at same
  | cons item first inductionHypothesis =>
      cases second with
      | nil => simp at same
      | cons other second =>
          obtain ⟨here, behind⟩ := List.cons.inj same
          have rest := inductionHypothesis
            (fun item member other otherMember =>
              determines item (List.mem_cons_of_mem _ member) other
                (List.mem_cons_of_mem _ otherMember)) behind
          rw [List.map_cons, List.map_cons, rest,
            determines item List.mem_cons_self other List.mem_cons_self here]

/-- The attributes of the parts of a name, up to letter case and blanks. -/
def forms (parts : List (List TextAttribute)) : List (List (List Char × List Char)) :=
  parts.map fun part => part.map TextAttribute.form

/-- No value of a name looks like the border of two attributes. -/
def ShowsAttributes (parts : List (List TextAttribute)) : Prop :=
  ∀ part ∈ parts, ∀ item ∈ part, item.PlainValue

instance (parts : List (List TextAttribute)) : Decidable (ShowsAttributes parts) :=
  inferInstanceAs (Decidable (∀ part ∈ parts, ∀ item ∈ part, '+' ∉ item.value.toList))

/-- Names whose texts show their parts and attributes have the same normal form only if they
have the same attributes, up to letter case and blanks. -/
theorem forms_eq_of_normalize_eq
    {first second : List (List TextAttribute)}
    (firstFormed : WellFormed first)
    (secondFormed : WellFormed second)
    (firstParts : ShowsParts first)
    (secondParts : ShowsParts second)
    (firstAttributes : ShowsAttributes first)
    (secondAttributes : ShowsAttributes second)
    (same : normalize (renderName first) = normalize (renderName second)) :
    forms first = forms second := by
  have firstRead := (rdns_normalize_renderName_iff firstFormed).mpr firstParts
  have secondRead := (rdns_normalize_renderName_iff secondFormed).mpr secondParts
  rw [same, secondRead, List.map_reverse, List.map_reverse] at firstRead
  refine map_eq_map_of_map_eq_map ?_ (List.reverse_inj.mp firstRead).symm
  intro part member other otherMember equal
  obtain ⟨filled, keys⟩ := firstFormed part member
  obtain ⟨otherFilled, otherKeys⟩ := secondFormed other otherMember
  exact map_form_eq_of_normalizeRdn
    (fun item inside => ⟨keys item inside, firstAttributes part member item inside⟩)
    (fun item inside => ⟨otherKeys item inside, secondAttributes other otherMember item inside⟩)
    filled otherFilled equal

end Names

end Certificate
end Delegation
