import Delegation.Dn.Pair
import Delegation.Proofs.Dn.Escapes
import Delegation.Proofs.Text.Cutting

/-!
# Normal forms of names

A relative name is tidied, then lower-cased, and either can be done first. A name is normalized
relative name by relative name, so its normal form is read back as the normal forms of its
relative names, where one that ends with a protecting backslash takes the next one along: the
blank that the backslash protected is trimmed off, and the joining comma comes to stand behind
it. Normalizing twice makes no difference.
-/

namespace Delegation
namespace Dn

/-- A relative name without the blanks around it and around its first equals sign. -/
def tidyRdn (rdn : List Char) : List Char :=
  match keyAndValue rdn with
  | some (key, value) => key ++ '=' :: value
  | none => Text.trim rdn

/-- A comma that separates relative names never comes to be protected: no relative name but
the last one ends with a backslash that protects what comes next. -/
def KeepsApart (dn : List Char) : Prop :=
  ∀ rdn ∈ (rdns dn).dropLast, endsEscaping rdn = false

instance (dn : List Char) : Decidable (KeepsApart dn) := by
  unfold KeepsApart
  infer_instance

section RelativeNames

variable {rdn key value : List Char}

theorem normalizeRdn_eq (rdn : List Char) : normalizeRdn rdn = Text.lower (tidyRdn rdn) := by
  unfold normalizeRdn tidyRdn
  cases keyAndValue rdn <;> rfl

theorem tidyRdn_of_not_mem (keyless : '=' ∉ rdn) : tidyRdn rdn = Text.trim rdn := by
  rw [tidyRdn, keyAndValue, Text.cutFirst_eq_none.mpr keyless]
  rfl

theorem tidyRdn_append_cons
    (first : '=' ∉ key)
    (value : List Char) :
    tidyRdn (key ++ '=' :: value) = Text.trim key ++ '=' :: Text.trim value := by
  rw [tidyRdn, keyAndValue, Text.cutFirst_append_cons first]
  rfl

@[simp] theorem trim_tidyRdn (rdn : List Char) : Text.trim (tidyRdn rdn) = tidyRdn rdn := by
  rcases Text.not_mem_or_cut '=' rdn with keyless | ⟨key, value, rfl, first⟩
  · rw [tidyRdn_of_not_mem keyless, Text.trim_trim]
  · rw [tidyRdn_append_cons first]
    exact Text.trim_append_cons_of_trim (by decide) (Text.trim_trim key) (Text.trim_trim value)

@[simp] theorem tidyRdn_trim (rdn : List Char) : tidyRdn (Text.trim rdn) = tidyRdn rdn := by
  rcases Text.not_mem_or_cut '=' rdn with keyless | ⟨key, value, rfl, first⟩
  · have trimmedKeyless : '=' ∉ Text.trim rdn := fun inside => keyless (Text.mem_of_mem_trim inside)
    rw [tidyRdn_of_not_mem keyless, tidyRdn_of_not_mem trimmedKeyless, Text.trim_trim]
  · have trimmedFirst : '=' ∉ Text.trimLeft key :=
      fun inside => first (Text.mem_of_mem_trimLeft inside)
    rw [Text.trim_append_cons (by decide), tidyRdn_append_cons first,
      tidyRdn_append_cons trimmedFirst, Text.trim_trimLeft, Text.trim_trimRight]

@[simp] theorem tidyRdn_tidyRdn (rdn : List Char) : tidyRdn (tidyRdn rdn) = tidyRdn rdn := by
  rcases Text.not_mem_or_cut '=' rdn with keyless | ⟨key, value, rfl, first⟩
  · rw [tidyRdn_of_not_mem keyless, tidyRdn_trim, tidyRdn_of_not_mem keyless]
  · have trimmedFirst : '=' ∉ Text.trim key := fun inside => first (Text.mem_of_mem_trim inside)
    rw [tidyRdn_append_cons first, tidyRdn_append_cons trimmedFirst, Text.trim_trim,
      Text.trim_trim]

/-- A relative name can be lower-cased before it is tidied. -/
theorem tidyRdn_lower (rdn : List Char) :
    tidyRdn (Text.lower rdn) = Text.lower (tidyRdn rdn) := by
  have mark : Text.isMark '=' = true := by decide
  rcases Text.not_mem_or_cut '=' rdn with keyless | ⟨key, value, rfl, first⟩
  · have loweredKeyless : '=' ∉ Text.lower rdn := by rwa [Text.mem_lower_iff mark]
    rw [tidyRdn_of_not_mem keyless, tidyRdn_of_not_mem loweredKeyless, Text.trim_lower]
  · have loweredFirst : '=' ∉ Text.lower key := by rwa [Text.mem_lower_iff mark]
    rw [Text.lower_append_cons mark, tidyRdn_append_cons loweredFirst, tidyRdn_append_cons first,
      Text.lower_append_cons mark, Text.trim_lower, Text.trim_lower]

/-- Tidying a relative name neither adds nor removes a separating comma. -/
theorem whole_tidyRdn_iff : Whole (tidyRdn rdn) ↔ Whole rdn := by
  rcases Text.not_mem_or_cut '=' rdn with keyless | ⟨key, value, rfl, first⟩
  · rw [tidyRdn_of_not_mem keyless, whole_trim_iff]
  · rw [tidyRdn_append_cons first, whole_append_cons_iff (by decide) (by decide),
      whole_append_cons_iff (by decide) (by decide), whole_trim_iff, whole_trim_iff]

theorem endsEscaping_tidyRdn (rdn : List Char) :
    endsEscaping (tidyRdn rdn) = endsEscaping (Text.trim rdn) := by
  rcases Text.not_mem_or_cut '=' rdn with keyless | ⟨key, value, rfl, first⟩
  · rw [tidyRdn_of_not_mem keyless]
  · rw [tidyRdn_append_cons first, endsEscaping_append_cons (by decide),
      endsEscaping_trim_append_cons (by decide) (by decide)]

theorem mem_of_mem_tidyRdn
    {c : Char}
    (inside : c ∈ tidyRdn rdn) :
    c ∈ rdn := by
  rcases Text.not_mem_or_cut '=' rdn with keyless | ⟨key, value, rfl, first⟩
  · rw [tidyRdn_of_not_mem keyless] at inside
    exact Text.mem_of_mem_trim inside
  · rw [tidyRdn_append_cons first, List.mem_append, List.mem_cons] at inside
    rw [List.mem_append, List.mem_cons]
    exact inside.imp Text.mem_of_mem_trim (.imp id Text.mem_of_mem_trim)

theorem tidyRdn_eq_nil_iff : tidyRdn rdn = [] ↔ Text.trim rdn = [] := by
  constructor
  · intro nothing
    rcases Text.not_mem_or_cut '=' rdn with keyless | ⟨key, value, rfl, first⟩
    · rwa [tidyRdn_of_not_mem keyless] at nothing
    · simp [tidyRdn_append_cons first] at nothing
  · intro nothing
    rw [← tidyRdn_trim, nothing]
    rfl

@[simp] theorem trim_normalizeRdn (rdn : List Char) :
    Text.trim (normalizeRdn rdn) = normalizeRdn rdn := by
  rw [normalizeRdn_eq, Text.trim_lower, trim_tidyRdn]

@[simp] theorem normalizeRdn_trim (rdn : List Char) :
    normalizeRdn (Text.trim rdn) = normalizeRdn rdn := by
  rw [normalizeRdn_eq, tidyRdn_trim, normalizeRdn_eq]

/-- A relative name is in normal form after it has been normalized. -/
@[simp] theorem normalizeRdn_normalizeRdn (rdn : List Char) :
    normalizeRdn (normalizeRdn rdn) = normalizeRdn rdn := by
  rw [normalizeRdn_eq, normalizeRdn_eq, tidyRdn_lower, tidyRdn_tidyRdn, Text.lower_lower]

/-- Normalizing a relative name lower-cases its key and its value. -/
theorem keyAndValue_normalizeRdn (rdn : List Char) :
    keyAndValue (normalizeRdn rdn) =
      (keyAndValue rdn).map fun parts => (Text.lower parts.1, Text.lower parts.2) := by
  have mark : Text.isMark '=' = true := by decide
  rw [normalizeRdn_eq]
  rcases Text.not_mem_or_cut '=' rdn with keyless | ⟨key, value, rfl, first⟩
  · have loweredKeyless : '=' ∉ Text.lower (Text.trim rdn) := by
      rw [Text.mem_lower_iff mark]
      exact fun inside => keyless (Text.mem_of_mem_trim inside)
    rw [tidyRdn_of_not_mem keyless, keyAndValue, keyAndValue, Text.cutFirst_eq_none.mpr keyless,
      Text.cutFirst_eq_none.mpr loweredKeyless]
    rfl
  · have loweredFirst : '=' ∉ Text.lower (Text.trim key) := by
      rw [Text.mem_lower_iff mark]
      exact fun inside => first (Text.mem_of_mem_trim inside)
    rw [tidyRdn_append_cons first, Text.lower_append_cons mark, keyAndValue, keyAndValue,
      Text.cutFirst_append_cons first, Text.cutFirst_append_cons loweredFirst]
    simp only [Option.map_some, Text.trim_lower, Text.trim_trim]

theorem whole_normalizeRdn_iff : Whole (normalizeRdn rdn) ↔ Whole rdn := by
  rw [normalizeRdn_eq, whole_lower_iff, whole_tidyRdn_iff]

/-- The normal form of a relative name ends escaping exactly if the trimmed name does. -/
theorem endsEscaping_normalizeRdn (rdn : List Char) :
    endsEscaping (normalizeRdn rdn) = endsEscaping (Text.trim rdn) := by
  rw [normalizeRdn_eq, endsEscaping_lower, endsEscaping_tidyRdn]

/-- The normal form of a relative name is empty exactly if the name is blank. -/
theorem normalizeRdn_eq_nil_iff : normalizeRdn rdn = [] ↔ Text.trim rdn = [] := by
  rw [normalizeRdn_eq, Text.lower_eq_nil_iff, tidyRdn_eq_nil_iff]

theorem normalizeRdn_eq_self_iff :
    normalizeRdn rdn = rdn ↔ tidyRdn rdn = rdn ∧ Text.lower rdn = rdn := by
  constructor
  · intro normal
    constructor
    · rw [← normal, normalizeRdn_eq, tidyRdn_lower, tidyRdn_tidyRdn]
    · rw [← normal, normalizeRdn_eq, Text.lower_lower]
  · rintro ⟨tidy, small⟩
    rw [normalizeRdn_eq, tidy, small]

theorem trim_eq_of_tidyRdn
    (first : '=' ∉ key)
    (tidy : tidyRdn (key ++ '=' :: value) = key ++ '=' :: value) :
    Text.trim key = key ∧ Text.trim value = value := by
  have trimmedFirst : '=' ∉ Text.trim key := fun inside => first (Text.mem_of_mem_trim inside)
  rw [tidyRdn_append_cons first] at tidy
  exact Text.append_cons_inj trimmedFirst first tidy

/-- Tidy relative names stay tidy with a comma between them. -/
theorem tidyRdn_append_comma
    {front back : List Char}
    (frontTidy : tidyRdn front = front)
    (backTidy : tidyRdn back = back) :
    tidyRdn (front ++ ',' :: back) = front ++ ',' :: back := by
  have frontTrimmed : Text.trim front = front := frontTidy ▸ trim_tidyRdn front
  have backTrimmed : Text.trim back = back := backTidy ▸ trim_tidyRdn back
  -- The first equals sign stands in the front, in the back, or nowhere.
  rcases Text.not_mem_or_cut '=' front with frontKeyless | ⟨key, value, rfl, first⟩
  · rcases Text.not_mem_or_cut '=' back with backKeyless | ⟨key, value, rfl, first⟩
    · have keyless : '=' ∉ front ++ ',' :: back := by simp [frontKeyless, backKeyless]
      rw [tidyRdn_of_not_mem keyless]
      exact Text.trim_append_cons_of_trim (by decide) frontTrimmed backTrimmed
    · obtain ⟨keyTrimmed, valueTrimmed⟩ := trim_eq_of_tidyRdn first backTidy
      have behind : '=' ∉ front ++ ',' :: key := by simp [frontKeyless, first]
      have split : front ++ ',' :: (key ++ '=' :: value) =
          (front ++ ',' :: key) ++ '=' :: value := by
        simp
      rw [split, tidyRdn_append_cons behind, valueTrimmed,
        Text.trim_append_cons_of_trim (by decide) frontTrimmed keyTrimmed]
  · obtain ⟨keyTrimmed, valueTrimmed⟩ := trim_eq_of_tidyRdn first frontTidy
    rw [List.append_assoc, List.cons_append, tidyRdn_append_cons first, keyTrimmed,
      Text.trim_append_cons_of_trim (by decide) valueTrimmed backTrimmed]

/-- Relative names in normal form stay so when a comma joins them. -/
theorem normalizeRdn_append_comma
    {front back : List Char}
    (frontNormal : normalizeRdn front = front)
    (backNormal : normalizeRdn back = back) :
    normalizeRdn (front ++ ',' :: back) = front ++ ',' :: back := by
  obtain ⟨frontTidy, frontSmall⟩ := normalizeRdn_eq_self_iff.mp frontNormal
  obtain ⟨backTidy, backSmall⟩ := normalizeRdn_eq_self_iff.mp backNormal
  refine normalizeRdn_eq_self_iff.mpr ⟨tidyRdn_append_comma frontTidy backTidy, ?_⟩
  rw [Text.lower_append_cons (by decide), frontSmall, backSmall]

end RelativeNames

section Reading

variable {names : List (List Char)}

theorem forall_mem_mergeEscaping
    {property : List Char → Prop}
    (join : ∀ front back, property front → property back → property (front ++ ',' :: back))
    (all : ∀ name ∈ names, property name) :
    ∀ piece ∈ mergeEscaping names, property piece := by
  fun_induction mergeEscaping names with
  | case1 => exact List.forall_mem_nil _
  | case2 name => exact all
  | case3 name next names opened inductionHypothesis =>
      obtain ⟨head, others⟩ := List.forall_mem_cons.mp all
      have merged := inductionHypothesis others
      cases pieces : mergeEscaping (next :: names) with
      | nil => exact absurd pieces (mergeEscaping_ne_nil (List.cons_ne_nil _ _))
      | cons piece pieces =>
          rw [pieces] at merged
          obtain ⟨first, rest⟩ := List.forall_mem_cons.mp merged
          rw [extendHead_cons, List.append_assoc, List.singleton_append]
          exact List.forall_mem_cons.mpr ⟨join name piece head first, rest⟩
  | case4 name next names closed inductionHypothesis =>
      obtain ⟨head, others⟩ := List.forall_mem_cons.mp all
      exact List.forall_mem_cons.mpr ⟨head, inductionHypothesis others⟩

theorem trim_append_comma_ne_nil (front back : List Char) :
    Text.trim (front ++ ',' :: back) ≠ [] := by
  rw [Text.trim_append_cons (by decide)]
  simp

/-- The relative names of joined texts, none of them blank and none of them cut inside. -/
theorem rdns_joinWith
    (whole : ∀ name ∈ names, Whole name)
    (visible : ∀ name ∈ names, Text.trim name ≠ []) :
    rdns (Text.joinWith [','] names) = (mergeEscaping names).map Text.trim := by
  by_cases filled : names = []
  · subst filled
    rfl
  · have merged : ∀ piece ∈ mergeEscaping names, Text.trim piece ≠ [] :=
      forall_mem_mergeEscaping (fun front back _ _ => trim_append_comma_ne_nil front back) visible
    rw [rdns, commaPieces_joinWith filled whole, List.filter_eq_self]
    rintro rdn inside
    obtain ⟨piece, member, rfl⟩ := List.mem_map.mp inside
    simpa using merged piece member

theorem mem_rdns
    {dn rdn : List Char}
    (inside : rdn ∈ rdns dn) :
    Whole rdn ∧ Text.trim rdn = rdn ∧ rdn ≠ [] := by
  obtain ⟨mapped, filled⟩ := List.mem_filter.mp inside
  obtain ⟨piece, member, rfl⟩ := List.mem_map.mp mapped
  exact ⟨whole_trim_iff.mpr (whole_of_mem_commaPieces dn piece member), Text.trim_trim piece,
    by simpa using filled⟩

/-- Reading the joined normal forms of relative names merges those that end escaping. -/
theorem rdns_joinWith_normalizeRdn
    (whole : ∀ name ∈ names, Whole name)
    (visible : ∀ name ∈ names, Text.trim name ≠ []) :
    rdns (Text.joinWith [','] (names.map normalizeRdn)) =
      mergeEscaping (names.map normalizeRdn) := by
  rw [rdns_joinWith]
  · have trimmed : ∀ piece ∈ mergeEscaping (names.map normalizeRdn), Text.trim piece = id piece :=
      forall_mem_mergeEscaping
        (fun front back => Text.trim_append_cons_of_trim (by decide)) (by simp)
    exact (List.map_congr_left trimmed).trans (List.map_id _)
  · simpa [whole_normalizeRdn_iff] using whole
  · simpa [normalizeRdn_eq_nil_iff] using visible

/-- Reading a normal form gives the normal forms of the relative names, those that end escaping
merged with the next. -/
theorem rdns_normalizeChars (dn : List Char) :
    rdns (normalizeChars dn) = mergeEscaping ((rdns dn).map normalizeRdn) := by
  refine rdns_joinWith_normalizeRdn (fun rdn inside => (mem_rdns inside).1) ?_
  intro rdn inside
  obtain ⟨-, trimmed, filled⟩ := mem_rdns inside
  rwa [trimmed]

/-- Nothing is merged exactly if no trimmed name but the last ends escaping. -/
theorem mergeEscaping_map_normalizeRdn_iff
    (names : List (List Char)) :
    mergeEscaping (names.map normalizeRdn) = names.map normalizeRdn ↔
      ∀ name ∈ names.dropLast, endsEscaping (Text.trim name) = false := by
  rw [mergeEscaping_eq_self_iff, ← List.map_dropLast, List.forall_mem_map]
  simp only [endsEscaping_normalizeRdn]

/-- The relative names of a normal form are in normal form. -/
theorem normalizeRdn_of_mem_rdns
    {dn rdn : List Char}
    (inside : rdn ∈ rdns (normalizeChars dn)) :
    normalizeRdn rdn = rdn := by
  have normal : ∀ piece ∈ mergeEscaping ((rdns dn).map normalizeRdn), normalizeRdn piece = piece :=
    forall_mem_mergeEscaping (fun front back => normalizeRdn_append_comma) (by simp)
  rw [rdns_normalizeChars] at inside
  exact normal rdn inside

/-- The normal form of a normal form is the normal form itself. -/
@[simp] theorem normalizeChars_normalizeChars (dn : List Char) :
    normalizeChars (normalizeChars dn) = normalizeChars dn := by
  have normal : ∀ rdn ∈ rdns (normalizeChars dn), normalizeRdn rdn = id rdn :=
    fun rdn => normalizeRdn_of_mem_rdns
  rw [normalizeChars, List.map_congr_left normal, List.map_id, rdns_normalizeChars,
    joinWith_mergeEscaping, normalizeChars]

theorem trim_joinWith
    (trimmed : ∀ name ∈ names, Text.trim name = name) :
    Text.trim (Text.joinWith [','] names) = Text.joinWith [','] names := by
  induction names with
  | nil => rfl
  | cons name names inductionHypothesis =>
      obtain ⟨first, others⟩ := List.forall_mem_cons.mp trimmed
      cases names with
      | nil => rwa [joinWith_singleton]
      | cons next names =>
          rw [joinWith_cons_cons]
          exact Text.trim_append_cons_of_trim (by decide) first (inductionHypothesis others)

@[simp] theorem trim_normalizeChars (dn : List Char) :
    Text.trim (normalizeChars dn) = normalizeChars dn :=
  trim_joinWith (List.forall_mem_map.mpr fun rdn _ => trim_normalizeRdn rdn)

@[simp] theorem normalize_normalize (dn : String) : normalize (normalize dn) = normalize dn := by
  rw [normalize, toList_normalize, normalizeChars_normalizeChars, normalize]

theorem trim_toList_of_normalize
    {name : String}
    (normal : normalize name = name) :
    Text.trim name.toList = name.toList := by
  rw [← normal, toList_normalize, trim_normalizeChars]

/-- Something is left of a text besides blanks and commas. -/
def NamesSomething (text : List Char) : Prop :=
  ∃ c ∈ text, Text.isBlank c = false ∧ c ≠ ','

instance (text : List Char) : Decidable (NamesSomething text) :=
  List.decidableBEx (fun c => Text.isBlank c = false ∧ c ≠ ',') text

/-- A name has no relative names exactly if it consists of blanks and commas. -/
theorem rdns_eq_nil_iff
    {dn : List Char} :
    rdns dn = [] ↔ ¬ NamesSomething dn := by
  have empty : rdns dn = [] ↔ ∀ piece ∈ commaPieces dn, ∀ c ∈ piece, Text.isBlank c = true := by
    simp [rdns, List.filter_eq_nil_iff, Text.trim_eq_nil_iff]
  rw [empty]
  constructor
  · rintro blank ⟨c, inside, visible, other⟩
    rw [← joinWith_commaPieces dn, mem_joinWith_iff other] at inside
    obtain ⟨piece, cut, found⟩ := inside
    exact absurd (blank piece cut c found) (by simp [visible])
  · intro nothing piece cut
    have blank : ∀ c ∈ piece, c ≠ ',' → Text.isBlank c = true := by
      intro c found other
      have inside : c ∈ dn := by
        rw [← joinWith_commaPieces dn, mem_joinWith_iff other]
        exact ⟨piece, cut, found⟩
      by_contra visible
      exact nothing ⟨c, inside, by simpa using visible, other⟩
    intro c found
    by_cases comma : c = ','
    · -- A comma inside a piece is protected by a backslash, which is no blank.
      subst comma
      obtain ⟨first, second, rfl⟩ := List.append_of_mem found
      have opened := whole_iff.mp (whole_of_mem_commaPieces dn _ cut) first second rfl
      obtain ⟨front, rfl, -⟩ := exists_eq_concat_of_endsEscaping opened
      exact absurd (blank '\\' (by simp) (by decide)) (by decide)
    · exact blank c found comma

/-- The normal form of a name is empty exactly if the name consists of blanks and commas. -/
theorem normalizeChars_eq_nil_iff
    {dn : List Char} :
    normalizeChars dn = [] ↔ ¬ NamesSomething dn := by
  rw [← rdns_eq_nil_iff]
  constructor
  · intro nothing
    have merged := rdns_normalizeChars dn
    rw [nothing] at merged
    by_contra filled
    exact mergeEscaping_ne_nil (by simpa using filled) merged.symm
  · intro nothing
    rw [normalizeChars, nothing]
    rfl

/-- A name is left after normalisation exactly if the text names something. -/
theorem normalize_ne_empty_iff
    {text : String} :
    normalize text ≠ "" ↔ NamesSomething text.toList := by
  rw [← not_iff_not, not_not, ← normalizeChars_eq_nil_iff, ← toList_normalize]
  exact String.toList_eq_nil_iff.symm

example : NamesSomething " ,=".toList ∧ ¬ NamesSomething " , ,".toList := by decide +kernel

/-- Normalization brings no mark but commas into a name. -/
theorem mem_of_mem_normalizeChars
    {dn : List Char}
    {c : Char}
    (mark : Text.isMark c = true)
    (other : c ≠ ',')
    (inside : c ∈ normalizeChars dn) :
    c ∈ dn := by
  obtain ⟨name, member, found⟩ := (mem_joinWith_iff other).mp inside
  obtain ⟨rdn, listed, rfl⟩ := List.mem_map.mp member
  rw [normalizeRdn_eq, Text.mem_lower_iff mark] at found
  obtain ⟨mapped, -⟩ := List.mem_filter.mp listed
  obtain ⟨piece, cut, rfl⟩ := List.mem_map.mp mapped
  rw [← joinWith_commaPieces dn, mem_joinWith_iff other]
  exact ⟨piece, cut, Text.mem_of_mem_trim (mem_of_mem_tidyRdn found)⟩

/-- Normalisation keeps the relative names exactly if it keeps them apart. -/
theorem rdns_normalizeChars_eq_iff (dn : List Char) :
    rdns (normalizeChars dn) = (rdns dn).map normalizeRdn ↔ KeepsApart dn := by
  rw [rdns_normalizeChars, mergeEscaping_map_normalizeRdn_iff, KeepsApart]
  refine forall₂_congr fun rdn inside => ?_
  rw [(mem_rdns (List.dropLast_subset _ inside)).2.1]

/-- Joined texts become the relative names of the joined name exactly if none of them is cut
inside and none but the last comes to protect the comma behind it. -/
theorem rdns_normalizeChars_joinWith_iff
    (visible : ∀ name ∈ names, Text.trim name ≠ []) :
    rdns (normalizeChars (Text.joinWith [','] names)) = names.map normalizeRdn ↔
      (∀ name ∈ names, Whole name) ∧
        ∀ name ∈ names.dropLast, endsEscaping (Text.trim name) = false := by
  have normalTrim : normalizeRdn ∘ Text.trim = normalizeRdn := funext normalizeRdn_trim
  constructor
  · intro kept
    have whole : ∀ name ∈ names, Whole name := by
      intro name member
      have listed : normalizeRdn name ∈ names.map normalizeRdn := List.mem_map_of_mem member
      rw [← kept] at listed
      exact whole_normalizeRdn_iff.mp (mem_rdns listed).1
    rw [rdns_normalizeChars, rdns_joinWith whole visible, List.map_map, normalTrim] at kept
    -- As many come out as went in, so nothing was merged on the way.
    have count := congrArg List.length kept
    have outer := length_mergeEscaping_le ((mergeEscaping names).map normalizeRdn)
    have inner := length_mergeEscaping_le names
    rw [List.length_map] at count outer
    have unmerged : mergeEscaping names = names :=
      mergeEscaping_of_closed (length_mergeEscaping_iff.mp (by omega))
    rw [unmerged] at kept
    exact ⟨whole, (mergeEscaping_map_normalizeRdn_iff names).mp kept⟩
  · rintro ⟨whole, closed⟩
    have unmerged : mergeEscaping names = names := by
      refine mergeEscaping_of_closed fun name member => ?_
      have closedTrim := closed name member
      rw [← Bool.not_eq_true] at closedTrim ⊢
      exact fun opened => closedTrim (endsEscaping_trim opened)
    rw [rdns_normalizeChars, rdns_joinWith whole visible, List.map_map, normalTrim, unmerged]
    exact (mergeEscaping_map_normalizeRdn_iff names).mpr closed

/-- Normalization keeps the relative names of a name, each in its normal form, exactly when no
separating comma comes to be protected. Among such names, those with the same normal form have
the same number of relative names, which are pairwise the same after normalization. -/
theorem normalize_keeps_rdns (first second : String) :
    (rdns (normalize first).toList = (rdns first.toList).map normalizeRdn ↔
      KeepsApart first.toList) ∧
    (KeepsApart first.toList → KeepsApart second.toList →
      (normalize first = normalize second ↔
        (rdns first.toList).map normalizeRdn = (rdns second.toList).map normalizeRdn)) := by
  refine ⟨?_, fun firstApart secondApart => ⟨fun same => ?_, fun same => ?_⟩⟩
  · rw [toList_normalize, rdns_normalizeChars_eq_iff]
  · rw [← rdns_normalizeChars_eq_iff] at firstApart secondApart
    rw [← firstApart, ← secondApart, ← toList_normalize, ← toList_normalize, same]
  · rw [normalize, normalize, normalizeChars, normalizeChars, same]

/-- Blanks and capitals do not matter to names whose commas stay as they are. -/
theorem normalize_keeps_rdns_alice :
    KeepsApart "CN=Alice , O=X".toList ∧ KeepsApart "cn=alice,o=x".toList ∧
      (normalize "CN=Alice , O=X" = normalize "cn=alice,o=x" ↔
        (rdns "CN=Alice , O=X".toList).map normalizeRdn =
          (rdns "cn=alice,o=x".toList).map normalizeRdn) := by
  have first : KeepsApart "CN=Alice , O=X".toList := by decide +kernel
  have second : KeepsApart "cn=alice,o=x".toList := by decide +kernel
  exact ⟨first, second, (normalize_keeps_rdns "CN=Alice , O=X" "cn=alice,o=x").2 first second⟩

/-- A blank behind a backslash is trimmed off, and the backslash protects the comma: two relative
names become one, and the name is no longer told apart from another one. -/
theorem normalize_joins_rdns :
    rdns (normalize "cn=a\\ ,o=x").toList ≠ (rdns "cn=a\\ ,o=x".toList).map normalizeRdn ∧
      normalize "cn=a\\ ,o=x" = normalize "cn=a\\,o=x" ∧
      (rdns "cn=a\\ ,o=x".toList).length ≠ (rdns "cn=a\\,o=x".toList).length := by
  decide +kernel

end Reading

end Dn

namespace DnPair

theorem normalize_subject (pair : DnPair) : Dn.normalize pair.subject = pair.subject := by
  obtain ⟨text, equal⟩ := pair.subject_normal
  rw [← equal, Dn.normalize_normalize]

theorem normalize_issuer (pair : DnPair) : Dn.normalize pair.issuer = pair.issuer := by
  obtain ⟨text, equal⟩ := pair.issuer_normal
  rw [← equal, Dn.normalize_normalize]

@[simp] theorem ofNames_self (pair : DnPair) : ofNames pair.subject pair.issuer = pair :=
  DnPair.ext pair.normalize_subject pair.normalize_issuer

/-- Normal forms are fixed points: normalizing once more changes nothing. A certificate, the
headers, the text of an entry and a document all have their pairs made of two names by
`ofNames`, so the names of every pair are fixed points, and they make the same pair again. -/
theorem names_stay_normal :
    (∀ text, Dn.normalize (Dn.normalize text) = Dn.normalize text) ∧
      ∀ pair : DnPair,
        Dn.normalize pair.subject = pair.subject ∧
        Dn.normalize pair.issuer = pair.issuer ∧
        ofNames pair.subject pair.issuer = pair :=
  ⟨Dn.normalize_normalize, fun pair =>
    ⟨pair.normalize_subject, pair.normalize_issuer, pair.ofNames_self⟩⟩

/-- Both names of a pair are there. -/
structure IsComplete (pair : DnPair) : Prop where
  subject : pair.subject ≠ ""
  issuer : pair.issuer ≠ ""

/-- A pair is complete exactly if both texts name something. -/
theorem isComplete_ofNames_iff
    {subject issuer : String} :
    (ofNames subject issuer).IsComplete ↔
      Dn.NamesSomething subject.toList ∧ Dn.NamesSomething issuer.toList := by
  rw [← Dn.normalize_ne_empty_iff, ← Dn.normalize_ne_empty_iff]
  exact ⟨fun complete => ⟨complete.subject, complete.issuer⟩, fun both => ⟨both.1, both.2⟩⟩

end DnPair

end Delegation
