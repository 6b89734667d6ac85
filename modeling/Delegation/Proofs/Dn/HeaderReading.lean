import Mathlib.Data.List.Sort
import Delegation.Auth.Extraction
import Delegation.Proofs.Dn.HeaderRoundTrip

/-!
# What a header value is read as

A trimmed header value is empty, or it is a single name without an opening bracket, or it is a
row of parts in brackets, which is a row in one way only. Exactly these values are read, as the
normal forms of what they hold. Where no duplicates are allowed, the names are left in the order
of their first occurrences.
-/

namespace Delegation
namespace Dn

/-- A text is a row of parts in brackets with nothing between them. No part is blank, and none
holds a bracket. -/
structure IsRow
    (text : List Char)
    (parts : List (List Char)) : Prop where
  filled : parts ≠ []
  joined : text = parts.flatMap bracketed
  visible : ∀ part ∈ parts, ∃ c ∈ part, Text.isBlank c = false
  unbracketed : ∀ part ∈ parts, Unbracketed part

/-- The first occurrence of a name stands before that of another name. -/
def ComesBefore (names : List String) (first second : String) : Prop :=
  names.idxOf first < names.idxOf second

/-- The names of a list, each once, in the order of their first occurrences. -/
structure KeepsFirst
    (names kept : List String) : Prop where
  mem_iff : ∀ name, name ∈ kept ↔ name ∈ names
  ordered : kept.Pairwise (ComesBefore names)

/-- A trimmed header value is read by the form that it has, and refused if it has none. -/
structure FollowsGrammar
    (text : List Char)
    (result : Except HeaderFault (List String)) : Prop where
  empty : text = [] → result = .ok []
  single : text ≠ [] → '<' ∉ text → result = .ok [normalize (String.ofList text)]
  row : ∀ parts, IsRow text parts →
    result = .ok (parts.map fun part => normalize (String.ofList part))
  formless : '<' ∈ text → (¬ ∃ parts, IsRow text parts) →
    result = .error (.malformed (String.ofList text))

section Rows

variable {text : List Char} {parts : List (List Char)}

theorem isEntry_iff
    {part : List Char} :
    isEntry part = true ↔ (∃ c ∈ part, Text.isBlank c = false) ∧ Unbracketed part := by
  have visible : Text.trim part ≠ [] ↔ ∃ c ∈ part, Text.isBlank c = false := by
    simp [Text.trim_eq_nil_iff]
  rw [← visible]
  simp [isEntry, Text.isBlankText, Unbracketed, and_assoc]

/-- A row is what a value lists that holds an opening bracket. -/
theorem isRow_iff_lists :
    IsRow text parts ↔ Lists text parts ∧ '<' ∈ text := by
  constructor
  · rintro ⟨filled, rfl, visible, unbracketed⟩
    refine ⟨.bracketed filled fun part inside =>
      isEntry_iff.mpr ⟨visible part inside, unbracketed part inside⟩, ?_⟩
    obtain ⟨part, others, rfl⟩ := List.exists_cons_of_ne_nil filled
    exact List.mem_cons_self
  · rintro ⟨lists, opened⟩
    cases lists with
    | none => exact absurd opened List.not_mem_nil
    | one nonempty bare => exact absurd opened bare
    | bracketed nonempty valid =>
        exact ⟨nonempty, rfl, fun part inside => (isEntry_iff.mp (valid part inside)).1,
          fun part inside => (isEntry_iff.mp (valid part inside)).2⟩

/-- A text is a row of entries in one way only. -/
theorem IsRow.unique
    {other : List (List Char)}
    (row : IsRow text parts)
    (otherRow : IsRow text other) :
    parts = other :=
  (isRow_iff_lists.mp row).1.unique (isRow_iff_lists.mp otherRow).1

end Rows

section Reading

variable {value : String} {entries : List (List Char)}

/-- What a value lists is read in normal form. -/
theorem splitHeader_of_lists
    (lists : Lists (Text.trim value.toList) entries) :
    splitHeader value true = .ok (entries.map fun entry => normalize (String.ofList entry)) := by
  rw [splitHeader_eq_ok]
  refine ⟨entries, lists, ?_⟩
  simp only [normalize, String.toList_ofList]

/-- A text that lists nothing is refused as malformed, and the refusal shows it trimmed. -/
theorem splitHeader_of_not_lists
    (formless : ∀ entries, ¬ Lists (Text.trim value.toList) entries)
    (allowDuplicates : Bool) :
    splitHeader value allowDuplicates =
      .error (.malformed (String.ofList (Text.trim value.toList))) := by
  have nothing : headerEntries? (Text.trim value.toList) = none := by
    cases found : headerEntries? (Text.trim value.toList) with
    | none => rfl
    | some entries => exact absurd (headerEntries?_eq_some.mp found) (formless entries)
  simp only [splitHeader, nothing]

/-- Splitting a header follows the grammar. -/
theorem followsGrammar_splitHeader (value : String) :
    FollowsGrammar (Text.trim value.toList) (splitHeader value true) where
  empty := by
    intro nothing
    have lists : Lists (Text.trim value.toList) [] := by
      rw [nothing]
      exact .none
    exact splitHeader_of_lists lists
  single := fun nonempty bare => splitHeader_of_lists (.one nonempty bare)
  row := fun parts row => splitHeader_of_lists (isRow_iff_lists.mp row).1
  formless := by
    intro opened formless
    apply splitHeader_of_not_lists
    intro entries lists
    exact formless ⟨entries, isRow_iff_lists.mpr ⟨lists, opened⟩⟩

end Reading

section Duplicates

variable {names kept : List String} {first second name : String}

theorem ComesBefore.concat
    (before : ComesBefore names first second)
    (firstKnown : first ∈ names)
    (secondKnown : second ∈ names)
    (name : String) :
    ComesBefore (names ++ [name]) first second := by
  rw [ComesBefore, List.idxOf_append_of_mem firstKnown, List.idxOf_append_of_mem secondKnown]
  exact before

/-- A name that is new comes behind all others. -/
theorem comesBefore_concat_self
    (known : first ∈ names)
    (new : name ∉ names) :
    ComesBefore (names ++ [name]) first name := by
  have inside := List.idxOf_lt_length_of_mem known
  rw [ComesBefore, List.idxOf_append_of_mem known, List.idxOf_append_of_notMem new]
  omega

/-- There is only one list of the names in the order of their first occurrences. -/
theorem KeepsFirst.unique
    {other : List String}
    (keeps : KeepsFirst names kept)
    (otherKeeps : KeepsFirst names other) :
    kept = other := by
  have irrefl : Std.Irrefl (ComesBefore names) := ⟨fun _ => Nat.lt_irrefl _⟩
  have antisymm : Std.Antisymm (ComesBefore names) :=
    ⟨fun _ _ before behind => absurd behind (Nat.lt_asymm before)⟩
  apply List.Pairwise.eq_of_mem_iff keeps.ordered otherKeeps.ordered
  intro name
  rw [keeps.mem_iff, otherKeeps.mem_iff]

theorem KeepsFirst.ordered_concat
    (keeps : KeepsFirst names kept)
    (name : String) :
    kept.Pairwise (ComesBefore (names ++ [name])) :=
  keeps.ordered.imp_of_mem fun first second before =>
    before.concat ((keeps.mem_iff _).mp first) ((keeps.mem_iff _).mp second) name

theorem KeepsFirst.concat_of_mem
    (keeps : KeepsFirst names kept)
    (known : name ∈ names) :
    KeepsFirst (names ++ [name]) kept := by
  refine ⟨?_, keeps.ordered_concat name⟩
  intro other
  rw [keeps.mem_iff, List.mem_append, List.mem_singleton]
  constructor
  · exact .inl
  · rintro (inside | rfl)
    · exact inside
    · exact known

theorem KeepsFirst.concat_of_not_mem
    (keeps : KeepsFirst names kept)
    (new : name ∉ names) :
    KeepsFirst (names ++ [name]) (kept ++ [name]) := by
  constructor
  · intro other
    rw [List.mem_append, List.mem_append, keeps.mem_iff]
  · rw [List.pairwise_append]
    refine ⟨keeps.ordered_concat name, List.pairwise_singleton _ _, ?_⟩
    intro first member last single
    obtain rfl := List.mem_singleton.mp single
    exact comesBefore_concat_self ((keeps.mem_iff first).mp member) new

theorem firstOccurrences_concat
    (names : List String)
    (name : String) :
    firstOccurrences (names ++ [name]) =
      if (firstOccurrences names).contains name then firstOccurrences names
      else firstOccurrences names ++ [name] := by
  rw [firstOccurrences, List.foldl_append]
  rfl

/-- Dropping repeated names keeps the first of each, in order. -/
theorem keepsFirst_firstOccurrences (names : List String) :
    KeepsFirst names (firstOccurrences names) := by
  -- The names are gone through from the left, so the induction takes the last one off.
  induction names using List.reverseRecOn with
  | nil => exact ⟨fun _ => Iff.rfl, .nil⟩
  | append_singleton names name keeps =>
      have known : (firstOccurrences names).contains name = true ↔ name ∈ names := by
        rw [List.contains_iff_mem, keeps.mem_iff]
      rw [firstOccurrences_concat]
      split
      · rename_i found
        exact keeps.concat_of_mem (known.mp found)
      · rename_i missing
        exact keeps.concat_of_not_mem (mt known.mpr missing)

/-- Where duplicates are not allowed, the names that are read otherwise are left in the order of
their first occurrences. -/
theorem splitHeader_false_eq_ok_iff
    {value : String} :
    splitHeader value false = .ok kept ↔
      ∃ names, splitHeader value true = .ok names ∧ KeepsFirst names kept := by
  simp only [splitHeader]
  cases headerEntries? (Text.trim value.toList) with
  | none => simp
  | some entries =>
      simp only [Except.ok.injEq, exists_eq_left', Bool.false_eq_true, if_false, if_true]
      constructor
      · rintro rfl
        exact keepsFirst_firstOccurrences _
      · exact fun keeps => (keepsFirst_firstOccurrences _).unique keeps

/-- Whether repeated names are kept has no part in which headers are refused. -/
theorem splitHeader_false_eq_error_iff
    {value : String}
    {fault : HeaderFault} :
    splitHeader value false = .error fault ↔ splitHeader value true = .error fault := by
  simp only [splitHeader]
  cases headerEntries? (Text.trim value.toList) <;> simp

end Duplicates

/-- A header value is read by the grammar of its trimmed text, in which a row of parts has its
parts in one way only. Duplicates make no difference to what is refused; where they are not
allowed, the same names come in the order of their first occurrences. Who presents a value that
is refused is refused for bad credentials. -/
theorem splitHeader_by_grammar (value : String) :
    FollowsGrammar (Text.trim value.toList) (splitHeader value true) ∧
    (∀ parts other, IsRow (Text.trim value.toList) parts →
      IsRow (Text.trim value.toList) other → parts = other) ∧
    (∀ kept, splitHeader value false = .ok kept ↔
      ∃ names, splitHeader value true = .ok names ∧ KeepsFirst names kept) ∧
    (∀ fault, splitHeader value false = .error fault ↔ splitHeader value true = .error fault) ∧
    ExtractionPolicy.headerNames value =
      (splitHeader value true).mapError fun fault => .credentialsInvalid (.header fault) := by
  refine ⟨followsGrammar_splitHeader value, fun _ _ => IsRow.unique,
    fun _ => splitHeader_false_eq_ok_iff, fun _ => splitHeader_false_eq_error_iff, ?_⟩
  rw [ExtractionPolicy.headerNames]
  cases splitHeader value true <;> rfl

example :
    splitHeader " <CN=a><cn=b><cn=A> " false = .ok ["cn=a", "cn=b"] ∧
      splitHeader "<cn=a> <cn=b>" true = .error (.malformed "<cn=a> <cn=b>") := by
  decide +kernel

end Dn
end Delegation
