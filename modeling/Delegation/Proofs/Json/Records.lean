import Delegation.Json.Record
import Delegation.Proofs.Chain.Authorities
import Delegation.Proofs.Json.RoundTrip
import Delegation.Proofs.Basic

/-!
# Records are read as they were written

The fields of a record are found under their names in an object that writes no name twice, and
a field that is not written is absent. Lists and sets are read as they were written.
-/

namespace Delegation

theorem NameSet.ofList_toList (names : NameSet) : NameSet.ofList names.toList = names :=
  NameSet.eq_of_mem_iff fun _ => NameSet.mem_ofList

namespace Json

/-- A number fits into 64 bits with its sign. -/
def IsInt64 (value : Int) : Prop :=
  -0x8000000000000000 ≤ value ∧ value ≤ 0x7FFFFFFFFFFFFFFF

instance (value : Int) : Decidable (IsInt64 value) :=
  inferInstanceAs (Decidable (_ ∧ _))

theorem int64?_integer
    {value : Int}
    (fits : IsInt64 value) :
    int64? (.integer value) = some value := by
  simpa [int64?, intBetween?, asInt?, IsInt64] using fits

/-- The values of a list are read one by one. -/
theorem listOf?_array_map
    {α : Type}
    {write : α → Json}
    {read : Json → Option α}
    {values : List α}
    (reads : ∀ value ∈ values, read (write value) = some value) :
    listOf? read (.array (values.map write)) = some values :=
  mapM_map_eq_some reads

theorem nameSet?_ofNameSet (names : NameSet) :
    nameSet? (ofNameSet names) = some names := by
  have texts : strings? (ofStrings names.toList) = some names.toList :=
    listOf?_array_map fun _ _ => rfl
  rw [nameSet?, ofNameSet, texts, Option.map_some, NameSet.ofList_toList]

theorem isExact_ofNameSet (names : NameSet) : (ofNameSet names).IsExact := by
  refine .array _ fun item inside => ?_
  obtain ⟨text, -, rfl⟩ := List.mem_map.mp inside
  exact .string text

/-- The members that an object writes under a name. -/
theorem filter_key
    (members : List (String × Json))
    (name : String) :
    (members.map fun member => (some member.1, member.2)).filter (·.1 == some name) =
      (members.filter (·.1 == name)).map fun member => (some member.1, member.2) := by
  rw [List.filter_map]
  rfl

theorem filter_key_eq_nil
    {members : List (String × Json)}
    {name : String}
    (absent : name ∉ members.map Prod.fst) :
    members.filter (·.1 == name) = [] := by
  rw [List.filter_eq_nil_iff]
  rintro member inside same
  exact absent (beq_iff_eq.mp same ▸ List.mem_map_of_mem inside)

/-- Where no name is written twice, a name has at most the one member that is looked up. -/
theorem filter_key_of_nodup
    {members : List (String × Json)}
    (distinct : (members.map Prod.fst).Nodup)
    (name : String) :
    members.filter (·.1 == name) =
      ((members.lookup name).map fun value => (name, value)).toList := by
  induction members with
  | nil => rfl
  | cons member members inductionHypothesis =>
      obtain ⟨key, value⟩ := member
      obtain ⟨absent, others⟩ := List.nodup_cons.mp distinct
      by_cases same : key = name
      · subst same
        simp [filter_key_eq_nil absent]
      · have other : (name == key) = false := beq_false_of_ne (Ne.symm same)
        simp [List.lookup_cons, same, other, inductionHypothesis others]

/-- The fields of a record are the members under their names. -/
theorem fields?_ofMembers
    {members : List (String × Json)}
    (distinct : (members.map Prod.fst).Nodup)
    (names : List String) :
    fields? names (ofMembers members) = some (names.map fun name => members.lookup name) := by
  have texts : (members.map fun member => (some member.1, member.2)).any
      (fun member => member.1.isNone) = false := by
    simp
  rw [ofMembers, fields?, texts, if_neg Bool.false_ne_true, mapM_eq_some_iff, List.map_map]
  refine List.map_congr_left fun name _ => ?_
  rw [filter_key, filter_key_of_nodup distinct]
  cases found : members.lookup name <;> simp [found]

/-! What is read from a record says what is written in it. -/

section Written

variable {json : Json}

theorem eq_ofString_of_asString?
    {text : String}
    (read : json.asString? = some text) :
    json = .ofString text := by
  unfold asString? at read
  split at read
  · exact congrArg string read
  · nomatch read

theorem eq_integer_of_int64?
    {value : Int}
    (read : json.int64? = some value) :
    json = .integer value := by
  obtain ⟨whole, -⟩ := Option.filter_eq_some_iff.mp read
  unfold asInt? at whole
  split at whole
  · exact congrArg integer (Option.some.inj whole)
  · nomatch whole

theorem eq_array_of_listOf?
    {α : Type}
    {item : Json → Option α}
    {values : List α}
    (read : listOf? item json = some values) :
    ∃ items, json = .array items ∧ items.mapM item = some values := by
  unfold listOf? at read
  split at read
  · exact ⟨_, rfl, read⟩
  · nomatch read

/-- The field under a name is the last member under it, which is the only one. -/
theorem field_eq_member?
    {members : List (Option String × Json)}
    {name : String}
    {field : Option Json}
    (read : (match members.filter (·.1 == some name) with
      | [] => some none
      | [member] => some (some member.2)
      | _ => none) = some field) :
    field = member? name (.object members) := by
  rw [member?, ← List.head?_filter, List.filter_reverse]
  split at read
  · rename_i none
    rw [none]
    exact (Option.some.inj read).symm
  · rename_i member only
    rw [only]
    exact (Option.some.inj read).symm
  · nomatch read

/-- The fields of an object are its members under their names. -/
theorem eq_map_member?_of_fields?
    {names : List String}
    {members : List (Option String × Json)}
    {fields : List (Option Json)}
    (read : fields? names (.object members) = some fields) :
    fields = names.map fun name => member? name (.object members) := by
  rw [fields?] at read
  split at read
  · nomatch read
  · exact eq_map_of_mapM (fun name field => field_eq_member?) read

end Written

end Json
end Delegation
