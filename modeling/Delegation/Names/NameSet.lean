/-!
# Sets of names

Finite sets of texts, held as the strictly increasing list of their members. Two sets with
the same members are therefore equal, and the list is the set in its written order.
-/

namespace Delegation

/-- A finite set of texts in code point order. -/
structure NameSet where
  /-- The members in increasing order. -/
  toList : List String
  /-- The members increase strictly. -/
  increasing : toList.Pairwise (· < ·)
  deriving DecidableEq

namespace NameSet

/-- Put a name at its place in an increasing list, unless it is there already. -/
def insertInto (name : String) : List String → List String
  | [] => [name]
  | first :: rest =>
      if name < first then name :: first :: rest
      else if name = first then first :: rest
      else first :: insertInto name rest

theorem mem_insertInto {name other : String} {names : List String} :
    other ∈ insertInto name names ↔ other = name ∨ other ∈ names := by
  induction names with
  | nil => simp [insertInto]
  | cons first rest ih =>
      unfold insertInto
      split
      · simp
      · split
        · rename_i same
          simp [same]
        · simp only [List.mem_cons, ih]
          constructor
          · rintro (h | h | h) <;> simp [h]
          · rintro (h | h | h) <;> simp [h]

theorem increasing_insertInto (name : String) {names : List String}
    (increasing : names.Pairwise (· < ·)) : (insertInto name names).Pairwise (· < ·) := by
  induction names with
  | nil => simp [insertInto]
  | cons first rest ih =>
      obtain ⟨below, tail⟩ := List.pairwise_cons.mp increasing
      unfold insertInto
      split
      · rename_i less
        refine List.pairwise_cons.mpr ⟨?_, increasing⟩
        intro other found
        rcases List.mem_cons.mp found with rfl | found
        · exact less
        · exact String.lt_trans less (below other found)
      · split
        · exact increasing
        · rename_i notLess different
          refine List.pairwise_cons.mpr ⟨?_, ih tail⟩
          intro other found
          rcases mem_insertInto.mp found with rfl | found
          · exact Std.lt_of_le_of_ne (Std.not_lt.mp notLess) (Ne.symm different)
          · exact below other found

/-- The set without members. -/
def empty : NameSet := ⟨[], .nil⟩

instance : EmptyCollection NameSet := ⟨empty⟩

instance : Inhabited NameSet := ⟨empty⟩

instance : Membership String NameSet := ⟨fun names name => name ∈ names.toList⟩

theorem mem_def {name : String} {names : NameSet} : name ∈ names ↔ name ∈ names.toList := Iff.rfl

instance (name : String) (names : NameSet) : Decidable (name ∈ names) :=
  inferInstanceAs (Decidable (name ∈ names.toList))

/-- Add a name. -/
def insert (name : String) (names : NameSet) : NameSet :=
  ⟨insertInto name names.toList, increasing_insertInto name names.increasing⟩

@[simp] theorem mem_insert {name other : String} {names : NameSet} :
    other ∈ names.insert name ↔ other = name ∨ other ∈ names :=
  mem_insertInto

/-- The set of the names of a list. -/
def ofList (names : List String) : NameSet :=
  names.foldr insert empty

@[simp] theorem not_mem_empty (name : String) : name ∉ (empty : NameSet) := by
  simp [mem_def, empty]

@[simp] theorem mem_ofList {name : String} {names : List String} :
    name ∈ ofList names ↔ name ∈ names := by
  induction names with
  | nil => simp [ofList]
  | cons first rest ih =>
      have unfolded : ofList (first :: rest) = (ofList rest).insert first := rfl
      simp [unfolded, ih]

/-- The members with a property. -/
def filter (keep : String → Bool) (names : NameSet) : NameSet :=
  ⟨names.toList.filter keep, names.increasing.filter keep⟩

@[simp] theorem mem_filter {keep : String → Bool} {name : String} {names : NameSet} :
    name ∈ names.filter keep ↔ name ∈ names ∧ keep name = true := by
  simp [mem_def, filter]

/-- The members of both sets. -/
def inter (first second : NameSet) : NameSet :=
  first.filter fun name => decide (name ∈ second)

@[simp] theorem mem_inter {name : String} {first second : NameSet} :
    name ∈ first.inter second ↔ name ∈ first ∧ name ∈ second := by
  simp [inter]

/-- Two sets have no member in common. -/
def isDisjoint (first second : NameSet) : Bool :=
  first.toList.all fun name => decide (name ∉ second)

theorem isDisjoint_iff {first second : NameSet} :
    first.isDisjoint second = true ↔ ∀ name ∈ first, name ∉ second := by
  simp [isDisjoint, mem_def]

end NameSet
end Delegation
