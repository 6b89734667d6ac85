/-!
# Maps keyed by names

Finite maps from texts, held as a list of entries with strictly increasing keys. A later
entry for a key replaces an earlier one.
-/

namespace Delegation

/-- A finite map from texts, in the code point order of its keys. -/
structure NameMap (α : Type) where
  /-- The entries in increasing order of their keys. -/
  toList : List (String × α)
  /-- The keys increase strictly. -/
  increasing : toList.Pairwise fun first second => first.1 < second.1
  deriving DecidableEq

namespace NameMap

variable {α β : Type}

/-- Put an entry at its place in a list with increasing keys, in place of one with its key. -/
def insertInto (key : String) (value : α) : List (String × α) → List (String × α)
  | [] => [(key, value)]
  | first :: rest =>
      if key < first.1 then (key, value) :: first :: rest
      else if key = first.1 then (key, value) :: rest
      else first :: insertInto key value rest

theorem mem_insertInto {key : String} {value : α} {entry : String × α}
    {entries : List (String × α)} (found : entry ∈ insertInto key value entries) :
    entry = (key, value) ∨ entry ∈ entries := by
  induction entries with
  | nil => simpa [insertInto] using found
  | cons first rest ih =>
      unfold insertInto at found
      split at found
      · simpa using found
      · split at found
        · rcases List.mem_cons.mp found with h | h
          · exact .inl h
          · exact .inr (List.mem_cons_of_mem _ h)
        · rcases List.mem_cons.mp found with h | h
          · exact .inr (by simp [h])
          · rcases ih h with h | h
            · exact .inl h
            · exact .inr (List.mem_cons_of_mem _ h)

theorem increasing_insertInto (key : String) (value : α) {entries : List (String × α)}
    (increasing : entries.Pairwise fun first second => first.1 < second.1) :
    (insertInto key value entries).Pairwise fun first second => first.1 < second.1 := by
  induction entries with
  | nil => simp [insertInto]
  | cons first rest ih =>
      obtain ⟨below, tail⟩ := List.pairwise_cons.mp increasing
      unfold insertInto
      split
      · rename_i less
        refine List.pairwise_cons.mpr ⟨?_, increasing⟩
        intro other found
        rcases List.mem_cons.mp found with rfl | found
        · exact less
        · exact String.lt_trans less (below other found)
      · split
        · rename_i same
          refine List.pairwise_cons.mpr ⟨?_, tail⟩
          intro other found
          simpa [same] using below other found
        · rename_i notLess different
          refine List.pairwise_cons.mpr ⟨?_, ih tail⟩
          intro other found
          rcases mem_insertInto found with rfl | found
          · exact Std.lt_of_le_of_ne (Std.not_lt.mp notLess) (Ne.symm different)
          · exact below other found

/-- The map without entries. -/
def empty : NameMap α := ⟨[], .nil⟩

instance : EmptyCollection (NameMap α) := ⟨empty⟩

instance : Inhabited (NameMap α) := ⟨empty⟩

/-- Set the value of a key. -/
def insert (key : String) (value : α) (map : NameMap α) : NameMap α :=
  ⟨insertInto key value map.toList, increasing_insertInto key value map.increasing⟩

/-- The value of a key. -/
def get? (key : String) (map : NameMap α) : Option α :=
  (map.toList.find? (·.1 == key)).map (·.2)

/-- The keys in increasing order. -/
def keys (map : NameMap α) : List String :=
  map.toList.map (·.1)

/-- A key has a value. -/
def contains (key : String) (map : NameMap α) : Bool :=
  map.toList.any (·.1 == key)

/-- The map of a list of entries, the last one for a key counting. -/
def ofList (entries : List (String × α)) : NameMap α :=
  entries.foldl (fun map entry => map.insert entry.1 entry.2) empty

/-- Change every value, given its key. -/
def mapValues (change : String → α → β) (map : NameMap α) : NameMap β where
  toList := map.toList.map fun entry => (entry.1, change entry.1 entry.2)
  increasing := by
    rw [List.pairwise_map]
    exact map.increasing

/-- The entries whose keys satisfy a test. -/
def filterKeys (keep : String → Bool) (map : NameMap α) : NameMap α :=
  ⟨map.toList.filter fun entry => keep entry.1, map.increasing.filter _⟩

end NameMap
end Delegation
