import Mathlib.Data.List.Sort
import Delegation.Names.NameMap

/-!
# Maps keyed by names

A map has the entries that it is made of, where these come in the order of their keys already. What
it has for a key is the entry with that key, and values that are changed in their places are found
under the same keys.
-/

namespace Delegation
namespace NameMap

variable {α β : Type}

/-- Maps with the same entries are equal. -/
theorem eq_of_toList_eq
    {first second : NameMap α}
    (same : first.toList = second.toList) :
    first = second := by
  cases first
  cases second
  simpa using same

/-- An entry whose key comes behind all others goes to the end. -/
theorem insertInto_of_forall_lt
    {key : String}
    {value : α}
    {entries : List (String × α)}
    (behind : ∀ entry ∈ entries, entry.1 < key) :
    insertInto key value entries = entries ++ [(key, value)] := by
  induction entries with
  | nil => rfl
  | cons first rest inductionHypothesis =>
      obtain ⟨less, others⟩ := List.forall_mem_cons.mp behind
      have notBefore : ¬key < first.1 := String.lt_asymm less
      have notSame : key ≠ first.1 := (Std.ne_of_lt less).symm
      rw [insertInto, if_neg notBefore, if_neg notSame, inductionHypothesis others]
      rfl

theorem toList_foldl_insert
    {map : NameMap α}
    {entries : List (String × α)}
    (increasing : (map.toList ++ entries).Pairwise fun first second => first.1 < second.1) :
    (entries.foldl (fun map entry => map.insert entry.1 entry.2) map).toList =
      map.toList ++ entries := by
  induction entries generalizing map with
  | nil => exact (List.append_nil _).symm
  | cons entry entries inductionHypothesis =>
      have behind : ∀ earlier ∈ map.toList, earlier.1 < entry.1 := by
        intro earlier member
        exact (List.pairwise_append.mp increasing).2.2 earlier member entry List.mem_cons_self
      have inserted : (map.insert entry.1 entry.2).toList = map.toList ++ [entry] :=
        insertInto_of_forall_lt behind
      have joined : map.toList ++ entry :: entries = (map.toList ++ [entry]) ++ entries := by
        simp
      rw [joined, ← inserted] at increasing
      rw [List.foldl_cons, inductionHypothesis increasing, inserted, joined]

/-- The map of entries in the order of their keys has just these entries. -/
theorem toList_ofList
    {entries : List (String × α)}
    (increasing : entries.Pairwise fun first second => first.1 < second.1) :
    (ofList entries).toList = entries :=
  @toList_foldl_insert α empty entries increasing

/-- Where keys increase, an entry is found under its key. -/
theorem find?_of_mem
    {entries : List (String × α)}
    {entry : String × α}
    (increasing : entries.Pairwise fun first second => first.1 < second.1)
    (member : entry ∈ entries) :
    entries.find? (·.1 == entry.1) = some entry := by
  induction entries with
  | nil => nomatch member
  | cons first rest inductionHypothesis =>
      obtain ⟨before, others⟩ := List.pairwise_cons.mp increasing
      rcases List.mem_cons.mp member with rfl | inside
      · simp
      · have differ : (first.1 == entry.1) = false :=
          beq_false_of_ne (Std.ne_of_lt (before entry inside))
        rw [List.find?_cons, differ]
        exact inductionHypothesis others inside

/-- A map has a value for a key exactly if it has the entry. -/
theorem get?_eq_some_iff
    {map : NameMap α}
    {key : String}
    {value : α} :
    map.get? key = some value ↔ (key, value) ∈ map.toList := by
  unfold get?
  rw [Option.map_eq_some_iff]
  constructor
  · rintro ⟨entry, found, rfl⟩
    have same := List.find?_some found
    rw [← beq_iff_eq.mp same]
    exact List.mem_of_find?_eq_some found
  · intro member
    exact ⟨(key, value), find?_of_mem map.increasing member, rfl⟩

theorem contains_iff
    {map : NameMap α}
    {key : String} :
    map.contains key = true ↔ key ∈ map.keys := by
  simp [contains, keys, List.any_eq_true]

/-- Changed values are found under the same keys. -/
theorem get?_mapValues
    (change : String → α → β)
    (map : NameMap α)
    (key : String) :
    (map.mapValues change).get? key = (map.get? key).map (change key) := by
  apply Option.ext
  intro changed
  simp only [get?_eq_some_iff, Option.map_eq_some_iff, mapValues, List.mem_map, Prod.mk.injEq]
  constructor
  · rintro ⟨⟨_, value⟩, member, rfl, rfl⟩
    exact ⟨value, member, rfl⟩
  · rintro ⟨value, member, rfl⟩
    exact ⟨(key, value), member, rfl, rfl⟩

/-- Maps that have the same values are equal. -/
theorem eq_of_get?_eq
    {first second : NameMap α}
    (same : ∀ key, first.get? key = second.get? key) :
    first = second := by
  let before (entry other : String × α) : Prop := entry.1 < other.1
  have irreflexive : Std.Irrefl before := ⟨fun entry => String.lt_irrefl entry.1⟩
  have antisymmetric : Std.Antisymm before :=
    ⟨fun _ _ less more => absurd more (String.lt_asymm less)⟩
  refine eq_of_toList_eq (first.increasing.eq_of_mem_iff second.increasing fun entry => ?_)
  rw [← get?_eq_some_iff, ← get?_eq_some_iff, same]

theorem get?_filterKeys
    (keep : String → Bool)
    (map : NameMap α)
    (key : String) :
    (map.filterKeys keep).get? key = if keep key then map.get? key else none := by
  apply Option.ext
  intro value
  rw [get?_eq_some_iff, filterKeys, List.mem_filter, ← get?_eq_some_iff]
  cases keep key <;> simp

/-- Where keys increase, the entries before an entry are those with smaller keys. -/
theorem mem_before_iff
    {before after : List (String × α)}
    {entry other : String × α}
    (increasing : (before ++ entry :: after).Pairwise fun first second => first.1 < second.1)
    (member : other ∈ before ++ entry :: after) :
    other ∈ before ↔ other.1 < entry.1 := by
  obtain ⟨-, rest, across⟩ := List.pairwise_append.mp increasing
  obtain ⟨behind, -⟩ := List.pairwise_cons.mp rest
  constructor
  · intro inside
    exact across other inside entry List.mem_cons_self
  · intro less
    rcases List.mem_append.mp member with inside | inside
    · exact inside
    rcases List.mem_cons.mp inside with rfl | later
    · exact absurd less (String.lt_irrefl other.1)
    · exact absurd less (String.lt_asymm (behind other later))

end NameMap
end Delegation
