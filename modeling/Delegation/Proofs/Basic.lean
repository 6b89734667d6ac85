import Mathlib.Algebra.GroupWithZero.Nat
import Mathlib.Data.List.Perm.Basic

/-!
# Results and lists

What several parts of the theory need to know about results and lists. Steps in a row succeed when
each of them does. A list is read when each of its entries is, and the values come in the order of
the entries; otherwise the first entry that cannot be read tells why. A list that grows or changes
at one position is the same elsewhere.
-/

namespace Delegation

section Errors

variable {ε δ α β : Type}

theorem bind_eq_ok_iff
    {first : Except ε α}
    {next : α → Except ε β}
    {value : β} :
    first >>= next = .ok value ↔ ∃ middle, first = .ok middle ∧ next middle = .ok value := by
  cases first <;> simp [bind, Except.bind]

@[simp] theorem mapError_ok
    (change : ε → δ)
    (value : α) :
    (Except.ok value : Except ε α).mapError change = .ok value := rfl

@[simp] theorem mapError_error
    (change : ε → δ)
    (failure : ε) :
    (Except.error failure : Except ε α).mapError change = .error (change failure) := rfl

theorem mapError_eq_ok_iff
    {change : ε → δ}
    {result : Except ε α}
    {value : α} :
    result.mapError change = .ok value ↔ result = .ok value := by
  cases result <;> simp

theorem toOption_eq_some_iff
    {result : Except ε α}
    {value : α} :
    result.toOption = some value ↔ result = .ok value := by
  cases result <;> simp [Except.toOption]

/-- Reading a list succeeds when reading each of its entries does. -/
theorem mapM_eq_ok_iff
    {read : α → Except ε β}
    {entries : List α}
    {values : List β} :
    entries.mapM read = .ok values ↔ entries.map read = values.map .ok := by
  induction entries generalizing values with
  | nil => cases values <;> simp [pure, Except.pure]
  | cons entry entries inductionHypothesis =>
      rw [List.mapM_cons]
      cases first : read entry with
      | error error => cases values <;> simp [first, bind, Except.bind]
      | ok value =>
          cases others : entries.mapM read with
          | error error =>
              cases values <;>
                simp [first, others, ← inductionHypothesis, bind, Except.bind]
          | ok rest =>
              cases values <;>
                simp [first, others, ← inductionHypothesis, bind, Except.bind, pure,
                  Except.pure]

theorem mapM_cons_eq_error_iff
    {read : α → Except ε β}
    {entry : α}
    {entries : List α}
    {failure : ε} :
    (entry :: entries).mapM read = .error failure ↔
      read entry = .error failure ∨
        (∃ value, read entry = .ok value) ∧ entries.mapM read = .error failure := by
  rw [List.mapM_cons]
  cases read entry <;> cases entries.mapM read <;> simp [bind, Except.bind, pure, Except.pure]

/-- Reading a list fails at the first entry that cannot be read. -/
theorem mapM_eq_error_iff
    {read : α → Except ε β}
    {entries : List α}
    {failure : ε} :
    entries.mapM read = .error failure ↔
      ∃ before entry after, entries = before ++ entry :: after ∧
        (∀ earlier ∈ before, ∃ value, read earlier = .ok value) ∧
        read entry = .error failure := by
  induction entries with
  | nil => simp [pure, Except.pure]
  | cons entry entries inductionHypothesis =>
      rw [mapM_cons_eq_error_iff, inductionHypothesis]
      constructor
      · rintro (fails | ⟨reads, before, failing, after, rfl, earlier, fails⟩)
        · exact ⟨[], entry, entries, rfl, List.forall_mem_nil _, fails⟩
        · exact ⟨entry :: before, failing, after, rfl,
            List.forall_mem_cons.mpr ⟨reads, earlier⟩, fails⟩
      · rintro ⟨before, failing, after, cut, earlier, fails⟩
        cases before with
        | nil =>
            obtain ⟨rfl, -⟩ := List.cons.inj cut
            exact .inl fails
        | cons first before =>
            obtain ⟨rfl, rfl⟩ := List.cons.inj cut
            obtain ⟨reads, earlier⟩ := List.forall_mem_cons.mp earlier
            exact .inr ⟨reads, before, failing, after, rfl, earlier, fails⟩

/-- A list is read exactly if each of its entries is. -/
theorem exists_mapM_eq_ok_iff
    {read : α → Except ε β}
    {entries : List α} :
    (∃ values, entries.mapM read = .ok values) ↔
      ∀ entry ∈ entries, ∃ value, read entry = .ok value := by
  constructor
  · rintro ⟨values, mapped⟩ entry inside
    have member : read entry ∈ entries.map read := List.mem_map_of_mem inside
    rw [mapM_eq_ok_iff.mp mapped] at member
    obtain ⟨value, -, same⟩ := List.mem_map.mp member
    exact ⟨value, same.symm⟩
  · intro reads
    cases mapped : entries.mapM read with
    | ok values => exact ⟨values, rfl⟩
    | error failure =>
        obtain ⟨before, entry, after, rfl, -, fails⟩ := mapM_eq_error_iff.mp mapped
        obtain ⟨value, read⟩ := reads entry (by simp)
        rw [fails] at read
        nomatch read

/-- The order of a list decides only the order of what is read. -/
theorem exists_mapM_eq_ok_of_perm
    {read : α → Except ε β}
    {entries others : List α}
    {values : List β}
    (permuted : entries.Perm others)
    (mapped : entries.mapM read = .ok values) :
    ∃ otherValues, others.mapM read = .ok otherValues ∧ values.Perm otherValues := by
  obtain ⟨otherValues, otherMapped⟩ : ∃ otherValues, others.mapM read = .ok otherValues := by
    rw [exists_mapM_eq_ok_iff]
    intro entry inside
    exact exists_mapM_eq_ok_iff.mp ⟨values, mapped⟩ entry (permuted.mem_iff.mpr inside)
  have images := permuted.map read
  rw [mapM_eq_ok_iff.mp mapped, mapM_eq_ok_iff.mp otherMapped] at images
  exact ⟨otherValues, otherMapped, (List.map_perm_map_iff fun _ _ => Except.ok.inj).mp images⟩

end Errors

section Options

variable {α β : Type} {read : α → Option β} {entries : List α} {values : List β}

/-- Reading a list succeeds when reading each of its entries does. -/
theorem mapM_eq_some_iff :
    entries.mapM read = some values ↔ entries.map read = values.map some := by
  induction entries generalizing values with
  | nil => cases values <;> simp
  | cons entry entries inductionHypothesis =>
      rw [List.mapM_cons]
      cases first : read entry with
      | none => cases values <;> simp [first]
      | some value =>
          cases others : entries.mapM read with
          | none => cases values <;> simp [first, ← inductionHypothesis, others]
          | some rest => cases values <;> simp [first, ← inductionHypothesis, others]

/-- Entries that are written one by one are read one by one. -/
theorem mapM_map_eq_some
    {write : β → α}
    (reads : ∀ value ∈ values, read (write value) = some value) :
    (values.map write).mapM read = some values := by
  rw [mapM_eq_some_iff, List.map_map]
  exact List.map_congr_left reads

/-- Each value is read from an entry. -/
theorem exists_of_mem_mapM
    {value : β}
    (mapped : entries.mapM read = some values)
    (inside : value ∈ values) :
    ∃ entry ∈ entries, read entry = some value := by
  have member : some value ∈ entries.map read := by
    rw [mapM_eq_some_iff.mp mapped]
    exact List.mem_map_of_mem inside
  exact List.mem_map.mp member

theorem forall_mem_of_mapM
    {property : β → Prop}
    (mapped : entries.mapM read = some values)
    (each : ∀ entry ∈ entries, ∀ value, read entry = some value → property value) :
    ∀ value ∈ values, property value := by
  intro value inside
  obtain ⟨entry, member, found⟩ := exists_of_mem_mapM mapped inside
  exact each entry member value found

theorem ne_nil_of_mapM
    (mapped : entries.mapM read = some values)
    (filled : entries ≠ []) :
    values ≠ [] := by
  rintro rfl
  exact filled (List.map_eq_nil_iff.mp (mapM_eq_some_iff.mp mapped))

/-- Values that are known for each entry are known for the list. -/
theorem eq_map_of_mapM
    {known : α → β}
    (knows : ∀ entry value, read entry = some value → value = known entry)
    (mapped : entries.mapM read = some values) :
    values = entries.map known := by
  have same := mapM_eq_some_iff.mp mapped
  have each : ∀ entry ∈ entries, read entry = some (known entry) := by
    intro entry inside
    have member : read entry ∈ values.map some := same ▸ List.mem_map_of_mem inside
    obtain ⟨value, -, found⟩ := List.mem_map.mp member
    rw [← found, knows entry value found.symm]
  have equal : values.map some = (entries.map known).map some := by
    rw [← same, List.map_map]
    exact List.map_congr_left each
  exact (List.map_inj_right fun _ _ => Option.some.inj).mp equal

end Options

section Positions

variable {α : Type} {entries : List α} {entry other : α} {position place : Nat}

theorem getElem?_of_set
    (found : (entries.set place other)[position]? = some entry) :
    position = place ∧ entry = other ∨ position ≠ place ∧ entries[position]? = some entry := by
  rw [List.getElem?_set] at found
  split at found
  · rename_i same
    split at found
    · exact .inl ⟨same.symm, (Option.some.inj found).symm⟩
    · nomatch found
  · rename_i elsewhere
    exact .inr ⟨Ne.symm elsewhere, found⟩

/-- A view of a list that is changed entry by entry, where it does not show the positions. -/
theorem map_mapIdx_of_eq
    {β γ : Type}
    {change : Nat → α → β}
    {view : β → γ}
    {plain : α → γ}
    (same : ∀ position entry, view (change position entry) = plain entry)
    (entries : List α) :
    (entries.mapIdx change).map view = entries.map plain := by
  apply List.ext_getElem?
  simp [Function.comp_def, same]

/-- A view of a list does not show the change of an entry that looks the same. -/
theorem map_set_of_eq
    {β : Type}
    {view : α → β}
    (found : entries[position]? = some entry)
    (same : view other = view entry) :
    (entries.set position other).map view = entries.map view := by
  induction entries generalizing position with
  | nil => nomatch found
  | cons first rest inductionHypothesis =>
      cases position with
      | zero =>
          obtain rfl := Option.some.inj found
          simp [same]
      | succ position => simpa using inductionHypothesis found

theorem sum_map_set_lt
    {weight : α → Nat}
    (found : entries[position]? = some entry)
    (less : weight other < weight entry) :
    ((entries.set position other).map weight).sum < (entries.map weight).sum := by
  induction entries generalizing position with
  | nil => nomatch found
  | cons first rest inductionHypothesis =>
      cases position with
      | zero =>
          obtain rfl := Option.some.inj found
          simpa using less
      | succ position => simpa using inductionHypothesis found

theorem getElem?_of_concat
    (found : (entries ++ [other])[position]? = some entry) :
    entries[position]? = some entry ∨ position = entries.length ∧ entry = other := by
  rw [List.getElem?_append] at found
  split at found
  · exact .inl found
  · rename_i outside
    have inside : position - entries.length < 1 := (List.getElem?_eq_some_iff.mp found).1
    have same : entry ∈ [other] := List.mem_of_getElem? found
    exact .inr ⟨by omega, List.mem_singleton.mp same⟩

end Positions

end Delegation
