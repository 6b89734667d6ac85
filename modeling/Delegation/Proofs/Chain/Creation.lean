import Delegation.Chain.Basic

/-!
# Chains that are built

A chain is built from any list of principals that is not empty. It holds them as they were
given, and everything else follows from them.
-/

namespace Delegation
namespace Chain

/-- A chain holds the members that it is built from, and what follows from them. -/
theorem create_eq_ok
    {required : NameSet}
    {members : List Identity}
    {created : Option Int}
    {chain : Chain} :
    create required members created = .ok chain ↔
      chain.members = members ∧
        chain.authorities = (deriveAuthorities? members required).getD ∅ ∧
        chain.created = (created <|> earliestCreation? members).getD 0 := by
  unfold create
  split
  · rename_i empty
    constructor
    · simp
    · rintro ⟨rfl, -⟩
      simp [chain.position_primary] at empty
  · rename_i position primary
    cases chain with
    | mk others other otherPrimary authorities time =>
        simp only [Except.ok.injEq, mk.injEq]
        constructor
        · rintro ⟨rfl, -, rfl, rfl⟩
          exact ⟨rfl, rfl, rfl⟩
        · rintro ⟨rfl, rfl, rfl⟩
          exact ⟨rfl, Option.some.inj (primary.symm.trans otherPrimary), rfl, rfl⟩

/-- A chain is built from every list of principals but the empty one. -/
theorem exists_create_eq_ok
    {members : List Identity}
    (nonempty : members ≠ [])
    (required : NameSet)
    (created : Option Int) :
    ∃ chain, create required members created = .ok chain := by
  unfold create
  split
  · rename_i empty
    simp [primaryPosition?, nonempty] at empty
  · exact ⟨_, rfl⟩

/-- Among any members there is an earliest time of creation. -/
theorem exists_earliestCreation?
    {members : List Identity}
    (nonempty : members ≠ []) :
    ∃ created, earliestCreation? members = some created := by
  rw [← Option.isSome_iff_exists, earliestCreation?, List.isSome_min?_iff]
  simpa using nonempty

/-- The earliest time of creation is that of a member, and no member was created before. -/
theorem earliestCreation?_eq_some_iff
    {members : List Identity}
    {created : Int} :
    earliestCreation? members = some created ↔
      (∃ member ∈ members, member.created = created) ∧
        ∀ member ∈ members, created ≤ member.created := by
  simp [earliestCreation?, List.min?_eq_some_iff]

/-! Chains of the same members differ in authorities and time of creation only. -/

section Views

variable {first second : Chain}

theorem members_ne_nil (chain : Chain) : chain.members ≠ [] := by
  intro empty
  have primary := chain.position_primary
  simp [empty, primaryPosition?] at primary

theorem canonical_congr
    (equal : first.members = second.members) :
    first.canonical = second.canonical := by
  rw [canonical_eq, canonical_eq, equal]

theorem username_congr
    (equal : first.members = second.members) :
    first.username = second.username := by
  rw [username, username, canonical_congr equal]

theorem primary_congr
    (equal : first.members = second.members) :
    first.primary = second.primary := by
  have position : first.position = second.position :=
    Option.some.inj (by rw [← first.position_primary, equal, second.position_primary])
  simp only [primary, List.get_eq_getElem, equal, position]

/-- Chains count as the same exactly if they have the same members. -/
theorem same_iff : first.same second = true ↔ first.members = second.members :=
  decide_eq_true_iff

end Views

end Chain
end Delegation
