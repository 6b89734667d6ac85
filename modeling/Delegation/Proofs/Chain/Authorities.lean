import Mathlib.Data.List.Sort
import Delegation.Proofs.Chain.Creation

/-!
# Authorities and required roles

The authorities of a chain follow from its members and from the roles that were required when it
was built. For given members two sets of required roles may come to the same authorities, but for
all lists of members only equal sets do.
-/

namespace Delegation

/-- Sets with the same members are equal. -/
theorem NameSet.eq_of_mem_iff
    {first second : NameSet}
    (same : ∀ name, name ∈ first ↔ name ∈ second) :
    first = second := by
  have antisymm : Std.Antisymm fun name other : String => name < other :=
    ⟨fun _ _ less greater => absurd greater (String.lt_asymm less)⟩
  have equal : first.toList = second.toList :=
    List.Pairwise.eq_of_mem_iff first.increasing second.increasing same
  cases first
  cases second
  simpa using equal

namespace Chain

variable {required : NameSet} {members : List Identity} {chain : Chain}

theorem exists_primary?
    {position : Nat}
    (primary : primaryPosition? members = some position) :
    ∃ identity, primary? members = some identity := by
  have inside := primaryPosition?_lt_length primary
  exact ⟨members[position], by simp [primary?, primary, inside]⟩

/-- A chain that is built has the authorities that its members and the required roles give. -/
theorem deriveAuthorities?_of_create
    {created : Option Int}
    (built : create required members created = .ok chain) :
    deriveAuthorities? chain.members required = some chain.authorities := by
  obtain ⟨same, authorities, -⟩ := create_eq_ok.mp built
  obtain ⟨identity, primary⟩ := exists_primary? chain.position_primary
  rw [authorities, ← same, deriveAuthorities?, primary]
  rfl

/-- Someone who holds one role and nothing else. -/
def holderOf (role : String) : Identity :=
  ⟨.ofNames "" "", .user, .ofList [role], ∅, 0⟩

theorem primary?_holderOf (role : String) :
    primary? [holderOf role] = some (holderOf role) := rfl

/-- The holder of one role has it as an authority exactly if it is not required. -/
theorem mem_deriveAuthorities?_holderOf
    {role : String} :
    (∃ authorities, deriveAuthorities? [holderOf role] required = some authorities ∧
      role ∈ authorities) ↔ role ∉ required := by
  have disjoint : (holderOf role).roles.isDisjoint required = true ↔ role ∉ required := by
    simp [holderOf, NameSet.isDisjoint_iff]
  have held : role ∈ (holderOf role).roles := by
    simp [holderOf]
  simp [deriveAuthorities?, primary?_holderOf, isIncomplete, held, disjoint]

/-- Only the same required roles give the same authorities to all lists of members. -/
theorem deriveAuthorities?_congr_iff
    {first second : NameSet} :
    (∀ members, deriveAuthorities? members first = deriveAuthorities? members second) ↔
      first = second := by
  constructor
  · intro same
    apply NameSet.eq_of_mem_iff
    intro role
    apply Decidable.not_iff_not.mp
    rw [← mem_deriveAuthorities?_holderOf, ← mem_deriveAuthorities?_holderOf, same]
  · rintro rfl members
    rfl

end Chain
end Delegation
