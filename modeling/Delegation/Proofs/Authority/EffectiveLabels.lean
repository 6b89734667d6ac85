import Delegation.Proofs.Authority.Errands
import Delegation.Proofs.Chain.CanonicalOrder

/-!
# Labels that every member has

The effective labels of an answer are those that all of its entries have. The chain that is made
from the answer gives a member the labels of the first entry for it, and none where there is no
entry. So a member with an entry has all effective labels, and a member without one has none of
them: the effective labels are what every member has as long as nobody was left out.
-/

namespace Delegation
namespace NameSet

/-- What remains of a set after a number of others are intersected with it, one by one. -/
theorem mem_foldl_inter
    {α : Type}
    {names : α → NameSet}
    {name : String}
    {first : NameSet}
    {entries : List α} :
    name ∈ entries.foldl (fun common entry => common.inter (names entry)) first ↔
      name ∈ first ∧ ∀ entry ∈ entries, name ∈ names entry := by
  induction entries generalizing first with
  | nil => simp
  | cons entry entries inductionHypothesis =>
      rw [List.foldl_cons, inductionHypothesis, mem_inter, List.forall_mem_cons, and_assoc]

end NameSet

namespace Authority
namespace AuthorizationSet

/-- The authority has returned something for a principal. -/
def Returns (set : AuthorizationSet) (dn : DnPair) : Prop :=
  ∃ entry ∈ set.members, entry.dn = dn

variable {set : AuthorizationSet} {dn : DnPair} {label : String}

theorem mem_effective_iff :
    label ∈ set.effective ↔ set.members ≠ [] ∧ ∀ entry ∈ set.members, label ∈ entry.auths := by
  unfold effective
  cases set.members with
  | nil => exact iff_of_false (NameSet.not_mem_empty label) fun kept => kept.1 rfl
  | cons first rest => simp [NameSet.mem_foldl_inter]

/-- A principal has the labels of an entry for it, unless nothing was returned for it. -/
theorem authsFor?_cases (set : AuthorizationSet) (dn : DnPair) :
    (∃ entry ∈ set.members, entry.dn = dn ∧ set.authsFor? dn = some entry.auths) ∨
      ¬ set.Returns dn ∧ set.authsFor? dn = none := by
  unfold authsFor?
  cases found : set.members.find? fun entry => decide (entry.dn = dn) with
  | some entry =>
      left
      exact ⟨entry, List.mem_of_find?_eq_some found, by simpa using List.find?_some found, rfl⟩
  | none =>
      right
      refine ⟨?_, rfl⟩
      rintro ⟨entry, listed, same⟩
      exact absurd same (by simpa using List.find?_eq_none.mp found entry listed)

/-- A principal has every effective label if something was returned for it, and else none. -/
theorem effective_granted_to_iff (set : AuthorizationSet) (dn : DnPair) :
    (∀ label ∈ set.effective, label ∈ (set.authsFor? dn).getD ∅) ↔
      set.Returns dn ∨ ∀ label, label ∉ set.effective := by
  rcases set.authsFor?_cases dn with ⟨entry, listed, same, labels⟩ | ⟨absent, labels⟩
  · rw [labels, Option.getD_some]
    refine iff_of_true ?_ (.inl ⟨entry, listed, same⟩)
    intro label effective
    exact (mem_effective_iff.mp effective).2 entry listed
  · rw [labels, Option.getD_none, or_iff_right absent]
    refine forall_congr' fun label => ?_
    exact imp_congr_right fun _ => iff_of_false (NameSet.not_mem_empty label) id

end AuthorizationSet

/-- A member of the chain that is made from an answer has all effective labels of the answer
exactly if the answer has an entry for it or no effective labels. So the effective labels are
among those of each member, in canonical order, exactly if every member has an entry or there
are none. -/
theorem effective_granted_iff
    (chain : Chain)
    (set : AuthorizationSet) :
    (∀ member ∈ (Task.withLabels chain set).members,
        (∀ label ∈ set.effective, label ∈ member.auths) ↔
          set.Returns member.dn ∨ ∀ label, label ∉ set.effective) ∧
      ((∀ labels ∈ (Task.withLabels chain set).authsPerMember,
          ∀ label ∈ set.effective, label ∈ labels) ↔
        (∀ member ∈ chain.members, set.Returns member.dn) ∨
          ∀ label, label ∉ set.effective) := by
  have each : ∀ member ∈ (Task.withLabels chain set).members,
      (∀ label ∈ set.effective, label ∈ member.auths) ↔
        set.Returns member.dn ∨ ∀ label, label ∉ set.effective := by
    intro remote inside
    obtain ⟨member, -, rfl⟩ := List.mem_map.mp inside
    exact set.effective_granted_to_iff member.dn
  refine ⟨each, ?_⟩
  calc (∀ labels ∈ (Task.withLabels chain set).authsPerMember,
          ∀ label ∈ set.effective, label ∈ labels)
      ↔ ∀ member ∈ (Task.withLabels chain set).members,
          ∀ label ∈ set.effective, label ∈ member.auths := by
        simp only [Chain.mem_authsPerMember_iff, forall_exists_index, and_imp,
          forall_apply_eq_imp_iff₂]
    _ ↔ ∀ member ∈ (Task.withLabels chain set).members,
          set.Returns member.dn ∨ ∀ label, label ∉ set.effective := forall₂_congr each
    _ ↔ ∀ member ∈ chain.members, set.Returns member.dn ∨ ∀ label, label ∉ set.effective :=
        List.forall_mem_map
    _ ↔ (∀ member ∈ chain.members, set.Returns member.dn) ∨ ∀ label, label ∉ set.effective := by
        simp only [forall_or_right]

namespace Sample

/-- A server that acts for the sample person. -/
def gateway : Identity :=
  ⟨.ofNames "cn=server1" "cn=ca", .server, .ofList ["AuthorizedServer"], ∅, 0⟩

/-- The chain of the person and the server. -/
def delegation : Chain where
  members := [person, gateway]
  position := 0
  position_primary := by decide
  authorities := (Chain.deriveAuthorities? [person, gateway] ∅).getD ∅
  created := 0

/-- The authority returns a label for the person, and nothing for the server. -/
def personOnly : AuthorizationSet where
  members := [⟨person.dn, .ofList ["USR"]⟩]

end Sample

/-- The server that was left out has no label, and the person's label is effective all the same. -/
theorem effective_of_member_left_out :
    ¬ ∀ (chain : Chain) (set : AuthorizationSet),
      ∀ labels ∈ (Task.withLabels chain set).authsPerMember,
        ∀ label ∈ set.effective, label ∈ labels := by
  intro always
  have left : ∅ ∈ (Task.withLabels Sample.delegation Sample.personOnly).authsPerMember := by
    decide +kernel
  have effective : "USR" ∈ Sample.personOnly.effective := by decide
  exact NameSet.not_mem_empty "USR" (always _ _ ∅ left "USR" effective)

end Authority
end Delegation
