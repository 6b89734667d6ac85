import Mathlib.Data.List.Perm.Basic
import Delegation.Chain.Basic

/-!
# Members in canonical order

In canonical order the first person of a list of principals stands in front, and all others follow
as they stood. A list without a person stays as it is. So the order shows the same principals, each
as often as before, it is kept when it is formed again, and it has the primary identity and the
authorities of the list.
-/

namespace Delegation
namespace Chain

/-- The second list is the first one in canonical order. -/
inductive InOrder : List Identity → List Identity → Prop
  /-- Nobody is moved among servers. -/
  | servers (members : List Identity) :
      (∀ member ∈ members, member.isUser = false) → InOrder members members
  /-- The first person is moved to the front. -/
  | person (before : List Identity) (person : Identity) (after : List Identity) :
      (∀ member ∈ before, member.isUser = false) → person.isUser = true →
      InOrder (before ++ person :: after) (person :: (before ++ after))

variable {members ordered before after : List Identity} {person : Identity} {position : Nat}

/-! ## Positions -/

theorem userPosition?_eq_none_iff :
    userPosition? members = none ↔ ∀ member ∈ members, member.isUser = false :=
  List.findIdx?_eq_none_iff

theorem userPosition?_append (members more : List Identity) :
    userPosition? (members ++ more) =
      (userPosition? members).or ((userPosition? more).map (· + members.length)) :=
  List.findIdx?_append

/-- Among servers alone, the first member is the primary one. -/
theorem primaryPosition?_of_servers
    (filled : members ≠ [])
    (servers : ∀ member ∈ members, member.isUser = false) :
    primaryPosition? members = some 0 := by
  have nobody := userPosition?_eq_none_iff.mpr servers
  simp [primaryPosition?, filled, nobody]

/-- Once there is a user, members that come later do not change who is primary. -/
theorem primaryPosition?_append_of_user
    (user : ∃ member ∈ members, member.isUser = true)
    (more : List Identity) :
    primaryPosition? (members ++ more) = primaryPosition? members := by
  obtain ⟨member, inside, person⟩ := user
  have filled : members ≠ [] := List.ne_nil_of_mem inside
  cases found : userPosition? members with
  | none =>
      have server := userPosition?_eq_none_iff.mp found member inside
      rw [person] at server
      nomatch server
  | some position => simp [primaryPosition?, filled, userPosition?_append, found]

/-- A user that joins servers becomes the primary member; a server leaves the first one in place. -/
theorem primaryPosition?_concat_of_servers
    (servers : ∀ member ∈ members, member.isUser = false)
    (hop : Identity) :
    primaryPosition? (members ++ [hop]) =
      some (if hop.isUser = true then members.length else 0) := by
  have nobody := userPosition?_eq_none_iff.mpr servers
  have single : userPosition? [hop] = if hop.isUser = true then some 0 else none := by
    cases person : hop.isUser <;> simp [userPosition?, person]
  cases person : hop.isUser <;>
    simp [primaryPosition?, userPosition?_append, nobody, single, person]

theorem moveToFront_append
    (inside : position < members.length)
    (more : List Identity) :
    moveToFront position (members ++ more) = moveToFront position members ++ more := by
  rw [moveToFront, moveToFront, List.getElem?_append_left inside,
    List.eraseIdx_append_of_lt_length inside, List.append_assoc]

theorem moveToFront_length_concat
    (members : List Identity)
    (hop : Identity) :
    moveToFront members.length (members ++ [hop]) = hop :: members := by
  rw [moveToFront, List.getElem?_concat_length, List.eraseIdx_append_of_length_le (Nat.le_refl _)]
  simp

/-- The first person is the primary identity. -/
theorem primaryPosition?_of_person
    (nobody : ∀ member ∈ before, member.isUser = false)
    (isUser : person.isUser = true)
    (after : List Identity) :
    primaryPosition? (before ++ person :: after) = some before.length := by
  have user : ∃ member ∈ before ++ [person], member.isUser = true :=
    ⟨person, List.mem_append_right before List.mem_cons_self, isUser⟩
  rw [List.append_cons, primaryPosition?_append_of_user user,
    primaryPosition?_concat_of_servers nobody, if_pos isUser]

theorem moveToFront_of_person
    (before : List Identity)
    (person : Identity)
    (after : List Identity) :
    moveToFront before.length (before ++ person :: after) = person :: (before ++ after) := by
  have inside : before.length < (before ++ [person]).length := by simp
  rw [List.append_cons, moveToFront_append inside, moveToFront_length_concat, List.cons_append]

/-- Moving a member to the front neither loses nor adds one. -/
theorem perm_moveToFront
    (inside : position < members.length) :
    (moveToFront position members).Perm members := by
  rw [moveToFront, List.getElem?_eq_getElem inside]
  exact List.getElem_cons_eraseIdx_perm inside

/-! ## Order -/

theorem InOrder.eq_canonicalOrder (order : InOrder members ordered) :
    ordered = canonicalOrder members := by
  cases order with
  | servers members nobody =>
      cases members with
      | nil => rfl
      | cons first rest =>
          rw [canonicalOrder, primaryPosition?_of_servers (List.cons_ne_nil first rest) nobody]
          rfl
  | person before person after nobody isUser =>
      rw [canonicalOrder, primaryPosition?_of_person nobody isUser]
      exact (moveToFront_of_person before person after).symm

/-- Every list has a canonical order. -/
theorem inOrder_canonicalOrder (members : List Identity) :
    InOrder members (canonicalOrder members) := by
  -- It is enough that there is an order, because then it is the computed one.
  have order : ∃ ordered, InOrder members ordered := by
    cases found : members.find? Identity.isUser with
    | none =>
        have nobody := List.find?_eq_none.mp found
        exact ⟨members, .servers members fun member inside => by simpa using nobody member inside⟩
    | some person =>
        obtain ⟨isUser, before, after, rfl, nobody⟩ := List.find?_eq_some_iff_append.mp found
        exact ⟨_, .person before person after
          (fun member inside => by simpa using nobody member inside) isUser⟩
  obtain ⟨ordered, order⟩ := order
  exact order.eq_canonicalOrder ▸ order

/-- The canonical order is the only one that keeps to the rules. -/
theorem inOrder_iff : InOrder members ordered ↔ ordered = canonicalOrder members :=
  ⟨InOrder.eq_canonicalOrder, fun same => same ▸ inOrder_canonicalOrder members⟩

theorem InOrder.perm (order : InOrder members ordered) : ordered.Perm members := by
  cases order with
  | servers => exact .refl members
  | person before person after => exact List.perm_middle.symm

/-- A list in canonical order stays as it is. -/
theorem InOrder.again (order : InOrder members ordered) : InOrder ordered ordered := by
  cases order with
  | servers members nobody => exact .servers members nobody
  | person before person after nobody isUser =>
      exact .person [] person (before ++ after) (List.forall_mem_nil _) isUser

/-- The primary identity comes first. -/
theorem InOrder.primary?_eq (order : InOrder members ordered) :
    primary? members = ordered.head? := by
  cases order with
  | servers members nobody =>
      cases members with
      | nil => rfl
      | cons first rest =>
          rw [primary?, primaryPosition?_of_servers (List.cons_ne_nil first rest) nobody]
          rfl
  | person before person after nobody isUser =>
      rw [primary?, primaryPosition?_of_person nobody isUser, Option.bind_some,
        List.getElem?_append_right (Nat.le_refl _), Nat.sub_self]
      rfl

theorem InOrder.primary?_ordered (order : InOrder members ordered) :
    primary? ordered = primary? members :=
  order.again.primary?_eq.trans order.primary?_eq.symm

/-- The authorities of a chain do not depend on whether its members are in order yet. -/
theorem InOrder.deriveAuthorities?_ordered
    (order : InOrder members ordered)
    (required : NameSet) :
    deriveAuthorities? ordered required = deriveAuthorities? members required := by
  have incomplete : isIncomplete ordered required = isIncomplete members required :=
    order.perm.any_eq
  rw [deriveAuthorities?, deriveAuthorities?, order.primary?_ordered, incomplete]

/-! ## Views of the members -/

/-- The canonical order of a chain leaves no member out and adds none. -/
theorem perm_canonical (chain : Chain) : chain.canonical.Perm chain.members :=
  perm_moveToFront (primaryPosition?_lt_length chain.position_primary)

theorem mem_authsPerMember_iff
    {chain : Chain}
    {labels : NameSet} :
    labels ∈ chain.authsPerMember ↔ ∃ member ∈ chain.members, member.auths = labels := by
  simp only [authsPerMember, List.mem_map, chain.perm_canonical.mem_iff]

end Chain
end Delegation
