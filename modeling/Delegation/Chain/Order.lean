import Delegation.Identity

/-!
# Order of the members of a chain

The primary identity of a list of principals is the first person, or the first member
when there is no person. The canonical order is the primary followed by the other members
in the order in which they were presented.
-/

namespace Delegation
namespace Chain

/-- The position of the first person, if there is one. -/
def userPosition? (members : List Identity) : Option Nat :=
  members.findIdx? Identity.isUser

/-- The position of the primary identity; none for an empty list. -/
def primaryPosition? (members : List Identity) : Option Nat :=
  if members.isEmpty then none else some ((userPosition? members).getD 0)

/-- The primary identity; none for an empty list. -/
def primary? (members : List Identity) : Option Identity :=
  (primaryPosition? members).bind fun position => members[position]?

/-- The members with the one at a position moved to the front. -/
def moveToFront (position : Nat) (members : List Identity) : List Identity :=
  (members[position]?).toList ++ members.eraseIdx position

/-- The primary identity first, then the others in presented order. -/
def canonicalOrder (members : List Identity) : List Identity :=
  match primaryPosition? members with
  | some position => moveToFront position members
  | none => []

/-- Some member holds no required role, so the chain is not fully vetted. -/
def isIncomplete (members : List Identity) (required : NameSet) : Bool :=
  members.any fun member => member.roles.isDisjoint required

/-- The authorities of a list of members: the roles of the primary identity, without the
required roles when every member holds one of those. None for an empty list. -/
def deriveAuthorities? (members : List Identity) (required : NameSet) : Option NameSet :=
  (primary? members).map fun primary =>
    primary.roles.filter fun role => isIncomplete members required || decide (role ∉ required)

/-- The earliest creation time of the members; none for an empty list. -/
def earliestCreation? (members : List Identity) : Option Int :=
  (members.map (·.created)).min?

theorem findIdx?_lt_length {test : Identity → Bool} {members : List Identity} {position : Nat}
    (found : members.findIdx? test = some position) : position < members.length :=
  (List.findIdx?_eq_some_iff_getElem.mp found).1

/-- The primary identity has a position in the list. -/
theorem primaryPosition?_lt_length {members : List Identity} {position : Nat}
    (primary : primaryPosition? members = some position) : position < members.length := by
  unfold primaryPosition? at primary
  split at primary
  · simp at primary
  · rename_i nonempty
    have positive : 0 < members.length := by
      cases members <;> simp_all
    obtain rfl := Option.some.inj primary
    cases found : userPosition? members with
    | none => simpa [found] using positive
    | some position => exact findIdx?_lt_length found

/-- Only the types of the members decide which one is the primary identity. -/
theorem primaryPosition?_congr {first second : List Identity}
    (types : first.map Identity.isUser = second.map Identity.isUser) :
    primaryPosition? first = primaryPosition? second := by
  have users (members : List Identity) :
      userPosition? members = (members.map Identity.isUser).findIdx? id := by
    simp [userPosition?, List.findIdx?_map]
  have empty (members : List Identity) :
      members.isEmpty = (members.map Identity.isUser).isEmpty := by
    simp
  rw [primaryPosition?, primaryPosition?, users, users, empty first, empty second, types]

theorem primaryPosition?_map {members : List Identity} {change : Identity → Identity}
    (keeps : ∀ member, (change member).isUser = member.isUser) :
    primaryPosition? (members.map change) = primaryPosition? members := by
  apply primaryPosition?_congr
  rw [List.map_map]
  exact List.map_congr_left fun member _ => keeps member

end Chain
end Delegation
