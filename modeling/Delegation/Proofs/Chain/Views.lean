import Delegation.Proofs.Chain.CanonicalOrder
import Delegation.Proofs.Chain.Creation
import Delegation.Proofs.Dn.ShortName

/-!
# Views of a chain

A chain is shown as a user name and as lists of names and labels. Each of these has one entry for
each member, in canonical order, so that the entries at one place are those of one member. The user
name is a single text, but no entry is lost in it: short names have no spaces, and the arrows
between them do.
-/

namespace Delegation
namespace Chain

/-- The views of a chain are images of a list of members. -/
structure Shows (chain : Chain) (shown : List Identity) : Prop where
  username : chain.username = " -> ".intercalate (shown.map Identity.name)
  dns : chain.dns = shown.map (·.dn)
  subjects : chain.subjects = shown.map (·.dn.subject)
  issuers : chain.issuers = shown.map (·.dn.issuer)
  auths : chain.authsPerMember = shown.map (·.auths)

/-- The user name, cut at its spaces. -/
def usernameWords (chain : Chain) : List (List Char) :=
  chain.username.toList.splitOn ' '

/-- At one place all views show one member. Every other word of the user name is an arrow. -/
structure ShowsAt (chain : Chain) (place : Nat) (member : Identity) : Prop where
  name : chain.usernameWords[2 * place]? = some member.name.toList
  dn : chain.dns[place]? = some member.dn
  subject : chain.subjects[place]? = some member.dn.subject
  issuer : chain.issuers[place]? = some member.dn.issuer
  auths : chain.authsPerMember[place]? = some member.auths

/-- Words without spaces are told apart when a mark stands between them, with a space on either
side. -/
theorem splitOn_intercalate_spaced
    {mark : List Char}
    {words : List (List Char)}
    (markApart : ' ' ∉ mark)
    (filled : words ≠ [])
    (apart : ∀ word ∈ words, ' ' ∉ word) :
    ((' ' :: mark ++ [' ']).intercalate words).splitOn ' ' = words.intersperse mark := by
  induction words with
  | nil => exact absurd rfl filled
  | cons word words inductionHypothesis =>
      obtain ⟨wordApart, apart⟩ := List.forall_mem_cons.mp apart
      cases words with
      | nil =>
          rw [List.intercalate_singleton, List.intersperse_singleton]
          exact List.splitOn_eq_singleton wordApart
      | cons next words =>
          have cut : (' ' :: mark ++ [' ']).intercalate (word :: next :: words) =
              word ++ ' ' ::
                (mark ++ ' ' :: (' ' :: mark ++ [' ']).intercalate (next :: words)) := by
            rw [List.intercalate_cons_cons]
            simp
          -- Two cuts, one on either side of the mark, lead to the next word.
          rw [cut, List.splitOn_append_cons_self_of_not_mem wordApart,
            List.splitOn_append_cons_self_of_not_mem markApart,
            inductionHypothesis (List.cons_ne_nil next words) apart, List.intersperse_cons_cons]

section Members

variable {chain : Chain}

theorem canonical_ne_nil (chain : Chain) : chain.canonical ≠ [] := by
  intro empty
  have length := chain.perm_canonical.length_eq
  rw [empty, List.length_nil, eq_comm, List.length_eq_zero_iff] at length
  exact chain.members_ne_nil length

theorem usernameWords_eq (chain : Chain) :
    chain.usernameWords = (chain.canonical.map (·.name.toList)).intersperse "->".toList := by
  have arrow : " -> ".toList = ' ' :: "->".toList ++ [' '] := rfl
  have filled : chain.canonical.map (·.name.toList) ≠ [] := by
    simpa using chain.canonical_ne_nil
  rw [usernameWords, username, String.toList_intercalate, List.map_map, arrow]
  apply splitOn_intercalate_spaced (by decide) filled
  intro word inside
  obtain ⟨member, -, rfl⟩ := List.mem_map.mp inside
  exact Dn.space_not_mem_shortName member.dn.subject

theorem shows_canonical (chain : Chain) : chain.Shows chain.canonical where
  username := rfl
  dns := rfl
  subjects := rfl
  issuers := rfl
  auths := rfl

/-- What stands at a place of the canonical order stands at that place of every view. -/
theorem showsAt_of_canonical
    {place : Nat}
    {member : Identity}
    (found : chain.canonical[place]? = some member) :
    chain.ShowsAt place member := by
  have image {α : Type} (view : Identity → α) :
      (chain.canonical.map view)[place]? = some (view member) := by
    rw [List.getElem?_map, found, Option.map_some]
  refine ⟨?_, image _, image _, image _, image _⟩
  rw [usernameWords_eq, List.getElem?_intersperse_two_mul]
  exact image _

/-- The canonical order of a list is the list with its first person in front; it has the same
members as often, its own canonical order, the same primary identity and the same authorities. All
views of a chain are images of the canonical order of its members, so what stands at one place of
each belongs to the member at that place. -/
theorem views_follow_canonicalOrder :
    (∀ members,
      (∀ ordered, InOrder members ordered ↔ ordered = canonicalOrder members) ∧
      (canonicalOrder members).Perm members ∧
      canonicalOrder (canonicalOrder members) = canonicalOrder members ∧
      primary? (canonicalOrder members) = primary? members ∧
      ∀ required,
        deriveAuthorities? (canonicalOrder members) required =
          deriveAuthorities? members required) ∧
    ∀ chain : Chain,
      chain.Shows (canonicalOrder chain.members) ∧
      ∀ place member, (canonicalOrder chain.members)[place]? = some member →
        chain.ShowsAt place member := by
  constructor
  · intro members
    have order := inOrder_canonicalOrder members
    exact ⟨fun _ => inOrder_iff, order.perm, order.again.eq_canonicalOrder.symm,
      order.primary?_ordered, order.deriveAuthorities?_ordered⟩
  · intro chain
    rw [← chain.canonical_eq]
    exact ⟨chain.shows_canonical, fun place member => showsAt_of_canonical⟩

end Members

end Chain
end Delegation
