import Delegation.Auth.Directory
import Delegation.Proofs.Basic

/-!
# What directories promise

A directory answers a list of pairs with one identity for each, in the same order, or with
an error.
-/

namespace Delegation

/-- The identities that are found are those of the given pairs, one by one. -/
def IdentityLookup.IsFaithful (lookup : IdentityLookup) : Prop :=
  ∀ pairs identities, lookup pairs = .ok identities → identities.map (·.dn) = pairs

namespace Directory

theorem dn_of_get?
    {directory : Directory}
    {pair : DnPair}
    {identity : Identity}
    (found : directory.get? pair = some identity) :
    identity.dn = pair := by
  simpa using List.find?_some found

theorem find?_store
    (identity : Identity)
    (entries : List Identity)
    (pair : DnPair) :
    ((store identity entries).find? fun entry => decide (entry.dn = pair)) =
      if identity.dn = pair then some identity
      else entries.find? fun entry => decide (entry.dn = pair) := by
  induction entries with
  | nil => by_cases here : identity.dn = pair <;> simp [store, here]
  | cons entry entries inductionHypothesis =>
      by_cases replaced : entry.dn = identity.dn
      · by_cases here : identity.dn = pair <;> simp [store, replaced, here]
      · rw [store, if_neg replaced, List.find?_cons, inductionHypothesis, List.find?_cons]
        by_cases here : identity.dn = pair
        · have other : entry.dn ≠ pair := fun same => replaced (same.trans here.symm)
          simp [here, other]
        · simp [here]

/-- Storing an identity changes what is found for its pair and for no other. -/
theorem get?_insert
    (directory : Directory)
    (identity : Identity)
    (pair : DnPair) :
    (directory.insert identity).get? pair =
      if identity.dn = pair then some identity else directory.get? pair :=
  find?_store identity directory.entries pair

/-- Who was registered is found as it was classified. -/
theorem get?_register
    (directory : Directory)
    (dn : DnPair)
    (roles auths : NameSet)
    (created : Int) :
    (directory.register dn roles auths created).get? dn =
      some (directory.classify dn roles auths created) := by
  rw [register, get?_insert]
  exact if_pos rfl

/-- The identities that are found are the stored ones. -/
theorem lookup_eq_ok
    {directory : Directory}
    {pairs : List DnPair}
    {identities : List Identity} :
    directory.lookup pairs = .ok identities ↔
      pairs.map directory.get? = identities.map some := by
  rw [lookup, mapM_eq_ok_iff]
  induction pairs generalizing identities with
  | nil => cases identities <;> simp
  | cons pair pairs inductionHypothesis =>
      cases identities with
      | nil => simp
      | cons identity identities =>
          rw [List.map_cons, List.map_cons, List.map_cons, List.map_cons, List.cons.injEq,
            List.cons.injEq, inductionHypothesis]
          cases directory.get? pair <;> simp

/-- There are identities for the given pairs exactly if each of them has one. -/
theorem exists_lookup_eq_ok_iff
    {directory : Directory}
    {pairs : List DnPair} :
    (∃ identities, directory.lookup pairs = .ok identities) ↔
      ∀ pair ∈ pairs, (directory.get? pair).isSome = true := by
  rw [lookup, exists_mapM_eq_ok_iff]
  refine forall₂_congr fun pair _ => ?_
  cases directory.get? pair <;> simp

/-- The first pair without an identity is the error. -/
theorem lookup_eq_error
    {directory : Directory}
    {pairs : List DnPair}
    {error : AuthError} :
    directory.lookup pairs = .error error ↔
      ∃ before pair after, pairs = before ++ pair :: after ∧
        (∀ earlier ∈ before, (directory.get? earlier).isSome = true) ∧
        directory.get? pair = none ∧ error = .unknownIdentity pair := by
  rw [lookup, mapM_eq_error_iff]
  refine exists_congr fun before => exists_congr fun pair => exists_congr fun after =>
    and_congr_right fun _ => and_congr (forall₂_congr fun earlier _ => ?_) ?_
  · cases directory.get? earlier <;> simp
  · cases directory.get? pair <;> simp [eq_comm]

/-- A directory in memory keeps the promise. -/
theorem isFaithful_lookup (directory : Directory) :
    IdentityLookup.IsFaithful directory.lookup := by
  intro pairs
  induction pairs with
  | nil =>
      intro identities found
      have none := lookup_eq_ok.mp found
      cases identities <;> simp_all
  | cons pair pairs inductionHypothesis =>
      intro identities found
      have stored := lookup_eq_ok.mp found
      cases identities with
      | nil => simp at stored
      | cons identity identities =>
          obtain ⟨first, rest⟩ := List.cons.inj stored
          rw [List.map_cons, dn_of_get? first, inductionHypothesis _ (lookup_eq_ok.mpr rest)]

end Directory
end Delegation
