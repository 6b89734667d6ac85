import Delegation.Documents.Identity
import Delegation.Proofs.Dn.NormalForm
import Delegation.Proofs.Json.Records

/-!
# Identities are read as they were written

A pair holds normal forms, which reading leaves as they are, and a set is written in its order.
An identity is therefore read from its document as it was, if its time of creation is a number
that documents hold.
-/

namespace Delegation

/-- A pair of names is read back from the document that is written of it. -/
theorem DnPair.ofJson?_toJson (pair : DnPair) :
    ofJson? pair.toJson = some pair := by
  have fields : pair.toJson.fields? ["subjectDn", "issuerDn"] =
      some [some (.ofString pair.subject), some (.ofString pair.issuer)] :=
    Json.fields?_ofMembers (by simp) _
  rw [ofJson?, fields]
  exact congrArg some pair.ofNames_self

theorem DnPair.isExact_toJson (pair : DnPair) : pair.toJson.IsExact := by
  refine .object _ ?_
  simp only [List.forall_mem_cons, List.not_mem_nil, false_implies, implies_true, and_true]
  exact ⟨.string _, .string _⟩

/-- A type of principal is read back from its name. -/
theorem PrincipalType.ofJson?_render (type : PrincipalType) :
    ofJson? (.ofString type.render) = some type :=
  PrincipalType.parse?_render type

namespace Identity

variable {identity : Identity}

/-- An identity whose time of creation fits in 64 bits is read back whole from its document. -/
theorem ofJson?_toJson
    (fits : Json.IsInt64 identity.created) :
    ofJson? identity.toJson = some identity := by
  have fields : identity.toJson.fields? ["dn", "userType", "roles", "auths", "creationTime"] =
      some [some identity.dn.toJson, some (.ofString identity.type.render),
        some (.ofNameSet identity.roles), some (.ofNameSet identity.auths),
        some (.integer identity.created)] :=
    Json.fields?_ofMembers (by simp) _
  rw [ofJson?, fields]
  simp [Json.required?, Json.defaulted?, DnPair.ofJson?_toJson, PrincipalType.ofJson?_render,
    Json.nameSet?_ofNameSet, Json.int64?_integer fits]

/-- The document of an identity holds nothing that its text would lose. -/
theorem isExact_toJson (identity : Identity) : identity.toJson.IsExact := by
  refine .object _ ?_
  simp only [List.forall_mem_cons, List.not_mem_nil, false_implies, implies_true, and_true]
  exact ⟨identity.dn.isExact_toJson, .string _, Json.isExact_ofNameSet _,
    Json.isExact_ofNameSet _, .integer _⟩

end Identity
end Delegation
