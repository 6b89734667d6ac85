import Delegation.Identity
import Delegation.Json.Record

/-!
# Identities as documents

The JSON form of pairs of names and of identities, and the reading of it. Names are brought
into normal form when they are read.
-/

namespace Delegation

namespace DnPair

/-- The document of a pair. -/
def toJson (pair : DnPair) : Json :=
  .ofMembers [("subjectDn", .ofString pair.subject), ("issuerDn", .ofString pair.issuer)]

/-- Read the document of a pair. -/
def ofJson? (json : Json) : Option DnPair := do
  match ← json.fields? ["subjectDn", "issuerDn"] with
  | [subject, issuer] =>
      some (ofNames (← Json.required? Json.asString? subject)
        (← Json.required? Json.asString? issuer))
  | _ => none

end DnPair

namespace PrincipalType

/-- Read the document of a type. -/
def ofJson? (json : Json) : Option PrincipalType :=
  json.choice?.bind parse?

end PrincipalType

namespace Identity

/-- The document of an identity. -/
def toJson (identity : Identity) : Json :=
  .ofMembers [
    ("dn", identity.dn.toJson),
    ("userType", .ofString identity.type.render),
    ("roles", .ofNameSet identity.roles),
    ("auths", .ofNameSet identity.auths),
    ("creationTime", .integer identity.created)]

/-- Read the document of an identity; roles and authorization labels may be left out. -/
def ofJson? (json : Json) : Option Identity := do
  match ← json.fields? ["dn", "userType", "roles", "auths", "creationTime"] with
  | [dn, type, roles, auths, created] =>
      some {
        dn := ← Json.required? DnPair.ofJson? dn
        type := ← Json.required? PrincipalType.ofJson? type
        roles := ← Json.defaulted? ∅ Json.nameSet? roles
        auths := ← Json.defaulted? ∅ Json.nameSet? auths
        created := ← Json.required? Json.int64? created }
  | _ => none

end Identity
end Delegation
