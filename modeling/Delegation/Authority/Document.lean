import Delegation.Documents.Identity
import Delegation.Json.Record

/-!
# Documents of a remote authority

The effective authorizations of the members of a chain, and the acknowledgement of a
request. Fields that are left out have a default.
-/

namespace Delegation
namespace Authority

/-- The labels granted to one member. -/
structure MemberAuthorizations where
  /-- The member. -/
  dn : DnPair
  /-- Its labels. -/
  auths : NameSet
  deriving DecidableEq

namespace MemberAuthorizations

/-- The document of a member's labels. -/
def toJson (entry : MemberAuthorizations) : Json :=
  .ofMembers [("dn", entry.dn.toJson), ("auths", .ofNameSet entry.auths)]

/-- Read the document of a member's labels. -/
def ofJson? (json : Json) : Option MemberAuthorizations := do
  match ← json.fields? ["dn", "auths"] with
  | [dn, auths] =>
      some {
        dn := ← Json.required? DnPair.ofJson? dn
        auths := ← Json.defaulted? ∅ Json.nameSet? auths }
  | _ => none

end MemberAuthorizations

/-- The effective authorizations for a chain. -/
structure AuthorizationSet where
  /-- The labels of each member. -/
  members : List MemberAuthorizations := []
  /-- Which labels the authority grants for a role. -/
  mapping : NameMap NameSet := ∅
  /-- Remarks of the authority. -/
  messages : List String := []
  deriving DecidableEq

namespace AuthorizationSet

/-- The labels of a member: those of the first entry for its pair. -/
def authsFor? (set : AuthorizationSet) (dn : DnPair) : Option NameSet :=
  (set.members.find? fun entry => decide (entry.dn = dn)).map (·.auths)

/-- The labels that every member has; none when there are no members. -/
def effective (set : AuthorizationSet) : NameSet :=
  match set.members with
  | [] => ∅
  | first :: rest => rest.foldl (fun labels entry => labels.inter entry.auths) first.auths

/-- The document of the authorizations. -/
def toJson (set : AuthorizationSet) : Json :=
  .ofMembers [
    ("userAuthorizations", .array (set.members.map MemberAuthorizations.toJson)),
    ("authMapping", .ofNameMap .ofNameSet set.mapping),
    ("messages", .ofStrings set.messages)]

/-- Read the document of the authorizations. -/
def ofJson? (json : Json) : Option AuthorizationSet := do
  match ← json.fields? ["userAuthorizations", "authMapping", "messages"] with
  | [members, mapping, messages] =>
      some {
        members := ← Json.defaulted? [] (Json.listOf? MemberAuthorizations.ofJson?) members
        mapping := ← Json.defaulted? ∅ (Json.nameMap? Json.nameSet?) mapping
        messages := ← Json.defaulted? [] Json.strings? messages }
  | _ => none

end AuthorizationSet

/-- The acknowledgement of a request. -/
structure Acknowledgement where
  /-- What was done, in words. -/
  result : Option String := none
  /-- Remarks of the authority. -/
  messages : List String := []
  /-- There are results. -/
  hasResults : Bool := false
  /-- How long it took, in milliseconds. -/
  operationMillis : Nat := 0
  deriving DecidableEq

namespace Acknowledgement

/-- The document of an acknowledgement. -/
def toJson (acknowledgement : Acknowledgement) : Json :=
  .ofMembers [
    ("Result", .ofOption (acknowledgement.result.map .ofString)),
    ("Messages", .ofStrings acknowledgement.messages),
    ("HasResults", .bool acknowledgement.hasResults),
    ("OperationTimeMS", .ofNat acknowledgement.operationMillis)]

/-- Read the document of an acknowledgement. -/
def ofJson? (json : Json) : Option Acknowledgement := do
  match ← json.fields? ["Result", "Messages", "HasResults", "OperationTimeMS"] with
  | [result, messages, hasResults, millis] =>
      some {
        result := ← Json.defaulted? none (Json.nullable? Json.asString?) result
        messages := ← Json.defaulted? [] Json.strings? messages
        hasResults := ← Json.defaulted? false Json.asBool? hasResults
        operationMillis := ← Json.defaulted? 0 (Json.word? 64) millis }
  | _ => none

end Acknowledgement
end Authority
end Delegation
