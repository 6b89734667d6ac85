import Delegation.Http.Guard
import Delegation.Json.Writer

/-!
# Responses

What is answered when a guard refuses a request, and when a handler asks for a chain that
the request does not have.
-/

namespace Delegation
namespace Http

/-- What a body holds. -/
inductive Body
  /-- Nothing, or text without a kind. -/
  | plain (text : String)
  /-- A text for people. -/
  | text (text : String)
  /-- A document. -/
  | document (json : Json)

/-- The kind of a body, where one is given. -/
def Body.contentType? : Body → Option String
  | plain _ => none
  | text _ => some "text/plain; charset=utf-8"
  | document _ => some "application/json"

/-- A response. -/
structure Response where
  /-- The status. -/
  status : Nat
  /-- The body. -/
  body : Body

namespace Response

/-- The document of an error: its tag, its wording and its status. -/
def errorDocument (error : AuthError) : Json :=
  .ofMembers [
    ("error", .ofString error.tag),
    ("message", .ofString error.message),
    ("status", .ofNat error.status)]

/-- The response to a refused request. -/
def ofError (error : AuthError) : Response :=
  ⟨error.status, .document (errorDocument error)⟩

/-- The response of a handler that needs a chain to a request without one. -/
def notAuthenticated : Response :=
  ⟨401, .text "Request is not authenticated"⟩

/-- The response to a request for something that does not exist. -/
def notFound : Response := ⟨404, .plain ""⟩

/-- The response of a handler that needs a chain. -/
def withChain (handler : AuthenticatedChain → Response) :
    Option AuthenticatedChain → Response
  | some chain => handler chain
  | none => notAuthenticated

end Response

/-- The response to a request: that of its handler, unless the guard refuses it. -/
def Guard.respond (guard : Guard) (now : Int) (request : Request)
    (handler : Option AuthenticatedChain → Response) : Response :=
  match (guard.examine now request).result with
  | .ok chain => handler chain
  | .error error => .ofError error

end Http
end Delegation
