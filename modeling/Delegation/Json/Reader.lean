import Delegation.Json.Token
import Delegation.Text.Utf8

/-!
# Reading JSON

A JSON text is read token by token with a stack of the arrays and objects that are still
open, so that values may nest to any depth. One value and nothing else may be written.
-/

namespace Delegation
namespace Json
namespace Reader

/-- An array or object that is still open, with its reversed contents. -/
inductive Frame
  | array (items : List Json)
  /-- An object whose next member has the key. -/
  | object (members : List (Option String × Json)) (key : Option String)

/-- What may follow in the text. -/
inductive Expecting
  /-- A value. -/
  | value
  /-- The first item of an array, or its end. -/
  | firstItem
  /-- The first key of an object, or its end. -/
  | firstKey (members : List (Option String × Json))
  /-- The key of a further member. -/
  | key (members : List (Option String × Json))
  /-- The colon after a key. -/
  | colon (members : List (Option String × Json)) (key : Option String)
  /-- The end of the value just read, or a comma after it. -/
  | afterValue (value : Json)

/-- The open values and what may follow. -/
structure State where
  frames : List Frame
  expecting : Expecting

/-- Nothing is read yet. -/
def start : State := ⟨[], .value⟩

/-- Begin a value with its first token. -/
def beginValue (frames : List Frame) : Token → Option State
  | .atom value => some ⟨frames, .afterValue value⟩
  | .openArray => some ⟨.array [] :: frames, .firstItem⟩
  | .openObject => some ⟨frames, .firstKey []⟩
  | _ => none

/-- Continue after a whole value. -/
def afterValue (frames : List Frame) (value : Json) (token : Token) : Option State :=
  match frames, token with
  | .array items :: outer, .comma => some ⟨.array (value :: items) :: outer, .value⟩
  | .array items :: outer, .closeArray =>
      some ⟨outer, .afterValue (.array (value :: items).reverse)⟩
  | .object members key :: outer, .comma => some ⟨outer, .key ((key, value) :: members)⟩
  | .object members key :: outer, .closeObject =>
      some ⟨outer, .afterValue (.object ((key, value) :: members).reverse)⟩
  | _, _ => none

/-- Read one token. -/
def step (state : State) (token : Token) : Option State :=
  match state.expecting, token with
  | .value, token => beginValue state.frames token
  | .firstItem, .closeArray => some ⟨state.frames.tail, .afterValue (.array [])⟩
  | .firstItem, token => beginValue state.frames token
  | .firstKey _, .closeObject => some ⟨state.frames, .afterValue (.object [])⟩
  | .firstKey members, .atom (.string key) => some ⟨state.frames, .colon members key⟩
  | .key members, .atom (.string key) => some ⟨state.frames, .colon members key⟩
  | .colon members key, .colon => some ⟨.object members key :: state.frames, .value⟩
  | .afterValue value, token => afterValue state.frames value token
  | _, _ => none

/-- The value that is read when the text ends. -/
def finish? (state : State) : Option Json :=
  match state.frames, state.expecting with
  | [], .afterValue value => some value
  | _, _ => none

end Reader

/-- Read a JSON text. -/
def read? (text : String) : Option Json := do
  let tokens ← Token.scan text.toList
  let state ← tokens.foldlM Reader.step Reader.start
  Reader.finish? state

/-- An escape that names no character, and a letter that keeps it apart from others. -/
def unreadableEscape : List Char := ['\\', 'u', 'd', '8', '0', '0', 'x']

/-- Read the bytes of a JSON text. A string with bytes that are no character has no text. -/
def readBytes? (bytes : List UInt8) : Option Json :=
  match Text.ofUtf8? bytes with
  | some text => read? text
  | none =>
      read? (String.ofList ((Text.chars bytes).flatMap fun c =>
        match c with
        | some c => [c]
        | none => unreadableEscape))

end Json
end Delegation
