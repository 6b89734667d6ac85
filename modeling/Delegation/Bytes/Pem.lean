import Delegation.Bytes.Base64
import Delegation.Text.Blank
import Delegation.Text.Cut

/-!
# Bytes in text blocks

Bytes in Base64 between a line that begins a block and a line that ends it, with other text
around them. A certificate is looked for line by line and its labels are not looked at. A key
is looked for mark by mark; its labels must be the same, and it may have headers.
-/

namespace Delegation
namespace Pem

/-- The mark in front of the label of a block. -/
def beginMark : List Char := "-----BEGIN ".toList

/-- The mark in front of the label at the end of a block. -/
def endMark : List Char := "-----END ".toList

/-- The mark after a label. -/
def labelMark : List Char := "-----".toList

/-- A line starts with a mark. -/
def startsWith (mark line : List Char) : Bool :=
  (Text.afterWord mark line).isSome

/-- The lines up to the one that ends a block, if there is one. -/
def bodyLines? : List (List Char) → Option (List (List Char))
  | [] => none
  | line :: lines =>
      if startsWith endMark line then some []
      else (bodyLines? lines).map fun body => line :: body

/-- The bytes of lines of Base64; blanks at the ends of lines do not count. -/
def bytesOf? (lines : List (List Char)) : Option (List UInt8) :=
  Base64.standard.decode? (lines.map Text.trimRight).flatten

/-- The bytes of the first block of a text, whatever its label. -/
def contents? (text : String) : Option (List UInt8) :=
  match (Text.piecesAt '\n' text.toList).dropWhile fun line => !startsWith beginMark line with
  | [] => none
  | first :: lines => do
      let label ← Text.afterWord beginMark first
      let _ ← Text.cutWord labelMark label
      bytesOf? (← bodyLines? lines)

/-- A block with its label. -/
structure Block where
  /-- What the bytes are. -/
  label : String
  /-- The bytes. -/
  contents : List UInt8
  deriving DecidableEq

/-- The characters that separate the marks of a block from its body. -/
def isSpacing (c : Char) : Bool :=
  c == ' ' || c == '\t' || c == '\n' || c == '\r'

/-- The headers of a body and what follows them. An empty line is the end of headers. -/
def splitHeaders (body : List Char) : List Char × List Char :=
  match Text.cutWord ['\n', '\n'] body with
  | some parts => parts
  | none => (Text.cutWord ['\r', '\n', '\r', '\n'] body).getD ([], body)

/-- Every header has a name before a colon. -/
def areHeaders (headers : List Char) : Bool :=
  headers.isEmpty || (Text.piecesAt '\n' headers).all fun line => line.contains ':'

/-- The first block of a text, if its labels are the same. -/
def block? (text : String) : Option Block := do
  let (_, rest) ← Text.cutWord beginMark text.toList
  let (label, rest) ← Text.cutWord labelMark rest
  let (body, rest) ← Text.cutWord endMark (rest.dropWhile isSpacing)
  let (endLabel, _) ← Text.cutWord labelMark rest
  let (headers, data) := splitHeaders body
  if label = endLabel ∧ label ≠ [] ∧ areHeaders headers then
    some ⟨String.ofList label, ← bytesOf? (Text.piecesAt '\n' data)⟩
  else none

end Pem
end Delegation
