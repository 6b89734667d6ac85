import Delegation.Text.AsciiCase
import Delegation.Text.Blank
import Delegation.Text.Cut
import Delegation.Text.Lowercase
import Delegation.Url.Percent
import Delegation.Url.Punycode

/-!
# Domains

The ASCII form of a domain: its characters are folded, and a label that is not ASCII is
written in Punycode. Some characters never stand in a domain.
-/

namespace Delegation
namespace Url
namespace Domain

/-- Characters that are dropped when a domain is folded. -/
def isDropped (c : Char) : Bool :=
  let code := c.toNat
  code == 0xAD || code == 0x34F || code == 0x200B || code == 0x2060 || code == 0x2064 ||
    code == 0xFEFF || (decide (0x180B ≤ code) && decide (code ≤ 0x180F) && code != 0x180E) ||
    (decide (0xFE00 ≤ code) && decide (code ≤ 0xFE0F))

/-- Characters that separate labels like a full stop. -/
def isDot (c : Char) : Bool :=
  ['.', '。', '．', '｡'].contains c

/-- The fold of a character: small letters in ordinary width. -/
def fold (c : Char) : List Char :=
  let code := c.toNat
  if isDropped c then []
  else if isDot c then ['.']
  else if 0xFF01 ≤ code ∧ code ≤ 0xFF5E then [Text.lowerChar (Char.ofNat (code - 0xFEE0))]
  else if c = 'ẞ' then ['ß']
  else if c = Text.dottedCapitalI then ['i', '\u0307']
  else [Text.lowerChar c]

/-- Characters that do not stand in a domain. -/
def isForbidden (c : Char) : Bool :=
  let code := c.toNat
  decide (code ≤ 0x20) || (decide (0x7F ≤ code) && decide (code ≤ 0x9F)) || Text.isBlank c ||
    code == 0x200C || code == 0x200D ||
    ['%', '#', '/', ':', '<', '>', '?', '@', '[', '\\', ']', '^', '|'].contains c ||
    (decide (0xE000 ≤ code) && decide (code ≤ 0xF8FF)) || code == 0xFFFD ||
    decide (0xF0000 ≤ code)

/-- Every character is ASCII. -/
def isAscii (label : List Char) : Bool :=
  label.all fun c => decide (c.toNat < 0x80)

/-- The sign of a label in Punycode. -/
def punycodeSign : List Char := ['x', 'n', '-', '-']

/-- A label that claims to be Punycode is the written form of a label beyond ASCII. -/
def isSoundLabel (label : List Char) : Bool :=
  match Text.afterWord punycodeSign label with
  | none => true
  | some written =>
      let (basic, digits) := (Text.cutLast '-' written).getD ([], written)
      match Punycode.readCodes basic 0 0x80 72 digits with
      | none => false
      | some meant => !isAscii meant && Punycode.encode meant == written &&
          meant.flatMap fold == meant && !meant.any isForbidden

/-- The ASCII form of a label. -/
def labelToAscii (label : List Char) : List Char :=
  if isAscii label then label else punycodeSign ++ Punycode.encode label

/-- The ASCII form of a domain, unless it is empty or holds what no domain holds. -/
def toAscii? (bytes : List UInt8) : Option (List Char) := do
  let text ← Text.ofUtf8? bytes
  let labels := (Text.piecesAt '.' (text.toList.flatMap fold))
  let ascii := Text.joinWith ['.'] (labels.map labelToAscii)
  if ascii.isEmpty || labels.any (·.any isForbidden) || !labels.all isSoundLabel then none
  else some ascii

end Domain
end Url
end Delegation
