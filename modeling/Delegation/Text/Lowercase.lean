import Delegation.Text.CaseTable

/-!
# Lower case

Full lower-casing of a text. Every capital has one small letter, with two exceptions:
the dotted capital I becomes an `i` followed by a combining dot, and a capital sigma
that ends a word becomes the final form of the letter. A word is seen through the
characters that case ignores.
-/

namespace Delegation
namespace Text

/-- Letters that have case. -/
def isCased (c : Char) : Bool :=
  inRanges casedRanges c.toNat

/-- Characters that do not end a word where case is concerned. -/
def isCaseIgnorable (c : Char) : Bool :=
  inRanges caseIgnorableRanges c.toNat

/-- The first character that case does not look through is a letter with case. -/
def meetsCased (text : List Char) : Bool :=
  match text.dropWhile isCaseIgnorable with
  | [] => false
  | c :: _ => isCased c

/-- The one-character small letter, or the character itself. -/
def lowerChar (c : Char) : Char :=
  match caseRuns.find? (·.covers c.toNat) with
  | some run => Char.ofNat (run.map c.toNat)
  | none => c

/-- The capital sigma. -/
def capitalSigma : Char := 'Σ'

/-- The dotted capital I. -/
def dottedCapitalI : Char := 'İ'

/-- The small form of one character between the reversed text before it and the text after it. -/
def lowerAt (before : List Char) (c : Char) (after : List Char) : List Char :=
  if c = capitalSigma then
    [if meetsCased before && !meetsCased after then 'ς' else 'σ']
  else if c = dottedCapitalI then
    ['i', '\u0307']
  else
    [lowerChar c]

/-- Lower-case a text, given the reversed text before it. -/
def lowerFrom (before : List Char) : List Char → List Char
  | [] => []
  | c :: after => lowerAt before c after ++ lowerFrom (c :: before) after

/-- Lower-case a whole text. -/
def lower (text : List Char) : List Char :=
  lowerFrom [] text

@[simp] theorem lower_nil : lower [] = [] := rfl

/-- Lower-case a string. -/
def lowerString (text : String) : String :=
  String.ofList (lower text.toList)

end Text
end Delegation
