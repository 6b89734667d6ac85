/-!
# Case of the ASCII letters

Comparison and lower-casing that touch the letters A to Z only.
-/

namespace Delegation
namespace Text

/-- Lower-case the letters A to Z and keep every other character. -/
def asciiLower (text : List Char) : List Char :=
  text.map Char.toLower

/-- Equality up to the case of the letters A to Z. -/
def eqIgnoringAsciiCase (first second : List Char) : Bool :=
  asciiLower first == asciiLower second

/-- Lower-case the letters A to Z of a string. -/
def asciiLowerString (text : String) : String :=
  String.ofList (asciiLower text.toList)

end Text
end Delegation
