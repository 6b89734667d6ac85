/-!
# Blank characters

The white space of the Unicode character database and the removal of it from both
ends of a text.
-/

namespace Delegation
namespace Text

/-- The characters with the property `White_Space`. -/
def isBlank (c : Char) : Bool :=
  let code := c.toNat
  (decide (0x9 ≤ code) && decide (code ≤ 0xD)) || code == 0x20 || code == 0x85 ||
    code == 0xA0 || code == 0x1680 ||
    (decide (0x2000 ≤ code) && decide (code ≤ 0x200A)) ||
    code == 0x2028 || code == 0x2029 || code == 0x202F || code == 0x205F || code == 0x3000

/-- Remove the blanks in front. -/
def trimLeft (text : List Char) : List Char :=
  text.dropWhile isBlank

/-- Remove the blanks at the end. -/
def trimRight (text : List Char) : List Char :=
  (text.reverse.dropWhile isBlank).reverse

/-- Remove the blanks at both ends. -/
def trim (text : List Char) : List Char :=
  trimRight (trimLeft text)

@[simp] theorem trimLeft_nil : trimLeft [] = [] := rfl

@[simp] theorem trimRight_nil : trimRight [] = [] := rfl

theorem trimLeft_cons (c : Char) (text : List Char) :
    trimLeft (c :: text) = if isBlank c then trimLeft text else c :: text := by
  simp [trimLeft, List.dropWhile_cons]

/-- A text that starts with a visible character has no blanks to remove in front. -/
theorem trimLeft_cons_of_not_isBlank {c : Char} (text : List Char) (visible : isBlank c = false) :
    trimLeft (c :: text) = c :: text := by
  simp [trimLeft_cons, visible]

/-- A text that ends with a visible character has no blanks to remove at its end. -/
theorem trimRight_concat_of_not_isBlank {c : Char} (text : List Char)
    (visible : isBlank c = false) :
    trimRight (text ++ [c]) = text ++ [c] := by
  simp [trimRight, visible]

/-- A text is blank when nothing is left of it after trimming. -/
def isBlankText (text : List Char) : Bool :=
  (trim text).isEmpty

/-- Remove the blanks at both ends of a string. -/
def trimString (text : String) : String :=
  String.ofList (trim text.toList)

end Text
end Delegation
