import Delegation.Json.Basic

/-!
# JSON tokens

The marks, strings, numbers and words of a JSON text, in the order in which they are
written. White space between them is skipped.
-/

namespace Delegation
namespace Json

/-- A token of a JSON text. -/
inductive Token
  | openArray
  | closeArray
  | openObject
  | closeObject
  | comma
  | colon
  /-- A value that needs no other token: a string, a number or a word. -/
  | atom (value : Json)
  deriving Inhabited

namespace Token

/-- The characters that may stand between tokens. -/
def isSpace (c : Char) : Bool :=
  c == ' ' || c == '\n' || c == '\t' || c == '\r'

/-- The value of a hexadecimal digit. -/
def hexValue? (c : Char) : Option Nat :=
  if '0' ≤ c ∧ c ≤ '9' then some (c.toNat - '0'.toNat)
  else if 'a' ≤ c ∧ c ≤ 'f' then some (c.toNat - 'a'.toNat + 10)
  else if 'A' ≤ c ∧ c ≤ 'F' then some (c.toNat - 'A'.toNat + 10)
  else none

/-- The number that four hexadecimal digits write. -/
def hexQuad? (a b c d : Char) : Option Nat :=
  match hexValue? a, hexValue? b, hexValue? c, hexValue? d with
  | some a, some b, some c, some d => some (((a * 16 + b) * 16 + c) * 16 + d)
  | _, _, _, _ => none

/-- The first code of a surrogate pair. -/
def isHighSurrogate (code : Nat) : Bool :=
  decide (0xD800 ≤ code) && decide (code ≤ 0xDBFF)

/-- The second code of a surrogate pair. -/
def isLowSurrogate (code : Nat) : Bool :=
  decide (0xDC00 ≤ code) && decide (code ≤ 0xDFFF)

/-- The character that a surrogate pair stands for. -/
def combineSurrogates (high low : Nat) : Char :=
  Char.ofNat (0x10000 + (high - 0xD800) * 0x400 + (low - 0xDC00))

/-- The character after a backslash names this character. -/
def simpleEscape? (c : Char) : Option Char :=
  match c with
  | '"' => some '"'
  | '\\' => some '\\'
  | '/' => some '/'
  | 'b' => some '\x08'
  | 'f' => some '\x0c'
  | 'n' => some '\n'
  | 'r' => some '\r'
  | 't' => some '\t'
  | _ => none

/-- Read the rest of a string, given the reversed text so far and whether it has a text at
all. The result is the string's text and what follows the closing quote. -/
def stringBody (before : List Char) (sound : Bool) :
    List Char → Option (Option String × List Char)
  | [] => none
  | '"' :: rest => some (if sound then some (String.ofList before.reverse) else none, rest)
  | '\\' :: 'u' :: a :: b :: c :: d :: '\\' :: 'u' :: e :: f :: g :: h :: rest =>
      match hexQuad? a b c d, hexQuad? e f g h with
      | some first, some second =>
          if isHighSurrogate first && isLowSurrogate second then
            stringBody (combineSurrogates first second :: before) sound rest
          else if isHighSurrogate first || isLowSurrogate first then
            stringBody before false ('\\' :: 'u' :: e :: f :: g :: h :: rest)
          else
            stringBody (Char.ofNat first :: before) sound
              ('\\' :: 'u' :: e :: f :: g :: h :: rest)
      | _, _ => none
  | '\\' :: 'u' :: a :: b :: c :: d :: rest =>
      match hexQuad? a b c d with
      | some code =>
          if isHighSurrogate code || isLowSurrogate code then stringBody before false rest
          else stringBody (Char.ofNat code :: before) sound rest
      | none => none
  | '\\' :: c :: rest =>
      match simpleEscape? c with
      | some meant => stringBody (meant :: before) sound rest
      | none => none
  | c :: rest => if c.toNat < 0x20 then none else stringBody (c :: before) sound rest

/-- The digits in front of a text and what follows them. -/
def digits (text : List Char) : List Char × List Char :=
  (text.takeWhile Char.isDigit, text.dropWhile Char.isDigit)

/-- The value of a row of decimal digits. -/
def digitsValue (row : List Char) : Nat :=
  row.foldl (fun value c => value * 10 + (c.toNat - '0'.toNat)) 0

/-- The whole part of a number: a zero, or digits that start with another one. -/
def wholePart? (text : List Char) : Option (List Char × List Char) :=
  let parts := digits text
  if parts.1.isEmpty then none
  else if parts.1.head? = some '0' ∧ parts.1.length ≠ 1 then none
  else some parts

/-- The fraction of a number, a point and at least one digit, if a point follows. -/
def fraction? : List Char → Option (List Char × List Char)
  | '.' :: text =>
      match digits text with
      | ([], _) => none
      | (row, rest) => some ('.' :: row, rest)
  | text => some ([], text)

/-- The sign of an exponent, if one is written. -/
def exponentSign : List Char → List Char × List Char
  | '+' :: text => (['+'], text)
  | '-' :: text => (['-'], text)
  | text => ([], text)

/-- The exponent of a number, if its letter follows. -/
def exponent? : List Char → Option (List Char × List Char)
  | c :: text =>
      if c = 'e' ∨ c = 'E' then
        let (sign, unsigned) := exponentSign text
        match digits unsigned with
        | ([], _) => none
        | (row, rest) => some (c :: sign ++ row, rest)
      else
        some ([], c :: text)
  | [] => some ([], [])

/-- Read a number without its sign. -/
def number? (negative : Bool) (text : List Char) : Option (Json × List Char) := do
  let (whole, afterWhole) ← wholePart? text
  let (fraction, afterFraction) ← fraction? afterWhole
  let (exponent, rest) ← exponent? afterFraction
  let sign := if negative then ['-'] else []
  if fraction.isEmpty && exponent.isEmpty && !(negative && whole == ['0']) then
    let size : Int := digitsValue whole
    some (.integer (if negative then -size else size), rest)
  else
    some (.decimal (String.ofList (sign ++ whole ++ fraction ++ exponent)), rest)

/-- The first token of a text that starts with no space, and what follows it. -/
def next? : List Char → Option (Token × List Char)
  | [] => none
  | '[' :: rest => some (.openArray, rest)
  | ']' :: rest => some (.closeArray, rest)
  | '{' :: rest => some (.openObject, rest)
  | '}' :: rest => some (.closeObject, rest)
  | ',' :: rest => some (.comma, rest)
  | ':' :: rest => some (.colon, rest)
  | '"' :: rest => (stringBody [] true rest).map fun read => (.atom (.string read.1), read.2)
  | 't' :: 'r' :: 'u' :: 'e' :: rest => some (.atom (.bool true), rest)
  | 'f' :: 'a' :: 'l' :: 's' :: 'e' :: rest => some (.atom (.bool false), rest)
  | 'n' :: 'u' :: 'l' :: 'l' :: rest => some (.atom .null, rest)
  | '-' :: rest => (number? true rest).map fun read => (.atom read.1, read.2)
  | text => (number? false text).map fun read => (.atom read.1, read.2)

/-- What follows a string is shorter than the text that holds it. -/
theorem length_stringBody {before : List Char} {sound : Bool} {text : List Char}
    {read : Option String × List Char} (found : stringBody before sound text = some read) :
    read.2.length < text.length := by
  fun_induction stringBody before sound text <;> simp_all only [List.length_cons, reduceCtorEq]
  all_goals first | omega | grind

/-- No character is lost when the digits in front are split off. -/
theorem digits_append (text : List Char) : (digits text).1 ++ (digits text).2 = text := by
  simp [digits]

theorem length_digits (text : List Char) : (digits text).2.length ≤ text.length :=
  (List.dropWhile_sublist _).length_le

theorem length_wholePart? {text : List Char} {parts : List Char × List Char}
    (found : wholePart? text = some parts) : parts.2.length < text.length := by
  have whole := congrArg List.length (digits_append text)
  unfold wholePart? at found
  cases row : (digits text).1 <;> grind

theorem length_fraction? {text : List Char} {parts : List Char × List Char}
    (found : fraction? text = some parts) : parts.2.length ≤ text.length := by
  unfold fraction? at found
  split at found
  · rename_i rest
    have shorter := length_digits rest
    split at found <;> grind
  · grind

theorem length_exponentSign (text : List Char) :
    (exponentSign text).2.length ≤ text.length := by
  unfold exponentSign
  split <;> simp

theorem length_exponent? {text : List Char} {parts : List Char × List Char}
    (found : exponent? text = some parts) : parts.2.length ≤ text.length := by
  unfold exponent? at found
  split at found
  · rename_i c rest
    split at found
    · have signed := length_exponentSign rest
      have shorter := length_digits (exponentSign rest).2
      split at found
      split at found <;> grind
    · grind
  · grind

/-- What follows a number is shorter than the text that holds it. -/
theorem length_number? {negative : Bool} {text : List Char} {read : Json × List Char}
    (found : number? negative text = some read) : read.2.length < text.length := by
  simp only [number?, Option.bind_eq_bind, Option.bind_eq_some_iff] at found
  obtain ⟨⟨whole, afterWhole⟩, first, ⟨fraction, afterFraction⟩, second,
    ⟨exponent, rest⟩, third, found⟩ := found
  have shorter := length_wholePart? first
  have fractionShorter := length_fraction? second
  have exponentShorter := length_exponent? third
  simp only at shorter fractionShorter exponentShorter found
  split at found <;> (obtain rfl := Option.some.inj found; simp only; omega)

/-- What follows a token is shorter than the text that holds it. -/
theorem length_next? {text : List Char} {read : Token × List Char}
    (found : next? text = some read) : read.2.length < text.length := by
  unfold next? at found
  split at found
  case h_1 => simp at found
  case h_8 =>
    obtain ⟨inner, equal, rfl⟩ := Option.map_eq_some_iff.mp found
    have shorter := length_stringBody equal
    simp only [List.length_cons]
    omega
  case h_12 =>
    obtain ⟨inner, equal, rfl⟩ := Option.map_eq_some_iff.mp found
    have shorter := length_number? equal
    simp only [List.length_cons]
    omega
  case h_13 =>
    obtain ⟨inner, equal, rfl⟩ := Option.map_eq_some_iff.mp found
    exact length_number? equal
  all_goals
    obtain rfl := Option.some.inj found
    simp only [List.length_cons]
    omega

/-- The tokens of a text, given the reversed tokens before it. -/
def scanFrom (before : List Token) (text : List Char) : Option (List Token) :=
  match _spaceless : text.dropWhile isSpace with
  | [] => some before.reverse
  | c :: rest =>
      match _found : next? (c :: rest) with
      | none => none
      | some (token, remaining) => scanFrom (token :: before) remaining
termination_by text.length
decreasing_by
  have shorter := length_next? _found
  have spaces := (List.dropWhile_sublist (p := isSpace) (l := text)).length_le
  rw [_spaceless] at spaces
  exact Nat.lt_of_lt_of_le shorter spaces

/-- The tokens of a text. -/
def scan (text : List Char) : Option (List Token) :=
  scanFrom [] text

end Token
end Json
end Delegation
