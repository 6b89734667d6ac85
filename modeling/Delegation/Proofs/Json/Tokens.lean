import Delegation.Json.Token
import Delegation.Json.Writer

/-!
# Tokens of written values

The text of a string, of a whole number or of a mark is read as one token, and what follows it
is left as it is. A number needs to be followed by something that does not go on with it. Texts
in a row are therefore read as the tokens of each of them in a row.
-/

namespace Delegation
namespace Json
namespace Token

theorem hexValue?_hexDigit : ∀ value < 16, hexValue? (hexDigit value) = some value := by
  decide

theorem hexQuad?_hexDigit
    {code : Nat}
    (small : code < 0x20) :
    hexQuad? '0' '0' (hexDigit (code / 16)) (hexDigit (code % 16)) = some code := by
  have high := hexValue?_hexDigit (code / 16) (by omega)
  have low := hexValue?_hexDigit (code % 16) (by omega)
  have zero : hexValue? '0' = some 0 := by decide
  simp only [hexQuad?, zero, high, low, Option.some.injEq]
  omega

/-- An escape of four characters that are no digits ends nothing. -/
theorem stringBody_of_noQuad
    {a b c d : Char}
    (noQuad : hexQuad? a b c d = none)
    (before : List Char)
    (sound : Bool)
    (rest : List Char) :
    stringBody before sound ('\\' :: 'u' :: a :: b :: c :: d :: rest) = none := by
  rw [stringBody.eq_def]
  split <;> grind

/-- Four digits that name a character of its own are read as this character, whatever follows. -/
theorem stringBody_hexQuad
    {a b c d : Char}
    {code : Nat}
    (quad : hexQuad? a b c d = some code)
    (noHigh : isHighSurrogate code = false)
    (noLow : isLowSurrogate code = false)
    (before : List Char)
    (sound : Bool)
    (rest : List Char) :
    stringBody before sound ('\\' :: 'u' :: a :: b :: c :: d :: rest) =
      stringBody (Char.ofNat code :: before) sound rest := by
  rw [stringBody.eq_def]
  split
  case h_3 a' b' c' d' e f g h rest' same =>
    -- A second escape follows; it is read next unless its characters are no digits.
    obtain ⟨rfl, rfl, rfl, rfl, rfl⟩ : a = a' ∧ b = b' ∧ c = c' ∧ d = d' ∧
        rest = '\\' :: 'u' :: e :: f :: g :: h :: rest' := by simpa using same
    cases second : hexQuad? e f g h with
    | some further => simp [quad, noHigh, noLow]
    | none => simp [quad, stringBody_of_noQuad second]
  all_goals grind

theorem stringBody_plain
    {c : Char}
    (noQuote : c ≠ '"')
    (noBackslash : c ≠ '\\')
    (visible : ¬ c.toNat < 0x20)
    (before : List Char)
    (sound : Bool)
    (rest : List Char) :
    stringBody before sound (c :: rest) = stringBody (c :: before) sound rest := by
  rw [stringBody.eq_def]
  split <;> grind

/-- A written character is read as the character. -/
theorem stringBody_escapeChar
    (before : List Char)
    (sound : Bool)
    (c : Char)
    (rest : List Char) :
    stringBody before sound (escapeChar c ++ rest) = stringBody (c :: before) sound rest := by
  unfold escapeChar
  split
  case h_8 noQuote noBackslash _ _ _ _ _ =>
    split
    · rename_i small
      have noHigh : isHighSurrogate c.toNat = false := by
        simp only [isHighSurrogate]
        grind
      have noLow : isLowSurrogate c.toNat = false := by
        simp only [isLowSurrogate]
        grind
      have read := stringBody_hexQuad (hexQuad?_hexDigit small) noHigh noLow before sound rest
      rw [Char.ofNat_toNat] at read
      exact read
    · rename_i visible
      exact stringBody_plain noQuote noBackslash visible before sound rest
  all_goals simp [stringBody, simpleEscape?]

/-- A written text is read as the text. -/
theorem stringBody_flatMap_escapeChar
    (before : List Char)
    (sound : Bool)
    (text rest : List Char) :
    stringBody before sound (text.flatMap escapeChar ++ rest) =
      stringBody (text.reverse ++ before) sound rest := by
  induction text generalizing before with
  | nil => rfl
  | cons c text inductionHypothesis =>
      rw [List.flatMap_cons, List.append_assoc, stringBody_escapeChar, inductionHypothesis]
      simp


/-- A text that goes on with no digit, point or exponent, so that a number before it is whole. -/
def EndsNumber (rest : List Char) : Prop :=
  ∀ c ∈ rest.head?, c.isDigit = false ∧ c ≠ '.' ∧ c ≠ 'e' ∧ c ≠ 'E'

theorem digits_of_endsNumber
    {row rest : List Char}
    (all : ∀ c ∈ row, c.isDigit = true)
    (ends : EndsNumber rest) :
    digits (row ++ rest) = (row, rest) := by
  rw [digits, List.takeWhile_append_of_pos all, List.dropWhile_append_of_pos all]
  cases rest with
  | nil => simp
  | cons c rest => simp [(ends c rfl).1]

/-- No number but zero starts with the digit zero. -/
theorem head?_toDigits
    {value : Nat}
    (positive : 0 < value) :
    (Nat.toDigits 10 value).head? ≠ some '0' := by
  induction value using Nat.strongRecOn with
  | ind value inductionHypothesis =>
      rcases Nat.lt_or_ge value 10 with small | large
      · have nonzero : ∀ digit < 10, 0 < digit → Nat.digitChar digit ≠ '0' := by decide
        rw [Nat.toDigits_of_lt_base small]
        simpa using nonzero value small positive
      · have shorter := inductionHypothesis (value / 10) (by omega) (by omega)
        rw [Nat.toDigits_of_base_le (by decide) large, List.head?_append]
        cases leading : Nat.toDigits 10 (value / 10) with
        | nil => exact absurd leading Nat.toDigits_ne_nil
        | cons c row => simpa [leading] using shorter

theorem digitsValue_toDigits (value : Nat) :
    digitsValue (Nat.toDigits 10 value) = value := by
  have read := Nat.ofDigitChars_ten_toDigits (n := value)
  rw [Nat.ofDigitChars_eq_foldl] at read
  rw [digitsValue]
  simpa only [Nat.mul_comm] using read

theorem wholePart?_toDigits
    {rest : List Char}
    (ends : EndsNumber rest)
    (value : Nat) :
    wholePart? (Nat.toDigits 10 value ++ rest) = some (Nat.toDigits 10 value, rest) := by
  have all : ∀ c ∈ Nat.toDigits 10 value, c.isDigit = true :=
    fun c => Nat.isDigit_of_mem_toDigits (by decide) (by decide)
  have split := digits_of_endsNumber all ends
  simp only [wholePart?, split, List.isEmpty_iff, Nat.toDigits_ne_nil, if_false]
  rw [if_neg]
  rintro ⟨zero, long⟩
  rcases Nat.eq_zero_or_pos value with rfl | positive
  · simp at long
  · exact head?_toDigits positive zero

theorem fraction?_of_endsNumber
    {rest : List Char}
    (ends : EndsNumber rest) :
    fraction? rest = some ([], rest) := by
  unfold fraction?
  split
  · exact absurd rfl (ends '.' rfl).2.1
  · rfl

theorem exponent?_of_endsNumber
    {rest : List Char}
    (ends : EndsNumber rest) :
    exponent? rest = some ([], rest) := by
  cases rest with
  | nil => rfl
  | cons c rest => simp [exponent?, (ends c rfl).2.2.1, (ends c rfl).2.2.2]

/-- The digits of a number are read as it when nothing follows that could belong to them. -/
theorem number?_toDigits
    {rest : List Char}
    (ends : EndsNumber rest)
    (value : Nat) :
    number? false (Nat.toDigits 10 value ++ rest) = some (.integer value, rest) := by
  simp [number?, wholePart?_toDigits ends, fraction?_of_endsNumber ends,
    exponent?_of_endsNumber ends, digitsValue_toDigits]

theorem number?_neg_toDigits
    {rest : List Char}
    (ends : EndsNumber rest)
    {value : Nat}
    (positive : 0 < value) :
    number? true (Nat.toDigits 10 value ++ rest) = some (.integer (-value), rest) := by
  have nonzero : Nat.toDigits 10 value ≠ ['0'] := by
    intro zero
    exact head?_toDigits positive (by rw [zero]; rfl)
  simp [number?, wholePart?_toDigits ends, fraction?_of_endsNumber ends,
    exponent?_of_endsNumber ends, digitsValue_toDigits, nonzero]

/-- A text that starts with a digit starts with a number. -/
theorem next?_of_isDigit
    {c : Char}
    (digit : c.isDigit = true)
    (rest : List Char) :
    next? (c :: rest) = (number? false (c :: rest)).map fun read => (.atom read.1, read.2) := by
  unfold next?
  split <;> simp_all

/-- The text of a whole number is one token, where nothing follows that would go on with it. -/
theorem next?_integer
    {rest : List Char}
    (ends : EndsNumber rest)
    (value : Int) :
    next? ((toString value).toList ++ rest) = some (.atom (.integer value), rest) := by
  cases value with
  | ofNat value =>
      have text : (toString (Int.ofNat value)).toList = Nat.toDigits 10 value :=
        Nat.toList_repr
      have digit : ∀ c ∈ Nat.toDigits 10 value, c.isDigit = true :=
        fun c => Nat.isDigit_of_mem_toDigits (by decide) (by decide)
      have read := number?_toDigits ends value
      rw [text]
      cases leading : Nat.toDigits 10 value with
      | nil => exact absurd leading Nat.toDigits_ne_nil
      | cons c row =>
          rw [leading] at digit read
          rw [List.cons_append] at read ⊢
          rw [next?_of_isDigit (digit c List.mem_cons_self), read]
          rfl
  | negSucc value =>
      have text : (toString (Int.negSucc value)).toList = '-' :: Nat.toDigits 10 (value + 1) := by
        have written : toString (Int.negSucc value) = "-" ++ Nat.repr (value + 1) := rfl
        rw [written, String.toList_append, Nat.toList_repr]
        rfl
      have read := number?_neg_toDigits ends (Nat.succ_pos value)
      rw [text, List.cons_append, next?, read]
      rfl

/-- A written string is one token. -/
theorem next?_quote
    (text : String)
    (rest : List Char) :
    next? ((quote text).toList ++ rest) = some (.atom (.string (some text)), rest) := by
  have read := stringBody_flatMap_escapeChar [] true text.toList ('"' :: rest)
  simp only [quote, String.toList_ofList, List.cons_append, List.append_assoc, List.nil_append,
    next?, read]
  simp [stringBody]

theorem scanFrom_nil (before : List Token) :
    scanFrom before [] = some before.reverse := by
  unfold scanFrom
  split <;> simp_all

/-- No token starts with a space. -/
theorem isSpace_of_next?
    {c : Char}
    {text : List Char}
    {read : Token × List Char}
    (found : next? (c :: text) = some read) :
    isSpace c = false := by
  cases space : isSpace c with
  | false => rfl
  | true =>
      simp only [isSpace, Bool.or_eq_true, beq_iff_eq] at space
      rcases space with ((rfl | rfl) | rfl) | rfl <;> nomatch found

theorem scanFrom_of_next?
    {c : Char}
    {text remaining : List Char}
    {token : Token}
    (found : next? (c :: text) = some (token, remaining))
    (before : List Token) :
    scanFrom before (c :: text) = scanFrom (token :: before) remaining := by
  have spaceless : (c :: text).dropWhile isSpace = c :: text := by
    simp [isSpace_of_next? found]
  rw [scanFrom.eq_def]
  split
  · simp_all
  · rename_i first rest same
    obtain ⟨rfl, rfl⟩ := List.cons.inj (spaceless.symm.trans same)
    split <;> simp_all

/-- A text is read as a row of tokens, if nothing goes on with a number at its end. -/
def Scans
    (text : List Char)
    (tokens : List Token) : Prop :=
  ∀ before rest, EndsNumber rest →
    scanFrom before (text ++ rest) = scanFrom (tokens.reverse ++ before) rest

/-- A text that scans to tokens is scanned into them. -/
theorem Scans.scan
    {text : List Char}
    {tokens : List Token}
    (scans : Scans text tokens) :
    scan text = some tokens := by
  have whole := scans [] [] (by simp [EndsNumber])
  rw [List.append_nil, List.append_nil, scanFrom_nil, List.reverse_reverse] at whole
  exact whole

/-- A text with one token. -/
theorem scans_of_next?
    {text : List Char}
    {token : Token}
    (found : ∀ rest, EndsNumber rest → next? (text ++ rest) = some (token, rest)) :
    Scans text [token] := by
  intro before rest ends
  cases text with
  | nil => nomatch found [] (by simp [EndsNumber])
  | cons c text => exact scanFrom_of_next? (found rest ends) before

/-- A text may go on with another one that starts with no part of a number. -/
theorem Scans.append
    {first second : List Char}
    {tokens others : List Token}
    (scans : Scans first tokens)
    (further : Scans second others)
    (ends : ∀ rest, EndsNumber rest → EndsNumber (second ++ rest)) :
    Scans (first ++ second) (tokens ++ others) := by
  intro before rest ended
  rw [List.append_assoc, scans _ _ (ends rest ended), further _ _ ended]
  simp

/-- Marks are tokens whatever follows them. -/
inductive IsMark : Char → Token → Prop
  | openArray : IsMark '[' .openArray
  | closeArray : IsMark ']' .closeArray
  | openObject : IsMark '{' .openObject
  | closeObject : IsMark '}' .closeObject
  | comma : IsMark ',' .comma
  | colon : IsMark ':' .colon

theorem IsMark.endsNumber
    {c : Char}
    {token : Token}
    (mark : IsMark c token)
    (rest : List Char) :
    EndsNumber (c :: rest) := by
  rintro _ ⟨⟩
  cases mark <;> decide

/-- A mark in front of a text scans to its token in front of the others. -/
theorem IsMark.scans_cons
    {c : Char}
    {token : Token}
    {text : List Char}
    {tokens : List Token}
    (mark : IsMark c token)
    (scans : Scans text tokens) :
    Scans (c :: text) (token :: tokens) := by
  intro before rest ends
  have found : next? (c :: (text ++ rest)) = some (token, text ++ rest) := by
    cases mark <;> rfl
  rw [List.cons_append, scanFrom_of_next? found, scans _ _ ends]
  simp

/-- A text may go on with a mark and what follows it. -/
theorem Scans.append_mark
    {first second : List Char}
    {tokens others : List Token}
    {c : Char}
    {token : Token}
    (scans : Scans first tokens)
    (mark : IsMark c token)
    (further : Scans second others) :
    Scans (first ++ c :: second) (tokens ++ token :: others) :=
  scans.append (mark.scans_cons further) fun _ _ => mark.endsNumber _

theorem IsMark.scans
    {c : Char}
    {token : Token}
    (mark : IsMark c token) :
    Scans [c] [token] :=
  mark.scans_cons fun _ _ _ => rfl

end Token
end Json
end Delegation
