/-!
# Punycode

A label of a domain with characters beyond ASCII is written with its ASCII characters
first and then, as a row of digits in base 36, the places and codes of the others.
-/

namespace Delegation
namespace Url
namespace Punycode

/-- The digit of a value below 36: letters first. -/
def digit (value : Nat) : Char :=
  if value < 26 then Char.ofNat (0x61 + value) else Char.ofNat (0x30 + (value - 26))

/-- The value of a digit. -/
def digitValue? (c : Char) : Option Nat :=
  if 'a' ≤ c ∧ c ≤ 'z' then some (c.toNat - 'a'.toNat)
  else if 'A' ≤ c ∧ c ≤ 'Z' then some (c.toNat - 'A'.toNat)
  else if '0' ≤ c ∧ c ≤ '9' then some (c.toNat - '0'.toNat + 26)
  else none

/-- The least value of the digit at a position that says that more digits follow. -/
def threshold (position bias : Nat) : Nat :=
  if position ≤ bias then 1 else if position ≥ bias + 26 then 26 else position - bias

theorem threshold_pos (position bias : Nat) : 0 < threshold position bias := by
  unfold threshold
  split
  · omega
  · split <;> omega

/-- Scale a difference down and count the positions that this takes. -/
def scaleDown (delta position : Nat) : Nat × Nat :=
  if 455 < delta then scaleDown (delta / 35) (position + 36) else (delta, position)
termination_by delta
decreasing_by exact Nat.div_lt_self (by omega) (by omega)

/-- The bias after a difference has been written. -/
def adapt (delta count : Nat) (first : Bool) : Nat :=
  let halved := if first then delta / 700 else delta / 2
  let scaled := scaleDown (halved + halved / count) 0
  scaled.2 + 36 * scaled.1 / (scaled.1 + 38)

/-- The digits of a difference, from a position on. -/
def digits (bias position value : Nat) : List Char :=
  let least := threshold position bias
  if value < least then
    [digit value]
  else
    digit (least + (value - least) % (36 - least)) ::
      digits bias (position + 36) ((value - least) / (36 - least))
termination_by value
decreasing_by
  have positive := threshold_pos position bias
  have quotient := Nat.div_le_self (value - threshold position bias)
    (36 - threshold position bias)
  omega

/-- The state of writing: the reversed digits, the difference not yet written, the bias and
the number of characters written. -/
structure Writing where
  output : List Char
  delta : Nat
  bias : Nat
  written : Nat

/-- Pass a character of the label while the characters with a code are being written. -/
def pass (basic code : Nat) (state : Writing) (c : Char) : Writing :=
  if c.toNat < code then
    { state with delta := state.delta + 1 }
  else if c.toNat = code then
    { output := (digits state.bias 36 state.delta).reverse ++ state.output
      delta := 0
      bias := adapt state.delta (state.written + 1) (state.written == basic)
      written := state.written + 1 }
  else
    state

/-- Write the characters with the given codes, which increase, from `next` on. -/
def writeCodes (label : List Char) (basic : Nat) : List Nat → Nat → Writing → Writing
  | [], _, state => state
  | code :: codes, next, state =>
      let ready := { state with delta := state.delta + (code - next) * (state.written + 1) }
      let passed := label.foldl (pass basic code) ready
      writeCodes label basic codes (code + 1) { passed with delta := passed.delta + 1 }

/-- The written form of a label, without the sign that it is one. -/
def encode (label : List Char) : List Char :=
  let basic := label.filter fun c => decide (c.toNat < 0x80)
  let codes := ((label.filter fun c => decide (0x80 ≤ c.toNat)).map Char.toNat).eraseDups
  let start : Writing := ⟨[], 0, 72, basic.length⟩
  let finished := writeCodes label basic.length (codes.mergeSort (· ≤ ·)) 0x80 start
  basic ++ (if basic.isEmpty then [] else ['-']) ++ finished.output.reverse

/-- Read one difference: its value and the digits that follow it. -/
def readDifference (bias : Nat) : List Char → Nat → Nat → Nat → Option (Nat × List Char)
  | [], _, _, _ => none
  | c :: rest, position, weight, value =>
      match digitValue? c with
      | none => none
      | some found =>
          let least := threshold position bias
          if found < least then some (value + found * weight, rest)
          else readDifference bias rest (position + 36) (weight * (36 - least))
            (value + found * weight)

theorem length_readDifference {bias position weight value : Nat} {text : List Char}
    {read : Nat × List Char}
    (found : readDifference bias text position weight value = some read) :
    read.2.length < text.length := by
  induction text generalizing position weight value with
  | nil => simp [readDifference] at found
  | cons c rest ih =>
      unfold readDifference at found
      split at found
      · simp at found
      · simp only at found
        split at found
        · obtain rfl := Option.some.inj found
          simp
        · have shorter := ih found
          simp only [List.length_cons]
          omega

/-- Put the characters that the digits describe into a label. -/
def readCodes (label : List Char) (index code bias : Nat) (text : List Char) :
    Option (List Char) :=
  match text with
  | [] => some label
  | c :: rest =>
      match _found : readDifference bias (c :: rest) 36 1 index with
      | none => none
      | some (value, remaining) =>
          let count := label.length + 1
          let code := code + value / count
          let place := value % count
          let bias := adapt (value - index) count (index == 0)
          if code.isValidChar then
            readCodes (label.take place ++ Char.ofNat code :: label.drop place)
              (place + 1) code bias remaining
          else
            none
termination_by text.length
decreasing_by exact length_readDifference _found

end Punycode
end Url
end Delegation
