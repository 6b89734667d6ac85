import Delegation.Url.Domain

/-!
# Hosts

A host is a domain or another name, an address of four bytes, or one of eight 16-bit
pieces. Addresses of four bytes may be written with fewer numbers, in octal and in
hexadecimal; the last number fills the bytes that are left.
-/

namespace Delegation
namespace Url

/-- The host of a URL. -/
inductive Host
  /-- A domain or another name, as written in a URL; it may be empty. -/
  | name (text : String)
  /-- An address of four bytes. -/
  | ipv4 (address : Nat)
  /-- An address of eight pieces. -/
  | ipv6 (pieces : List Nat)
  deriving DecidableEq

namespace Host

/-- The value of a row of digits in a base; none if a character is no digit of it. -/
def numberIn? (base : Nat) (row : List Char) : Option Nat :=
  row.foldlM (fun value c =>
    match hexValue? c with
    | some digit => if digit < base then some (value * base + digit) else none
    | none => none) 0

/-- A number of an address: hexadecimal after `0x`, octal after `0`, else decimal. -/
def addressNumber? : List Char → Option Nat
  | [] => none
  | '0' :: 'x' :: row => numberIn? 16 row
  | '0' :: 'X' :: row => numberIn? 16 row
  | '0' :: c :: row => numberIn? 8 (c :: row)
  | row => numberIn? 10 row

/-- The last label that is not the empty one after a closing full stop. -/
def lastLabel? (domain : List Char) : Option (List Char) :=
  match (Text.piecesAt '.' domain).reverse with
  | [] :: [] => none
  | [] :: label :: _ => some label
  | label :: _ => some label
  | [] => none

/-- A domain whose last label is a number can only be an address. -/
def endsInNumber (domain : List Char) : Bool :=
  match lastLabel? domain with
  | none => false
  | some label =>
      (!label.isEmpty && label.all Char.isDigit) || (addressNumber? label).isSome

/-- The address of up to four numbers. -/
def ipv4Of? (numbers : List Nat) : Option Nat :=
  match numbers.reverse with
  | [] => none
  | last :: others =>
      if 4 < numbers.length || others.any (255 < ·) || Nat.pow 256 (4 - others.length) ≤ last then
        none
      else
        some (others.reverse.foldl (fun value number => value * 256 + number) 0 *
          Nat.pow 256 (4 - others.length) + last)

/-- Read an address of four bytes. -/
def ipv4? (domain : List Char) : Option Nat :=
  let labels := Text.piecesAt '.' domain
  let labels := if labels.getLast? = some [] then labels.dropLast else labels
  (labels.mapM addressNumber?).bind ipv4Of?

/-- A piece of an address: up to four hexadecimal digits. -/
def ipv6Piece? (row : List Char) : Option Nat :=
  if row.isEmpty || 4 < row.length then none else numberIn? 16 row

/-- A byte in the closing part of an address: decimal, without leading zeros. -/
def plainByte? (row : List Char) : Option Nat :=
  if row.isEmpty || 3 < row.length || !row.all Char.isDigit ||
      (row.head? == some '0' && 1 < row.length) then none
  else (numberIn? 10 row).filter (· ≤ 255)

/-- The two pieces that four bytes with full stops between them stand for. -/
def closingBytes? (text : List Char) : Option (List Nat) := do
  match ← (Text.piecesAt '.' text).mapM plainByte? with
  | [a, b, c, d] => some [a * 256 + b, c * 256 + d]
  | _ => none

/-- The pieces between single colons; the last may be written as four bytes. -/
def ipv6Pieces? (text : List Char) : Option (List Nat) :=
  if text.isEmpty then some []
  else
    let groups := Text.piecesAt ':' text
    match groups.getLast? with
    | none => some []
    | some last =>
        if last.contains '.' then do
          let front ← groups.dropLast.mapM ipv6Piece?
          some (front ++ (← closingBytes? last))
        else
          groups.mapM ipv6Piece?

/-- The parts before and after the first double colon. -/
def cutDoubleColon : List Char → Option (List Char × List Char)
  | ':' :: ':' :: rest => some ([], rest)
  | c :: rest => (cutDoubleColon rest).map fun parts => (c :: parts.1, parts.2)
  | [] => none

/-- Read an address of eight pieces; a double colon stands for the zeros that are left out. -/
def ipv6? (text : List Char) : Option (List Nat) :=
  match cutDoubleColon text with
  | none => (ipv6Pieces? text).filter (·.length = 8)
  | some (front, back) =>
      if front.contains '.' then none
      else do
        let first ← ipv6Pieces? front
        let last ← ipv6Pieces? back
        if first.length + last.length < 8 then
          some (first ++ List.replicate (8 - first.length - last.length) 0 ++ last)
        else
          none

/-- The host in square brackets. -/
def bracketed? (text : List Char) : Option Host :=
  match text.reverse with
  | ']' :: inner => (ipv6? inner.reverse).map .ipv6
  | _ => none

/-- Read the host of a URL with a special scheme. -/
def special? : List Char → Option Host
  | '[' :: rest => bracketed? rest
  | text => do
      let domain ← Domain.toAscii? (decode text)
      if endsInNumber domain then (ipv4? domain).map .ipv4
      else some (.name (String.ofList domain))

/-- Characters that do not stand in a host of any scheme. -/
def isForbidden (c : Char) : Bool :=
  ['\x00', '\t', '\n', '\r', ' ', '#', '/', ':', '<', '>', '?', '@', '[', '\\', ']', '^',
    '|'].contains c

/-- Read the host of a URL with another scheme. -/
def general? : List Char → Option Host
  | '[' :: rest => bracketed? rest
  | text =>
      if text.any isForbidden then none
      else some (.name (String.ofList (encode isControl text)))

/-- The written form of an address of four bytes. -/
def renderIpv4 (address : Nat) : String :=
  ".".intercalate ([3, 2, 1, 0].map fun place => toString (address / Nat.pow 256 place % 256))

/-- The length of the run of zeros in front. -/
def zeroRun (pieces : List Nat) : Nat :=
  (pieces.takeWhile (· == 0)).length

/-- The start and length of the first longest run of zeros, from a position on. -/
def longestZeros : Nat → List Nat → Nat × Nat
  | _, [] => (0, 0)
  | start, piece :: pieces =>
      let here := zeroRun (piece :: pieces)
      let later := longestZeros (start + 1) pieces
      if later.2 ≤ here then (start, here) else later

/-- A piece in hexadecimal. -/
def renderPiece (piece : Nat) : String :=
  String.ofList (Nat.toDigits 16 piece)

/-- The written form of an address of eight pieces: the first longest run of at least two
zeros is left out. -/
def renderIpv6 (pieces : List Nat) : String :=
  let (start, length) := longestZeros 0 pieces
  if 2 ≤ length then
    ":".intercalate ((pieces.take start).map renderPiece) ++ "::" ++
      ":".intercalate ((pieces.drop (start + length)).map renderPiece)
  else
    ":".intercalate (pieces.map renderPiece)

/-- The written form of a host. -/
def render : Host → String
  | name text => text
  | ipv4 address => renderIpv4 address
  | ipv6 pieces => "[" ++ renderIpv6 pieces ++ "]"

end Host
end Url
end Delegation
