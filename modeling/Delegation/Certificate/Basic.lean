import Delegation.Auth.Error
import Delegation.Bytes.Pem
import Delegation.Certificate.Name
import Delegation.Certificate.Validity

/-!
# Certificates

A certificate names its subject and its issuer, and says other things that must have the
right form and are not looked at further. Neither its signature nor its time is checked
here: whoever accepted the connection has done so.
-/

namespace Delegation

/-- The names in a certificate. -/
structure Certificate where
  /-- Who the certificate is for. -/
  subject : Certificate.Name
  /-- Who has issued it. -/
  issuer : Certificate.Name
  deriving DecidableEq

namespace Certificate

/-- The contents of a sequence in front of some bytes, and the bytes after it. -/
def sequence? (bytes : List UInt8) : Option (List UInt8 × List UInt8) :=
  Der.contents? Der.sequenceTag bytes

/-- What follows a row of bits. -/
def skipBits? (bytes : List UInt8) : Option (List UInt8) := do
  let (bits, rest) ← Der.contents? Der.bitStringTag bytes
  let _ ← Der.bits? bits
  some rest

/-- What follows an algorithm: a sequence that begins with an identifier. -/
def skipAlgorithm? (bytes : List UInt8) : Option (List UInt8) := do
  let (contents, rest) ← sequence? bytes
  let _ ← Der.contents? Der.objectIdTag contents
  some rest

/-- What follows the version, which may be left out. -/
def skipVersion? (bytes : List UInt8) : Option (List UInt8) := do
  let (element, rest) ← Der.read? bytes
  if element.tag.tagClass = .context ∧ element.tag.number = 0 then
    let (contents, _) ← Der.contents? Der.integerTag element.contents
    if (← Der.natural? contents) < 0x100000000 then some rest else none
  else some bytes

/-- What follows a key: an algorithm and a row of bits in a sequence. -/
def skipKey? (bytes : List UInt8) : Option (List UInt8) := do
  let (contents, rest) ← sequence? bytes
  let _ ← skipBits? (← skipAlgorithm? contents)
  some rest

/-- What follows a unique identifier, which may be left out. -/
def skipUniqueId? (number : Nat) (bytes : List UInt8) : Option (List UInt8) :=
  match Der.read? bytes with
  | some (element, rest) =>
      if element.tag.tagClass = .context ∧ element.tag.number = number then
        (Der.bits? element.contents).map fun _ => rest
      else some bytes
  | none => some bytes

/-- The element is a truth value. -/
def isTruth (element : Der.Element) : Bool :=
  decide (element.tag.number = Der.booleanTag) &&
    (element.contents == [0x00] || element.contents == [0xFF])

/-- The element is a row of bytes. -/
def isBytes (element : Der.Element) : Bool :=
  decide (element.tag.number = Der.octetStringTag)

/-- The element is an extension: an identifier, an optional truth value and bytes. -/
def isExtension (element : Der.Element) : Bool :=
  decide (element.tag.number = Der.sequenceTag) &&
    match (Der.split element.contents).1 with
    | id :: second :: further =>
        decide (id.tag.number = Der.objectIdTag) &&
          (isBytes second || (isTruth second && further.head?.any isBytes))
    | _ => false

/-- The number of the tag in front of extensions. -/
def extensionsTag : Nat := 3

/-- Extensions, which may be left out, and nothing else: behind their own header, a sequence
of extensions. -/
def areExtensions (bytes : List UInt8) : Bool :=
  bytes.isEmpty ||
    ((Der.header? bytes).any fun (tag, _, rest) =>
      decide (tag.number = extensionsTag) &&
        (sequence? rest).any fun (contents, after) =>
          after.isEmpty && (Der.elements? contents).any (·.all isExtension))

/-- Read the part of a certificate that is signed. -/
def signedPart? (bytes : List UInt8) : Option Certificate := do
  let bytes ← skipVersion? bytes
  let (_, bytes) ← Der.contents? Der.integerTag bytes
  let bytes ← skipAlgorithm? bytes
  let (issuer, bytes) ← sequence? bytes
  let (validity, bytes) ← sequence? bytes
  let (subject, bytes) ← sequence? bytes
  let bytes ← skipUniqueId? 2 (← skipUniqueId? 1 (← skipKey? bytes))
  if isValidity validity && areExtensions bytes then some ⟨nameOf subject, nameOf issuer⟩
  else none

/-- Read a certificate; bytes after it are ignored. -/
def ofDer? (bytes : List UInt8) : Option Certificate := do
  let (contents, _) ← sequence? bytes
  let (signed, rest) ← sequence? contents
  let certificate ← signedPart? signed
  let _ ← skipBits? (← skipAlgorithm? rest)
  some certificate

/-- The subject and the issuer of a certificate, if their values are text. -/
def pair (certificate : Certificate) : Except CredentialFault DnPair :=
  match certificate.subject.render?, certificate.issuer.render? with
  | some subject, some issuer => .ok (.ofNames subject issuer)
  | _, _ => .error (.certificateNameUnreadable "unexpected value")

/-- The pair of the names in the bytes of a certificate. -/
def pairOfDer (bytes : List UInt8) : Except CredentialFault DnPair :=
  match ofDer? bytes with
  | some certificate => certificate.pair
  | none => .error (.certificateUnparseable "not a certificate")

/-- The pair of the names in a certificate that is written as a text block. -/
def pairOfPem (text : String) : Except CredentialFault DnPair :=
  match Pem.contents? text with
  | some bytes => pairOfDer bytes
  | none => .error (.certificateTextInvalid "not a text block")

end Certificate
end Delegation
