import Delegation.Bytes.Pem
import Delegation.ChainToken.Algorithm
import Delegation.Crypto.Hmac
import Delegation.Crypto.Rsa
import Delegation.Text.Utf8

/-!
# Keys of tokens

A token is signed and checked with a shared secret, or signed with a private RSA key and
checked with the public one. RSA keys come as text blocks. A block only needs to be a
well-formed key of some kind; whether its numbers are usable shows when the key is used.
-/

namespace Delegation
namespace ChainToken

/-- Why a token cannot be issued or a key cannot be used. -/
inductive KeyFault
  /-- The text is not the block of a public key. -/
  | publicKeyUnreadable
  /-- The text is not the block of a private key. -/
  | privateKeyUnreadable
  /-- The key does not sign. -/
  | notSigning
  deriving DecidableEq

/-- The wording of a fault. -/
def KeyFault.message : KeyFault → String
  | publicKeyUnreadable => "Failed to parse RSA public key - invalid PEM format"
  | privateKeyUnreadable => "Failed to parse RSA private key - invalid PEM format"
  | notSigning => "Failed to encode chain token"

/-- The kinds of keys that blocks may hold. -/
inductive KeyKind
  | rsa
  | ellipticCurve
  | edwardsCurve
  deriving DecidableEq

namespace KeyKind

/-- The kind that an object identifier stands for. -/
def ofObjectId? (contents : List UInt8) : Option KeyKind :=
  if contents = [0x2a, 0x86, 0x48, 0x86, 0xf7, 0x0d, 0x01, 0x01, 0x01] then some rsa
  else if contents = [0x2a, 0x86, 0x48, 0xce, 0x3d, 0x02, 0x01] then some ellipticCurve
  else if contents = [0x2b, 0x65, 0x70] then some edwardsCurve
  else none

/-- The kind that the first known object identifier among some elements stands for. -/
def ofElements? (elements : List Der.Element) : Option KeyKind :=
  elements.findSome? fun element =>
    if element.tag.tagClass = .universal ∧ element.tag.number = Der.objectIdTag then
      ofObjectId? element.contents
    else none

end KeyKind

/-- The contents of the first row of bits or bytes among some elements. -/
def firstRow? (elements : List Der.Element) : Option (List UInt8) :=
  elements.findSome? fun element =>
    if element.tag.tagClass ≠ .universal then none
    else if element.tag.number = Der.octetStringTag then some element.contents
    else if element.tag.number = Der.bitStringTag then some (element.contents.drop 1)
    else none

/-- The bytes of the RSA key in a text block. -/
def rsaKeyBytes? (text : String) : Option (List UInt8) := do
  let block ← Pem.block? text
  let elements ← Der.flatten? block.contents
  if ["RSA PRIVATE KEY", "RSA PUBLIC KEY"].contains block.label then some block.contents
  else if ["PRIVATE KEY", "PUBLIC KEY", "CERTIFICATE"].contains block.label then
    match KeyKind.ofElements? elements with
    | some .rsa => firstRow? elements
    | _ => none
  else none

/-- What tokens are signed or checked with. -/
inductive Key
  /-- A secret that the two sides share. -/
  | secret (bytes : List UInt8)
  /-- The bytes of an RSA key. -/
  | rsa (bytes : List UInt8)
  deriving DecidableEq

namespace Key

/-- The key of a public text block. -/
def ofPublicPem (text : String) : Except KeyFault Key :=
  match rsaKeyBytes? text with
  | some bytes => .ok (.rsa bytes)
  | none => .error .publicKeyUnreadable

/-- The key of a private text block. -/
def ofPrivatePem (text : String) : Except KeyFault Key :=
  match rsaKeyBytes? text with
  | some bytes => .ok (.rsa bytes)
  | none => .error .privateKeyUnreadable

/-- The algorithm that goes with a key. -/
def algorithm : Key → Algorithm
  | secret _ => .hs256
  | rsa _ => .rs256

/-- The written signature of a text. -/
def sign? (key : Key) (text : List Char) : Option (List Char) :=
  let message := Text.utf8 text
  match key with
  | secret bytes => some (Base64.url.encode (Hmac.sign bytes message))
  | rsa bytes => do
      some (Base64.url.encode (← (← Rsa.PrivateKey.ofDer? bytes).sign? message))

/-- The bytes are an RSA key that a signature of a message belongs to. -/
def rsaVerifies (bytes message signature : List UInt8) : Bool :=
  (Rsa.PublicKey.ofDer? bytes).any fun key => key.verify message signature

/-- A written signature belongs to a text. Signatures with a secret are compared as written;
others must be readable. -/
def verify (key : Key) (text signature : List Char) : Option Bool :=
  let message := Text.utf8 text
  match key with
  | secret bytes => some (decide (signature = Base64.url.encode (Hmac.sign bytes message)))
  | rsa bytes => (Base64.url.decode? signature).map (rsaVerifies bytes message)

end Key
end ChainToken
end Delegation
