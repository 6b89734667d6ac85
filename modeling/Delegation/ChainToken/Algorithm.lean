import Delegation.Json.Record

/-!
# Signature algorithms of tokens

The algorithms that a token may name. Tokens are signed with two of them; a token that names
another one is known for what it is and refused.
-/

namespace Delegation
namespace ChainToken

/-- A signature algorithm that a token may name. -/
inductive Algorithm
  | hs256
  | hs384
  | hs512
  | es256
  | es384
  | rs256
  | rs384
  | rs512
  | ps256
  | ps384
  | ps512
  | edDsa
  deriving DecidableEq

namespace Algorithm

/-- The written name of an algorithm. -/
def name : Algorithm → String
  | hs256 => "HS256"
  | hs384 => "HS384"
  | hs512 => "HS512"
  | es256 => "ES256"
  | es384 => "ES384"
  | rs256 => "RS256"
  | rs384 => "RS384"
  | rs512 => "RS512"
  | ps256 => "PS256"
  | ps384 => "PS384"
  | ps512 => "PS512"
  | edDsa => "EdDSA"

/-- All algorithms. -/
def all : List Algorithm :=
  [hs256, hs384, hs512, es256, es384, rs256, rs384, rs512, ps256, ps384, ps512, edDsa]

/-- The algorithm with a written name. -/
def ofName? (name : String) : Option Algorithm :=
  all.find? fun algorithm => algorithm.name == name

@[simp] theorem ofName?_name (algorithm : Algorithm) :
    ofName? algorithm.name = some algorithm := by
  cases algorithm <;> decide

/-- Read the document of an algorithm. -/
def ofJson? (json : Json) : Option Algorithm :=
  json.choice?.bind ofName?

end Algorithm
end ChainToken
end Delegation
