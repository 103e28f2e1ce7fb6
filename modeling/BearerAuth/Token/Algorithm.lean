import BearerAuth.Hash.Hmac

/-! The algorithms that a token header can name. Only the three that use a shared secret are
accepted; the others are known by name. -/

namespace BearerAuth

/-- The algorithms with a shared secret. -/
inductive MacAlgorithm where
  | hs256
  | hs384
  | hs512
deriving DecidableEq, Repr

/-- The authentication code of a message under a key. -/
def MacAlgorithm.code : MacAlgorithm → List UInt8 → List UInt8 → List UInt8
  | hs256 => Hash.hmac Hash.sha256
  | hs384 => Hash.hmac Hash.sha384
  | hs512 => Hash.hmac Hash.sha512

/-- A code has at least 32 octets. -/
theorem MacAlgorithm.le_length_code (algorithm : MacAlgorithm) (key message : List UInt8) :
    32 ≤ (algorithm.code key message).length := by
  cases algorithm <;>
    simp [code, Hash.length_hmac, Hash.sha256, Hash.sha384, Hash.sha512]

theorem MacAlgorithm.code_ne_nil (algorithm : MacAlgorithm) (key message : List UInt8) :
    algorithm.code key message ≠ [] :=
  List.ne_nil_of_length_pos (Nat.lt_of_lt_of_le (by decide) (algorithm.le_length_code key message))

/-- The algorithms with a name. -/
inductive Algorithm where
  | mac (algorithm : MacAlgorithm)
  | es256
  | es384
  | rs256
  | rs384
  | rs512
  | ps256
  | ps384
  | ps512
  | edDsa
deriving DecidableEq, Repr

namespace Algorithm

def name : Algorithm → String
  | mac .hs256 => "HS256"
  | mac .hs384 => "HS384"
  | mac .hs512 => "HS512"
  | es256 => "ES256"
  | es384 => "ES384"
  | rs256 => "RS256"
  | rs384 => "RS384"
  | rs512 => "RS512"
  | ps256 => "PS256"
  | ps384 => "PS384"
  | ps512 => "PS512"
  | edDsa => "EdDSA"

def all : List Algorithm :=
  [mac .hs256, mac .hs384, mac .hs512, es256, es384, rs256, rs384, rs512, ps256, ps384,
    ps512, edDsa]

def ofName? (text : String) : Option Algorithm := all.find? (·.name == text)

theorem ofName?_name (algorithm : Algorithm) : ofName? algorithm.name = some algorithm := by
  rcases algorithm with (_ | _ | _) | _ | _ | _ | _ | _ | _ | _ | _ | _ <;> rfl

/-- The algorithm with a shared secret, if it is one. -/
def mac? : Algorithm → Option MacAlgorithm
  | mac algorithm => some algorithm
  | _ => none

end Algorithm

end BearerAuth
