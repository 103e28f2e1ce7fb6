import BearerAuth.Hash.Sha2

/-! Keyed message authentication codes over the SHA-2 family: the hash of the key and the
hash of the key and the message, with a different mask on the key each time. -/

namespace BearerAuth.Hash

variable {w : Nat}

/-- A key filled up with zeros to one block; a longer key is replaced by its hash. -/
def blockKey (p : Sha2 w) (key : List UInt8) : List UInt8 :=
  let short := if key.length ≤ p.blockSize then key else p.digest key
  short ++ List.replicate (p.blockSize - short.length) 0

def hmac (p : Sha2 w) (key message : List UInt8) : List UInt8 :=
  let masked (mask : UInt8) := (blockKey p key).map (· ^^^ mask)
  p.digest (masked 0x5C ++ p.digest (masked 0x36 ++ message))

theorem length_hmac (p : Sha2 w) (key message : List UInt8) :
    (hmac p key message).length = min p.size (8 * (w / 8)) := by
  simp [hmac, Sha2.length_digest]

end BearerAuth.Hash
