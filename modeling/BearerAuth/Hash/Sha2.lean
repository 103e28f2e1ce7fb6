/-! The hash functions of the SHA-2 family. Its members share one scheme over words of 32
or 64 bits and differ in rotation amounts, in the number of rounds and in the first state. -/

namespace BearerAuth.Hash

/-! ## Constants -/

/-- The first 64 bits behind the point of the cube roots of the first eighty primes. -/
def cubeRoots : List Nat :=
  [0x428a2f98d728ae22, 0x7137449123ef65cd, 0xb5c0fbcfec4d3b2f, 0xe9b5dba58189dbbc,
    0x3956c25bf348b538, 0x59f111f1b605d019, 0x923f82a4af194f9b, 0xab1c5ed5da6d8118,
    0xd807aa98a3030242, 0x12835b0145706fbe, 0x243185be4ee4b28c, 0x550c7dc3d5ffb4e2,
    0x72be5d74f27b896f, 0x80deb1fe3b1696b1, 0x9bdc06a725c71235, 0xc19bf174cf692694,
    0xe49b69c19ef14ad2, 0xefbe4786384f25e3, 0x0fc19dc68b8cd5b5, 0x240ca1cc77ac9c65,
    0x2de92c6f592b0275, 0x4a7484aa6ea6e483, 0x5cb0a9dcbd41fbd4, 0x76f988da831153b5,
    0x983e5152ee66dfab, 0xa831c66d2db43210, 0xb00327c898fb213f, 0xbf597fc7beef0ee4,
    0xc6e00bf33da88fc2, 0xd5a79147930aa725, 0x06ca6351e003826f, 0x142929670a0e6e70,
    0x27b70a8546d22ffc, 0x2e1b21385c26c926, 0x4d2c6dfc5ac42aed, 0x53380d139d95b3df,
    0x650a73548baf63de, 0x766a0abb3c77b2a8, 0x81c2c92e47edaee6, 0x92722c851482353b,
    0xa2bfe8a14cf10364, 0xa81a664bbc423001, 0xc24b8b70d0f89791, 0xc76c51a30654be30,
    0xd192e819d6ef5218, 0xd69906245565a910, 0xf40e35855771202a, 0x106aa07032bbd1b8,
    0x19a4c116b8d2d0c8, 0x1e376c085141ab53, 0x2748774cdf8eeb99, 0x34b0bcb5e19b48a8,
    0x391c0cb3c5c95a63, 0x4ed8aa4ae3418acb, 0x5b9cca4f7763e373, 0x682e6ff3d6b2b8a3,
    0x748f82ee5defb2fc, 0x78a5636f43172f60, 0x84c87814a1f0ab72, 0x8cc702081a6439ec,
    0x90befffa23631e28, 0xa4506cebde82bde9, 0xbef9a3f7b2c67915, 0xc67178f2e372532b,
    0xca273eceea26619c, 0xd186b8c721c0c207, 0xeada7dd6cde0eb1e, 0xf57d4f7fee6ed178,
    0x06f067aa72176fba, 0x0a637dc5a2c898a6, 0x113f9804bef90dae, 0x1b710b35131c471b,
    0x28db77f523047d84, 0x32caab7b40c72493, 0x3c9ebe0a15c9bebc, 0x431d67c49c100d4c,
    0x4cc5d4becb3e42b6, 0x597f299cfc657e2a, 0x5fcb6fab3ad6faec, 0x6c44198c4a475817]

/-- The first 64 bits behind the point of the square roots of the first sixteen primes. -/
def squareRoots : List Nat :=
  [0x6a09e667f3bcc908, 0xbb67ae8584caa73b, 0x3c6ef372fe94f82b, 0xa54ff53a5f1d36f1,
    0x510e527fade682d1, 0x9b05688c2b3e6c1f, 0x1f83d9abfb41bd6b, 0x5be0cd19137e2179,
    0xcbbb9d5dc1059ed8, 0x629a292a367cd507, 0x9159015a3070dd17, 0x152fecd8f70e5939,
    0x67332667ffc00b31, 0x8eb44a8768581511, 0xdb0c2e0d64f98fa7, 0x47b5481dbefa4fa4]

/-! ## The scheme -/

/-- Three rotation amounts, or two and a shift amount. -/
structure Amounts where
  first : Nat
  second : Nat
  third : Nat

/-- What tells the members with words of `w` bits apart. -/
structure Sha2 (w : Nat) where
  roundSigma0 : Amounts
  roundSigma1 : Amounts
  scheduleSigma0 : Amounts
  scheduleSigma1 : Amounts
  /-- One constant for each round. -/
  constants : List (BitVec w)
  /-- The eight words that hashing starts from. -/
  start : List (BitVec w)
  /-- The number of octets kept of the last state. -/
  size : Nat

namespace Sha2

variable {w : Nat}

/-- The number of octets in a block of sixteen words. -/
def blockSize (_ : Sha2 w) : Nat := 16 * (w / 8)

def rotations (a : Amounts) (x : BitVec w) : BitVec w :=
  x.rotateRight a.first ^^^ x.rotateRight a.second ^^^ x.rotateRight a.third

def rotationsShift (a : Amounts) (x : BitVec w) : BitVec w :=
  x.rotateRight a.first ^^^ x.rotateRight a.second ^^^ (x >>> a.third)

/-- The running state of eight words. -/
structure State (w : Nat) where
  a : BitVec w
  b : BitVec w
  c : BitVec w
  d : BitVec w
  e : BitVec w
  f : BitVec w
  g : BitVec w
  h : BitVec w

def State.words (s : State w) : List (BitVec w) := [s.a, s.b, s.c, s.d, s.e, s.f, s.g, s.h]

/-- The state of eight words; a missing word is zero. -/
def State.ofWords (ws : List (BitVec w)) : State w :=
  ⟨ws.getD 0 0, ws.getD 1 0, ws.getD 2 0, ws.getD 3 0, ws.getD 4 0, ws.getD 5 0,
    ws.getD 6 0, ws.getD 7 0⟩

/-- The sum of two states, word by word. -/
def State.add (s t : State w) : State w :=
  ⟨s.a + t.a, s.b + t.b, s.c + t.c, s.d + t.d, s.e + t.e, s.f + t.f, s.g + t.g, s.h + t.h⟩

/-- One round with its constant and its word of the message schedule. -/
def round (p : Sha2 w) (constant word : BitVec w) (s : State w) : State w :=
  let choice := (s.e &&& s.f) ^^^ (~~~s.e &&& s.g)
  let majority := (s.a &&& s.b) ^^^ (s.a &&& s.c) ^^^ (s.b &&& s.c)
  let t := s.h + rotations p.roundSigma1 s.e + choice + constant + word
  ⟨t + rotations p.roundSigma0 s.a + majority, s.a, s.b, s.c, s.d + t, s.e, s.f, s.g⟩

/-- The next sixteen words of the message schedule. -/
def slide (p : Sha2 w) (window : List (BitVec w)) : List (BitVec w) :=
  window.drop 1 ++
    [rotationsShift p.scheduleSigma1 (window.getD 14 0) + window.getD 9 0 +
      rotationsShift p.scheduleSigma0 (window.getD 1 0) + window.getD 0 0]

/-- The rounds with the constants that are left. -/
def rounds (p : Sha2 w) : List (BitVec w) → List (BitVec w) → State w → State w
  | [], _, s => s
  | k :: ks, window, s => rounds p ks (slide p window) (round p k (window.getD 0 0) s)

/-- The state after one more block of sixteen words. -/
def compress (p : Sha2 w) (s : State w) (block : List (BitVec w)) : State w :=
  s.add (rounds p p.constants block s)

/-! ## Octets -/

/-- A list cut into parts of a size, the last of which may be shorter. -/
def parts (size : Nat) (bytes : List UInt8) : List (List UInt8) :=
  (List.range ((bytes.length + size - 1) / size)).map fun i => (bytes.drop (i * size)).take size

/-- The number with these octets, the first one highest. -/
def number (bytes : List UInt8) : Nat := bytes.foldl (fun n b => n * 256 + b.toNat) 0

/-- The lowest octets of a number, the highest of them first. -/
def numberOctets : Nat → Nat → List UInt8
  | 0, _ => []
  | count + 1, n => UInt8.ofNat (n / Nat.pow 256 count) :: numberOctets count n

/-- The octets of a message with a mark, zeros and its length in bits behind it, which fill
whole blocks. -/
def padded (p : Sha2 w) (message : List UInt8) : List UInt8 :=
  let used := message.length + 1 + w / 4
  message ++ [0x80] ++ List.replicate ((p.blockSize - used % p.blockSize) % p.blockSize) 0 ++
    numberOctets (w / 4) (message.length * 8)

def blockWords (block : List UInt8) : List (BitVec w) :=
  (parts (w / 8) block).map fun bytes => BitVec.ofNat w (number bytes)

def digest (p : Sha2 w) (message : List UInt8) : List UInt8 :=
  let last := (parts p.blockSize (p.padded message)).foldl
    (fun s block => compress p s (blockWords block)) (State.ofWords p.start)
  (last.words.flatMap fun x => numberOctets (w / 8) x.toNat).take p.size

@[simp] theorem length_numberOctets (count n : Nat) : (numberOctets count n).length = count := by
  induction count with
  | zero => rfl
  | succ count ih => simp [numberOctets, ih]

/-- A hash has the size of its member of the family. -/
theorem length_digest (p : Sha2 w) (message : List UInt8) :
    (p.digest message).length = min p.size (8 * (w / 8)) := by
  simp [digest, State.words]
  omega

end Sha2

/-! ## The members -/

def highHalf (n : Nat) : BitVec 32 := BitVec.ofNat 32 (n / 0x100000000)

/-- The member with words of 32 bits and 32 octets of output. -/
def sha256 : Sha2 32 where
  roundSigma0 := ⟨2, 13, 22⟩
  roundSigma1 := ⟨6, 11, 25⟩
  scheduleSigma0 := ⟨7, 18, 3⟩
  scheduleSigma1 := ⟨17, 19, 10⟩
  constants := (cubeRoots.take 64).map highHalf
  start := (squareRoots.take 8).map highHalf
  size := 32

/-- The member with words of 64 bits and 64 octets of output. -/
def sha512 : Sha2 64 where
  roundSigma0 := ⟨28, 34, 39⟩
  roundSigma1 := ⟨14, 18, 41⟩
  scheduleSigma0 := ⟨1, 8, 7⟩
  scheduleSigma1 := ⟨19, 61, 6⟩
  constants := cubeRoots.map (BitVec.ofNat 64)
  start := (squareRoots.take 8).map (BitVec.ofNat 64)
  size := 64

/-- The 64-bit scheme with a first state of its own and 48 octets of output. -/
def sha384 : Sha2 64 :=
  { sha512 with start := (squareRoots.drop 8).map (BitVec.ofNat 64), size := 48 }

end BearerAuth.Hash
