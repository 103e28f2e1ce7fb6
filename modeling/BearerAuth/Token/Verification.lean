import BearerAuth.Token.Outline
import BearerAuth.Token.Validity

/-! Checking a token under a key. All that does not depend on the clock is settled first and
kept as a verdict; the clock then only decides between the verdict and a refusal for the
time. -/

namespace BearerAuth.Token

/-! ## Signatures -/

/-- Reads a segment, in a token whose outline is sound. -/
def segmentBytes (segment : List UInt8) : Except Fault (List UInt8) :=
  (Base64Url.decode segment).mapError .base64

def valueOf (bytes : List UInt8) : Except Fault Json :=
  match Json.ofOctets? bytes with
  | some value => .ok value
  | none => .error .json

/-- The algorithm with a shared secret that a header segment names. -/
def algorithmOf (segment : List UInt8) : Except Fault MacAlgorithm := do
  let header ← valueOf (← segmentBytes segment)
  match headerAlgorithm? header with
  | none => throw .json
  | some algorithm =>
      match algorithm.mac? with
      | none => throw .invalidAlgorithm
      | some algorithm => return algorithm

def checkSignature (token : Compact) (key : List UInt8) : Except Fault Unit := do
  let algorithm ← algorithmOf token.header
  let signature ← segmentBytes token.signature
  if signature = algorithm.code key token.message then return () else throw .invalidSignature

/-- The claims of a token as they are written. -/
def claimMembers (token : Compact) : Except Fault (List Member) := do
  match ← valueOf (← segmentBytes token.claims) with
  | .obj members => return members
  | _ => throw .json

/-- The claims of a token that is cut at its last dots and signed with a key. -/
def authenticate (bytes key : List UInt8) : Except Fault (List Member) :=
  match Compact.ofLastDots? bytes with
  | none => .error .invalidToken
  | some token => do
      checkSignature token key
      claimMembers token

/-! ## Verdicts -/

/-- What there is to say about a token at every time: when it expires and starts, and the
result while it is valid. -/
structure Verdict where
  expires : Option Nat
  starts : Option Nat
  result : Except AuthError ClaimMap

namespace Verdict

/-- A verdict that does not depend on the time. -/
def refused (error : AuthError) : Verdict := ⟨none, none, .error error⟩

/-- The verdict on claims with a validity. -/
def ofClaims (members : List Member) (validity : Validity) : Verdict :=
  ⟨validity.expires, validity.starts,
    if validity.hasAudience then .error (Fault.refusal .invalidAudience)
    else .ok (.ofMembers members)⟩

/-- The result at a time. A token is still valid throughout the second that it expires in. -/
def resultAt (verdict : Verdict) (now : Instant) : Except AuthError ClaimMap :=
  if verdict.expires.any fun n => (n : Int) < now.seconds then
    .error (Fault.refusal .expiredSignature)
  else if verdict.starts.any fun n => now.seconds < n then
    .error (Fault.refusal .immatureSignature)
  else verdict.result

end Verdict

/-- The verdict on a token whose outline is sound. -/
def examineSigned (bytes key : List UInt8) : Except Fault Verdict := do
  let members ← authenticate bytes key
  let validity ← Validity.ofMembers members
  return .ofClaims members validity

/-- The verdict on a token under a key. -/
def examine (token : String) (key : List UInt8) : Verdict :=
  if token.isEmpty then .refused .emptyToken
  else if key.isEmpty then .refused .missingSecret
  else
    match checkOutline (Text.octets token) with
    | .error error => .refused error
    | .ok () =>
        match examineSigned (Text.octets token) key with
        | .error fault => .refused fault.refusal
        | .ok verdict => verdict

/-- The claims of a token that is valid under a key at a time. -/
def verify (token : String) (key : List UInt8) (now : Instant) : Except AuthError ClaimMap :=
  (examine token key).resultAt now

end BearerAuth.Token
