import BearerAuth.AuthError
import BearerAuth.Base64Url

/-! What can be wrong with a signed token or with the key for it, before it is known which
part of the service asked. -/

namespace BearerAuth.Token

inductive Fault where
  | invalidToken
  | invalidSignature
  | invalidEcdsaKey
  | invalidEddsaKey
  | invalidRsaKey (reason : String)
  | rsaFailedSigning
  | signing (reason : String)
  | invalidAlgorithmName
  | invalidKeyFormat
  | missingRequiredClaim (claim : String)
  | invalidClaimFormat (claim : String)
  | expiredSignature
  | invalidIssuer
  | invalidAudience
  | invalidSubject
  | immatureSignature
  | invalidAlgorithm
  | missingAlgorithm
  | base64 (error : Base64Url.DecodeError)
  | json
  | provider (reason : String)
deriving DecidableEq, Repr

namespace Fault

/-- The text shown for a fault. What is wrong with JSON text is not told. -/
def message : Fault → String
  | invalidToken => "InvalidToken"
  | invalidSignature => "InvalidSignature"
  | invalidEcdsaKey => "InvalidEcdsaKey"
  | invalidEddsaKey => "InvalidEddsaKey"
  | invalidRsaKey reason => "RSA key invalid: " ++ reason
  | rsaFailedSigning => "RsaFailedSigning"
  | signing reason => "Signing failed: " ++ reason
  | invalidAlgorithmName => "InvalidAlgorithmName"
  | invalidKeyFormat => "InvalidKeyFormat"
  | missingRequiredClaim claim => "Missing required claim: " ++ claim
  | invalidClaimFormat claim => "Invalid format for claim: " ++ claim
  | expiredSignature => "ExpiredSignature"
  | invalidIssuer => "InvalidIssuer"
  | invalidAudience => "InvalidAudience"
  | invalidSubject => "InvalidSubject"
  | immatureSignature => "ImmatureSignature"
  | invalidAlgorithm => "InvalidAlgorithm"
  | missingAlgorithm => "MissingAlgorithm"
  | base64 error => "Base64 error: " ++ error.message
  | json => "JSON error: <json>"
  | provider reason => "Custom provider error: " ++ reason

/-- The cause that a fault is reported as. -/
def toAuthError (fault : Fault) : AuthError :=
  match fault with
  | expiredSignature => .expired
  | immatureSignature => .notYetValid
  | invalidAlgorithm | invalidAlgorithmName | missingAlgorithm =>
      .unsupportedAlgorithm fault.message
  | invalidToken | base64 _ | json => .malformedToken fault.message
  | _ => .invalidSignature fault.message

/-- The cause reported for a token whose outline is sound: whatever is still wrong with its
form counts against its signature. -/
def refusal (fault : Fault) : AuthError :=
  match fault.toAuthError with
  | .malformedToken reason => .invalidSignature reason
  | error => error

end Fault

end BearerAuth.Token
