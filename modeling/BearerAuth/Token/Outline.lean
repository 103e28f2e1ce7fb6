import BearerAuth.AuthError
import BearerAuth.Base64Url
import BearerAuth.Json.Text
import BearerAuth.Token.Compact

/-! The outline of a token: three segments, of which the first two are the written form of
JSON objects and the third is not empty. A token without this outline is told apart from
one with a wrong signature. -/

namespace BearerAuth.Token

/-- The JSON value that a segment is the written form of. -/
def segmentValue (name : String) (segment : List UInt8) : Except AuthError Json :=
  match Base64Url.decode segment with
  | .error error => .error (.malformedToken (name ++ " segment: " ++ error.message))
  | .ok bytes =>
      match Json.ofOctets? bytes with
      | none => .error (.malformedToken (name ++ " segment: <json>"))
      | some value => .ok value

def checkHeader (segment : List UInt8) : Except AuthError Unit := do
  match ← segmentValue "header" segment with
  | .obj _ => return ()
  | _ => throw (.malformedToken "header segment is not a JSON object")

def checkClaims (segment : List UInt8) : Except AuthError Unit := do
  match ← segmentValue "claims" segment with
  | .obj _ => return ()
  | _ => throw .invalidClaims

def checkOutline (bytes : List UInt8) : Except AuthError Unit :=
  match Compact.ofFirstDots bytes with
  | .error count =>
      .error (.malformedToken ("expected 3 segments, found " ++ toString count))
  | .ok token => do
      checkHeader token.header
      checkClaims token.claims
      if token.signature.isEmpty then .error (.invalidSignature "missing signature") else .ok ()

end BearerAuth.Token
