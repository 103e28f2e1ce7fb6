import BearerAuth.Claims
import BearerAuth.Base64Url
import BearerAuth.Json.Text
import BearerAuth.SigningContext.Basic
import BearerAuth.Token.Algorithm
import BearerAuth.Token.Compact

/-! Issuing tokens. The header is always the same, claims are written in the order of their
names, and times that the clock cannot reach leave nothing to issue. -/

namespace BearerAuth.Token

/-! ## Signing -/

def issuedHeader : Json := .obj [("typ", .str "JWT"), ("alg", .str "HS256")]

def segment (value : Json) : List UInt8 := Base64Url.encode (Text.octets value.text)

/-- The header and the claims of a token with the signature for them. -/
def signed (secret : List UInt8) (claims : ClaimMap) : Compact :=
  let unsigned : Compact := ⟨segment issuedHeader, segment claims.toJson, []⟩
  { unsigned with
    signature := Base64Url.encode (MacAlgorithm.hs256.code secret unsigned.message) }

/-- The token with some claims. -/
def sign (secret : List UInt8) (claims : ClaimMap) : String :=
  Text.ofAscii (signed secret claims).bytes

/-! ## Issuing -/

inductive IssueError where
  | refused (error : AuthError)
  /-- A lifetime ends where the clock does not reach. -/
  | clockOverflow
deriving DecidableEq, Repr

def expiry (now : Instant) (lifetime : Span) : Except IssueError Instant :=
  match now.plus? lifetime with
  | some instant => .ok instant
  | none => .error .clockOverflow

/-- An access token and a refresh token for the same identity. -/
structure TokenPair where
  accessToken : String
  refreshToken : String
  accessExpires : Instant
  refreshExpires : Instant

end Token

open Token

namespace SigningContext

/-- The secret, unless there is none to sign with. -/
def signingSecret (context : SigningContext) : Except IssueError (List UInt8) :=
  if context.hasSecret then .ok context.secret else .error (.refused .missingSecret)

def issuedClaims (context : SigningContext) (type : TokenType) (identity : String)
    (now expires : Instant) : ClaimMap :=
  TokenClaims.toMap ⟨type, some identity, now, expires⟩ context.identityKey

/-- Issues both tokens for an identity. -/
def issue (context : SigningContext) (identity : String) (now : Instant) :
    Except IssueError TokenPair := do
  let secret ← context.signingSecret
  let accessExpires ← expiry now context.accessLifetime
  let refreshExpires ← expiry now context.refreshLifetime
  return {
    accessToken := sign secret (context.issuedClaims .access identity now accessExpires)
    refreshToken := sign secret (context.issuedClaims .refresh identity now refreshExpires)
    accessExpires
    refreshExpires }

/-- Claims with the times that they do not state themselves. -/
def completed (claims : ClaimMap) (now expires : Instant) : ClaimMap :=
  ((claims.setNew "nbf" now.toJson now.isCanonical_toJson).setNew "iat" now.toJson
    now.isCanonical_toJson).setNew "exp" expires.toJson expires.isCanonical_toJson

/-- Issues a token with claims of the caller's choice. -/
def issueClaims (context : SigningContext) (claims : ClaimMap) (now : Instant) :
    Except IssueError (String × Instant) := do
  let secret ← context.signingSecret
  let expires ← expiry now context.accessLifetime
  return (sign secret (completed claims now expires), expires)

end SigningContext

end BearerAuth
