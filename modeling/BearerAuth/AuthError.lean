/-! Why a request is turned away, or a token not issued. Every cause belongs to one of
seven kinds; only causes of the configuration kind are the service's own fault. -/

namespace BearerAuth

inductive ErrorKind where
  | configuration
  | malformedInput
  | signature
  | expiry
  | claimShape
  | typeMismatch
  | transport
deriving DecidableEq, Repr

namespace ErrorKind

def name : ErrorKind → String
  | configuration => "configuration"
  | malformedInput => "malformed_input"
  | signature => "signature"
  | expiry => "expiry"
  | claimShape => "claim_shape"
  | typeMismatch => "type_mismatch"
  | transport => "transport"

def all : List ErrorKind :=
  [configuration, malformedInput, signature, expiry, claimShape, typeMismatch, transport]

def ofName? (text : String) : Option ErrorKind := all.find? (·.name == text)

theorem mem_all (kind : ErrorKind) : kind ∈ all := by cases kind <;> decide

theorem ofName?_name (kind : ErrorKind) : ofName? kind.name = some kind := by
  cases kind <;> rfl

end ErrorKind

inductive AuthError where
  | missingSecret
  /-- A token of some sort could not be signed, for a reason. -/
  | signingFailed (sort reason : String)
  | emptyToken
  | emptyAuthHeader
  | malformedAuthHeader
  | missingAuthContext
  | malformedToken (reason : String)
  | invalidSignature (reason : String)
  | unsupportedAlgorithm (reason : String)
  | expired
  | notYetValid
  | missingIdentity
  | invalidIdentity
  | missingTokenType
  | invalidTokenType
  | invalidClaims
  | notAccessToken
  | notRefreshToken
  | unauthenticated (reason : String)
deriving DecidableEq, Repr

namespace AuthError

def kind : AuthError → ErrorKind
  | missingSecret | signingFailed _ _ => .configuration
  | emptyToken | emptyAuthHeader | malformedAuthHeader | missingAuthContext
  | malformedToken _ => .malformedInput
  | invalidSignature _ | unsupportedAlgorithm _ => .signature
  | expired | notYetValid => .expiry
  | missingIdentity | invalidIdentity | missingTokenType | invalidTokenType
  | invalidClaims => .claimShape
  | notAccessToken | notRefreshToken => .typeMismatch
  | unauthenticated _ => .transport

def message : AuthError → String
  | missingSecret => "signing secret is not configured"
  | signingFailed sort reason => "failed to sign " ++ sort ++ " token: " ++ reason
  | emptyToken => "token is empty"
  | emptyAuthHeader => "authorization header is empty"
  | malformedAuthHeader => "malformed authorization header"
  | missingAuthContext => "request was not authenticated"
  | malformedToken reason => "malformed token: " ++ reason
  | invalidSignature reason => "invalid token signature: " ++ reason
  | unsupportedAlgorithm reason => "unexpected signing method: " ++ reason
  | expired => "token has expired"
  | notYetValid => "token is not valid yet"
  | missingIdentity => "missing identity key in token"
  | invalidIdentity => "invalid identity key in token"
  | missingTokenType => "missing token type in claims"
  | invalidTokenType => "invalid token type"
  | invalidClaims => "invalid token claims"
  | notAccessToken => "token is not an access token"
  | notRefreshToken => "token is not a refresh token"
  | unauthenticated reason => "invalid auth token: " ++ reason

/-- Whether the sender of the request, and not the service, has to mend something. -/
def isClientError (error : AuthError) : Bool := error.kind != .configuration

end AuthError

end BearerAuth
