import BearerAuth.Bearer
import BearerAuth.SigningContext.Basic
import BearerAuth.Token.Verification

/-! Who sends a request. A token is verified under the secret of the context, has to be of
the type that is asked for, and has to name its holder if the context says so. -/

namespace BearerAuth.SigningContext

/-- The claims of a token that is valid under the context's secret. -/
def claims (context : SigningContext) (token : String) (now : Instant) :
    Except AuthError ClaimMap :=
  Token.verify token context.secret now

/-- Checks that a token is valid, whatever it claims. -/
def check (context : SigningContext) (token : String) (now : Instant) : Except AuthError Unit := do
  let _ ← context.claims token now
  return ()

def tokenType (context : SigningContext) (token : String) (now : Instant) :
    Except AuthError TokenType := do
  (← context.claims token now).tokenType

/-- Whether a token is valid and of a type. -/
def isOfType (context : SigningContext) (type : TokenType) (token : String) (now : Instant) :
    Bool :=
  match context.tokenType token now with
  | .ok found => found == type
  | .error _ => false

/-- The identity in a token that is valid under a key of the caller's choice. -/
def identityUnder (context : SigningContext) (token : String) (key : List UInt8) (now : Instant) :
    Except AuthError String := do
  (← Token.verify token key now).identity context.identityKey

/-- The identity in a valid token of a type. -/
def identityOf (context : SigningContext) (required : TokenType) (token : String)
    (now : Instant) : Except AuthError String := do
  let claims ← context.claims token now
  let found ← claims.tokenType
  if found = required then claims.identity context.identityKey else .error required.mismatch

/-- The identity in the access token of a request. -/
def authenticate (context : SigningContext) (source : BearerSource) (now : Instant) :
    Except AuthError String := do
  context.identityOf .access (← source.token) now

/-- The identity in the access token of a request; a request for an exempt path has none. -/
def authenticateUnlessSkipped (context : SigningContext) (source : BearerSource)
    (now : Instant) : Except AuthError String :=
  if source.path.any context.isPathSkipped then .ok "" else context.authenticate source now

end BearerAuth.SigningContext
