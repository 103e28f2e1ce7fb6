import BearerAuth.Authentication
import BearerAuth.Http.Response

/-! The gates in front of web handlers. A gate either lets a request through, with the
caller if there is one, or turns it away with an answer that names the kind of the cause.
Faults of the service's own configuration are not described to the sender. -/

namespace BearerAuth

/-- Who a handler works for. -/
structure Caller where
  identity : String
  type : TokenType
deriving DecidableEq, Repr

def Caller.toJson (caller : Caller) : Json :=
  .obj [("identity", .str caller.identity), ("token_type", .str caller.type.name)]

namespace Gate

/-! ## Rejections -/

def rejectionStatus (error : AuthError) : Nat :=
  if error.isClientError then 401 else 500

/-- The answer to a request that is turned away. -/
def rejection (error : AuthError) : Http.Response :=
  .error (rejectionStatus error) error.kind.name
    (if error.isClientError then error.message else "Internal server error")

/-! ## Gates -/

inductive Passage where
  | turnedAway (error : AuthError)
  | admitted (caller : Option Caller)
deriving DecidableEq

/-- The passage for a request that has been authenticated or not. -/
def passage (type : TokenType) : Except AuthError String → Passage
  | .error error => .turnedAway error
  | .ok identity => .admitted (some ⟨identity, type⟩)

/-- The gate for access tokens. Requests for exempt paths pass without a caller, whatever
they carry. -/
def access (context : SigningContext) (now : Instant) (headers : List Http.Header)
    (path : String) : Passage :=
  if context.isPathSkipped path then .admitted none
  else passage .access (context.authenticate (.ofHttp headers path) now)

/-- The gate for refresh tokens; no path is exempt from it. -/
def refresh (context : SigningContext) (now : Instant) (headers : List Http.Header) : Passage :=
  passage .refresh do context.identityOf .refresh (← httpToken headers) now

/-- The answer of a gate with a handler behind it. -/
def Passage.answer (passage : Passage) (handler : Option Caller → Http.Response) : Http.Response :=
  match passage with
  | turnedAway error => rejection error
  | admitted caller => handler caller

/-- The caller that a handler insists on. -/
def requireCaller (caller : Option Caller) : Except AuthError Caller :=
  match caller with
  | some caller => .ok caller
  | none => .error .missingAuthContext

end Gate

end BearerAuth
