import BearerAuth.Gate.Web

/-! The gate in front of remote calls. No call is exempt; a call that is turned away gets a
status with one of two codes. -/

namespace BearerAuth.Gate

/-- The status of a call that is turned away. -/
structure RpcStatus where
  code : Nat
  message : String
deriving DecidableEq, Repr

/-- The status for a caller that cannot be told. -/
def RpcStatus.unauthenticated (message : String) : RpcStatus := ⟨16, message⟩

def RpcStatus.ofError (error : AuthError) : RpcStatus :=
  if error.isClientError then .unauthenticated error.message
  else ⟨13, "authentication is not configured"⟩

def intercept (context : SigningContext) (now : Instant) (metadata : List Http.Header) :
    Except RpcStatus Caller :=
  match context.authenticateUnlessSkipped (.ofRpc metadata) now with
  | .ok identity => .ok ⟨identity, .access⟩
  | .error error => .error (.ofError error)

/-- The caller that the gate has attached to a call. -/
def attachedCaller (caller : Option Caller) : Except RpcStatus Caller :=
  match caller with
  | some caller => .ok caller
  | none => .error (.unauthenticated "missing authentication context")

end BearerAuth.Gate
