import BearerAuth.AuthError
import BearerAuth.Http.Response

/-! Failures of the service's own handlers. What went wrong inside is not told to the
sender. -/

namespace BearerAuth

inductive ServiceFailure where
  | unauthorized (reason : String)
  | notFound (reason : String)
  | internal (reason : String)
deriving DecidableEq, Repr

namespace ServiceFailure

def ofError (error : AuthError) : ServiceFailure :=
  if error.isClientError then .unauthorized error.message else .internal error.message

def message : ServiceFailure → String
  | unauthorized reason => "Unauthorized: " ++ reason
  | notFound reason => "Not found: " ++ reason
  | internal reason => "Internal error: " ++ reason

def response : ServiceFailure → Http.Response
  | unauthorized reason => .error 401 "unauthorized" reason
  | notFound reason => .error 404 "not_found" reason
  | internal _ => .error 500 "internal_error" "An internal error occurred"

end ServiceFailure

end BearerAuth
