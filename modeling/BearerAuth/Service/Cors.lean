import BearerAuth.Http.Request
import BearerAuth.Settings.Basic

/-! Which origins may use the service from a browser. If any origin may, everything is
allowed and no credentials are; otherwise the origins that are listed may use credentials. -/

namespace BearerAuth

inductive CorsPolicy where
  | anyOrigin
  | listed (origins : List String)

namespace CorsPolicy

/-- The policy for a list of origins. An asterisk allows any; what cannot stand in a header
field is left out. -/
def ofOrigins (origins : List String) : CorsPolicy :=
  if origins.contains "*" then anyOrigin
  else listed (origins.filter fun origin => Http.isValue (Text.octets origin))

/-- The parts of a request on which the answer depends. -/
def vary : String × String :=
  ("vary", "origin, access-control-request-method, access-control-request-headers")

/-- The listed origin that a request comes from. -/
def origin? (origins : List String) (headers : List Http.Header) : Option String :=
  (Http.firstValue? headers "origin").bind fun value => origins.find? (Text.octets · == value)

/-- The header fields that every answer gets. -/
def commonHeaders (policy : CorsPolicy) (headers : List Http.Header) : List (String × String) :=
  match policy with
  | anyOrigin => [vary, ("access-control-allow-origin", "*")]
  | listed origins =>
      [vary, ("access-control-allow-credentials", "true")] ++
        ((origin? origins headers).map ("access-control-allow-origin", ·)).toList

/-- The header fields for a question about what is allowed. -/
def preflightHeaders : CorsPolicy → List (String × String)
  | anyOrigin => [("access-control-allow-methods", "*"), ("access-control-allow-headers", "*")]
  | listed _ =>
      [("access-control-allow-methods", "GET,POST,OPTIONS"),
        ("access-control-allow-headers", "authorization,content-type"),
        ("access-control-max-age", "3600")]

/-- The header fields for other requests. -/
def exposeHeaders : CorsPolicy → List (String × String)
  | anyOrigin => [("access-control-expose-headers", "*")]
  | listed _ => []

end CorsPolicy

end BearerAuth
