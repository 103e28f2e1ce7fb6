import BearerAuth.Gate.Web
import BearerAuth.Http.Request
import BearerAuth.Service.Cors
import BearerAuth.Service.Failure
import BearerAuth.Settings.Basic
import BearerAuth.Token.Issue

/-! The web service: its health, who a caller is, and new tokens for a refresh token. The
gate of a route comes before the choice of a handler, so a request without a token learns
nothing about methods. -/

namespace BearerAuth

structure Service where
  settings : Settings
  context : SigningContext

namespace Service

def version : String := "0.1.0"

def ofSettings (settings : Settings) : Except SettingsError Service := do
  return ⟨settings, ← settings.signingContext⟩

/-! ## Routes -/

inductive Route where
  | health
  | whoami
  | refresh
deriving DecidableEq, Repr

def Route.path : Route → String
  | health => "/health"
  | whoami => "/v1/auth/whoami"
  | refresh => "/v1/auth/refresh"

def Route.ofPath? (path : String) : Option Route :=
  [Route.health, .whoami, .refresh].find? (·.path == path)

def Route.methods : Route → List String
  | health | whoami => ["GET", "HEAD"]
  | refresh => ["POST"]

def Route.handles (route : Route) (method : String) : Bool := route.methods.contains method

/-! ## Handlers -/

/-- Tells whether there is a secret to sign with. -/
def healthAnswer (service : Service) : Http.Response :=
  let isConfigured := service.context.hasSecret
  .json 200 (.obj
    [("status", .str (if isConfigured then "healthy" else "degraded")),
      ("version", .str version),
      ("signing", .str (if isConfigured then "configured" else "missing"))])

/-- Tells callers who they are. -/
def whoamiAnswer (caller : Caller) : Http.Response := .json 200 caller.toJson

def pairJson (pair : Token.TokenPair) : Json :=
  .obj
    [("access_token", .str pair.accessToken), ("refresh_token", .str pair.refreshToken),
      ("expire_at", pair.accessExpires.toJson), ("refresh_expire_at", pair.refreshExpires.toJson)]

/-- New tokens for a caller, or no answer at all where a lifetime leaves the range of the
clock. -/
def refreshAnswer (service : Service) (now : Instant) (caller : Caller) : Option Http.Response :=
  match service.context.issue caller.identity now with
  | .ok pair => some (.json 200 (pairJson pair))
  | .error (.refused error) => some (ServiceFailure.internal error.message).response
  | .error .clockOverflow => none

def handle (service : Service) (now : Instant) (route : Route) (caller : Option Caller) :
    Option Http.Response :=
  match route, Gate.requireCaller caller with
  | .health, _ => some service.healthAnswer
  | _, .error error => some (Gate.rejection error)
  | .whoami, .ok caller => some (whoamiAnswer caller)
  | .refresh, .ok caller => service.refreshAnswer now caller

/-! ## Requests -/

/-- What the gate of a route does with a request. -/
def gate (service : Service) (now : Instant) (route : Route) (request : Http.Request) :
    Gate.Passage :=
  match route with
  | .health | .whoami => Gate.access service.context now request.headers request.path
  | .refresh => Gate.refresh service.context now request.headers

def answerOn (service : Service) (now : Instant) (route : Route) (request : Http.Request) :
    Option Http.Response :=
  match service.gate now route request with
  | .turnedAway error => some (Gate.rejection error)
  | .admitted caller =>
      if route.handles request.method then service.handle now route caller
      else some (.empty 405)

/-- The answer to a request for a path that is no route. -/
def notFoundAnswer : Http.Response := (ServiceFailure.notFound "Route not found").response

/-- The methods of the route that has no handler for a request. -/
def allowHeaders (request : Http.Request) : List (String × String) :=
  match Route.ofPath? request.path with
  | none => []
  | some route =>
      if route.handles request.method then []
      else [("allow", String.intercalate "," route.methods)]

/-- Whether a request only asks what is allowed. -/
def isPreflight (request : Http.Request) : Bool := request.method == "OPTIONS"

/-- The answer to a request, before anything is said about origins. -/
def answer (service : Service) (now : Instant) (request : Http.Request) : Option Http.Response :=
  if isPreflight request then some (.empty 200)
  else
    match Route.ofPath? request.path with
    | none => some notFoundAnswer
    | some route =>
        if request.method == "HEAD" && route.handles "HEAD" then
          (service.answerOn now route request).map Http.Response.withoutBody
        else service.answerOn now route request

def respond (service : Service) (now : Instant) (request : Http.Request) :
    Option Http.Response :=
  let policy := CorsPolicy.ofOrigins service.settings.api.corsOrigins
  let cors := policy.commonHeaders request.headers ++
    if isPreflight request then policy.preflightHeaders else policy.exposeHeaders
  (service.answer now request).map fun response =>
    response.withHeaders (allowHeaders request ++ cors)

end Service

end BearerAuth
