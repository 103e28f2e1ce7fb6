import BearerAuth.SigningContext.Basic
import BearerAuth.Text.Utf8
import BearerAuth.Time.PeriodText

/-! The settings of the service. Valid settings have a secret of some length and positive
lifetimes, of which the refresh lifetime is not the shorter one. -/

namespace BearerAuth

/-- Where the service listens, and which origins may use it. -/
structure ApiSettings where
  host : String
  port : UInt16
  corsOrigins : List String
deriving DecidableEq

/-- What tokens are signed with. -/
structure TokenSettings where
  secret : String
  accessLifetime : Period
  refreshLifetime : Period
  identityKey : String
deriving DecidableEq

/-- Which paths need no token. -/
structure ExemptionSettings where
  skipPaths : List String
  commonSkipPaths : Bool
deriving DecidableEq

structure Settings where
  api : ApiSettings
  jwt : TokenSettings
  auth : ExemptionSettings
deriving DecidableEq

/-- Why a text is not a port. -/
inductive PortError where
  | empty
  | invalidDigit
  | tooLarge
deriving DecidableEq, Repr

/-- The text shown for a faulty port. -/
def PortError.message : PortError → String
  | empty => "cannot parse integer from empty string"
  | invalidDigit => "invalid digit found in string"
  | tooLarge => "number too large to fit in target type"

/-- Why there are no usable settings. -/
inductive SettingsError where
  | invalidPort (error : PortError)
  | secretRequired
  | invalidPeriod (name value : String) (error : PeriodText.PeriodError)
  | invalidFlag (value : String)
  | secretTooShort
  | accessNotPositive
  | refreshNotPositive
  | refreshBelowAccess
  | lifetimeOutOfRange
deriving DecidableEq, Repr

namespace Settings

def minSecretLength : Nat := 6

end Settings

/-- The text shown for unusable settings. -/
def SettingsError.message : SettingsError → String
  | invalidPort error => error.message
  | secretRequired => "JWT_SECRET environment variable is required"
  | invalidPeriod name value error =>
      name ++ " is not a valid duration (" ++ Text.quoted value ++ "): " ++ error.message
  | invalidFlag value =>
      "AUTH_COMMON_SKIP_PATHS must be true or false, got " ++ Text.quoted value
  | secretTooShort =>
      "JWT_SECRET must be at least " ++ toString Settings.minSecretLength ++ " characters long"
  | accessNotPositive => "JWT_ACCESS_EXPIRATION must be positive"
  | refreshNotPositive => "JWT_REFRESH_EXPIRATION must be positive"
  | refreshBelowAccess =>
      "JWT_REFRESH_EXPIRATION must be greater than or equal to JWT_ACCESS_EXPIRATION"
  | lifetimeOutOfRange => "Source duration value is out of range for the target type"

namespace Settings

/-- Checks settings; the first rule that is broken counts. -/
def validate (settings : Settings) : Except SettingsError Unit :=
  if settings.jwt.secret.utf8ByteSize < minSecretLength then .error .secretTooShort
  else if settings.jwt.accessLifetime.nanos = 0 then .error .accessNotPositive
  else if settings.jwt.refreshLifetime.nanos = 0 then .error .refreshNotPositive
  else if settings.jwt.refreshLifetime.nanos < settings.jwt.accessLifetime.nanos then
    .error .refreshBelowAccess
  else .ok ()

/-- A lifetime as a span. -/
def lifetime (period : Period) : Except SettingsError Span :=
  match period.toSpan? with
  | some span => .ok span
  | none => .error .lifetimeOutOfRange

/-- The options of the context that settings describe. -/
def signingOptions (settings : Settings) : List SigningOption :=
  [.identityKey settings.jwt.identityKey, .skipPaths settings.auth.skipPaths] ++
    if settings.auth.commonSkipPaths then [.commonSkipPaths] else []

def signingContext (settings : Settings) : Except SettingsError SigningContext := do
  let access ← lifetime settings.jwt.accessLifetime
  let refresh ← lifetime settings.jwt.refreshLifetime
  return (SigningContext.ofSecret (Text.octets settings.jwt.secret) access refresh).withOptions
    settings.signingOptions

def bindAddress (settings : Settings) : String :=
  settings.api.host ++ ":" ++ toString settings.api.port.toNat

/-- Settings are valid exactly when their four rules hold. -/
theorem validate_eq_ok_iff (settings : Settings) :
    settings.validate = .ok () ↔
      minSecretLength ≤ settings.jwt.secret.utf8ByteSize ∧ 0 < settings.jwt.accessLifetime.nanos ∧
        0 < settings.jwt.refreshLifetime.nanos ∧
        settings.jwt.accessLifetime.nanos ≤ settings.jwt.refreshLifetime.nanos := by
  unfold validate
  repeat' split
  all_goals simp_all
  all_goals omega

end Settings

end BearerAuth
