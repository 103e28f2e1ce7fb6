import BearerAuth.Settings.Basic

/-! Settings from environment variables. A variable that is missing has a default value,
except for the secret. -/

namespace BearerAuth.Settings

/-- The items of a list with commas between them, trimmed and without empty ones. -/
def splitList (value : String) : List String :=
  (((Text.allPiecesBy (· == ',') value.toList).map Text.trimBlanks).filter
    (!·.isEmpty)).map String.ofList

/-- The number that digits stand for behind a number read before them; it has to stay below
`2 ^ 16`. -/
def portDigits (n : Nat) : List Char → Except PortError UInt16
  | [] => .ok (UInt16.ofNat n)
  | c :: cs =>
      if !c.isDigit then .error .invalidDigit
      else
        let next := n * 10 + (c.toNat - '0'.toNat)
        if next < 0x10000 then portDigits next cs else .error .tooLarge

/-- The port that a text names; a plus sign may stand before the digits. -/
def parsePort (value : String) : Except PortError UInt16 :=
  match value.toList with
  | [] => .error .empty
  | ['+'] => .error .invalidDigit
  | '+' :: cs => portDigits 0 cs
  | cs => portDigits 0 cs

def parsePeriod (name value : String) : Except SettingsError Period :=
  (PeriodText.parse value).mapError (.invalidPeriod name value)

def parseFlag (value : String) : Except SettingsError Bool :=
  if value = "true" then .ok true
  else if value = "false" then .ok false
  else .error (.invalidFlag value)

/-- The settings in the variables, whether valid or not. Of several faulty variables the
first in this order counts. -/
def read (lookup : String → Option String) : Except SettingsError Settings := do
  let host := (lookup "API_HOST").getD "0.0.0.0"
  let port ← (parsePort ((lookup "API_PORT").getD "8080")).mapError .invalidPort
  let corsOrigins := ((lookup "API_CORS_ORIGINS").map splitList).getD ["*"]
  let secret ←
    match lookup "JWT_SECRET" with
    | some secret => pure secret
    | none => throw .secretRequired
  let accessLifetime ←
    parsePeriod "JWT_ACCESS_EXPIRATION" ((lookup "JWT_ACCESS_EXPIRATION").getD "2h")
  let refreshLifetime ←
    parsePeriod "JWT_REFRESH_EXPIRATION" ((lookup "JWT_REFRESH_EXPIRATION").getD "168h")
  let identityKey := (lookup "JWT_IDENTITY_KEY").getD "sub"
  let skipPaths := ((lookup "AUTH_SKIP_PATHS").map splitList).getD []
  let commonSkipPaths ←
    match lookup "AUTH_COMMON_SKIP_PATHS" with
    | some value => parseFlag value
    | none => pure true
  return ⟨⟨host, port, corsOrigins⟩, ⟨secret, accessLifetime, refreshLifetime, identityKey⟩,
    ⟨skipPaths, commonSkipPaths⟩⟩

def ofEnvironment (lookup : String → Option String) : Except SettingsError Settings := do
  let settings ← read lookup
  settings.validate
  return settings

end BearerAuth.Settings
