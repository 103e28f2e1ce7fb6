import BearerAuth.Json.Shape
import BearerAuth.Settings.Basic

/-! Settings as JSON documents. The secret is read and never written. -/

namespace BearerAuth

namespace Period

def toJson (period : Period) : Json :=
  .obj
    [("secs", .nat period.seconds period.seconds_lt),
      ("nanos", .nat period.subsecond (Nat.lt_trans period.subsecond_lt (by decide)))]

/-- Whether a value has no other fields than those of a period. -/
def isRecord : Json → Bool
  | .obj members => members.all fun member => ["secs", "nanos"].contains member.1
  | _ => true

/-- The period that a value is. Nanoseconds may exceed a second as far as they fit into 32
bits. -/
def ofJson? (value : Json) : Option Period :=
  if isRecord value then
    match value.fields? ["secs", "nanos"] with
    | some [secs, nanos] => do
        Period.ofParts? (← secs.natBelow? 0x10000000000000000) (← nanos.natBelow? 0x100000000)
    | _ => none
  else none

end Period

namespace Settings

def toJson (settings : Settings) : Json :=
  .obj
    [("api", .obj
        [("host", .str settings.api.host),
          ("port", .nat settings.api.port.toNat (Nat.lt_trans settings.api.port.toNat_lt (by decide))),
          ("cors_origins", .ofTexts settings.api.corsOrigins)]),
      ("jwt", .obj
        [("access_expiration", settings.jwt.accessLifetime.toJson),
          ("refresh_expiration", settings.jwt.refreshLifetime.toJson),
          ("identity_key", .str settings.jwt.identityKey)]),
      ("auth", .obj
        [("skip_paths", .ofTexts settings.auth.skipPaths),
          ("common_skip_paths", .bool settings.auth.commonSkipPaths)])]

/-- Reads where the service listens. -/
def apiOfJson? (value : Json) : Option ApiSettings :=
  match value.fields? ["host", "port", "cors_origins"] with
  | some [host, port, origins] => do
      return ⟨← host.text?, UInt16.ofNat (← port.natBelow? 0x10000), ← origins.texts?⟩
  | _ => none

/-- Reads what tokens are signed with. -/
def jwtOfJson? (value : Json) : Option TokenSettings :=
  match value.fields? ["secret", "access_expiration", "refresh_expiration", "identity_key"] with
  | some [secret, access, refresh, key] => do
      return ⟨← secret.text?, ← Period.ofJson? access, ← Period.ofJson? refresh, ← key.text?⟩
  | _ => none

/-- Reads which paths need no token. -/
def authOfJson? (value : Json) : Option ExemptionSettings :=
  match value.fields? ["skip_paths", "common_skip_paths"] with
  | some [paths, common] => do return ⟨← paths.texts?, ← common.bool?⟩
  | _ => none

/-- The settings that a value is, whether valid or not. -/
def ofJson? (value : Json) : Option Settings :=
  match value.fields? ["api", "jwt", "auth"] with
  | some [api, jwt, auth] => do
      return ⟨← apiOfJson? api, ← jwtOfJson? jwt, ← authOfJson? auth⟩
  | _ => none

end Settings

end BearerAuth
