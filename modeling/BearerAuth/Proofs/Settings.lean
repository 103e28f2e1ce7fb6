import BearerAuth.Proofs.Outcome
import BearerAuth.Service.Router
import BearerAuth.Settings.Environment

/-! What settings are read from variables, and what the service takes over from them. -/

namespace BearerAuth

/-! ## Settings from variables -/

namespace Settings

/-- What the variables say about each of the settings. -/
structure ReadFrom (lookup : String → Option String) (settings : Settings) : Prop where
  host : settings.api.host = (lookup "API_HOST").getD "0.0.0.0"
  port : parsePort ((lookup "API_PORT").getD "8080") = .ok settings.api.port
  corsOrigins : settings.api.corsOrigins = ((lookup "API_CORS_ORIGINS").map splitList).getD ["*"]
  secret : lookup "JWT_SECRET" = some settings.jwt.secret
  accessLifetime : parsePeriod "JWT_ACCESS_EXPIRATION"
    ((lookup "JWT_ACCESS_EXPIRATION").getD "2h") = .ok settings.jwt.accessLifetime
  refreshLifetime : parsePeriod "JWT_REFRESH_EXPIRATION"
    ((lookup "JWT_REFRESH_EXPIRATION").getD "168h") = .ok settings.jwt.refreshLifetime
  identityKey : settings.jwt.identityKey = (lookup "JWT_IDENTITY_KEY").getD "sub"
  skipPaths : settings.auth.skipPaths = ((lookup "AUTH_SKIP_PATHS").map splitList).getD []
  commonSkipPaths : match lookup "AUTH_COMMON_SKIP_PATHS" with
    | some value => parseFlag value = .ok settings.auth.commonSkipPaths
    | none => settings.auth.commonSkipPaths = true

theorem read_eq_ok_iff {lookup : String → Option String} {settings : Settings} :
    read lookup = .ok settings ↔ settings.ReadFrom lookup := by
  constructor
  · intro h
    unfold read at h
    obtain ⟨port, hport, h⟩ := bind_eq_ok.mp h
    cases hsecret : lookup "JWT_SECRET" with
    | none =>
        simp only [hsecret] at h
        obtain ⟨_, hthrow, _⟩ := bind_eq_ok.mp h
        cases hthrow
    | some secret =>
        simp only [hsecret] at h
        obtain ⟨_, ⟨⟩, h⟩ := bind_eq_ok.mp h
        obtain ⟨access, haccess, h⟩ := bind_eq_ok.mp h
        obtain ⟨refresh, hrefresh, h⟩ := bind_eq_ok.mp h
        cases hflag : lookup "AUTH_COMMON_SKIP_PATHS" with
        | none =>
            simp only [hflag] at h
            cases h
            exact ⟨rfl, mapError_eq_ok.mp hport, rfl, hsecret, haccess, hrefresh, rfl, rfl,
              by simp [hflag]⟩
        | some flag =>
            simp only [hflag] at h
            obtain ⟨common, hcommon, h⟩ := bind_eq_ok.mp h
            cases h
            exact ⟨rfl, mapError_eq_ok.mp hport, rfl, hsecret, haccess, hrefresh, rfl, rfl,
              by simpa [hflag] using hcommon⟩
  · rintro ⟨hhost, hport, horigins, hsecret, haccess, hrefresh, hidentity, hskip, hcommon⟩
    have hport := (mapError_eq_ok (f := SettingsError.invalidPort)).mpr hport
    obtain ⟨⟨host, port, origins⟩, ⟨secret, access, refresh, identity⟩, ⟨skip, common⟩⟩ := settings
    dsimp only at hhost hport horigins hsecret haccess hrefresh hidentity hskip hcommon
    subst hhost horigins hidentity hskip
    unfold read
    cases hflag : lookup "AUTH_COMMON_SKIP_PATHS" with
    | none =>
        simp only [hflag] at hcommon
        subst hcommon
        simp only [hport, hsecret, haccess, hrefresh, ok_bind]
        rfl
    | some flag =>
        simp only [hflag] at hcommon
        simp only [hport, hsecret, haccess, hrefresh, hcommon, ok_bind]
        rfl

theorem ofEnvironment_eq_ok_iff {lookup : String → Option String} {settings : Settings} :
    ofEnvironment lookup = .ok settings ↔
      settings.ReadFrom lookup ∧ settings.validate = .ok () := by
  simp only [ofEnvironment, bind_eq_ok, read_eq_ok_iff]
  constructor
  · rintro ⟨found, hread, ⟨⟩, hvalid, h⟩
    cases h
    exact ⟨hread, hvalid⟩
  · rintro ⟨hread, hvalid⟩
    exact ⟨settings, hread, (), hvalid, rfl⟩

end Settings

/-! ## The context of a service -/

namespace Settings

theorem lifetime_eq_ok_iff {period : Period} {span : Span} :
    lifetime period = .ok span ↔ period.toSpan? = some span := by
  unfold lifetime
  cases period.toSpan? <;> simp

/-- The patterns of the exempt paths in settings. -/
def skipPatterns (settings : Settings) : List String :=
  settings.auth.skipPaths ++ if settings.auth.commonSkipPaths then SkipPath.commonPatterns else []

/-- The context that settings describe, with lifetimes as spans. -/
def contextWith (settings : Settings) (access refresh : Span) : SigningContext where
  secret := Text.octets settings.jwt.secret
  identityKey := if settings.jwt.identityKey.isEmpty then none else some settings.jwt.identityKey
  accessLifetime := access
  refreshLifetime := refresh
  skipPatterns := settings.skipPatterns

theorem withOptions_signingOptions (settings : Settings) (access refresh : Span) :
    (SigningContext.ofSecret (Text.octets settings.jwt.secret) access refresh).withOptions
      settings.signingOptions = settings.contextWith access refresh := by
  unfold signingOptions contextWith skipPatterns
  cases settings.auth.commonSkipPaths with
  | false => simp [SigningContext.withOptions, SigningContext.withOption, SigningContext.ofSecret]
  | true => simp [SigningContext.withOptions, SigningContext.withOption, SigningContext.ofSecret]

theorem signingContext_eq_ok_iff {settings : Settings} {context : SigningContext} :
    settings.signingContext = .ok context ↔
      ∃ access refresh, settings.jwt.accessLifetime.toSpan? = some access ∧
        settings.jwt.refreshLifetime.toSpan? = some refresh ∧
        context = settings.contextWith access refresh := by
  simp only [signingContext, bind_eq_ok, lifetime_eq_ok_iff, withOptions_signingOptions]
  constructor
  · rintro ⟨access, haccess, refresh, hrefresh, hcontext⟩
    cases hcontext
    exact ⟨access, refresh, haccess, hrefresh, rfl⟩
  · rintro ⟨access, refresh, haccess, hrefresh, rfl⟩
    exact ⟨access, haccess, refresh, hrefresh, rfl⟩

end Settings

namespace Service

variable {settings : Settings} {service : Service}

theorem ofSettings_eq_ok_iff :
    ofSettings settings = .ok service ↔
      ∃ access refresh, settings.jwt.accessLifetime.toSpan? = some access ∧
        settings.jwt.refreshLifetime.toSpan? = some refresh ∧
        service = ⟨settings, settings.contextWith access refresh⟩ := by
  simp only [ofSettings, bind_eq_ok, Settings.signingContext_eq_ok_iff]
  constructor
  · rintro ⟨_, ⟨access, refresh, haccess, hrefresh, rfl⟩, h⟩
    cases h
    exact ⟨access, refresh, haccess, hrefresh, rfl⟩
  · rintro ⟨access, refresh, haccess, hrefresh, rfl⟩
    exact ⟨_, ⟨access, refresh, haccess, hrefresh, rfl⟩, rfl⟩

theorem identityKey_of_ofSettings (h : ofSettings settings = .ok service) :
    service.context.identityKey =
      if settings.jwt.identityKey.isEmpty then none else some settings.jwt.identityKey := by
  obtain ⟨access, refresh, -, -, rfl⟩ := ofSettings_eq_ok_iff.mp h
  rfl

theorem identityKey_eq_some_iff (h : ofSettings settings = .ok service) {key : String} :
    service.context.identityKey = some key ↔ settings.jwt.identityKey = key ∧ key ≠ "" := by
  rw [identityKey_of_ofSettings h, Option.ite_none_left_eq_some, Option.some.injEq,
    String.isEmpty_iff]
  constructor
  · rintro ⟨hempty, rfl⟩
    exact ⟨rfl, hempty⟩
  · rintro ⟨rfl, hempty⟩
    exact ⟨hempty, rfl⟩

theorem secret_eq_nil_iff (h : ofSettings settings = .ok service) :
    service.context.secret = [] ↔ settings.jwt.secret = "" := by
  obtain ⟨access, refresh, -, -, rfl⟩ := ofSettings_eq_ok_iff.mp h
  constructor
  · exact fun hnil => Text.octets_inj hnil
  · intro hempty
    rw [Settings.contextWith, hempty]
    rfl

theorem skipPatterns_of_ofSettings (h : ofSettings settings = .ok service) :
    service.context.skipPatterns = settings.skipPatterns := by
  obtain ⟨access, refresh, -, -, rfl⟩ := ofSettings_eq_ok_iff.mp h
  rfl

end Service

end BearerAuth
