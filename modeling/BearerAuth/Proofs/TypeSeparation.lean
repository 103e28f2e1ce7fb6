import BearerAuth.Proofs.Authentication
import BearerAuth.Proofs.Settings

/-! Which checks the tokens of a pair pass. The identity is written over a claim of the same
name, and the name is free to choose; so an identity can take the place of the token type and
stand for a type that is not the token's own. -/

namespace BearerAuth

open Token

/-! ## Claims that a token carries -/

/-- The integer that a value is. -/
def Json.int? : Json → Option Int
  | .atom (.whole n) => some n.value
  | _ => none

/-- The claim under a name in the segment for claims, whoever signed the token. -/
def Token.carriedClaim? (token name : String) : Option Json := do
  let cut ← Compact.ofLastDots? (Text.octets token)
  let members ← (claimMembers cut).toOption
  Json.lookup? members name

theorem carriedClaim?_sign (secret : List UInt8) {claims : ClaimMap} (name : String)
    (hexact : claims.toJson.isExact = true)
    (hnesting : claims.toJson.nesting ≤ Json.maxNesting) :
    carriedClaim? (sign secret claims) name = claims.get? name := by
  have hauthentic := authentic_signed secret hexact hnesting
  simp only [carriedClaim?, octets_sign secret claims, hauthentic.ofLastDots?,
    claimMembers_eq_ok_iff.mpr hauthentic.claims, Option.bind_eq_bind, Option.bind_some,
    Except.toOption]
  exact ClaimMap.lookup?_members claims name

variable {context : SigningContext} {type : TokenType} {identity : String} {now expires : Instant}

theorem carriedClaim?_issuedClaims (secret : List UInt8) (name : String) :
    carriedClaim? (sign secret (context.issuedClaims type identity now expires)) name =
      (context.issuedClaims type identity now expires).get? name :=
  carriedClaim?_sign secret name (TokenClaims.isExact_toMap _ _) (TokenClaims.nesting_toMap _ _)

/-- The second that the claims of a token state under a name, whoever signed the token. -/
def Token.carriedSecond? (token name : String) : Option Int :=
  (carriedClaim? token name).bind Json.int?

theorem carriedSecond?_issuedClaims {secret : List UInt8} {name : String} {instant : Instant}
    (h : (context.issuedClaims type identity now expires).get? name = some instant.toJson) :
    carriedSecond? (sign secret (context.issuedClaims type identity now expires)) name =
      some instant.seconds := by
  rw [carriedSecond?, carriedClaim?_issuedClaims, h]
  rfl

theorem carriedClaim?_issued (secret : List UInt8) (hidentity : identity ≠ "") :
    carriedClaim? (sign secret (context.issuedClaims type identity now expires)) tokenTypeClaim =
      some (.str (context.statedType type identity)) := by
  rw [carriedClaim?_issuedClaims, SigningContext.get?_tokenType_issuedClaims hidentity]

/-! ## Services with a chosen name for identities -/

/-- Variables with a secret and a name for identities and nothing else. -/
def secretAndKey (key name : String) : Option String :=
  if name = "JWT_SECRET" then some "s3cr3t!!"
  else if name = "JWT_IDENTITY_KEY" then some key
  else none

/-- The settings in these variables. -/
def settingsNaming (key : String) : Settings where
  api := ⟨"0.0.0.0", 8080, ["*"]⟩
  jwt := ⟨"s3cr3t!!", ⟨7200 * 1000000000, by decide⟩, ⟨604800 * 1000000000, by decide⟩, key⟩
  auth := ⟨[], true⟩

/-- The service with these settings. -/
def serviceNaming (key : String) : Service :=
  ⟨settingsNaming key, Text.octets "s3cr3t!!", some key, SigningContext.defaultAccessLifetime,
    SigningContext.defaultRefreshLifetime, SkipPath.commonPatterns⟩

theorem Settings.parsePort_default : parsePort "8080" = .ok 8080 := by decide +kernel

theorem Settings.parsePeriod_default_access :
    parsePeriod "JWT_ACCESS_EXPIRATION" "2h" = .ok ⟨7200 * 1000000000, by decide⟩ := by
  decide +kernel

theorem Settings.parsePeriod_default_refresh :
    parsePeriod "JWT_REFRESH_EXPIRATION" "168h" = .ok ⟨604800 * 1000000000, by decide⟩ := by
  decide +kernel

theorem ofEnvironment_secretAndKey (key : String) :
    Settings.ofEnvironment (secretAndKey key) = .ok (settingsNaming key) :=
  Settings.ofEnvironment_eq_ok_iff.mpr
    ⟨⟨rfl, Settings.parsePort_default, rfl, rfl, Settings.parsePeriod_default_access,
      Settings.parsePeriod_default_refresh, rfl, rfl, rfl⟩, rfl⟩

theorem ofSettings_settingsNaming {key : String} (h : key ≠ "") :
    Service.ofSettings (settingsNaming key) = .ok (serviceNaming key) := by
  have hkey : (if key.isEmpty then none else some key) = some key := by simp [h]
  rw [serviceNaming, ← hkey]
  rfl

theorem issue_serviceNaming (key identity : String) : ∃ pair,
    (serviceNaming key).context.issue identity ⟨1700000000 * 1000000000, by decide⟩ = .ok pair ∧
      pair.accessExpires = ⟨1700007200 * 1000000000, by decide⟩ ∧
      pair.refreshExpires = ⟨1700604800 * 1000000000, by decide⟩ :=
  have hsecret : Text.octets "s3cr3t!!" ≠ [] := by decide
  ⟨_, SigningContext.issue_eq_ok_iff.mpr ⟨hsecret, _, _, rfl, rfl, rfl⟩, rfl, rfl⟩

/-! ## Tokens in the place of the other type -/

theorem identityKey_eq_tokenTypeClaim_iff {lookup : String → Option String} {settings : Settings}
    {service : Service} (hsettings : Settings.ofEnvironment lookup = .ok settings)
    (hservice : Service.ofSettings settings = .ok service) :
    service.context.identityKey = some tokenTypeClaim ↔
      lookup "JWT_IDENTITY_KEY" = some "token_type" := by
  rw [Service.identityKey_eq_some_iff hservice,
    (Settings.ofEnvironment_eq_ok_iff.mp hsettings).1.identityKey]
  cases lookup "JWT_IDENTITY_KEY" with
  | none => decide
  | some key => simp [tokenTypeClaim]

/-- A token of a pair is taken for one of another type at a time: the variables put the identity
in the place of the type, the identity is the word for the other type, and the token is valid. -/
def Crosses (lookup : String → Option String) (identity : String) (required : TokenType)
    (now expires t : Instant) : Prop :=
  lookup "JWT_IDENTITY_KEY" = some "token_type" ∧ identity = required.name ∧
    0 ≤ now.seconds ∧ now.seconds ≤ t.seconds ∧ t.seconds ≤ expires.seconds

theorem identityOf_issued_iff_crosses {lookup : String → Option String}
    {context : SigningContext} {type required : TokenType} {identity : String}
    {now expires t : Instant}
    (hkey : context.identityKey = some tokenTypeClaim ↔
      lookup "JWT_IDENTITY_KEY" = some "token_type")
    (hsecret : context.secret ≠ []) (hidentity : identity ≠ "") (htype : type ≠ required) :
    (∃ found, context.identityOf required
        (sign context.secret (context.issuedClaims type identity now expires)) t = .ok found) ↔
      Crosses lookup identity required now expires t := by
  rw [SigningContext.identityOf_issued_eq_ok_iff hsecret hidentity htype, hkey, Crosses]

/-- What becomes of a pair that was issued for an identity at a time. Every check keeps the types of
its tokens apart, except where a token crosses; and the tokens say what they were issued for, unless
the identity says it for them. -/
structure KeptApart (lookup : String → Option String) (context : SigningContext)
    (identity : String) (now : Instant) (pair : TokenPair) : Prop where
  refresh : ∀ t, (∃ found, context.identityOf .refresh pair.accessToken t = .ok found) ↔
    Crosses lookup identity .refresh now pair.accessExpires t
  refreshGate : ∀ t headers, httpToken headers = .ok pair.accessToken →
    ((∃ caller, Gate.refresh context t headers = .admitted caller) ↔
      Crosses lookup identity .refresh now pair.accessExpires t)
  access : ∀ t (source : BearerSource), source.token = .ok pair.refreshToken →
    ((∃ found, context.authenticate source t = .ok found) ↔
      Crosses lookup identity .access now pair.refreshExpires t)
  accessGate : ∀ t headers path, httpToken headers = .ok pair.refreshToken →
    ((∃ caller, Gate.access context t headers path = .admitted (some caller)) ↔
      context.isPathSkipped path = false ∧
        Crosses lookup identity .access now pair.refreshExpires t)
  call : ∀ t metadata, rpcToken metadata = .ok pair.refreshToken →
    ((∃ caller, Gate.intercept context t metadata = .ok caller) ↔
      Crosses lookup identity .access now pair.refreshExpires t)
  accessType : carriedClaim? pair.accessToken "token_type" =
    some (.str (if lookup "JWT_IDENTITY_KEY" = some "token_type" then identity else "access"))
  refreshType : carriedClaim? pair.refreshToken "token_type" =
    some (.str (if lookup "JWT_IDENTITY_KEY" = some "token_type" then identity else "refresh"))

/-- With settings from any variables, the tokens of a pair are kept apart unless they cross. -/
theorem accepted_iff_crosses {lookup : String → Option String} {settings : Settings}
    {service : Service} {identity : String} {now : Instant} {pair : TokenPair}
    (hsettings : Settings.ofEnvironment lookup = .ok settings)
    (hservice : Service.ofSettings settings = .ok service) (hidentity : identity ≠ "")
    (hissue : service.context.issue identity now = .ok pair) :
    KeptApart lookup service.context identity now pair := by
  have hkey := identityKey_eq_tokenTypeClaim_iff hsettings hservice
  obtain ⟨hsecret, accessExpires, refreshExpires, -, -, rfl⟩ :=
    SigningContext.issue_eq_ok_iff.mp hissue
  have haccess (t : Instant) :
      (∃ found, service.context.identityOf .refresh (sign service.context.secret
        (service.context.issuedClaims .access identity now accessExpires)) t = .ok found) ↔
      Crosses lookup identity .refresh now accessExpires t :=
    identityOf_issued_iff_crosses hkey hsecret hidentity (by decide)
  have hrefresh (t : Instant) :
      (∃ found, service.context.identityOf .access (sign service.context.secret
        (service.context.issuedClaims .refresh identity now refreshExpires)) t = .ok found) ↔
      Crosses lookup identity .access now refreshExpires t :=
    identityOf_issued_iff_crosses hkey hsecret hidentity (by decide)
  have hstated (type : TokenType) : service.context.statedType type identity =
      if lookup "JWT_IDENTITY_KEY" = some "token_type" then identity else type.name := by
    simp only [SigningContext.statedType, hkey]
  constructor
  case refresh => exact haccess
  case refreshGate =>
    intro t headers hheaders
    rw [Gate.refresh_admits_iff hheaders, haccess]
  case access =>
    intro t source hsource
    rw [SigningContext.authenticate_of_token hsource, hrefresh]
  case accessGate =>
    intro t headers path hheaders
    rw [Gate.access_admits_iff hheaders, hrefresh]
  case call =>
    intro t metadata hmetadata
    rw [Gate.intercept_admits_iff hmetadata, hrefresh]
  case accessType => exact (carriedClaim?_issued _ hidentity).trans (by rw [hstated]; rfl)
  case refreshType => exact (carriedClaim?_issued _ hidentity).trans (by rw [hstated]; rfl)

theorem types_kept_apart_by_default : ∃ settings service pair,
    Settings.ofEnvironment (secretAndKey "sub") = .ok settings ∧
      Service.ofSettings settings = .ok service ∧
      service.context.issue "user-42" ⟨1700000000 * 1000000000, by decide⟩ = .ok pair ∧
      (∀ t, ¬∃ found, service.context.identityOf .refresh pair.accessToken t = .ok found) ∧
      (∀ t (source : BearerSource), source.token = .ok pair.refreshToken →
        ¬∃ found, service.context.authenticate source t = .ok found) ∧
      carriedClaim? pair.accessToken "token_type" = some (.str "access") ∧
      carriedClaim? pair.refreshToken "token_type" = some (.str "refresh") := by
  obtain ⟨pair, hissue, -⟩ := issue_serviceNaming "sub" "user-42"
  have hsettings := ofEnvironment_secretAndKey "sub"
  have hservice := ofSettings_settingsNaming (show "sub" ≠ "" by decide)
  have hkept := accepted_iff_crosses hsettings hservice (by decide) hissue
  have hapart {required : TokenType} {now expires t : Instant} :
      ¬Crosses (secretAndKey "sub") "user-42" required now expires t :=
    fun h => absurd h.1 (by decide)
  exact ⟨_, _, pair, hsettings, hservice, hissue, fun t h => hapart ((hkept.refresh t).mp h),
    fun t source hsource h => hapart ((hkept.access t source hsource).mp h), hkept.accessType,
    hkept.refreshType⟩

/-- The access token for the identity `refresh` is a refresh token as well, if identities are
written under the name of the token type. -/
theorem access_token_crosses : ∃ settings service pair,
    Settings.ofEnvironment (secretAndKey "token_type") = .ok settings ∧
      Service.ofSettings settings = .ok service ∧
      service.context.issue "refresh" ⟨1700000000 * 1000000000, by decide⟩ = .ok pair ∧
      ∃ found, service.context.identityOf .refresh pair.accessToken
        ⟨1700000000 * 1000000000, by decide⟩ = .ok found := by
  obtain ⟨pair, hissue, hexpires, -⟩ := issue_serviceNaming "token_type" "refresh"
  have hservice := ofSettings_settingsNaming (show "token_type" ≠ "" by decide)
  obtain ⟨hsecret, access, refresh, -, -, rfl⟩ := SigningContext.issue_eq_ok_iff.mp hissue
  have hcrosses : Crosses (secretAndKey "token_type") "refresh" .refresh
      ⟨1700000000 * 1000000000, by decide⟩ access ⟨1700000000 * 1000000000, by decide⟩ := by
    refine ⟨rfl, rfl, by decide, Int.le_refl _, ?_⟩
    rw [show access = _ from hexpires]
    decide
  have hkey := identityKey_eq_tokenTypeClaim_iff (ofEnvironment_secretAndKey "token_type") hservice
  exact ⟨_, _, _, ofEnvironment_secretAndKey _, hservice, hissue,
    (identityOf_issued_iff_crosses hkey hsecret (by decide) (by decide)).mpr hcrosses⟩

end BearerAuth
