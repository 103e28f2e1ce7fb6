import BearerAuth.Proofs.Service.Routes
import BearerAuth.Proofs.Token.ErrorKinds
import BearerAuth.Proofs.TypeExclusion

/-! When a request fails because of the service itself. Of all that can be wrong with the configuration
only a missing secret shows, and only to requests whose token a gate looks at. Where a gate has let a
token through there is a secret, so the handler behind it has no reason left to fail for. -/

namespace BearerAuth

open Token
open SkipPath (Exempts)

/-! ## Failures of the configuration -/

section Unconfigured

variable {α β : Type} {x : Except AuthError α} {f : α → Except AuthError β}

/-- Something failed because of the configuration. -/
def Unconfigured (result : Except AuthError α) : Prop :=
  ∃ error, result = .error error ∧ error.kind = .configuration

theorem unconfigured_error_iff {error : AuthError} :
    Unconfigured (.error error : Except AuthError α) ↔ error.kind = .configuration := by
  simp [Unconfigured]

theorem not_unconfigured_of_kind {kind : ErrorKind} (hkind : kind ≠ .configuration)
    (h : ∀ error, x = .error error → error.kind = kind) : ¬Unconfigured x := by
  rintro ⟨error, herror, hconfiguration⟩
  exact hkind ((h error herror).symm.trans hconfiguration)

theorem unconfigured_bind_iff :
    Unconfigured (x >>= f) ↔ Unconfigured x ∨ ∃ a, x = .ok a ∧ Unconfigured (f a) := by
  simp only [Unconfigured, bind_eq_error]
  constructor
  · rintro ⟨error, herror | ⟨a, ha, herror⟩, hkind⟩
    · exact .inl ⟨error, herror, hkind⟩
    · exact .inr ⟨a, ha, error, herror, hkind⟩
  · rintro (⟨error, herror, hkind⟩ | ⟨a, ha, error, herror, hkind⟩)
    · exact ⟨error, .inl herror, hkind⟩
    · exact ⟨error, .inr ⟨a, ha, herror⟩, hkind⟩

end Unconfigured

/-! ## Checks without a secret -/

section Checks

variable {token : String} {key : List UInt8} {now : Instant} {context : SigningContext}
  {headers : List Http.Header}

theorem Token.unconfigured_verify_iff :
    Unconfigured (verify token key now) ↔ token ≠ "" ∧ key = [] := by
  by_cases htoken : token = ""
  · have hverify : verify token key now = .error .emptyToken := by
      rw [htoken]
      rfl
    rw [hverify, unconfigured_error_iff]
    simp [AuthError.kind, htoken]
  have hfilled : token.isEmpty = false := by simpa using htoken
  by_cases hkey : key = []
  · have hverify : verify token key now = .error .missingSecret := by
      rw [verify, examine, hkey, hfilled]
      rfl
    rw [hverify, unconfigured_error_iff]
    simp [AuthError.kind, htoken, hkey]
  · refine iff_of_false ?_ fun h => hkey h.2
    rintro ⟨error, herror, hkind⟩
    have hfails : FailsWith token key now .configuration := ⟨error, herror, hkind⟩
    obtain ⟨⟨⟩, -⟩ | ⟨⟨⟩, -⟩ | ⟨⟨⟨⟩⟩ | ⟨⟨⟩⟩, -⟩ := hfails.outline htoken hkey

/-- What a token says about its type and its holder is not for the configuration to answer for. -/
theorem SigningContext.unconfigured_identityOf_iff {required : TokenType} :
    Unconfigured (context.identityOf required token now) ↔ token ≠ "" ∧ context.secret = [] := by
  have hclaims : Unconfigured (context.claims token now) ↔ token ≠ "" ∧ context.secret = [] :=
    unconfigured_verify_iff
  have htype (claims : ClaimMap) : ¬Unconfigured claims.tokenType :=
    not_unconfigured_of_kind (by decide) fun _ => ClaimMap.kind_of_tokenType_error
  have hidentity (claims : ClaimMap) : ¬Unconfigured (claims.identity context.identityKey) :=
    not_unconfigured_of_kind (by decide) fun _ => ClaimMap.kind_of_identity_error
  have hmismatch : required.mismatch.kind ≠ .configuration := by
    rw [required.kind_mismatch]
    decide
  rw [← hclaims, identityOf, unconfigured_bind_iff]
  refine or_iff_left ?_
  rintro ⟨claims, -, h⟩
  rcases unconfigured_bind_iff.mp h with h | ⟨type, -, h⟩
  · exact htype claims h
  · split at h
    · exact hidentity claims h
    · exact hmismatch (unconfigured_error_iff.mp h)

theorem not_unconfigured_httpToken : ¬Unconfigured (httpToken headers) := by
  have hkind (error : AuthError) (h : httpToken headers = .error error) :
      error.kind = .malformedInput := by
    rcases httpToken_eq_error h with rfl | rfl
    · rfl
    · rfl
  exact not_unconfigured_of_kind (by decide) hkind

theorem ne_empty_of_httpToken (h : httpToken headers = .ok token) : token ≠ "" := by
  obtain ⟨value, cs, -, -, hcs⟩ := httpToken_eq_ok_iff.mp h
  obtain ⟨hne, -⟩ := authorizationToken_eq_ok_iff.mp hcs
  simpa using hne

theorem SigningContext.unconfigured_httpToken_iff {type : TokenType} :
    Unconfigured (httpToken headers >>= fun token => context.identityOf type token now) ↔
      context.secret = [] ∧ ∃ token, httpToken headers = .ok token := by
  simp only [unconfigured_bind_iff, not_unconfigured_httpToken, false_or,
    unconfigured_identityOf_iff]
  constructor
  · rintro ⟨token, htoken, -, hsecret⟩
    exact ⟨hsecret, token, htoken⟩
  · rintro ⟨hsecret, token, htoken⟩
    exact ⟨token, htoken, ne_empty_of_httpToken htoken, hsecret⟩

end Checks

theorem Gate.status_rejection_eq_500_iff {error : AuthError} :
    (rejection error).status = 500 ↔ error.kind = .configuration := by
  have hclient : error.isClientError = true ↔ error.kind ≠ .configuration := by
    simp [AuthError.isClientError]
  rw [rejection, Http.Response.error, Http.Response.json, rejectionStatus]
  by_cases hkind : error.kind = .configuration
  · simp [hkind, hclient]
  · simp [hkind, hclient]

/-! ## Routes -/

/-- The gate of a route looks for a token: always for new tokens, and elsewhere unless the path is
exempt. -/
def Settings.Guards (settings : Settings) (route : Service.Route) : Prop :=
  route = .refresh ∨ ¬Exempts settings.skipPatterns route.path

namespace Service

variable {settings : Settings} {service : Service} {now : Instant} {request : Http.Request}
  {route : Route} {caller : Option Caller} {response : Http.Response}

theorem Route.ofPath?_eq_some_iff {path : String} :
    Route.ofPath? path = some route ↔ path = route.path := by
  constructor
  · intro h
    have hpath := List.find?_some h
    exact (by simpa using hpath : route.path = path).symm
  · rintro rfl
    cases route <;> decide

theorem gate_refresh_eq_admitted_iff :
    service.gate now .refresh request = .admitted caller ↔
      ∃ identity, service.refreshIdentity now request.headers = .ok identity ∧
        caller = some ⟨identity, .refresh⟩ := by
  rw [gate_refresh]
  cases service.refreshIdentity now request.headers <;> simp [Gate.passage, eq_comm]

theorem secret_ne_nil_of_refreshIdentity {headers : List Http.Header} {identity : String}
    (h : service.refreshIdentity now headers = .ok identity) : service.context.secret ≠ [] := by
  obtain ⟨token, -, h⟩ := refreshIdentity_eq_ok_iff.mp h
  exact SigningContext.secret_ne_nil_of_identityOf h

theorem issue_ne_refused_of_refreshIdentity {headers : List Http.Header} {identity : String}
    (h : service.refreshIdentity now headers = .ok identity) (error : AuthError) :
    service.context.issue identity now ≠ .error (.refused error) := by
  rw [ne_eq, SigningContext.issue_eq_error_iff (secret_ne_nil_of_refreshIdentity h)]
  simp

/-- A gate turns a request away because of the configuration exactly if there is no secret to check its
token with. -/
theorem gate_unconfigured_iff (h : ofSettings settings = .ok service)
    (hpath : request.path = route.path) :
    (∃ error, service.gate now route request = .turnedAway error ∧
        error.kind = .configuration) ↔
      settings.jwt.secret = "" ∧ settings.Guards route ∧
        ∃ token, httpToken request.headers = .ok token := by
  have haccess : (∃ error, Gate.access service.context now request.headers request.path =
      .turnedAway error ∧ error.kind = .configuration) ↔
      ¬Exempts settings.skipPatterns route.path ∧ settings.jwt.secret = "" ∧
        ∃ token, httpToken request.headers = .ok token := by
    rw [← secret_eq_nil_iff h, ← isPathSkipped_iff_exempts h, ← hpath, Gate.access]
    by_cases hskipped : service.context.isPathSkipped request.path = true
    · simp [hskipped]
    · rw [if_neg hskipped, and_iff_right hskipped]
      simp only [Gate.passage_eq_turnedAway_iff]
      exact SigningContext.unconfigured_httpToken_iff
  cases route with
  | health =>
      rw [gate, haccess]
      simp [Settings.Guards, and_left_comm]
  | whoami =>
      rw [gate, haccess]
      simp [Settings.Guards, and_left_comm]
  | refresh =>
      rw [← secret_eq_nil_iff h]
      simp only [gate, Gate.refresh, Gate.passage_eq_turnedAway_iff, Settings.Guards, true_or,
        true_and]
      exact SigningContext.unconfigured_httpToken_iff

/-- No handler fails for a request that its gate has let through. -/
theorem status_handle_ne_500 (hgate : service.gate now route request = .admitted caller)
    (h : service.handle now route caller = some response) : response.status ≠ 500 := by
  cases route with
  | health =>
      cases h
      exact show 200 ≠ 500 by decide
  | whoami =>
      cases caller with
      | none =>
          cases h
          exact show 401 ≠ 500 by decide
      | some caller =>
          cases h
          exact show 200 ≠ 500 by decide
  | refresh =>
      obtain ⟨identity, hidentity, rfl⟩ := gate_refresh_eq_admitted_iff.mp hgate
      change service.refreshAnswer now ⟨identity, .refresh⟩ = some response at h
      rw [refreshAnswer] at h
      split at h
      · cases h
        exact show 200 ≠ 500 by decide
      · rename_i error hissue
        exact absurd hissue (issue_ne_refused_of_refreshIdentity hidentity error)
      · contradiction

/-! ## Statuses -/

/-- The status of the answer to a request, if there is an answer. -/
def status? (service : Service) (now : Instant) (request : Http.Request) : Option Nat :=
  (service.respond now request).map (·.status)

/-- Neither what is said about origins nor the lack of a body changes the status. -/
theorem status?_eq (hmethod : request.method ≠ "OPTIONS") :
    service.status? now request =
      match Route.ofPath? request.path with
      | none => some 404
      | some route => (service.answerOn now route request).map (·.status) := by
  have hpreflight : isPreflight request = false := by simpa [isPreflight] using hmethod
  have hheaders : service.status? now request =
      (service.answer now request).map (·.status) := by
    rw [status?, respond, Option.map_map]
    rfl
  rw [hheaders, answer, hpreflight, if_neg Bool.false_ne_true]
  cases Route.ofPath? request.path with
  | none => rfl
  | some route =>
      dsimp only
      split
      · rw [Option.map_map]
        rfl
      · rfl

theorem status_answerOn_eq_500_iff :
    (service.answerOn now route request).map (·.status) = some 500 ↔
      ∃ error, service.gate now route request = .turnedAway error ∧
        error.kind = .configuration := by
  rw [answerOn]
  cases hgate : service.gate now route request with
  | turnedAway error => simp [Gate.status_rejection_eq_500_iff]
  | admitted caller =>
      refine iff_of_false ?_ (by simp)
      intro h
      obtain ⟨response, hresponse, hstatus⟩ := Option.map_eq_some_iff.mp h
      dsimp only at hresponse
      split at hresponse
      · exact status_handle_ne_500 hgate hresponse hstatus
      · cases hresponse
        contradiction

theorem handle_eq_none_iff :
    service.handle now route caller = none ↔ route = .refresh ∧ ∃ found, caller = some found ∧
      service.context.issue found.identity now = .error .clockOverflow := by
  cases route with
  | health => simp [handle]
  | whoami => cases caller <;> simp [handle, Gate.requireCaller]
  | refresh =>
      cases caller with
      | none => simp [handle, Gate.requireCaller]
      | some found =>
          simp only [handle, Gate.requireCaller, refreshAnswer, Option.some.injEq,
            exists_eq_left', true_and]
          split <;> simp_all

/-- The only requests without an answer are those for new tokens that the gate lets through when the
clock cannot reach the end of a lifetime. -/
theorem answerOn_eq_none_iff :
    service.answerOn now route request = none ↔
      route = .refresh ∧ request.method = "POST" ∧
        (∃ identity, service.refreshIdentity now request.headers = .ok identity) ∧
        ¬service.context.CanIssueAt now := by
  have hhandles : Route.refresh.handles request.method = true ↔ request.method = "POST" := by
    simp [Route.handles, Route.methods]
  constructor
  · intro h
    rw [answerOn] at h
    cases hgate : service.gate now route request with
    | turnedAway error =>
        rw [hgate] at h
        contradiction
    | admitted caller =>
        rw [hgate] at h
        dsimp only at h
        split at h
        · rename_i hmethod
          obtain ⟨rfl, found, rfl, hissue⟩ := handle_eq_none_iff.mp h
          obtain ⟨identity, hidentity, ⟨⟩⟩ := gate_refresh_eq_admitted_iff.mp hgate
          obtain ⟨hover, -⟩ := (SigningContext.issue_eq_error_iff
            (secret_ne_nil_of_refreshIdentity hidentity)).mp hissue
          exact ⟨rfl, hhandles.mp hmethod, ⟨identity, hidentity⟩, hover⟩
        · contradiction
  · rintro ⟨rfl, hmethod, ⟨identity, hidentity⟩, hover⟩
    have hissue : service.context.issue identity now = .error .clockOverflow :=
      SigningContext.issue_of_not_canIssueAt (secret_ne_nil_of_refreshIdentity hidentity) hover
    rw [answerOn, gate_refresh_eq_admitted_iff.mpr ⟨identity, hidentity, rfl⟩]
    dsimp only
    rw [if_pos (hhandles.mpr hmethod)]
    exact handle_eq_none_iff.mpr ⟨rfl, _, rfl, hissue⟩

/-- How requests of all methods but the one for questions about origins fail at a time because of the
service. The status for it is given exactly without a secret, to requests with a token that a gate looks
at; an answer is missing only where the clock ends, and signing never fails. -/
structure FailsWithoutSecret (settings : Settings) (service : Service) (now : Instant) : Prop where
  withoutSecret : ∀ {request}, request.method ≠ "OPTIONS" →
    (service.status? now request = some 500 ↔ settings.jwt.secret = "" ∧
      (∃ route : Route, request.path = route.path ∧ settings.Guards route) ∧
      ∃ token, httpToken request.headers = .ok token)
  withSecret : settings.jwt.secret ≠ "" → ∀ {request}, request.method ≠ "OPTIONS" →
    service.status? now request ≠ some 500
  unanswered : ∀ {request}, request.method ≠ "OPTIONS" → (service.status? now request = none ↔
    request.path = "/v1/auth/refresh" ∧ request.method = "POST" ∧
      (∃ identity, service.refreshIdentity now request.headers = .ok identity) ∧
      ¬service.context.CanIssueAt now)
  signs : ∀ {request caller}, service.gate now .refresh request = .admitted (some caller) →
    ∀ error, service.context.issue caller.identity now ≠ .error (.refused error)

theorem status?_eq_500_iff (h : ofSettings settings = .ok service)
    (hmethod : request.method ≠ "OPTIONS") :
    service.status? now request = some 500 ↔ settings.jwt.secret = "" ∧
      (∃ route : Route, request.path = route.path ∧ settings.Guards route) ∧
      ∃ token, httpToken request.headers = .ok token := by
  rw [status?_eq hmethod]
  cases hroute : Route.ofPath? request.path with
  | none =>
      have hpath (route : Route) : request.path ≠ route.path := fun hpath => by
        rw [Route.ofPath?_eq_some_iff.mpr hpath] at hroute
        contradiction
      simp [hpath]
  | some route =>
      have hpath := Route.ofPath?_eq_some_iff.mp hroute
      have hunique (other : Route) : request.path = other.path ↔ other = route := by
        rw [← Route.ofPath?_eq_some_iff, hroute, Option.some.injEq, eq_comm]
      dsimp only
      rw [status_answerOn_eq_500_iff, gate_unconfigured_iff h hpath]
      simp [hunique]

theorem status?_eq_none_iff (hmethod : request.method ≠ "OPTIONS") :
    service.status? now request = none ↔
      request.path = "/v1/auth/refresh" ∧ request.method = "POST" ∧
        (∃ identity, service.refreshIdentity now request.headers = .ok identity) ∧
        ¬service.context.CanIssueAt now := by
  have hrefresh : request.path = "/v1/auth/refresh" ↔
      Route.ofPath? request.path = some .refresh := by
    rw [Route.ofPath?_eq_some_iff]
    rfl
  rw [status?_eq hmethod, hrefresh]
  cases Route.ofPath? request.path with
  | none => simp
  | some route => rw [Option.map_eq_none_iff, answerOn_eq_none_iff, Option.some.injEq]

/-- Whatever the settings are that a service is made of, at no time is there another reason for it to
fail. -/
theorem failsWithoutSecret (h : ofSettings settings = .ok service) (now : Instant) :
    FailsWithoutSecret settings service now where
  withoutSecret := status?_eq_500_iff h
  withSecret hsecret _ hmethod hstatus := hsecret ((status?_eq_500_iff h hmethod).mp hstatus).1
  unanswered := status?_eq_none_iff
  signs hgate := by
    obtain ⟨identity, hidentity, ⟨⟩⟩ := gate_refresh_eq_admitted_iff.mp hgate
    exact issue_ne_refused_of_refreshIdentity hidentity

/-- Settings without a secret. -/
def settingsUnset : Settings :=
  { settingsNaming "sub" with jwt := { (settingsNaming "sub").jwt with secret := "" } }

/-- A token of any kind makes the lack of a secret show, except on an exempt path. -/
theorem failsWithoutSecret_settingsUnset : ∃ service,
    ofSettings settingsUnset = .ok service ∧
      service.status? ⟨1700000000 * 1000000000, by decide⟩
        ⟨"GET", "/v1/auth/whoami", [⟨"authorization", bearerValue "x"⟩]⟩ = some 500 ∧
      service.status? ⟨1700000000 * 1000000000, by decide⟩
        ⟨"GET", "/health", [⟨"authorization", bearerValue "x"⟩]⟩ ≠ some 500 := by
  have hservice : ofSettings settingsUnset = .ok ⟨settingsUnset, settingsUnset.contextWith
      SigningContext.defaultAccessLifetime SigningContext.defaultRefreshLifetime⟩ :=
    ofSettings_eq_ok_iff.mpr ⟨_, _, rfl, rfl, rfl⟩
  have hfails := failsWithoutSecret hservice ⟨1700000000 * 1000000000, by decide⟩
  have hget : "GET" ≠ "OPTIONS" := by decide
  have hoctets : Text.octets "x" = [120] := by decide
  have htoken : httpToken [⟨"authorization", bearerValue "x"⟩] = .ok "x" :=
    httpToken_of_bearerValue ⟨by decide, by simp [hoctets]⟩
      (Http.firstValue?_cons_self ⟨authorizationField, bearerValue "x"⟩ [])
  refine ⟨_, hservice, (hfails.withoutSecret hget).mpr ⟨rfl, ⟨.whoami, rfl, .inr ?_⟩, _, htoken⟩, ?_⟩
  · rw [← isPathSkipped_iff_exempts hservice]
    decide
  · intro hstatus
    obtain ⟨-, ⟨route, hpath, hguards⟩, -⟩ := (hfails.withoutSecret hget).mp hstatus
    have hroute : route = .health := by
      rw [← Route.ofPath?_eq_some_iff] at hpath
      exact (Option.some.inj hpath).symm
    subst hroute
    obtain ⟨⟨⟩⟩ | hguards := hguards
    rw [← isPathSkipped_iff_exempts hservice] at hguards
    exact hguards (by decide)

end Service

end BearerAuth
