import BearerAuth.Proofs.Bearer
import BearerAuth.Proofs.RoundTrip
import BearerAuth.Proofs.TypeSeparation

/-! What a request gets on each route. Callers are told who they are exactly for an access token on
a path that is not exempt, and get new tokens exactly for a refresh token. An exempt path lets a
request through to the handler without a caller, and the handler insists on one. -/

namespace BearerAuth

open Token
open SkipPath (Exempts)

/-! ## Tokens in requests -/

theorem SigningContext.TrustedAs.httpToken_eq {context : SigningContext} {type : TokenType}
    {token identity : String} {t : Instant} {headers : List Http.Header}
    (h : context.TrustedAs type token identity t)
    (hvalue : Http.firstValue? headers authorizationField = some (bearerValue token)) :
    httpToken headers = .ok token := by
  obtain ⟨claims, hclaims, -⟩ := bind_eq_ok.mp h.readsType
  exact httpToken_of_bearerValue (isVisible_of_verify hclaims) hvalue

namespace Service

variable {settings : Settings} {service : Service} {now : Instant} {headers : List Http.Header}
  {status : Nat} {body : String}

theorem isPathSkipped_iff_exempts {path : String} (h : ofSettings settings = .ok service) :
    service.context.isPathSkipped path = true ↔ Exempts settings.skipPatterns path := by
  rw [SigningContext.isPathSkipped_iff, skipPatterns_of_ofSettings h]

/-! ## Answers without the headers for browsers -/

/-- The service answers a request with a status and a body. -/
def Answers (service : Service) (now : Instant) (request : Http.Request) (status : Nat)
    (body : String) : Prop :=
  ∃ response, service.respond now request = some response ∧ response.status = status ∧
    response.body = body

/-- What is said about origins changes neither the status nor the body. -/
theorem answers_iff {request : Http.Request} :
    service.Answers now request status body ↔
      ∃ response, service.answer now request = some response ∧ response.status = status ∧
        response.body = body := by
  unfold Answers respond
  cases service.answer now request with
  | none => simp
  | some response => simp [Http.Response.withHeaders]

theorem not_answers_of_unhandled {route : Route} {request : Http.Request}
    (hpreflight : isPreflight request = false) (hpath : Route.ofPath? request.path = some route)
    (hmethod : route.handles request.method = false) (hhead : route.handles "HEAD" = false ∨
      request.method ≠ "HEAD") : ¬service.Answers now request 200 body := by
  have hbody : (request.method == "HEAD" && route.handles "HEAD") = false := by
    rcases hhead with h | h
    · rw [h, Bool.and_false]
    · rw [beq_false_of_ne h, Bool.false_and]
  rw [answers_iff]
  simp only [answer, hpreflight, hpath, hbody, Bool.false_eq_true, if_false, answerOn, hmethod]
  rintro ⟨response, hresponse, hstatus, -⟩
  split at hresponse
  · cases hresponse
    exact Gate.status_rejection_ne _ hstatus
  · cases hresponse
    contradiction

/-! ## Who a caller is -/

theorem answerOn_whoami :
    service.answerOn now .whoami ⟨"GET", "/v1/auth/whoami", headers⟩ =
      some (if service.context.isPathSkipped "/v1/auth/whoami" then
          Gate.rejection .missingAuthContext
        else
          match service.context.authenticate (.ofHttp headers "/v1/auth/whoami") now with
          | .error error => Gate.rejection error
          | .ok identity => whoamiAnswer ⟨identity, .access⟩) := by
  simp only [answerOn, gate, Gate.access]
  cases service.context.isPathSkipped "/v1/auth/whoami" with
  | true => rfl
  | false => cases service.context.authenticate (.ofHttp headers "/v1/auth/whoami") now <;> rfl

theorem answer_get_whoami :
    service.answer now ⟨"GET", "/v1/auth/whoami", headers⟩ =
      service.answerOn now .whoami ⟨"GET", "/v1/auth/whoami", headers⟩ := rfl

theorem answer_head_whoami :
    service.answer now ⟨"HEAD", "/v1/auth/whoami", headers⟩ =
      (service.answer now ⟨"GET", "/v1/auth/whoami", headers⟩).map
        Http.Response.withoutBody := rfl

theorem answers_get_whoami_iff :
    service.Answers now ⟨"GET", "/v1/auth/whoami", headers⟩ 200 body ↔
      service.context.isPathSkipped "/v1/auth/whoami" = false ∧ ∃ identity,
        service.context.authenticate (.ofHttp headers "/v1/auth/whoami") now = .ok identity ∧
          body = (whoamiAnswer ⟨identity, .access⟩).body := by
  rw [answers_iff, answer_get_whoami, answerOn_whoami]
  cases service.context.isPathSkipped "/v1/auth/whoami" with
  | true => simp [Gate.status_rejection_ne]
  | false =>
      cases service.context.authenticate (.ofHttp headers "/v1/auth/whoami") now with
      | error error => simp [Gate.status_rejection_ne]
      | ok identity => simp [whoamiAnswer, Http.Response.json, eq_comm]

/-- A question for the head gets the status of one for the whole. -/
theorem answers_head_whoami_iff :
    service.Answers now ⟨"HEAD", "/v1/auth/whoami", headers⟩ status body ↔
      body = "" ∧ ∃ whole,
        service.Answers now ⟨"GET", "/v1/auth/whoami", headers⟩ status whole := by
  simp only [answers_iff, answer_head_whoami]
  cases service.answer now ⟨"GET", "/v1/auth/whoami", headers⟩ with
  | none => simp
  | some response => simp [Http.Response.withoutBody, eq_comm, and_comm]

theorem answers_whoami_of_skipped
    (h : service.context.isPathSkipped "/v1/auth/whoami" = true) :
    service.Answers now ⟨"GET", "/v1/auth/whoami", headers⟩ 401
      (Gate.rejection .missingAuthContext).body := by
  rw [answers_iff, answer_get_whoami, answerOn_whoami, if_pos h]
  exact ⟨_, rfl, rfl, rfl⟩

/-! ## New tokens -/

/-- The identity in the refresh token of a request. -/
def refreshIdentity (service : Service) (now : Instant) (headers : List Http.Header) :
    Except AuthError String := do
  service.context.identityOf .refresh (← httpToken headers) now

theorem refreshIdentity_eq_ok_iff {identity : String} :
    service.refreshIdentity now headers = .ok identity ↔
      ∃ token, httpToken headers = .ok token ∧
        service.context.identityOf .refresh token now = .ok identity :=
  bind_eq_ok

theorem gate_refresh {request : Http.Request} :
    service.gate now .refresh request =
      Gate.passage .refresh (service.refreshIdentity now request.headers) := rfl

theorem answer_post_refresh :
    service.answer now ⟨"POST", "/v1/auth/refresh", headers⟩ =
      match service.refreshIdentity now headers with
      | .error error => some (Gate.rejection error)
      | .ok identity => service.refreshAnswer now ⟨identity, .refresh⟩ := by
  have hanswer : service.answer now ⟨"POST", "/v1/auth/refresh", headers⟩ =
      service.answerOn now .refresh ⟨"POST", "/v1/auth/refresh", headers⟩ := rfl
  rw [hanswer, answerOn, gate_refresh]
  cases service.refreshIdentity now headers <;> rfl

/-- A body tells a pair: both tokens, and the seconds at which they expire. -/
def TellsPair (body : String) (pair : TokenPair) : Prop :=
  ∃ accessEnd refreshEnd : Whole, accessEnd.value = pair.accessExpires.seconds ∧
    refreshEnd.value = pair.refreshExpires.seconds ∧
    body = (Json.obj [("access_token", .str pair.accessToken),
      ("refresh_token", .str pair.refreshToken), ("expire_at", .atom (.whole accessEnd)),
      ("refresh_expire_at", .atom (.whole refreshEnd))]).text

theorem tellsPair_iff {pair : TokenPair} : TellsPair body pair ↔ body = (pairJson pair).text := by
  constructor
  · rintro ⟨accessEnd, refreshEnd, haccess, hrefresh, rfl⟩
    rw [pairJson, Instant.toJson_eq haccess, Instant.toJson_eq hrefresh]
  · rintro rfl
    obtain ⟨accessEnd, haccess, hexpires⟩ := pair.accessExpires.exists_toJson
    obtain ⟨refreshEnd, hrefresh, hrefreshExpires⟩ := pair.refreshExpires.exists_toJson
    refine ⟨accessEnd, refreshEnd, haccess, hrefresh, ?_⟩
    rw [pairJson, hexpires, hrefreshExpires]

/-- Issued tokens are handed out; without them there is no answer with status 200. -/
theorem refreshAnswer_status_iff {caller : Caller} :
    (∃ response, service.refreshAnswer now caller = some response ∧ response.status = 200 ∧
        response.body = body) ↔
      ∃ pair, service.context.issue caller.identity now = .ok pair ∧ TellsPair body pair := by
  simp only [tellsPair_iff]
  unfold refreshAnswer
  cases service.context.issue caller.identity now with
  | ok pair => simp [Http.Response.json, eq_comm]
  | error error =>
      cases error with
      | clockOverflow => simp
      | refused error => simp [ServiceFailure.response, Http.Response.error, Http.Response.json]

theorem answers_post_refresh_iff :
    service.Answers now ⟨"POST", "/v1/auth/refresh", headers⟩ 200 body ↔
      ∃ token identity pair, httpToken headers = .ok token ∧
        service.context.identityOf .refresh token now = .ok identity ∧
        service.context.issue identity now = .ok pair ∧ TellsPair body pair := by
  rw [answers_iff, answer_post_refresh]
  constructor
  · intro h
    cases hidentity : service.refreshIdentity now headers with
    | error error =>
        rw [hidentity] at h
        obtain ⟨_, ⟨⟩, hstatus, -⟩ := h
        exact absurd hstatus (Gate.status_rejection_ne error)
    | ok identity =>
        rw [hidentity] at h
        obtain ⟨token, htoken, hidentity⟩ := refreshIdentity_eq_ok_iff.mp hidentity
        obtain ⟨pair, hpair, hbody⟩ := refreshAnswer_status_iff.mp h
        exact ⟨token, identity, pair, htoken, hidentity, hpair, hbody⟩
  · rintro ⟨token, identity, pair, htoken, hidentity, hpair, hbody⟩
    rw [refreshIdentity_eq_ok_iff.mpr ⟨token, htoken, hidentity⟩]
    exact refreshAnswer_status_iff.mpr ⟨pair, hpair, hbody⟩

/-- Where a token is accepted there is a secret, so only the clock can keep new tokens from being
issued. -/
theorem issue_of_identityOf {context : SigningContext} {type : TokenType} {token identity : String}
    (h : context.identityOf type token now = .ok identity) (hissue : context.CanIssueAt now) :
    ∃ pair, context.issue identity now = .ok pair := by
  have hsecret := SigningContext.secret_ne_nil_of_identityOf h
  obtain ⟨access, refresh, haccess, hrefresh⟩ := hissue
  exact ⟨_, SigningContext.issue_eq_ok_iff.mpr ⟨hsecret, access, refresh, haccess, hrefresh, rfl⟩⟩

/-! ## All routes together -/

/-- What requests with some headers get at a time, by the credential that they carry. -/
structure GrantsByCredential (settings : Settings) (service : Service) (now : Instant)
    (headers : List Http.Header) : Prop where
  whoami : ∀ body, service.Answers now ⟨"GET", "/v1/auth/whoami", headers⟩ 200 body ↔
    ¬Exempts settings.skipPatterns "/v1/auth/whoami" ∧ ∃ identity,
      service.context.authenticate (.ofHttp headers "/v1/auth/whoami") now = .ok identity ∧
        body = (Json.obj [("identity", .str identity), ("token_type", .str "access")]).text
  whoamiHead : ∀ body, service.Answers now ⟨"HEAD", "/v1/auth/whoami", headers⟩ 200 body ↔
    body = "" ∧ ¬Exempts settings.skipPatterns "/v1/auth/whoami" ∧ ∃ identity,
      service.context.authenticate (.ofHttp headers "/v1/auth/whoami") now = .ok identity
  exempt : Exempts settings.skipPatterns "/v1/auth/whoami" →
    service.Answers now ⟨"GET", "/v1/auth/whoami", headers⟩ 401
        (Json.obj [("error", .str "malformed_input"),
          ("message", .str "request was not authenticated")]).text ∧
      service.Answers now ⟨"HEAD", "/v1/auth/whoami", headers⟩ 401 ""
  refresh : service.context.CanIssueAt now →
    ((∃ body, service.Answers now ⟨"POST", "/v1/auth/refresh", headers⟩ 200 body) ↔
      ∃ token identity, httpToken headers = .ok token ∧
        service.context.identityOf .refresh token now = .ok identity)
  pair : ∀ body, service.Answers now ⟨"POST", "/v1/auth/refresh", headers⟩ 200 body ↔
    ∃ token identity pair, httpToken headers = .ok token ∧
      service.context.identityOf .refresh token now = .ok identity ∧
      service.context.issue identity now = .ok pair ∧ TellsPair body pair
  otherMethods : ∀ body, ¬service.Answers now ⟨"POST", "/v1/auth/whoami", headers⟩ 200 body ∧
    ¬service.Answers now ⟨"GET", "/v1/auth/refresh", headers⟩ 200 body ∧
    ¬service.Answers now ⟨"HEAD", "/v1/auth/refresh", headers⟩ 200 body

/-- A service with any settings grants nothing but by credential. -/
theorem grantsByCredential_of_ofSettings (h : ofSettings settings = .ok service) (now : Instant)
    (headers : List Http.Header) : GrantsByCredential settings service now headers := by
  have hskipped : service.context.isPathSkipped "/v1/auth/whoami" = false ↔
      ¬Exempts settings.skipPatterns "/v1/auth/whoami" := by
    rw [← isPathSkipped_iff_exempts h, Bool.not_eq_true]
  constructor
  case whoami =>
    intro body
    rw [answers_get_whoami_iff, hskipped]
    rfl
  case whoamiHead =>
    intro body
    simp only [answers_head_whoami_iff, answers_get_whoami_iff, hskipped]
    constructor
    · rintro ⟨hbody, _, hfree, identity, hidentity, -⟩
      exact ⟨hbody, hfree, identity, hidentity⟩
    · rintro ⟨hbody, hfree, identity, hidentity⟩
      exact ⟨hbody, _, hfree, identity, hidentity, rfl⟩
  case exempt =>
    intro hexempt
    have hanswers : service.Answers now ⟨"GET", "/v1/auth/whoami", headers⟩ 401 _ :=
      answers_whoami_of_skipped ((isPathSkipped_iff_exempts h).mpr hexempt)
    exact ⟨hanswers, answers_head_whoami_iff.mpr ⟨rfl, _, hanswers⟩⟩
  case refresh =>
    intro hissue
    simp only [answers_post_refresh_iff]
    constructor
    · rintro ⟨_, token, identity, pair, htoken, hidentity, -⟩
      exact ⟨token, identity, htoken, hidentity⟩
    · rintro ⟨token, identity, htoken, hidentity⟩
      obtain ⟨pair, hpair⟩ := issue_of_identityOf hidentity hissue
      exact ⟨_, token, identity, pair, htoken, hidentity, hpair, tellsPair_iff.mpr rfl⟩
  case pair => exact fun body => answers_post_refresh_iff
  case otherMethods =>
    intro body
    refine ⟨not_answers_of_unhandled rfl rfl rfl (.inr ?_),
      not_answers_of_unhandled rfl rfl rfl (.inl rfl),
      not_answers_of_unhandled rfl rfl rfl (.inl rfl)⟩
    exact show "POST" ≠ "HEAD" by decide

theorem trusted_serviceNaming : ∃ pair,
    (serviceNaming "sub").context.issue "user-42" ⟨1700000000 * 1000000000, by decide⟩ = .ok pair ∧
      pair.accessExpires.seconds = 1700007200 ∧ pair.refreshExpires.seconds = 1700604800 ∧
      (serviceNaming "sub").context.TrustedAs .access pair.accessToken "user-42"
        ⟨1700000000 * 1000000000, by decide⟩ ∧
      (serviceNaming "sub").context.TrustedAs .refresh pair.refreshToken "user-42"
        ⟨1700000000 * 1000000000, by decide⟩ := by
  obtain ⟨pair, hissue, haccess, hrefresh⟩ := issue_serviceNaming "sub" "user-42"
  obtain ⟨hsecret, access, refresh, -, -, rfl⟩ := SigningContext.issue_eq_ok_iff.mp hissue
  cases show access = _ from haccess
  cases show refresh = _ from hrefresh
  refine ⟨_, hissue, by decide, by decide, ?_, ?_⟩
  all_goals
    exact SigningContext.trustedAs_issued hsecret rfl (by decide) (by decide) (by decide)
      (by decide) (Int.le_refl _) (by decide)

theorem grantsByCredential_serviceNaming : ∃ pair,
    ofSettings (settingsNaming "sub") = .ok (serviceNaming "sub") ∧
      (serviceNaming "sub").context.issue "user-42" ⟨1700000000 * 1000000000, by decide⟩ =
        .ok pair ∧
      (serviceNaming "sub").Answers ⟨1700000000 * 1000000000, by decide⟩
        ⟨"GET", "/v1/auth/whoami", [⟨"authorization", bearerValue pair.accessToken⟩]⟩ 200
        "\x7b\"identity\":\"user-42\",\"token_type\":\"access\"\x7d" ∧
      (serviceNaming "sub").Answers ⟨1700000000 * 1000000000, by decide⟩
        ⟨"POST", "/v1/auth/refresh", [⟨"authorization", bearerValue pair.refreshToken⟩]⟩ 200
        (Json.obj [("access_token", .str pair.accessToken),
          ("refresh_token", .str pair.refreshToken), ("expire_at", .nat 1700007200 (by decide)),
          ("refresh_expire_at", .nat 1700604800 (by decide))]).text ∧
      ∀ body, ¬(serviceNaming "sub").Answers ⟨1700000000 * 1000000000, by decide⟩
        ⟨"GET", "/v1/auth/whoami", []⟩ 200 body := by
  have hservice := ofSettings_settingsNaming (show "sub" ≠ "" by decide)
  have hgrants := grantsByCredential_of_ofSettings hservice
    ⟨1700000000 * 1000000000, by decide⟩
  have hfree : ¬Exempts (settingsNaming "sub").skipPatterns "/v1/auth/whoami" := by
    rw [← isPathSkipped_iff_exempts hservice]
    decide
  have hvalue (token : String) : Http.firstValue? [⟨"authorization", bearerValue token⟩]
      authorizationField = some (bearerValue token) :=
    Http.firstValue?_cons_self ⟨authorizationField, bearerValue token⟩ []
  obtain ⟨pair, hissue, haccessEnd, hrefreshEnd, haccess, hrefresh⟩ := trusted_serviceNaming
  refine ⟨pair, hservice, hissue, ?_, ?_, ?_⟩
  · exact ((hgrants _).whoami _).mpr
      ⟨hfree, "user-42", haccess.request _ (haccess.httpToken_eq (hvalue _)), rfl⟩
  · exact ((hgrants _).pair _).mpr ⟨_, "user-42", pair, hrefresh.httpToken_eq (hvalue _),
      hrefresh.refresh, hissue, .ofNat 1700007200 (by decide), .ofNat 1700604800 (by decide),
      haccessEnd.symm, hrefreshEnd.symm, rfl⟩
  · intro body hanswers
    obtain ⟨-, identity, hidentity, -⟩ := ((hgrants []).whoami body).mp hanswers
    contradiction

end Service

end BearerAuth
