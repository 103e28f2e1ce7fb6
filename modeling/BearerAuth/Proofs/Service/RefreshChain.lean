import BearerAuth.Proofs.Service.Routes

/-! New tokens for new tokens. Whoever sends each refresh token back before its lifetime ends gets
a fresh pair for the same identity, so a chain of refreshes can go on without end. What one refresh
keeps is that the pair at hand is fresh; the rest is an induction on the times of the requests. -/

namespace BearerAuth

open Token

/-! ## Fresh pairs -/

namespace SigningContext

variable {context : SigningContext} {identity : String} {now : Instant}
  {since clock : ClockReading} {pair : TokenPair}

/-- There is a secret to issue pairs for an identity with, tokens can carry the identity, and access
tokens do not expire before they are issued. -/
structure CanIssueFor (context : SigningContext) (identity : String) : Prop
    extends context.CanCarry identity where
  secret_ne_nil : context.secret ≠ []
  forward : 0 ≤ context.accessLifetime.nanos

theorem CanIssueFor.ofGivenBack (h : context.CanIssueFor identity) :
    context.CanIssueFor (context.givenBack identity) where
  key_ne_empty := h.key_ne_empty
  key_free := h.key_free
  identity_ne_empty hsome := by
    rw [givenBack_of_isSome hsome]
    exact h.identity_ne_empty hsome
  secret_ne_nil := h.secret_ne_nil
  forward := h.forward

/-- What a clock shows is not earlier than another reading and, counted in whole seconds, not later
than the end of the refresh lifetime that starts there. -/
structure Reaches (context : SigningContext) (since clock : ClockReading) : Prop where
  notEarlier : since.instant.nanos ≤ clock.instant.nanos
  notLater : clock.instant.seconds ≤
    (since.instant.nanos + context.refreshLifetime.nanos) / second

/-- A pair as it is at the time it was issued for an identity. The access token is trusted then, and
the refresh token from then on until it expires; both carry the ends of their lifetimes. -/
structure Fresh (context : SigningContext) (identity : String) (now : Instant)
    (pair : TokenPair) : Prop where
  access : context.TrustedAs .access pair.accessToken identity now
  refresh : ∀ t : Instant, now.seconds ≤ t.seconds → t.seconds ≤ pair.refreshExpires.seconds →
    context.TrustedAs .refresh pair.refreshToken identity t
  accessEnd : pair.accessExpires.seconds = (now.nanos + context.accessLifetime.nanos) / second
  refreshEnd : pair.refreshExpires.seconds = (now.nanos + context.refreshLifetime.nanos) / second
  accessClaim : carriedSecond? pair.accessToken "exp" = some pair.accessExpires.seconds
  refreshClaim : carriedSecond? pair.refreshToken "exp" = some pair.refreshExpires.seconds

theorem carriedSecond?_expires {type : TokenType} {expires : Instant} (secret : List UInt8)
    (h : context.CanCarry identity) :
    carriedSecond? (sign secret (context.issuedClaims type identity now expires)) "exp" =
      some expires.seconds := by
  apply carriedSecond?_issuedClaims
  rw [get?_issuedClaims_of_mem h (by decide), TokenClaims.get?_impersonal, if_pos rfl]

theorem exists_fresh (hidentity : context.CanIssueFor identity)
    (hissue : context.CanIssueAt clock.instant) :
    ∃ pair, context.issue identity clock.instant = .ok pair ∧
      context.Fresh (context.givenBack identity) clock.instant pair := by
  obtain ⟨hcarry, hsecret, hforward⟩ := hidentity
  obtain ⟨accessExpires, refreshExpires, haccess, hrefresh⟩ := hissue
  have hnow := clock.seconds_nonneg
  have hlast : clock.instant.seconds ≤ accessExpires.seconds :=
    Instant.seconds_le_of_plus? haccess hforward
  exact ⟨_, issue_eq_ok_iff.mpr ⟨hsecret, _, _, haccess, hrefresh, rfl⟩,
    { access := trustedAs_signed hsecret hcarry hnow (Int.le_refl _) hlast
      refresh := fun t hfirst hlast => trustedAs_signed hsecret hcarry hnow hfirst hlast
      accessEnd := Instant.seconds_of_plus? haccess
      refreshEnd := Instant.seconds_of_plus? hrefresh
      accessClaim := carriedSecond?_expires _ hcarry
      refreshClaim := carriedSecond?_expires _ hcarry }⟩

/-- The refresh token of a fresh pair is trusted at the times that its lifetime reaches. -/
theorem Fresh.trusted (h : context.Fresh identity since.instant pair)
    (hreach : context.Reaches since clock) :
    context.TrustedAs .refresh pair.refreshToken identity clock.instant :=
  h.refresh clock.instant (Instant.seconds_mono hreach.notEarlier) (h.refreshEnd ▸ hreach.notLater)

end SigningContext

/-! ## One refresh -/

namespace Service

variable {settings : Settings} {service : Service} {identity : String}
  {since clock : ClockReading} {pair : TokenPair}

/-- The request for new tokens in exchange for a refresh token. -/
def refreshRequest (token : String) : Http.Request :=
  ⟨"POST", "/v1/auth/refresh", [⟨authorizationField, bearerValue token⟩]⟩

/-- The refresh token that an answer holds. -/
def refreshTokenIn? (response : Http.Response) : Option String :=
  match Json.ofText? response.body with
  | some (.obj members) => (Json.lookup? members "refresh_token").bind Json.text?
  | _ => none

/-- The members of an object that hands out a pair: under each of four keys what stands there. -/
structure HandsOut (members : List Member) (pair : TokenPair) : Prop where
  accessToken : (Json.lookup? members "access_token").bind Json.text? = some pair.accessToken
  refreshToken : (Json.lookup? members "refresh_token").bind Json.text? = some pair.refreshToken
  accessEnd : (Json.lookup? members "expire_at").bind Json.int? = some pair.accessExpires.seconds
  refreshEnd : (Json.lookup? members "refresh_expire_at").bind Json.int? =
    some pair.refreshExpires.seconds

/-- An answer that hands out a fresh pair for an identity, with the ends of both lifetimes. -/
structure Renews (service : Service) (identity : String) (clock : ClockReading)
    (response : Http.Response) : Prop where
  status : response.status = 200
  fresh : ∃ members pair, Json.ofText? response.body = some (.obj members) ∧
    HandsOut members pair ∧ service.context.Fresh identity clock.instant pair

theorem exists_handsOut_pairJson (pair : TokenPair) :
    ∃ members, pairJson pair = .obj members ∧ HandsOut members pair :=
  ⟨_, rfl, rfl, rfl, rfl, rfl⟩

theorem ofText?_pairJson (pair : TokenPair) :
    Json.ofText? (pairJson pair).text = some (pairJson pair) :=
  have hnesting : (pairJson pair).nesting ≤ Json.maxNesting := by
    simp [pairJson, Json.nesting, Json.nestingOfMembers, Instant.toJson, Json.maxNesting]
  Json.ofText?_text rfl hnesting

theorem TellsPair.exists_handsOut {body : String} (h : TellsPair body pair) :
    ∃ members, Json.ofText? body = some (.obj members) ∧ HandsOut members pair := by
  obtain ⟨members, hmembers, hhands⟩ := exists_handsOut_pairJson pair
  refine ⟨members, ?_, hhands⟩
  rw [tellsPair_iff.mp h, ofText?_pairJson, hmembers]

/-- A refresh token in its lifetime is exchanged for a fresh pair for the same identity. -/
theorem respond_refreshRequest (hidentity : service.context.CanIssueFor identity)
    (hfresh : service.context.Fresh (service.context.givenBack identity) since.instant pair)
    (hreach : service.context.Reaches since clock)
    (hissue : service.context.CanIssueAt clock.instant) :
    ∃ response next,
      service.respond clock.instant (refreshRequest pair.refreshToken) = some response ∧
      response.status = 200 ∧ TellsPair response.body next ∧
      service.context.Fresh (service.context.givenBack identity) clock.instant next := by
  have htrusted := hfresh.trusted hreach
  have htoken : httpToken (refreshRequest pair.refreshToken).headers = .ok pair.refreshToken :=
    htrusted.httpToken_eq (Http.firstValue?_cons_self _ _)
  obtain ⟨next, hnext, hfresh⟩ := SigningContext.exists_fresh hidentity.ofGivenBack hissue
  obtain ⟨response, hresponse, hstatus, hbody⟩ := answers_post_refresh_iff.mpr
    ⟨_, _, next, htoken, htrusted.refresh, hnext, tellsPair_iff.mpr rfl⟩
  rw [SigningContext.givenBack_givenBack] at hfresh
  exact ⟨response, next, hresponse, hstatus, tellsPair_iff.mpr hbody, hfresh⟩

/-! ## Chains of refreshes -/

/-- The answers to requests at some times, each with the refresh token of the answer before. -/
def refreshRun (service : Service) : String → List ClockReading → Option (List Http.Response)
  | _, [] => some []
  | token, clock :: later => do
      let response ← service.respond clock.instant (refreshRequest token)
      return response :: (← service.refreshRun (← refreshTokenIn? response) later)

/-- Starting with a fresh pair, each answer hands out a fresh pair. -/
theorem refreshRun_of_fresh {clocks : List ClockReading}
    (hidentity : service.context.CanIssueFor identity)
    (hfresh : service.context.Fresh (service.context.givenBack identity) since.instant pair)
    (hreach : (since :: clocks).IsChain service.context.Reaches)
    (hissue : ∀ clock ∈ clocks, service.context.CanIssueAt clock.instant) :
    ∃ responses, service.refreshRun pair.refreshToken clocks = some responses ∧
      List.Forall₂ (service.Renews (service.context.givenBack identity)) clocks responses := by
  -- The pair at hand and its time change with each answer; the identity does not.
  induction clocks generalizing since pair with
  | nil => exact ⟨[], rfl, .nil⟩
  | cons clock later ih =>
      obtain ⟨hclock, hlater⟩ := List.isChain_cons_cons.mp hreach
      obtain ⟨response, next, hresponse, hstatus, hbody, hnext⟩ :=
        respond_refreshRequest hidentity hfresh hclock (hissue clock List.mem_cons_self)
      obtain ⟨members, hread, hhands⟩ := hbody.exists_handsOut
      have htoken : refreshTokenIn? response = some next.refreshToken := by
        rw [refreshTokenIn?, hread]
        exact hhands.refreshToken
      obtain ⟨responses, hresponses, hrenews⟩ :=
        ih hnext hlater fun other hother => hissue other (List.mem_cons_of_mem _ hother)
      refine ⟨response :: responses, ?_,
        .cons ⟨hstatus, members, next, hread, hhands, hnext⟩ hrenews⟩
      simp only [refreshRun, hresponse, htoken, hresponses, Option.bind_eq_bind, Option.bind_some]
      rfl

/-! ## Chains from settings -/

theorem givenBack_of_ofSettings (h : ofSettings settings = .ok service) :
    service.context.givenBack identity =
      if settings.jwt.identityKey = "" then "" else identity := by
  rw [SigningContext.givenBack, SigningContext.isIdentityRequired, identityKey_of_ofSettings h]
  by_cases hempty : settings.jwt.identityKey = ""
  · simp [hempty]
  · simp [hempty]

/-- Settings with a secret and a name for identities that no other claim needs can issue pairs for
every identity but the empty one, and without a name for that one as well. -/
theorem canIssueFor_of_ofSettings (h : ofSettings settings = .ok service)
    (hsecret : settings.jwt.secret ≠ "")
    (hfree : settings.jwt.identityKey ∉ tokenTypeClaim :: validityClaims)
    (hidentity : settings.jwt.identityKey ≠ "" → identity ≠ "") :
    service.context.CanIssueFor identity where
  key_ne_empty key hkey := ((identityKey_eq_some_iff h).mp hkey).2
  key_free key hkey := ((identityKey_eq_some_iff h).mp hkey).1 ▸ hfree
  identity_ne_empty hsome := by
    obtain ⟨key, hkey⟩ := Option.isSome_iff_exists.mp hsome
    obtain ⟨hname, hempty⟩ := (identityKey_eq_some_iff h).mp hkey
    exact hidentity (hname ▸ hempty)
  secret_ne_nil hnil := hsecret ((secret_eq_nil_iff h).mp hnil)
  forward := by
    obtain ⟨access, refresh, haccess, -, rfl⟩ := ofSettings_eq_ok_iff.mp h
    have hnanos : access.nanos = settings.jwt.accessLifetime.nanos :=
      Period.nanos_of_toSpan? haccess
    exact hnanos ▸ Int.natCast_nonneg _

/-- With a secret and a name for identities that no other claim needs, the refresh tokens of a
service can be exchanged for new ones any number of times, as long as each is sent back in its
lifetime. Every answer hands out a fresh pair for the identity that the first pair was issued for,
or for none if identities have no name. -/
theorem refreshRun_renews {start : ClockReading} {clocks : List ClockReading}
    (hservice : ofSettings settings = .ok service) (hsecret : settings.jwt.secret ≠ "")
    (hkey : settings.jwt.identityKey ∉ ["token_type", "exp", "nbf", "aud"])
    (hidentity : settings.jwt.identityKey ≠ "" → identity ≠ "")
    (hreach : (start :: clocks).IsChain service.context.Reaches)
    (hissue : ∀ clock ∈ start :: clocks, service.context.CanIssueAt clock.instant) :
    let holder := if settings.jwt.identityKey = "" then "" else identity
    ∃ pair responses, service.context.issue identity start.instant = .ok pair ∧
      service.context.Fresh holder start.instant pair ∧
      service.refreshRun pair.refreshToken clocks = some responses ∧
      List.Forall₂ (service.Renews holder) clocks responses := by
  have hfor := canIssueFor_of_ofSettings hservice hsecret hkey hidentity
  obtain ⟨pair, hpair, hfresh⟩ :=
    SigningContext.exists_fresh hfor (hissue start List.mem_cons_self)
  obtain ⟨responses, hresponses, hrenews⟩ := refreshRun_of_fresh hfor hfresh hreach
    fun clock hclock => hissue clock (List.mem_cons_of_mem _ hclock)
  rw [givenBack_of_ofSettings hservice] at hfresh hrenews
  exact ⟨pair, responses, hpair, hfresh, hresponses, hrenews⟩

theorem refreshRun_renews_user : ∃ pair first last,
    (serviceNaming "sub").context.issue "user-42" ⟨1700000000 * 1000000000, by decide⟩ =
        .ok pair ∧
      (serviceNaming "sub").refreshRun pair.refreshToken
          [⟨1700604800900000000, by decide⟩, ⟨1701209600 * 1000000000, by decide⟩] =
        some [first, last] ∧
      (serviceNaming "sub").Renews "user-42" ⟨1700604800900000000, by decide⟩ first ∧
      (serviceNaming "sub").Renews "user-42" ⟨1701209600 * 1000000000, by decide⟩ last := by
  have hservice := ofSettings_settingsNaming (show "sub" ≠ "" by decide)
  have hfirst : (serviceNaming "sub").context.Reaches ⟨1700000000 * 1000000000, by decide⟩
      ⟨1700604800900000000, by decide⟩ := ⟨by decide, by decide⟩
  have hlast : (serviceNaming "sub").context.Reaches ⟨1700604800900000000, by decide⟩
      ⟨1701209600 * 1000000000, by decide⟩ := ⟨by decide, by decide⟩
  have hissue : ∀ clock ∈ [(⟨1700000000 * 1000000000, by decide⟩ : ClockReading),
      ⟨1700604800900000000, by decide⟩, ⟨1701209600 * 1000000000, by decide⟩],
      (serviceNaming "sub").context.CanIssueAt clock.instant := by
    simp only [List.forall_mem_cons]
    exact ⟨⟨_, _, rfl, rfl⟩, ⟨_, _, rfl, rfl⟩, ⟨_, _, rfl, rfl⟩, by simp⟩
  have hidentity : (settingsNaming "sub").jwt.identityKey ≠ "" → "user-42" ≠ "" := by decide
  obtain ⟨pair, responses, hpair, -, hresponses, hrenews⟩ := refreshRun_renews hservice (by decide)
    (by decide) hidentity (.cons_cons hfirst (.cons_cons hlast (.singleton _))) hissue
  rcases hrenews with _ | ⟨hfirst, _ | ⟨hlast, ⟨⟩⟩⟩
  exact ⟨pair, _, _, hpair, hresponses, hfirst, hlast⟩

end Service

end BearerAuth
