import BearerAuth.Proofs.Service.IssuingRange
import BearerAuth.Proofs.Token.Lifetime

/-! The pairs that accepted settings lead to. Settings are only accepted with lifetimes that go forward
and are in order, and neither spans nor the clock nor whole seconds change this; so both tokens of a
pair are valid when it is issued, and the refresh token lasts at least as long as the access token. -/

namespace BearerAuth

open Token

/-! ## Tokens that are valid when they are issued -/

namespace SigningContext

variable {context : SigningContext} {type : TokenType} {identity name : String}
  {now expires : Instant}

/-- A time of an issued token is carried in whole seconds, unless it gave way to the identity. -/
theorem carriedSecond?_issued {instant : Instant} (hname : name ≠ "")
    (hfree : ¬context.CarriesUnder identity name)
    (htime : (TokenClaims.impersonal ⟨type, some identity, now, expires⟩).get? name =
      some instant.toJson) :
    carriedSecond? (sign context.secret (context.issuedClaims type identity now expires)) name =
      some instant.seconds := by
  apply carriedSecond?_issuedClaims
  rw [get?_issuedClaims hname, if_neg hfree, htime]

/-- A token that is accepted at the time it is issued, and that carries this time and its end in
whole seconds. -/
structure LiveWhenIssued (context : SigningContext) (now expires : Instant) (token : String) :
    Prop where
  issued : carriedSecond? token "iat" = some now.seconds
  starts : carriedSecond? token "nbf" = some now.seconds
  ends : carriedSecond? token "exp" = some expires.seconds
  accepted : context.check token now = .ok ()

theorem liveWhenIssued_signed (hsecret : context.secret ≠ [])
    (hfree : ∀ name ∈ ["iat", "nbf", "exp", "aud"], ¬context.CarriesUnder identity name)
    (hnow : 0 ≤ now.seconds) (hforward : now.seconds ≤ expires.seconds) :
    context.LiveWhenIssued now expires
      (sign context.secret (context.issuedClaims type identity now expires)) := by
  simp only [List.forall_mem_cons] at hfree
  obtain ⟨hiat, hnbf, hexp, haud, -⟩ := hfree
  constructor
  case issued =>
    apply carriedSecond?_issued (by decide) hiat
    simp [TokenClaims.get?_impersonal]
  case starts =>
    apply carriedSecond?_issued (by decide) hnbf
    simp [TokenClaims.get?_impersonal]
  case ends =>
    apply carriedSecond?_issued (by decide) hexp
    simp [TokenClaims.get?_impersonal]
  case accepted =>
    rw [check_issued_eq_ok_iff hsecret]
    exact ⟨⟨hexp, hnbf, Int.le_trans hnow hforward, hnow⟩, hforward, Int.le_refl _, haud⟩

end SigningContext

/-! ## Pairs of a service -/

namespace Service

variable {lookup : String → Option String} {settings : Settings} {service : Service}
  {identity : String} {now : Instant}

/-- The lifetimes of a context are those that variables give, with the default ones for variables
that are not set. -/
structure LastsAsWritten (lookup : String → Option String) (context : SigningContext) : Prop where
  access : ∃ period, Settings.parsePeriod "JWT_ACCESS_EXPIRATION"
      ((lookup "JWT_ACCESS_EXPIRATION").getD "2h") = .ok period ∧
    context.accessLifetime.nanos = period.nanos
  refresh : ∃ period, Settings.parsePeriod "JWT_REFRESH_EXPIRATION"
      ((lookup "JWT_REFRESH_EXPIRATION").getD "168h") = .ok period ∧
    context.refreshLifetime.nanos = period.nanos

theorem lastsAsWritten (hsettings : Settings.ofEnvironment lookup = .ok settings)
    (hservice : ofSettings settings = .ok service) : LastsAsWritten lookup service.context := by
  obtain ⟨hread, -⟩ := Settings.ofEnvironment_eq_ok_iff.mp hsettings
  have hequipped := equipped_of_accepted hsettings hservice
  exact ⟨⟨_, hread.accessLifetime, hequipped.access⟩, _, hread.refreshLifetime, hequipped.refresh⟩

/-- The tokens of a pair end after it was issued, the refresh token not before the access token; in
whole seconds, the access token may end in the second that it was issued in. -/
structure EndsInOrder (now : Instant) (pair : TokenPair) : Prop where
  afterIssue : now.nanos < pair.accessExpires.nanos
  refreshLast : pair.accessExpires.nanos ≤ pair.refreshExpires.nanos
  afterIssueSeconds : now.seconds ≤ pair.accessExpires.seconds
  refreshLastSeconds : pair.accessExpires.seconds ≤ pair.refreshExpires.seconds

theorem endsInOrder_of_le {pair : TokenPair} (hissue : now.nanos < pair.accessExpires.nanos)
    (hlast : pair.accessExpires.nanos ≤ pair.refreshExpires.nanos) : EndsInOrder now pair :=
  ⟨hissue, hlast, Instant.seconds_mono (Int.le_of_lt hissue), Instant.seconds_mono hlast⟩

theorem Equipped.exists_endsInOrder (h : Equipped settings service)
    (hpositive : 0 < settings.jwt.accessLifetime.nanos) (hissue : service.context.CanIssueAt now) :
    ∃ pair, service.context.issue identity now = .ok pair ∧ EndsInOrder now pair := by
  obtain ⟨pair, hpair, haccess, hrefresh⟩ := h.exists_issue identity (h.canIssueAt_iff.mp hissue)
  have hordered := h.ordered
  refine ⟨pair, hpair, endsInOrder_of_le ?_ ?_⟩
  · omega
  · omega

theorem live_of_endsInOrder {pair : TokenPair} (hservice : ofSettings settings = .ok service)
    (hnow : 0 ≤ now.nanos) (hpair : service.context.issue identity now = .ok pair)
    (hordered : EndsInOrder now pair)
    (hfree : settings.jwt.identityKey ∉ ["iat", "nbf", "exp", "aud"]) :
    service.context.LiveWhenIssued now pair.accessExpires pair.accessToken ∧
      service.context.LiveWhenIssued now pair.refreshExpires pair.refreshToken := by
  have hseconds : 0 ≤ now.seconds := Int.ediv_nonneg hnow (by decide)
  have hkey : ∀ name ∈ ["iat", "nbf", "exp", "aud"],
      ¬service.context.CarriesUnder identity name := by
    intro name hname hcarries
    obtain ⟨heq, -⟩ := (identityKey_eq_some_iff hservice).mp hcarries.1
    exact hfree (heq ▸ hname)
  have hafter := hordered.afterIssueSeconds
  have hlast := hordered.refreshLastSeconds
  obtain ⟨hsecret, access, refresh, -, -, rfl⟩ := SigningContext.issue_eq_ok_iff.mp hpair
  constructor
  · exact SigningContext.liveWhenIssued_signed hsecret hkey hseconds hafter
  · exact SigningContext.liveWhenIssued_signed hsecret hkey hseconds (Int.le_trans hafter hlast)

/-- With the lifetimes in the variables, a pair that ends in order is issued for every identity. Its
tokens are live if the name for identities is that of no claim for their validity, and so without a
name as well. -/
theorem issue_endsInOrder (hsettings : Settings.ofEnvironment lookup = .ok settings)
    (hservice : ofSettings settings = .ok service) (identity : String) (now : Instant)
    (hnow : 0 ≤ now.nanos) (hissue : service.context.CanIssueAt now) :
    LastsAsWritten lookup service.context ∧
      ∃ pair, service.context.issue identity now = .ok pair ∧ EndsInOrder now pair ∧
        (settings.jwt.identityKey ∉ ["iat", "nbf", "exp", "aud"] →
          service.context.LiveWhenIssued now pair.accessExpires pair.accessToken ∧
            service.context.LiveWhenIssued now pair.refreshExpires pair.refreshToken) := by
  obtain ⟨-, hvalid⟩ := Settings.ofEnvironment_eq_ok_iff.mp hsettings
  obtain ⟨-, hpositive, -⟩ := (Settings.validate_eq_ok_iff settings).mp hvalid
  obtain ⟨pair, hpair, hordered⟩ :=
    (equipped_of_accepted hsettings hservice).exists_endsInOrder hpositive hissue
  exact ⟨lastsAsWritten hsettings hservice, pair, hpair, hordered,
    live_of_endsInOrder hservice hnow hpair hordered⟩

/-- A pair that is issued at the end of a second counts from the start of it. -/
theorem issue_endsInOrder_fraction : ∃ pair,
    Settings.ofEnvironment (secretAndKey "sub") = .ok (settingsNaming "sub") ∧
      ofSettings (settingsNaming "sub") = .ok (serviceNaming "sub") ∧
      (serviceNaming "sub").context.issue "user-42" ⟨1700000000999999999, by decide⟩ =
        .ok pair ∧
      EndsInOrder ⟨1700000000999999999, by decide⟩ pair ∧
      carriedSecond? pair.accessToken "nbf" = some 1700000000 ∧
      (serviceNaming "sub").context.check pair.accessToken ⟨1700000000999999999, by decide⟩ =
        .ok () ∧
      (serviceNaming "sub").context.check pair.refreshToken ⟨1700000000999999999, by decide⟩ =
        .ok () := by
  have hsettings := ofEnvironment_secretAndKey "sub"
  have hservice := ofSettings_settingsNaming (show "sub" ≠ "" by decide)
  obtain ⟨-, pair, hpair, hordered, hlive⟩ := issue_endsInOrder hsettings hservice "user-42"
    ⟨1700000000999999999, by decide⟩ (by decide) ⟨_, _, rfl, rfl⟩
  obtain ⟨haccess, hrefresh⟩ := hlive (by decide)
  exact ⟨pair, hsettings, hservice, hpair, hordered, haccess.starts, haccess.accepted,
    hrefresh.accepted⟩

end Service

end BearerAuth
