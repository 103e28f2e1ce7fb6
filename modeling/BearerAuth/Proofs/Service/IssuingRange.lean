import BearerAuth.Proofs.Token.Issuing
import BearerAuth.Proofs.TypeSeparation

/-! For how long a service can issue tokens. Settings are accepted with lifetimes that are in the
range of spans, which reaches much further than the range of the clock; so the time at which the
refresh lifetime leaves the clock's range, which nothing looks at before, is the time at which
issuing stops. -/

namespace BearerAuth

/-! ## Lifetimes that start at a time -/

namespace Instant

/-- The first nanosecond that the clock does not reach. -/
def limit : Int := 8210266876800 * 1000000000

/-- Towards the future, the end of the range is all that counts. -/
theorem exists_plus?_iff (instant : Instant) {span : Span} (h : 0 ≤ span.nanos) :
    (∃ later, instant.plus? span = some later) ↔ instant.nanos + span.nanos < limit := by
  have hrange := instant.inRange
  simp only [plus?, ofNanos?, Option.dite_none_right_eq_some, limit]
  constructor
  · rintro ⟨later, hbounds, -⟩
    exact hbounds.2
  · intro hlast
    exact ⟨_, ⟨by omega, hlast⟩, rfl⟩

end Instant

/-! ## The lifetimes of a service -/

namespace Service

variable {lookup : String → Option String} {settings : Settings} {service : Service}

/-- What a service can rely on once its settings have been read from variables and accepted. -/
structure Equipped (settings : Settings) (service : Service) : Prop where
  secret_ne_nil : service.context.secret ≠ []
  access : service.context.accessLifetime.nanos = settings.jwt.accessLifetime.nanos
  refresh : service.context.refreshLifetime.nanos = settings.jwt.refreshLifetime.nanos
  ordered : settings.jwt.accessLifetime.nanos ≤ settings.jwt.refreshLifetime.nanos

theorem equipped_of_accepted (hsettings : Settings.ofEnvironment lookup = .ok settings)
    (hservice : ofSettings settings = .ok service) : Equipped settings service := by
  obtain ⟨-, hvalid⟩ := Settings.ofEnvironment_eq_ok_iff.mp hsettings
  obtain ⟨hlength, -, -, hordered⟩ := (Settings.validate_eq_ok_iff settings).mp hvalid
  obtain ⟨access, refresh, haccess, hrefresh, rfl⟩ := ofSettings_eq_ok_iff.mp hservice
  refine ⟨fun hnil => ?_, Period.nanos_of_toSpan? haccess, Period.nanos_of_toSpan? hrefresh,
    hordered⟩
  rw [(secret_eq_nil_iff hservice).mp hnil] at hlength
  exact absurd hlength (by decide)

/-- The refresh lifetime is not the shorter one, so it alone decides whether both end in the
range of the clock. -/
theorem Equipped.canIssueAt_iff (h : Equipped settings service) {now : Instant} :
    service.context.CanIssueAt now ↔
      now.nanos + settings.jwt.refreshLifetime.nanos < Instant.limit := by
  have hordered := h.ordered
  have hforward {span : Span} {period : Period} (hspan : span.nanos = period.nanos) :
      0 ≤ span.nanos := by omega
  have haccess := Instant.exists_plus?_iff now (hforward h.access)
  have hrefresh := Instant.exists_plus?_iff now (hforward h.refresh)
  rw [h.access] at haccess
  rw [h.refresh] at hrefresh
  simp only [SigningContext.CanIssueAt, exists_and_left, exists_and_right, haccess, hrefresh]
  omega

/-! ## Times at which tokens are issued -/

/-- A service with some settings issues tokens for everybody as long as the refresh lifetime ends
in the range of the clock, and for nobody from then on. So it issues them throughout a stretch of
time exactly if it does so at the end of it. -/
structure IssuesUntilLimit (settings : Settings) (service : Service) : Prop where
  issues : ∀ identity (now : Instant),
    now.nanos + settings.jwt.refreshLifetime.nanos < Instant.limit →
      ∃ pair, service.context.issue identity now = .ok pair ∧
        pair.accessExpires.nanos = now.nanos + settings.jwt.accessLifetime.nanos ∧
        pair.refreshExpires.nanos = now.nanos + settings.jwt.refreshLifetime.nanos
  overflows : ∀ identity (now : Instant),
    Instant.limit ≤ now.nanos + settings.jwt.refreshLifetime.nanos →
      service.context.issue identity now = .error .clockOverflow
  throughout : ∀ first last : Instant, first.nanos ≤ last.nanos →
    ((∀ identity (now : Instant), first.nanos ≤ now.nanos → now.nanos ≤ last.nanos →
        ∃ pair, service.context.issue identity now = .ok pair) ↔
      last.nanos + settings.jwt.refreshLifetime.nanos < Instant.limit)

theorem Equipped.exists_issue (h : Equipped settings service) (identity : String) {now : Instant}
    (hlimit : now.nanos + settings.jwt.refreshLifetime.nanos < Instant.limit) :
    ∃ pair, service.context.issue identity now = .ok pair ∧
      pair.accessExpires.nanos = now.nanos + settings.jwt.accessLifetime.nanos ∧
      pair.refreshExpires.nanos = now.nanos + settings.jwt.refreshLifetime.nanos := by
  obtain ⟨access, refresh, haccess, hrefresh⟩ := h.canIssueAt_iff.mpr hlimit
  refine ⟨_, SigningContext.issue_eq_ok_iff.mpr
    ⟨h.secret_ne_nil, access, refresh, haccess, hrefresh, rfl⟩, ?_, ?_⟩
  · rw [Instant.nanos_of_plus? haccess, h.access]
  · rw [Instant.nanos_of_plus? hrefresh, h.refresh]

theorem Equipped.issue_eq_clockOverflow (h : Equipped settings service) (identity : String)
    {now : Instant} (hlimit : Instant.limit ≤ now.nanos + settings.jwt.refreshLifetime.nanos) :
    service.context.issue identity now = .error .clockOverflow :=
  SigningContext.issue_of_not_canIssueAt h.secret_ne_nil fun hissue =>
    absurd (h.canIssueAt_iff.mp hissue) (Int.not_lt.mpr hlimit)

theorem issuesUntilLimit (hsettings : Settings.ofEnvironment lookup = .ok settings)
    (hservice : ofSettings settings = .ok service) : IssuesUntilLimit settings service := by
  have hequipped := equipped_of_accepted hsettings hservice
  refine ⟨fun identity now => hequipped.exists_issue identity,
    fun identity now => hequipped.issue_eq_clockOverflow identity, fun first last hstretch => ?_⟩
  constructor
  · intro hissues
    obtain ⟨pair, hissue⟩ := hissues "" last hstretch (Int.le_refl _)
    by_contra hlimit
    rw [hequipped.issue_eq_clockOverflow "" (Int.not_lt.mp hlimit)] at hissue
    cases hissue
  · intro hlimit identity now _ hlast
    obtain ⟨pair, hissue, -⟩ := hequipped.exists_issue identity
      (Int.lt_of_le_of_lt (Int.add_le_add_right hlast _) hlimit)
    exact ⟨pair, hissue⟩

/-- With the lifetimes that are set by default, tokens are issued throughout 130 years. -/
theorem issuesUntilLimit_by_default : ∃ settings service,
    Settings.ofEnvironment (secretAndKey "sub") = .ok settings ∧
      ofSettings settings = .ok service ∧
      ∀ identity (now : Instant), 0 ≤ now.nanos → now.nanos ≤ 4102444800 * 1000000000 →
        ∃ pair, service.context.issue identity now = .ok pair := by
  have hsettings := ofEnvironment_secretAndKey "sub"
  have hservice := ofSettings_settingsNaming (show "sub" ≠ "" by decide)
  exact ⟨_, _, hsettings, hservice, ((issuesUntilLimit hsettings hservice).throughout
    ⟨0, by decide⟩ ⟨4102444800 * 1000000000, by decide⟩ (by decide)).mpr (by decide)⟩

/-! ## Lifetimes that are accepted and end nowhere -/

/-- Variables with a secret and a refresh lifetime and nothing else. -/
def secretAndRefresh (period name : String) : Option String :=
  if name = "JWT_SECRET" then some "s3cr3t!!"
  else if name = "JWT_REFRESH_EXPIRATION" then some period
  else none

/-- The settings in these variables, with the refresh lifetime that is read from them. -/
def settingsLasting (refresh : Period) : Settings :=
  { settingsNaming "sub" with
    jwt := { (settingsNaming "sub").jwt with refreshLifetime := refresh } }

theorem ofEnvironment_secretAndRefresh {period : String} {refresh : Period}
    (hrefresh : Settings.parsePeriod "JWT_REFRESH_EXPIRATION" period = .ok refresh)
    (hordered : 7200 * 1000000000 ≤ refresh.nanos) :
    Settings.ofEnvironment (secretAndRefresh period) = .ok (settingsLasting refresh) := by
  have hlength : Settings.minSecretLength ≤ "s3cr3t!!".utf8ByteSize := by decide
  have hpositive : 0 < 7200 * 1000000000 := by decide
  have hvalid : (settingsLasting refresh).validate = .ok () :=
    (Settings.validate_eq_ok_iff _).mpr
      ⟨hlength, hpositive, Nat.lt_of_lt_of_le hpositive hordered, hordered⟩
  exact Settings.ofEnvironment_eq_ok_iff.mpr
    ⟨⟨rfl, Settings.parsePort_default, rfl, rfl, Settings.parsePeriod_default_access, hrefresh, rfl,
      rfl, rfl⟩, hvalid⟩

/-- A refresh lifetime can be accepted and end after the last instant, so that no tokens are
issued with it. -/
theorem accepted_lifetime_overflows : ∃ settings service,
    Settings.ofEnvironment (secretAndRefresh "300000years") = .ok settings ∧
      ofSettings settings = .ok service ∧
      service.context.issue "user-42" ⟨1700000000 * 1000000000, by decide⟩ =
        .error .clockOverflow := by
  have hrefresh : Settings.parsePeriod "JWT_REFRESH_EXPIRATION" "300000years" =
      .ok ⟨9467280000000 * 1000000000, by decide⟩ := by decide +kernel
  have hsettings := ofEnvironment_secretAndRefresh hrefresh (by decide)
  have hservice : ofSettings (settingsLasting ⟨9467280000000 * 1000000000, by decide⟩) =
      .ok ⟨_, (settingsLasting _).contextWith ⟨7200 * 1000000000, by decide⟩
        ⟨9467280000000 * 1000000000, by decide⟩⟩ :=
    ofSettings_eq_ok_iff.mpr ⟨_, _, rfl, rfl, rfl⟩
  exact ⟨_, _, hsettings, hservice,
    (equipped_of_accepted hsettings hservice).issue_eq_clockOverflow _ (by decide)⟩

end Service

end BearerAuth
