import BearerAuth.Proofs.Authentication

/-! How an issued token is answered over time. Its claims keep whole seconds only, so a token is
valid throughout the second that its lifetime ends in, and a lifetime that ends before 1970 is
written as a time that cannot be read. An identity that stands in the place of a time or of an
audience counts instead of it. -/

namespace BearerAuth.SigningContext

open Token

variable {context : SigningContext} {type : TokenType} {identity name : String}
  {now expires t : Instant}

/-! ## Claims of an issued token -/

/-- Tokens carry an identity under a name. -/
def CarriesUnder (context : SigningContext) (identity name : String) : Prop :=
  context.identityKey = some name ∧ identity ≠ ""

instance (context : SigningContext) (identity name : String) :
    Decidable (context.CarriesUnder identity name) :=
  inferInstanceAs (Decidable (_ ∧ _))

theorem get?_issuedClaims (hname : name ≠ "") :
    (context.issuedClaims type identity now expires).get? name =
      if context.CarriesUnder identity name then some (.str identity)
      else (TokenClaims.impersonal ⟨type, some identity, now, expires⟩).get? name := by
  rw [issuedClaims, TokenClaims.get?_toMap]
  cases hkey : context.identityKey with
  | none => simp [CarriesUnder, hkey, TokenClaims.holder?]
  | some key =>
      by_cases hidentity : identity = ""
      · simp [CarriesUnder, hidentity, TokenClaims.holder?]
      by_cases hempty : key = ""
      · simp [CarriesUnder, hkey, hempty, hname.symm, TokenClaims.holder?]
      · simp [CarriesUnder, hkey, hidentity, holder?_issued hempty hidentity]

/-- A time of an issued token cannot be read if it lies before 1970 or gave way to the identity. -/
theorem timeClaim_issuedClaims (context : SigningContext) {instant : Instant} (hname : name ≠ "")
    (htime : (TokenClaims.impersonal ⟨type, some identity, now, expires⟩).get? name =
      some instant.toJson) :
    timeClaim (context.issuedClaims type identity now expires).members name =
      if context.CarriesUnder identity name ∨ instant.seconds < 0 then
        .error (.invalidClaimFormat name)
      else .ok (some instant.seconds.toNat) := by
  have hget := ClaimMap.lookup?_members (context.issuedClaims type identity now expires) name
  rw [get?_issuedClaims hname, htime] at hget
  by_cases hcarries : context.CarriesUnder identity name
  · rw [if_pos hcarries] at hget
    rw [if_pos (.inl hcarries), timeClaim, hget]
    rfl
  · rw [if_neg hcarries] at hget
    rw [timeClaim_of_instant hget]
    by_cases hearly : instant.seconds < 0
    · rw [if_neg (Int.not_le.mpr hearly), if_pos (.inr hearly)]
    · rw [if_pos (Int.not_lt.mp hearly), if_neg (not_or.mpr ⟨hcarries, hearly⟩)]

theorem any_isAudience_issuedClaims :
    (Json.lookup? (context.issuedClaims type identity now expires).members "aud").any isAudience =
      decide (context.CarriesUnder identity "aud") := by
  rw [ClaimMap.lookup?_members, get?_issuedClaims (by decide), TokenClaims.get?_impersonal]
  by_cases hcarries : context.CarriesUnder identity "aud"
  · simp [hcarries, isAudience, Json.isText, Json.text?]
  · simp [hcarries, tokenTypeClaim]

theorem ofMembers_issuedClaims :
    Validity.ofMembers (context.issuedClaims type identity now expires).members =
      if context.CarriesUnder identity "exp" ∨ expires.seconds < 0 then
        .error (.invalidClaimFormat "exp")
      else if context.CarriesUnder identity "nbf" ∨ now.seconds < 0 then
        .error (.invalidClaimFormat "nbf")
      else .ok ⟨some expires.seconds.toNat, some now.seconds.toNat,
        decide (context.CarriesUnder identity "aud")⟩ := by
  have hreadable : isReadable (context.issuedClaims type identity now expires).members = true :=
    isReadable_toMap _ _
  have hexpires := timeClaim_issuedClaims context (show "exp" ≠ "" by decide)
    (TokenClaims.get?_impersonal ⟨type, some identity, now, expires⟩ _)
  have hstarts := timeClaim_issuedClaims context (show "nbf" ≠ "" by decide)
    (TokenClaims.get?_impersonal ⟨type, some identity, now, expires⟩ _)
  simp only [Validity.ofMembers, hreadable, hexpires, hstarts, any_isAudience_issuedClaims,
    Bool.not_true, Bool.false_eq_true, if_false]
  by_cases hend : context.CarriesUnder identity "exp" ∨ expires.seconds < 0
  · rw [if_pos hend, if_pos hend]
    rfl
  · rw [if_neg hend, if_neg hend]
    by_cases hstart : context.CarriesUnder identity "nbf" ∨ now.seconds < 0
    · rw [if_pos hstart, if_pos hstart]
      rfl
    · rw [if_neg hstart, if_neg hstart]
      rfl

/-! ## Answers to an issued token -/

/-- What comes of an issued token at every time. The first condition that holds counts. -/
theorem claims_issued (hsecret : context.secret ≠ []) :
    context.claims (sign context.secret (context.issuedClaims type identity now expires)) t =
      if context.CarriesUnder identity "exp" ∨ expires.seconds < 0 then
        .error (.invalidSignature "Invalid format for claim: exp")
      else if context.CarriesUnder identity "nbf" ∨ now.seconds < 0 then
        .error (.invalidSignature "Invalid format for claim: nbf")
      else if expires.seconds < t.seconds then .error .expired
      else if t.seconds < now.seconds then .error .notYetValid
      else if context.CarriesUnder identity "aud" then
        .error (.invalidSignature "InvalidAudience")
      else .ok (context.issuedClaims type identity now expires) := by
  have hexact : (context.issuedClaims type identity now expires).toJson.isExact = true :=
    TokenClaims.isExact_toMap _ _
  have hnesting : (context.issuedClaims type identity now expires).toJson.nesting ≤
      Json.maxNesting := TokenClaims.nesting_toMap _ _
  rw [SigningContext.claims, verify_sign t hsecret hexact hnesting, ofMembers_issuedClaims]
  by_cases hend : context.CarriesUnder identity "exp" ∨ expires.seconds < 0
  · rw [if_pos hend, if_pos hend]
    rfl
  by_cases hstart : context.CarriesUnder identity "nbf" ∨ now.seconds < 0
  · rw [if_neg hend, if_neg hend, if_pos hstart, if_pos hstart]
    rfl
  rw [if_neg hend, if_neg hend, if_neg hstart, if_neg hstart]
  dsimp only
  -- Both times were read as they were written, so the clock decides.
  rw [not_or, Int.not_lt] at hend hstart
  rw [Verdict.ofClaims, Verdict.resultAt_toNat hstart.2 hend.2, ClaimMap.ofMembers_members]
  simp only [decide_eq_true_eq]
  rfl

/-- Both times of an issued token can be read: neither lies before 1970 or gave way to the
identity. -/
structure TimesReadable (context : SigningContext) (identity : String) (now expires : Instant) :
    Prop where
  expires_free : ¬context.CarriesUnder identity "exp"
  starts_free : ¬context.CarriesUnder identity "nbf"
  expires_nonneg : 0 ≤ expires.seconds
  now_nonneg : 0 ≤ now.seconds

theorem timesReadable_iff :
    context.TimesReadable identity now expires ↔
      ¬(context.CarriesUnder identity "exp" ∨ expires.seconds < 0) ∧
        ¬(context.CarriesUnder identity "nbf" ∨ now.seconds < 0) := by
  simp only [not_or, Int.not_lt]
  constructor
  · intro h
    exact ⟨⟨h.expires_free, h.expires_nonneg⟩, h.starts_free, h.now_nonneg⟩
  · rintro ⟨⟨hexp, hexpires⟩, hnbf, hnow⟩
    exact ⟨hexp, hnbf, hexpires, hnow⟩

theorem check_issued_eq_ok_iff (hsecret : context.secret ≠ []) :
    context.check (sign context.secret (context.issuedClaims type identity now expires)) t =
        .ok () ↔
      context.TimesReadable identity now expires ∧ t.seconds ≤ expires.seconds ∧
        now.seconds ≤ t.seconds ∧ ¬context.CarriesUnder identity "aud" := by
  rw [check_eq_ok_iff, claims_issued hsecret, timesReadable_iff]
  split_ifs <;> simp_all

theorem check_issued_eq_expired_iff (hsecret : context.secret ≠ []) :
    context.check (sign context.secret (context.issuedClaims type identity now expires)) t =
        .error .expired ↔
      context.TimesReadable identity now expires ∧ expires.seconds < t.seconds := by
  rw [check_eq_error_iff, claims_issued hsecret, timesReadable_iff]
  split_ifs <;> simp_all

theorem check_issued_eq_notYetValid_iff (hsecret : context.secret ≠ []) :
    context.check (sign context.secret (context.issuedClaims type identity now expires)) t =
        .error .notYetValid ↔
      context.TimesReadable identity now expires ∧ t.seconds ≤ expires.seconds ∧
        t.seconds < now.seconds := by
  rw [check_eq_error_iff, claims_issued hsecret, timesReadable_iff]
  split_ifs <;> simp_all

theorem kind_of_check_issued_error {error : AuthError} (hsecret : context.secret ≠ [])
    (h : context.check (sign context.secret (context.issuedClaims type identity now expires)) t =
      .error error) : error = .expired ∨ error = .notYetValid ∨ error.kind = .signature := by
  rw [check_eq_error_iff, claims_issued hsecret] at h
  split_ifs at h <;> cases h <;> simp [AuthError.kind]

/-! ## The lifetime of a pair -/

def lifetime (context : SigningContext) : TokenType → Span
  | .access => context.accessLifetime
  | .refresh => context.refreshLifetime

/-- The second that a token of a type expires in if it is issued at a time. -/
def lastSecond (context : SigningContext) (type : TokenType) (now : Instant) : Int :=
  (now.nanos + (context.lifetime type).nanos) / second

/-- A token is valid from one second to another. If the last one lies before 1970, the token is
never valid, and not because of the time. -/
structure ValidBetween (context : SigningContext) (token : String) (first last : Int) : Prop where
  accepted : ∀ t, context.check token t = .ok () ↔ first ≤ t.seconds ∧ t.seconds ≤ last
  expired : ∀ t, context.check token t = .error .expired ↔ 0 ≤ last ∧ last < t.seconds
  notYetValid : ∀ t, context.check token t = .error .notYetValid ↔
    0 ≤ last ∧ t.seconds ≤ last ∧ t.seconds < first
  unreadable : last < 0 →
    ∀ t, context.check token t = .error (.invalidSignature "Invalid format for claim: exp")

theorem validBetween_signed (hsecret : context.secret ≠ [])
    (hfree : ∀ key ∈ context.identityKey, key ∉ validityClaims) (hnow : 0 ≤ now.seconds) :
    context.ValidBetween
      (sign context.secret (context.issuedClaims type identity now expires))
      now.seconds expires.seconds := by
  have hcarries {name : String} (hname : name ∈ validityClaims) :
      ¬context.CarriesUnder identity name := fun h => hfree name h.1 hname
  have hreadable : context.TimesReadable identity now expires ↔ 0 ≤ expires.seconds :=
    ⟨fun h => h.expires_nonneg,
      fun hexpires => ⟨hcarries (by decide), hcarries (by decide), hexpires, hnow⟩⟩
  refine ⟨fun t => ?_, fun t => ?_, fun t => ?_, fun hlast t => ?_⟩
  · rw [check_issued_eq_ok_iff hsecret, hreadable]
    constructor
    · rintro ⟨-, hlast, hfirst, -⟩
      exact ⟨hfirst, hlast⟩
    · rintro ⟨hfirst, hlast⟩
      exact ⟨by omega, hlast, hfirst, hcarries (by decide)⟩
  · rw [check_issued_eq_expired_iff hsecret, hreadable]
  · rw [check_issued_eq_notYetValid_iff hsecret, hreadable]
  · rw [check_eq_error_iff, claims_issued hsecret, if_pos (.inr hlast)]

/-- Each token of a pair is valid from the second it was issued in to the second that its own
lifetime ends in. -/
theorem issue_validBetween (context : SigningContext) (identity : String) (now : Instant)
    (hsecret : context.secret ≠ [])
    (hfree : ∀ key ∈ context.identityKey, key ∉ ["exp", "nbf", "aud"]) (hnow : 0 ≤ now.nanos)
    (hissue : context.CanIssueAt now) :
    ∃ pair, context.issue identity now = .ok pair ∧
      context.ValidBetween pair.accessToken now.seconds (context.lastSecond .access now) ∧
      context.ValidBetween pair.refreshToken now.seconds (context.lastSecond .refresh now) := by
  obtain ⟨access, refresh, haccess, hrefresh⟩ := hissue
  have hseconds : 0 ≤ now.seconds := Int.ediv_nonneg hnow (by decide)
  have hlastAccess : context.lastSecond .access now = access.seconds :=
    (Instant.seconds_of_plus? haccess).symm
  have hlastRefresh : context.lastSecond .refresh now = refresh.seconds :=
    (Instant.seconds_of_plus? hrefresh).symm
  refine ⟨_, issue_eq_ok_iff.mpr ⟨hsecret, access, refresh, haccess, hrefresh, rfl⟩, ?_, ?_⟩
  · rw [hlastAccess]
    exact validBetween_signed hsecret hfree hseconds
  · rw [hlastRefresh]
    exact validBetween_signed hsecret hfree hseconds

theorem issue_validBetween_fractions : ∃ pair,
    issue ⟨[115], some "sub", ⟨1500000000, by decide⟩, ⟨-500000000, by decide⟩, []⟩ "user-42"
        ⟨1700000000750000000, by decide⟩ = .ok pair ∧
      ValidBetween ⟨[115], some "sub", ⟨1500000000, by decide⟩, ⟨-500000000, by decide⟩, []⟩
        pair.accessToken 1700000000 1700000002 ∧
      ValidBetween ⟨[115], some "sub", ⟨1500000000, by decide⟩, ⟨-500000000, by decide⟩, []⟩
        pair.refreshToken 1700000000 1700000000 := by
  have hfree : ∀ key ∈ some "sub", key ∉ ["exp", "nbf", "aud"] := by
    rintro key ⟨⟩
    decide
  exact issue_validBetween
    ⟨[115], some "sub", ⟨1500000000, by decide⟩, ⟨-500000000, by decide⟩, []⟩ "user-42"
    ⟨1700000000750000000, by decide⟩ (by decide) hfree (by decide) ⟨_, _, rfl, rfl⟩

/-! ## Negative lifetimes -/

/-- How an access token with a negative lifetime is answered at the time it is issued. It counts as
expired if the second that its lifetime ends in can be written and is over, and if the identity
leaves both times alone; a lifetime that ends in the second of issue has not expired yet. -/
structure AnsweredWhenIssued (context : SigningContext) (identity : String) (now : Instant)
    (token : String) : Prop where
  expired : (∃ error, context.check token now = .error error ∧ error.kind = .expiry) ↔
    0 ≤ context.lastSecond .access now ∧ context.lastSecond .access now < now.seconds ∧
      ¬context.CarriesUnder identity "exp" ∧ ¬context.CarriesUnder identity "nbf"
  accepted : context.check token now = .ok () ↔
    context.lastSecond .access now = now.seconds ∧
      ∀ name ∈ validityClaims, ¬context.CarriesUnder identity name
  otherwise : ∀ error, context.check token now = .error error →
    error = .expired ∨ error.kind = .signature

theorem answeredWhenIssued_signed (hsecret : context.secret ≠ []) (hnow : 0 ≤ now.seconds)
    (hlast : context.lastSecond .access now = expires.seconds)
    (hbackwards : expires.seconds ≤ now.seconds) :
    context.AnsweredWhenIssued identity now
      (sign context.secret (context.issuedClaims .access identity now expires)) := by
  have hotherwise (error : AuthError) (herror : context.check
      (sign context.secret (context.issuedClaims .access identity now expires)) now =
        .error error) : error = .expired ∨ error.kind = .signature := by
    rcases kind_of_check_issued_error hsecret herror with rfl | rfl | hkind
    · exact .inl rfl
    · have hearly := (check_issued_eq_notYetValid_iff hsecret).mp herror
      exact absurd hearly.2.2 (Int.lt_irrefl _)
    · exact .inr hkind
  refine ⟨?_, ?_, hotherwise⟩
  · rw [hlast]
    constructor
    · rintro ⟨error, herror, hkind⟩
      rcases hotherwise error herror with rfl | hsignature
      · obtain ⟨hreadable, hover⟩ := (check_issued_eq_expired_iff hsecret).mp herror
        exact ⟨hreadable.expires_nonneg, hover, hreadable.expires_free, hreadable.starts_free⟩
      · rw [hsignature] at hkind
        cases hkind
    · rintro ⟨hexpires, hover, hexp, hnbf⟩
      exact ⟨.expired, (check_issued_eq_expired_iff hsecret).mpr
        ⟨⟨hexp, hnbf, hexpires, hnow⟩, hover⟩, rfl⟩
  · rw [hlast, check_issued_eq_ok_iff hsecret]
    simp only [validityClaims, List.forall_mem_cons]
    constructor
    · rintro ⟨hreadable, hduring, -, haud⟩
      exact ⟨Int.le_antisymm hbackwards hduring, hreadable.expires_free, hreadable.starts_free,
        haud, nofun⟩
    · rintro ⟨hsame, hexp, hnbf, haud, -⟩
      exact ⟨⟨hexp, hnbf, by omega, hnow⟩, by omega, by omega, haud⟩

/-- With a negative lifetime an access token is issued all the same. -/
theorem issue_answeredWhenIssued (context : SigningContext) (identity : String) (now : Instant)
    (hsecret : context.secret ≠ []) (hnow : 0 ≤ now.nanos) (hissue : context.CanIssueAt now)
    (hlifetime : context.accessLifetime.nanos < 0) :
    ∃ pair, context.issue identity now = .ok pair ∧
      context.AnsweredWhenIssued identity now pair.accessToken := by
  obtain ⟨access, refresh, haccess, hrefresh⟩ := hissue
  refine ⟨_, issue_eq_ok_iff.mpr ⟨hsecret, access, refresh, haccess, hrefresh, rfl⟩, ?_⟩
  apply answeredWhenIssued_signed hsecret (Int.ediv_nonneg hnow (by decide))
  · exact (Instant.seconds_of_plus? haccess).symm
  · apply Instant.seconds_mono
    rw [Instant.nanos_of_plus? haccess]
    omega

theorem issue_answeredWhenIssued_second : ∃ pair,
    issue ⟨[115], some "sub", ⟨-1000000000, by decide⟩, defaultRefreshLifetime, []⟩ "user-42"
        ⟨1700000000500000000, by decide⟩ = .ok pair ∧
      ∃ error, check ⟨[115], some "sub", ⟨-1000000000, by decide⟩, defaultRefreshLifetime, []⟩
        pair.accessToken ⟨1700000000500000000, by decide⟩ = .error error ∧
          error.kind = .expiry := by
  obtain ⟨pair, hissue, hanswered⟩ := issue_answeredWhenIssued
    ⟨[115], some "sub", ⟨-1000000000, by decide⟩, defaultRefreshLifetime, []⟩ "user-42"
    ⟨1700000000500000000, by decide⟩ (by decide) (by decide) ⟨_, _, rfl, rfl⟩ (by decide)
  exact ⟨pair, hissue, hanswered.expired.mpr ⟨by decide, by decide, by decide, by decide⟩⟩

/-- A tenth of a second back from half past a second is still the same second. -/
theorem negative_lifetime_accepted : ∃ pair,
    issue ⟨Text.octets "s3cr3t!!", none, ⟨-100000000, by decide⟩, defaultRefreshLifetime, []⟩
        "user-42" ⟨1700000000500000000, by decide⟩ = .ok pair ∧
      check ⟨Text.octets "s3cr3t!!", none, ⟨-100000000, by decide⟩, defaultRefreshLifetime, []⟩
        pair.accessToken ⟨1700000000500000000, by decide⟩ = .ok () := by
  refine ⟨_, issue_eq_ok_iff.mpr ⟨by decide, _, _, rfl, rfl, rfl⟩, ?_⟩
  rw [check_issued_eq_ok_iff (by decide)]
  exact ⟨⟨by decide, by decide, by decide, by decide⟩, by decide, by decide, by decide⟩

end BearerAuth.SigningContext
