import BearerAuth.Proofs.Token.CustomClaims
import BearerAuth.Proofs.Token.SignedClaims

/-! Signing the claims of a valid token again. Every token that is issued states all its times, so
there is nothing to fill in the second time; and claims without floating-point numbers have one
written form. So the same token comes out, whenever and with whatever lifetimes it is signed. -/

namespace BearerAuth

open Token

/-! ## Claims with all times -/

namespace ClaimMap

/-- Claims that state the times which issuing would otherwise add. -/
def HasTimes (claims : ClaimMap) : Prop :=
  ∀ name ∈ ["exp", "iat", "nbf"], ∃ value, claims.get? name = some value

variable {claims : ClaimMap} {now expires : Instant}

theorem hasTimes_completed (claims : ClaimMap) (now expires : Instant) :
    (SigningContext.completed claims now expires).HasTimes := by
  intro name hname
  exact (completes_completed claims now expires).isSome_time hname

theorem HasTimes.completed_eq (h : claims.HasTimes) :
    SigningContext.completed claims now expires = claims := by
  apply eq_of_get?
  intro name
  rw [completes_completed]
  cases hown : ownTime? now expires name with
  | none => rw [Option.or_none]
  | some time =>
      obtain ⟨value, hvalue⟩ := h name (isSome_ownTime?_iff.mp (by rw [hown]; rfl))
      rw [hvalue, Option.some_or]

end ClaimMap

/-- An issued token states all times, though the identity can stand in the place of one. -/
theorem TokenClaims.hasTimes_toMap (claims : TokenClaims) (identityKey : Option String) :
    (claims.toMap identityKey).HasTimes := by
  intro name hname
  have himpersonal : ∃ value, claims.impersonal.get? name = some value := by
    simp only [List.mem_cons, List.not_mem_nil, or_false] at hname
    rcases hname with rfl | rfl | rfl
    · exact ⟨_, claims.get?_impersonal "exp"⟩
    · exact ⟨_, claims.get?_impersonal "iat"⟩
    · exact ⟨_, claims.get?_impersonal "nbf"⟩
  rw [get?_toMap]
  cases claims.holder? identityKey with
  | none => exact himpersonal
  | some holder =>
      by_cases hkey : holder.1 = name
      · exact ⟨_, if_pos hkey⟩
      · simpa only [if_neg hkey] using himpersonal

/-! ## Issued tokens -/

namespace SigningContext

variable {context : SigningContext} {token : String}

/-- The tokens that a context issues: those of a pair, and those with claims of the caller's choice
as long as these have no floating-point numbers. -/
inductive Issues (context : SigningContext) : String → Prop where
  | access {identity : String} {now : Instant} {pair : TokenPair} :
      context.issue identity now = .ok pair → Issues context pair.accessToken
  | refresh {identity : String} {now : Instant} {pair : TokenPair} :
      context.issue identity now = .ok pair → Issues context pair.refreshToken
  | claims {claims : ClaimMap} {now expires : Instant} {token : String} :
      claims.toJson.isExact = true → context.issueClaims claims now = .ok (token, expires) →
      Issues context token

/-- Whichever way a token is issued, it is signed with exact claims that state all times. -/
theorem Issues.exists_sign (h : context.Issues token) :
    context.secret ≠ [] ∧ ∃ claims : ClaimMap, claims.toJson.isExact = true ∧ claims.HasTimes ∧
      token = sign context.secret claims := by
  cases h with
  | access hissue =>
      obtain ⟨hsecret, access, refresh, -, -, rfl⟩ := issue_eq_ok_iff.mp hissue
      exact ⟨hsecret, _, TokenClaims.isExact_toMap _ _, TokenClaims.hasTimes_toMap _ _, rfl⟩
  | refresh hissue =>
      obtain ⟨hsecret, access, refresh, -, -, rfl⟩ := issue_eq_ok_iff.mp hissue
      exact ⟨hsecret, _, TokenClaims.isExact_toMap _ _, TokenClaims.hasTimes_toMap _ _, rfl⟩
  | @claims claims now expires _ hexact hissue =>
      obtain ⟨hsecret, -, rfl⟩ := issueClaims_eq_ok_iff.mp hissue
      have hcompletes := ClaimMap.completes_completed claims now expires
      exact ⟨hsecret, _, hcompletes.isExact hexact, ClaimMap.hasTimes_completed claims now expires,
        rfl⟩

/-- The claims of a valid issued token are issued as the same token again, by every context with the
same secret and at every time that its lifetimes allow. -/
theorem issueClaims_eq_of_verify (context other : SigningContext) (token : String)
    (claims : ClaimMap) (t now expires : Instant) (hissued : context.Issues token)
    (hclaims : verify token context.secret t = .ok claims) (hsecret : other.secret = context.secret)
    (hexpires : now.plus? other.accessLifetime = some expires) :
    other.issueClaims claims now = .ok (token, expires) := by
  obtain ⟨hnonempty, signed, hexact, htimes, rfl⟩ := hissued.exists_sign
  have hsigned : claims = signed := eq_of_verify_sign hexact hclaims
  rw [issueClaims_eq_ok_iff, hsigned, htimes.completed_eq, hsecret]
  exact ⟨hnonempty, hexpires, rfl⟩

theorem issueClaims_eq_of_verify_user : ∃ (context other : SigningContext) (token : String)
    (claims : ClaimMap) (t later expires : Instant), context.Issues token ∧
      other.secret = context.secret ∧ context.accessLifetime ≠ other.accessLifetime ∧ t ≠ later ∧
      verify token context.secret t = .ok claims ∧
      other.issueClaims claims later = .ok (token, expires) := by
  let context : SigningContext :=
    ⟨[115], some "sub", defaultAccessLifetime, defaultRefreshLifetime, []⟩
  let other : SigningContext := ⟨[115], none, defaultRefreshLifetime, defaultAccessLifetime, []⟩
  let now : Instant := ⟨1700000000 * 1000000000, by decide⟩
  let later : Instant := ⟨1800000000 * 1000000000, by decide⟩
  let access : Instant := ⟨1700007200 * 1000000000, by decide⟩
  let refresh : Instant := ⟨1700604800 * 1000000000, by decide⟩
  let claims := context.issuedClaims .access "user-42" now access
  have hissue : context.issue "user-42" now = .ok
      { accessToken := sign context.secret claims
        refreshToken := sign context.secret (context.issuedClaims .refresh "user-42" now refresh)
        accessExpires := access
        refreshExpires := refresh } :=
    issue_eq_ok_iff.mpr ⟨by decide, access, refresh, rfl, rfl, rfl⟩
  have hissued := Issues.access hissue
  have hclaims : verify (sign context.secret claims) context.secret now = .ok claims :=
    (claims_issued_eq_ok_iff (by decide) (by decide)).mpr ⟨by decide, by decide, by decide⟩
  exact ⟨context, other, _, claims, now, later, _, hissued, rfl, by decide, by decide, hclaims,
    issueClaims_eq_of_verify context other _ claims now later
      ⟨1800604800 * 1000000000, by decide⟩ hissued hclaims rfl rfl⟩

end SigningContext

end BearerAuth
