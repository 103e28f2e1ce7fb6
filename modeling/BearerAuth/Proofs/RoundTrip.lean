import BearerAuth.Proofs.Authentication

/-! Issuing a pair of tokens and using them. Each token gives back the identity that it was
issued for, and is trusted for its own purpose and not for the other one. -/

namespace BearerAuth.SigningContext

open Token

variable {context : SigningContext}

/-- What a token of a type is trusted for at a time: it gives back an identity, and only the
check for its own type lets it pass. -/
structure TrustedAs (context : SigningContext) (type : TokenType) (token identity : String)
    (t : Instant) : Prop where
  readsIdentity : context.identityUnder token context.secret t = .ok identity
  readsType : context.tokenType token t = .ok type
  request : ∀ source : BearerSource, source.token = .ok token →
    context.authenticate source t =
      if type = .access then .ok identity else .error .notAccessToken
  refresh : context.identityOf .refresh token t =
    if type = .refresh then .ok identity else .error .notRefreshToken

theorem trustedAs_of_claims {type : TokenType} {token identity : String} {t : Instant}
    {claims : ClaimMap} (hclaims : context.claims token t = .ok claims)
    (htype : claims.tokenType = .ok type)
    (hidentity : claims.identity context.identityKey = .ok identity) :
    context.TrustedAs type token identity t where
  readsIdentity := by
    rw [SigningContext.claims] at hclaims
    rw [identityUnder, hclaims, ok_bind, hidentity]
  readsType := by rw [SigningContext.tokenType, hclaims, ok_bind, htype]
  request source hsource := by
    rw [authenticate_of_token hsource, identityOf_of_type hclaims htype, hidentity]
    rfl
  refresh := by
    rw [identityOf_of_type hclaims htype, hidentity]
    rfl

/-- An issued token is trusted as what it is from the second it was issued in to the second it
expires in. -/
theorem trustedAs_signed {type : TokenType} {identity : String} {now expires t : Instant}
    (hsecret : context.secret ≠ []) (hcarry : context.CanCarry identity)
    (hnow : 0 ≤ now.seconds) (hfirst : now.seconds ≤ t.seconds)
    (hlast : t.seconds ≤ expires.seconds) :
    context.TrustedAs type (sign context.secret (context.issuedClaims type identity now expires))
      (context.givenBack identity) t := by
  have hfree : ∀ key ∈ context.identityKey, key ∉ validityClaims := fun key hkey hmem =>
    hcarry.key_free key hkey (List.mem_cons_of_mem _ hmem)
  exact trustedAs_of_claims
    ((claims_issued_eq_ok_iff hsecret hfree).mpr ⟨hnow, hfirst, hlast⟩)
    (tokenType_issuedClaims hcarry) (identity_issuedClaims_givenBack hcarry)

theorem trustedAs_issued {type : TokenType} {key identity : String} {now expires t : Instant}
    (hsecret : context.secret ≠ []) (hkey : context.identityKey = some key) (hnonempty : key ≠ "")
    (hfree : key ∉ tokenTypeClaim :: validityClaims) (hidentity : identity ≠ "")
    (hnow : 0 ≤ now.seconds) (hfirst : now.seconds ≤ t.seconds)
    (hlast : t.seconds ≤ expires.seconds) :
    context.TrustedAs type (sign context.secret (context.issuedClaims type identity now expires))
      identity t := by
  have hcarry : context.CanCarry identity := by
    refine ⟨?_, ?_, fun _ => hidentity⟩
    · rw [hkey]
      rintro _ ⟨⟩
      exact hnonempty
    · rw [hkey]
      rintro _ ⟨⟩
      exact hfree
  have hgiven : context.givenBack identity = identity := givenBack_of_isSome (hkey ▸ rfl)
  have htrusted : context.TrustedAs type
      (sign context.secret (context.issuedClaims type identity now expires))
      (context.givenBack identity) t := trustedAs_signed hsecret hcarry hnow hfirst hlast
  rwa [hgiven] at htrusted

/-- With a secret and a name for identities that no other claim needs, a pair is issued for every
identity, and both tokens are trusted as what they are from the second they were issued in to
the second they expire in. -/
theorem issue_trusted (context : SigningContext) (key identity : String)
    (now accessExpires refreshExpires : Instant) (hsecret : context.secret ≠ [])
    (hkey : context.identityKey = some key) (hnonempty : key ≠ "")
    (hfree : key ∉ ["token_type", "nbf", "exp", "aud"]) (hidentity : identity ≠ "")
    (hnow : 0 ≤ now.nanos) (haccess : now.plus? context.accessLifetime = some accessExpires)
    (hrefresh : now.plus? context.refreshLifetime = some refreshExpires) :
    ∃ pair, context.issue identity now = .ok pair ∧
      (∀ t : Instant, now.seconds ≤ t.seconds → t.seconds ≤ accessExpires.seconds →
        context.TrustedAs .access pair.accessToken identity t) ∧
      ∀ t : Instant, now.seconds ≤ t.seconds → t.seconds ≤ refreshExpires.seconds →
        context.TrustedAs .refresh pair.refreshToken identity t := by
  have hseconds : 0 ≤ now.seconds := Int.ediv_nonneg hnow (by decide)
  have hfree' : key ∉ tokenTypeClaim :: validityClaims := by
    simp only [tokenTypeClaim, validityClaims, List.mem_cons, List.not_mem_nil, or_false] at hfree ⊢
    tauto
  refine ⟨_, issue_eq_ok_iff.mpr ⟨hsecret, _, _, haccess, hrefresh, rfl⟩, ?_, ?_⟩
  · intro t hfirst hlast
    exact trustedAs_issued hsecret hkey hnonempty hfree' hidentity hseconds hfirst hlast
  · intro t hfirst hlast
    exact trustedAs_issued hsecret hkey hnonempty hfree' hidentity hseconds hfirst hlast

theorem issue_trusted_user : ∃ pair,
    issue ⟨[115], some "sub", defaultAccessLifetime, defaultRefreshLifetime, []⟩ "user-42"
      ⟨1700000000 * 1000000000, by decide⟩ = .ok pair ∧
    (∀ t : Instant, 1700000000 ≤ t.seconds → t.seconds ≤ 1700007200 →
      TrustedAs ⟨[115], some "sub", defaultAccessLifetime, defaultRefreshLifetime, []⟩ .access
        pair.accessToken "user-42" t) ∧
    ∀ t : Instant, 1700000000 ≤ t.seconds → t.seconds ≤ 1700604800 →
      TrustedAs ⟨[115], some "sub", defaultAccessLifetime, defaultRefreshLifetime, []⟩ .refresh
        pair.refreshToken "user-42" t := by
  have hseconds (n : Int) (h) : (⟨n * 1000000000, h⟩ : Instant).seconds = n :=
    Int.mul_ediv_cancel n (by decide)
  have hissue := issue_trusted
    ⟨[115], some "sub", defaultAccessLifetime, defaultRefreshLifetime, []⟩ "sub" "user-42"
    ⟨1700000000 * 1000000000, by decide⟩ ⟨1700007200 * 1000000000, by decide⟩
    ⟨1700604800 * 1000000000, by decide⟩
    (by decide) rfl (by decide) (by decide) (by decide) (by decide) rfl rfl
  simpa only [hseconds] using hissue

end BearerAuth.SigningContext
