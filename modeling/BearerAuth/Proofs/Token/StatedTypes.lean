import BearerAuth.Proofs.Token.CheckedClaims
import BearerAuth.Proofs.Token.SignedClaims
import BearerAuth.Proofs.TypeExclusion

/-! The type of a token with claims of the caller's choice. Issuing adds no type, but it keeps the
one that the claims state; so such a token passes for a type exactly if its claims say so, and is
turned away by every check for a type only if they do not. -/

namespace BearerAuth

open Token

/-! ## Types and holders of filled-in claims -/

namespace ClaimMap

variable {claims : ClaimMap} {now expires : Instant}

theorem ownTime?_ne_str (now expires : Instant) (name text : String) :
    ownTime? now expires name ≠ some (.str text) := by
  unfold ownTime?
  split_ifs <;> exact nofun

/-- The times that are filled in are no texts. -/
theorem get?_completed_eq_str_iff {name text : String} :
    (SigningContext.completed claims now expires).get? name = some (.str text) ↔
      claims.get? name = some (.str text) := by
  rw [completes_completed]
  cases claims.get? name with
  | none => exact iff_of_false (ownTime?_ne_str now expires name text) nofun
  | some value => rfl

theorem tokenType_completed :
    (SigningContext.completed claims now expires).tokenType = claims.tokenType := by
  apply tokenType_eq_of_textUnder
  rw [textUnder, get?_completed_of_not_time rfl, textUnder]

theorem identity_completed_eq_ok_iff {identityKey : Option String} {found : String} :
    (SigningContext.completed claims now expires).identity identityKey = .ok found ↔
      claims.identity identityKey = .ok found := by
  rw [identity_eq_ok_iff, identity_eq_ok_iff]
  cases identityKey.filter (!·.isEmpty) with
  | none => rfl
  | some key => simp only [get?_completed_eq_str_iff]

end ClaimMap

namespace SigningContext

variable {context : SigningContext} {claims found : ClaimMap} {now expires t : Instant}

/-! ## Checks for a type -/

/-- How the checks treat a token that was issued with claims of the caller's choice: it is of the
type that the claims state and of no type if they state none. -/
structure TypedByClaims (context : SigningContext) (claims : ClaimMap) (token : String) :
    Prop where
  tokenType : ∀ t, context.tokenType token t =
    (context.check token t >>= fun _ => claims.tokenType)
  accepted : ∀ t type, context.Accepts token t type ↔
    context.check token t = .ok () ∧ claims.get? "token_type" = some (.str type.name) ∧
      ∃ identity, claims.identity context.identityKey = .ok identity
  trusted : ∀ {t type identity}, context.check token t = .ok () →
    claims.get? "token_type" = some (.str type.name) →
    claims.identity context.identityKey = .ok identity → context.TrustedAs type token identity t
  rejected : (∀ type : TokenType, claims.get? "token_type" ≠ some (.str type.name)) →
    ∀ t type, context.tokenType token t ≠ .ok type ∧ ¬context.Accepts token t type

section

variable (h : context.claims
  (sign context.secret (SigningContext.completed claims now expires)) t = .ok found)

include h

theorem tokenType_of_completed : found.tokenType = claims.tokenType :=
  (tokenType_of_verify_sign h).trans ClaimMap.tokenType_completed

theorem identity_of_completed_eq_ok_iff {identity : String} :
    found.identity context.identityKey = .ok identity ↔
      claims.identity context.identityKey = .ok identity := by
  rw [identity_of_verify_sign h, ClaimMap.identity_completed_eq_ok_iff]

end

theorem tokenType_completed (context : SigningContext) (claims : ClaimMap)
    (now expires t : Instant) :
    context.tokenType (sign context.secret (SigningContext.completed claims now expires)) t =
      (context.check (sign context.secret (SigningContext.completed claims now expires)) t >>=
        fun _ => claims.tokenType) := by
  rw [SigningContext.tokenType, check]
  cases hfound : context.claims
    (sign context.secret (SigningContext.completed claims now expires)) t with
  | error error => rfl
  | ok found => exact tokenType_of_completed hfound

/-- A signed token is accepted for a type exactly if it is valid and its claims state the type and
name a holder. -/
theorem accepts_completed_iff {type : TokenType} :
    context.Accepts (sign context.secret (SigningContext.completed claims now expires)) t type ↔
      context.check (sign context.secret (SigningContext.completed claims now expires)) t =
          .ok () ∧
        claims.get? tokenTypeClaim = some (.str type.name) ∧
          ∃ identity, claims.identity context.identityKey = .ok identity := by
  simp only [accepts_iff, identityOf_eq_ok_iff, check_eq_ok_iff, ← ClaimMap.tokenType_eq_ok_iff]
  constructor
  · rintro ⟨identity, found, hfound, htype, hidentity⟩
    exact ⟨⟨found, hfound⟩, tokenType_of_completed hfound ▸ htype, identity,
      (identity_of_completed_eq_ok_iff hfound).mp hidentity⟩
  · rintro ⟨⟨found, hfound⟩, htype, identity, hidentity⟩
    exact ⟨identity, found, hfound, (tokenType_of_completed hfound).trans htype,
      (identity_of_completed_eq_ok_iff hfound).mpr hidentity⟩

theorem typedByClaims_sign (context : SigningContext) (claims : ClaimMap)
    (now expires : Instant) :
    context.TypedByClaims claims
      (sign context.secret (SigningContext.completed claims now expires)) where
  tokenType := tokenType_completed context claims now expires
  accepted t type := accepts_completed_iff
  trusted hcheck htype hidentity := by
    obtain ⟨found, hfound⟩ := check_eq_ok_iff.mp hcheck
    exact trustedAs_of_claims hfound
      ((tokenType_of_completed hfound).trans (ClaimMap.tokenType_eq_ok_iff.mpr htype))
      ((identity_of_completed_eq_ok_iff hfound).mpr hidentity)
  rejected huntyped t type := by
    constructor
    · intro h
      rw [tokenType_completed] at h
      obtain ⟨-, -, htype⟩ := bind_eq_ok.mp h
      exact huntyped type (ClaimMap.tokenType_eq_ok_iff.mp htype)
    · intro h
      exact huntyped type (accepts_completed_iff.mp h).2.1

/-- Whatever claims are signed, and whenever, the token is of the type that the claims state. -/
theorem issueClaims_typed (context : SigningContext) (claims : ClaimMap) (now expires : Instant)
    (token : String) (h : context.issueClaims claims now = .ok (token, expires)) :
    context.TypedByClaims claims token := by
  obtain ⟨-, -, rfl⟩ := issueClaims_eq_ok_iff.mp h
  exact typedByClaims_sign context claims now expires

theorem issueClaims_typed_user : ∃ token,
    issueClaims ⟨[115], some "sub", defaultAccessLifetime, defaultRefreshLifetime, []⟩
        (.ofMembers [("sub", .str "user-42")]) ⟨1700000000 * 1000000000, by decide⟩ =
      .ok (token, ⟨1700007200 * 1000000000, by decide⟩) ∧
      ∀ t type, ¬Accepts ⟨[115], some "sub", defaultAccessLifetime, defaultRefreshLifetime, []⟩
        token t type := by
  have hsecret : ([115] : List UInt8) ≠ [] := by decide
  refine ⟨_, issueClaims_eq_ok hsecret rfl, fun t type => ?_⟩
  have htyped := issueClaims_typed
    ⟨[115], some "sub", defaultAccessLifetime, defaultRefreshLifetime, []⟩
    (.ofMembers [("sub", .str "user-42")]) ⟨1700000000 * 1000000000, by decide⟩
    ⟨1700007200 * 1000000000, by decide⟩ _ (issueClaims_eq_ok hsecret rfl)
  refine (htyped.rejected (fun type => ?_) t type).2
  rw [ClaimMap.get?_ofMembers]
  exact nofun

/-- A token whose claims call it an access token is trusted as one. -/
theorem issueClaims_accepted_access : ∃ token,
    issueClaims ⟨Text.octets "s3cr3t!!", none, defaultAccessLifetime, defaultRefreshLifetime, []⟩
        (.ofMembers [("token_type", .str "access")]) ⟨1700000000 * 1000000000, by decide⟩ =
      .ok (token, ⟨1700007200 * 1000000000, by decide⟩) ∧
      TrustedAs ⟨Text.octets "s3cr3t!!", none, defaultAccessLifetime, defaultRefreshLifetime, []⟩
        .access token "" ⟨1700000000 * 1000000000, by decide⟩ := by
  have hsecret : Text.octets "s3cr3t!!" ≠ [] := by decide
  refine ⟨_, issueClaims_eq_ok hsecret rfl, ?_⟩
  refine (typedByClaims_sign _ _ _ _).trusted ?_ rfl rfl
  refine (checkedWhenIssued_sign hsecret rfl (by decide) rfl rfl (by decide)).accepted.mpr
    ⟨by decide, ?_, ?_⟩
  · rw [ClaimMap.hasCompoundSubject_iff]
    decide
  · rw [ClaimMap.namesAudience_iff]
    decide

end SigningContext

end BearerAuth
