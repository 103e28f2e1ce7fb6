import BearerAuth.Proofs.Bearer
import BearerAuth.Proofs.RoundTrip
import BearerAuth.Proofs.Token.Refusal

/-! One token, one type. The claims of a token do not depend on the time, so a token that is once
accepted for a type is never accepted for the other one, whoever made it. Only a valid token of
the other type is turned away for its type. -/

namespace BearerAuth

open Token

/-- The type that a token is not of. -/
def TokenType.other : TokenType → TokenType
  | access => refresh
  | refresh => access

theorem TokenType.ne_iff_eq_other {type required : TokenType} :
    type ≠ required ↔ type = required.other := by
  cases type <;> cases required <;> decide

/-! ## Errors about the type -/

theorem TokenType.kind_mismatch (type : TokenType) : type.mismatch.kind = .typeMismatch := by
  cases type <;> rfl

theorem TokenType.mismatch_ne {type : TokenType} {error : AuthError}
    (h : error.kind ≠ .typeMismatch) : error ≠ type.mismatch := by
  rintro rfl
  exact h type.kind_mismatch

namespace ClaimMap

variable {claims : ClaimMap} {error : AuthError}

theorem kind_of_tokenType_error (h : claims.tokenType = .error error) :
    error.kind = .claimShape := by
  unfold tokenType at h
  split at h
  · cases h
    rfl
  · unfold TokenType.ofName at h
    split at h
    · contradiction
    · split at h
      · contradiction
      · cases h
        rfl
  · cases h
    rfl

theorem kind_of_identity_error {identityKey : Option String}
    (h : claims.identity identityKey = .error error) : error.kind = .claimShape := by
  unfold identity at h
  split at h
  · contradiction
  · split at h
    · cases h
      rfl
    · split at h
      · cases h
        rfl
      · contradiction
    · cases h
      rfl

end ClaimMap

namespace SigningContext

variable {context : SigningContext} {token : String} {t : Instant} {type required : TokenType}

/-- A token is turned away for its type exactly if it is valid and of the other type. -/
theorem identityOf_eq_mismatch_iff :
    context.identityOf required token t = .error required.mismatch ↔
      context.tokenType token t = .ok required.other := by
  cases hclaims : context.claims token t with
  | error error =>
      have hkind : error.kind ≠ .typeMismatch := by
        intro heq
        have hmem := kind_of_verify_error hclaims
        rw [heq] at hmem
        exact absurd hmem (by decide)
      simp [identityOf, tokenType, hclaims, TokenType.mismatch_ne hkind]
  | ok claims =>
      cases htype : claims.tokenType with
      | error error =>
          have hkind : error.kind ≠ .typeMismatch := by
            rw [ClaimMap.kind_of_tokenType_error htype]
            decide
          simp [identityOf, tokenType, hclaims, htype, TokenType.mismatch_ne hkind]
      | ok type =>
          rw [identityOf_of_type hclaims htype, tokenType, hclaims, ok_bind, htype,
            Except.ok.injEq, ← TokenType.ne_iff_eq_other]
          by_cases hrequired : type = required
          · have hne : claims.identity context.identityKey ≠ .error required.mismatch := by
              intro h
              have hkind := ClaimMap.kind_of_identity_error h
              rw [required.kind_mismatch] at hkind
              contradiction
            simp [hrequired, hne]
          · simp [hrequired]

theorem identityOf_access_eq_mismatch_iff :
    context.identityOf .access token t = .error .notAccessToken ↔
      context.tokenType token t = .ok .refresh :=
  identityOf_eq_mismatch_iff

theorem identityOf_refresh_eq_mismatch_iff :
    context.identityOf .refresh token t = .error .notRefreshToken ↔
      context.tokenType token t = .ok .access :=
  identityOf_eq_mismatch_iff

/-- A request is turned away for the type of its token exactly if it has a valid token of the other
type, unless it has no token for this very reason. -/
theorem authenticate_eq_mismatch_iff {source : BearerSource}
    (hsource : source.token ≠ .error .notAccessToken) :
    context.authenticate source t = .error .notAccessToken ↔
      ∃ token, source.token = .ok token ∧ context.tokenType token t = .ok .refresh := by
  cases htoken : source.token with
  | error error =>
      rw [htoken] at hsource
      simpa [authenticate, htoken] using hsource
  | ok token =>
      rw [authenticate_of_token htoken, identityOf_access_eq_mismatch_iff]
      simp

end SigningContext

/-! ## Gates -/

namespace Gate

variable {context : SigningContext} {t : Instant} {headers : List Http.Header}

theorem httpToken_ne_mismatch (type : TokenType) :
    httpToken headers ≠ .error type.mismatch := by
  intro h
  rcases httpToken_eq_error h with h | h
  · cases type <;> contradiction
  · cases type <;> contradiction

theorem rpcToken_ne_mismatch (type : TokenType) :
    rpcToken headers ≠ .error type.mismatch := by
  intro h
  obtain ⟨reason, h⟩ := rpcToken_eq_error h
  cases type <;> contradiction

theorem refresh_eq_mismatch_iff :
    refresh context t headers = .turnedAway .notRefreshToken ↔
      ∃ token, httpToken headers = .ok token ∧ context.tokenType token t = .ok .access := by
  rw [refresh, passage_eq_turnedAway_iff]
  cases htoken : httpToken headers with
  | error error =>
      have hne : error ≠ .notRefreshToken := by
        rintro rfl
        exact httpToken_ne_mismatch .refresh htoken
      simp [hne]
  | ok token =>
      rw [ok_bind, SigningContext.identityOf_refresh_eq_mismatch_iff]
      simp

theorem access_eq_mismatch_iff {path : String} :
    access context t headers path = .turnedAway .notAccessToken ↔
      context.isPathSkipped path = false ∧
        ∃ token, httpToken headers = .ok token ∧ context.tokenType token t = .ok .refresh := by
  unfold access
  cases context.isPathSkipped path with
  | true => simp
  | false =>
      have hsource : (BearerSource.ofHttp headers path).token ≠ .error .notAccessToken :=
        httpToken_ne_mismatch .access
      simp only [Bool.false_eq_true, if_false, true_and, passage_eq_turnedAway_iff]
      exact SigningContext.authenticate_eq_mismatch_iff hsource

theorem append_ne_of_head? {start rest text : String} {c d : Char}
    (hstart : start.toList.head? = some c) (htext : text.toList.head? = some d) (hne : c ≠ d) :
    start ++ rest ≠ text := by
  rintro rfl
  rw [String.toList_append, List.head?_append, hstart] at htext
  exact hne (Option.some.inj htext)

/-- The status of a call that is turned away for its type tells this cause from all others. -/
theorem RpcStatus.ofError_eq_mismatch_iff {error : AuthError} :
    ofError error = ofError .notAccessToken ↔ error = .notAccessToken := by
  refine ⟨fun h => ?_, fun h => h ▸ rfl⟩
  have hcode := congrArg RpcStatus.code h
  have hmessage := congrArg RpcStatus.message h
  have hhead : (ofError .notAccessToken).message.toList.head? = some 't' := by decide
  -- A fixed message is compared as a whole, one with a reason by its first letter.
  cases error with
  | notAccessToken => rfl
  | missingSecret => contradiction
  | signingFailed sort reason => exact absurd (show (13 : Nat) = 16 from hcode) (by decide)
  | malformedToken reason =>
      exact absurd hmessage (append_ne_of_head? (c := 'm') (by decide) hhead (by decide))
  | invalidSignature reason =>
      exact absurd hmessage (append_ne_of_head? (c := 'i') (by decide) hhead (by decide))
  | unsupportedAlgorithm reason =>
      exact absurd hmessage (append_ne_of_head? (c := 'u') (by decide) hhead (by decide))
  | unauthenticated reason =>
      exact absurd hmessage (append_ne_of_head? (c := 'i') (by decide) hhead (by decide))
  | _ => exact absurd hmessage (by decide)

theorem intercept_eq_mismatch_iff {metadata : List Http.Header} :
    intercept context t metadata = .error (.ofError .notAccessToken) ↔
      ∃ token, rpcToken metadata = .ok token ∧ context.tokenType token t = .ok .refresh := by
  have hsource : (BearerSource.ofRpc metadata).token ≠ .error .notAccessToken :=
    rpcToken_ne_mismatch .access
  rw [intercept_eq_error_iff]
  refine Iff.trans ?_ (SigningContext.authenticate_eq_mismatch_iff hsource)
  constructor
  · rintro ⟨error, herror, hstatus⟩
    rwa [RpcStatus.ofError_eq_mismatch_iff.mp hstatus.symm] at herror
  · intro herror
    exact ⟨.notAccessToken, herror, rfl⟩

end Gate

/-! ## All checks together -/

namespace SigningContext

/-- A token is accepted for a type at a time by one of the checks that look at it. -/
inductive Accepts (context : SigningContext) (token : String) (t : Instant) : TokenType → Prop where
  | request {source : BearerSource} {identity : String} :
      source.token = .ok token → context.authenticate source t = .ok identity →
      Accepts context token t .access
  | requestForPath {source : BearerSource} {identity : String} :
      source.token = .ok token → source.path.any context.isPathSkipped = false →
      context.authenticateUnlessSkipped source t = .ok identity → Accepts context token t .access
  | accessGate {headers : List Http.Header} {path : String} {caller : Caller} :
      httpToken headers = .ok token →
      Gate.access context t headers path = .admitted (some caller) →
      Accepts context token t .access
  | call {metadata : List Http.Header} {caller : Caller} :
      rpcToken metadata = .ok token → Gate.intercept context t metadata = .ok caller →
      Accepts context token t .access
  | refreshToken {identity : String} :
      context.identityOf .refresh token t = .ok identity → Accepts context token t .refresh
  | refreshGate {headers : List Http.Header} {caller : Option Caller} :
      httpToken headers = .ok token → Gate.refresh context t headers = .admitted caller →
      Accepts context token t .refresh

/-- Whatever check accepts a token for a type, the one for tokens alone does. -/
theorem accepts_iff {context : SigningContext} {token : String} {t : Instant} {type : TokenType} :
    context.Accepts token t type ↔ ∃ found, context.identityOf type token t = .ok found := by
  constructor
  · intro h
    cases h with
    | request htoken h => exact ⟨_, authenticate_of_token htoken ▸ h⟩
    | requestForPath htoken hpath h =>
        rw [authenticateUnlessSkipped, hpath] at h
        exact ⟨_, authenticate_of_token htoken ▸ h⟩
    | accessGate htoken h => exact ((Gate.access_admits_iff htoken).mp ⟨_, h⟩).2
    | call htoken h => exact (Gate.intercept_admits_iff htoken).mp ⟨_, h⟩
    | refreshToken h => exact ⟨_, h⟩
    | refreshGate htoken h => exact (Gate.refresh_admits_iff htoken).mp ⟨_, h⟩
  · rintro ⟨found, h⟩
    cases type with
    | access =>
        have htoken : (BearerSource.mk none (.ok token)).token = .ok token := rfl
        exact .request htoken ((authenticate_of_token htoken).trans h)
    | refresh => exact .refreshToken h

theorem Accepts.tokenType_eq {context : SigningContext} {token : String} {t : Instant}
    {type : TokenType} (h : context.Accepts token t type) :
    ∃ claims, context.claims token t = .ok claims ∧ claims.tokenType = .ok type := by
  obtain ⟨found, hfound⟩ := accepts_iff.mp h
  obtain ⟨claims, hclaims, htype, -⟩ := identityOf_eq_ok_iff.mp hfound
  exact ⟨claims, hclaims, htype⟩

/-- A token was signed with the secret, admits the time and says that it is of a type. -/
def Genuine (context : SigningContext) (token : String) (t : Instant) (type : TokenType) : Prop :=
  context.secret ≠ [] ∧ ∃ cut algorithm members validity,
    Text.octets token = Compact.bytes cut ∧ Authentic cut context.secret algorithm members ∧
      Validity.ofMembers members = .ok validity ∧ validity.Admits t ∧
      Json.lookup? members "token_type" = some (.str type.name)

theorem canonical_eq_str_iff {value : Json} {text : String} :
    value.canonical = .str text ↔ value = .str text := by
  cases value <;> simp [Json.canonical]

theorem tokenType_eq_ok_iff_genuine {context : SigningContext} {token : String} {t : Instant}
    {type : TokenType} : context.tokenType token t = .ok type ↔ context.Genuine token t type := by
  have htype {members : List Member} :
      (ClaimMap.ofMembers members).tokenType = .ok type ↔
        Json.lookup? members "token_type" = some (.str type.name) := by
    rw [ClaimMap.tokenType_eq_ok_iff, ClaimMap.get?_ofMembers, tokenTypeClaim]
    simp [canonical_eq_str_iff]
  simp only [tokenType, bind_eq_ok, SigningContext.claims, verify_eq_ok_iff, Genuine]
  constructor
  · rintro ⟨claims, ⟨hsecret, cut, algorithm, members, validity, hoctets, hauthentic, hvalidity,
      hadmits, rfl⟩, h⟩
    exact ⟨hsecret, cut, algorithm, members, validity, hoctets, hauthentic, hvalidity, hadmits,
      htype.mp h⟩
  · rintro ⟨hsecret, cut, algorithm, members, validity, hoctets, hauthentic, hvalidity, hadmits,
      h⟩
    exact ⟨_, ⟨hsecret, cut, algorithm, members, validity, hoctets, hauthentic, hvalidity,
      hadmits, rfl⟩, htype.mpr h⟩

/-- How all checks go by the type of a token: none accepts a token that another one accepts for the
other type, and the error for a wrong type is the answer to genuine tokens of the other type. -/
structure GoesByType (context : SigningContext) : Prop where
  exclusive : ∀ {token first second type found}, context.Accepts token first type →
    context.Accepts token second found → type = found
  genuine : ∀ {token t type}, context.tokenType token t = .ok type ↔ context.Genuine token t type
  refresh : ∀ {token t}, context.identityOf .refresh token t = .error .notRefreshToken ↔
    context.tokenType token t = .ok .access
  refreshGate : ∀ {headers t}, Gate.refresh context t headers = .turnedAway .notRefreshToken ↔
    ∃ token, httpToken headers = .ok token ∧ context.tokenType token t = .ok .access
  request : ∀ {source : BearerSource} {t}, source.token ≠ .error .notAccessToken →
    (context.authenticate source t = .error .notAccessToken ↔
      ∃ token, source.token = .ok token ∧ context.tokenType token t = .ok .refresh)
  requestForPath : ∀ {source : BearerSource} {t}, source.token ≠ .error .notAccessToken →
    (context.authenticateUnlessSkipped source t = .error .notAccessToken ↔
      source.path.any context.isPathSkipped = false ∧
        ∃ token, source.token = .ok token ∧ context.tokenType token t = .ok .refresh)
  accessGate : ∀ {headers path t},
    Gate.access context t headers path = .turnedAway .notAccessToken ↔
      context.isPathSkipped path = false ∧
        ∃ token, httpToken headers = .ok token ∧ context.tokenType token t = .ok .refresh
  call : ∀ {metadata t}, Gate.intercept context t metadata = .error (.ofError .notAccessToken) ↔
    ∃ token, rpcToken metadata = .ok token ∧ context.tokenType token t = .ok .refresh

/-- In every context all checks go by the type of a token, at any two times. -/
theorem goesByType (context : SigningContext) : context.GoesByType where
  exclusive hfirst hsecond := by
    obtain ⟨claims, hclaims, htype⟩ := hfirst.tokenType_eq
    obtain ⟨others, hothers, hfound⟩ := hsecond.tokenType_eq
    cases verify_unique hclaims hothers
    rw [htype] at hfound
    exact Except.ok.inj hfound
  genuine := tokenType_eq_ok_iff_genuine
  refresh := identityOf_refresh_eq_mismatch_iff
  refreshGate := Gate.refresh_eq_mismatch_iff
  request := authenticate_eq_mismatch_iff
  requestForPath {source t} hsource := by
    unfold authenticateUnlessSkipped
    cases source.path.any context.isPathSkipped with
    | true => simp
    | false =>
        simp only [Bool.false_eq_true, if_false, true_and]
        exact authenticate_eq_mismatch_iff hsource
  accessGate := Gate.access_eq_mismatch_iff
  call := Gate.intercept_eq_mismatch_iff

theorem goesByType_user : ∃ (context : SigningContext) (token : String) (now : Instant),
    context.Accepts token now .access ∧ (∀ later, ¬context.Accepts token later .refresh) ∧
      context.identityOf .refresh token now = .error .notRefreshToken := by
  let context : SigningContext :=
    ⟨[115], some "sub", defaultAccessLifetime, defaultRefreshLifetime, []⟩
  let now : Instant := ⟨1700000000 * 1000000000, by decide⟩
  let token := sign context.secret (context.issuedClaims .access "user-42" now now)
  let source : BearerSource := ⟨none, .ok token⟩
  have htrusted : context.TrustedAs .access token "user-42" now :=
    trustedAs_issued (by decide) rfl (by decide) (by decide) (by decide) (by decide)
      (Int.le_refl _) (Int.le_refl _)
  have hsource : source.token = .ok token := rfl
  have haccepted : context.Accepts token now .access :=
    .request hsource (htrusted.request source hsource)
  refine ⟨context, token, now, haccepted, fun later hlater => ?_, ?_⟩
  · exact absurd ((goesByType context).exclusive haccepted hlater) (by decide)
  · exact (goesByType context).refresh.mpr htrusted.readsType

end SigningContext

end BearerAuth
