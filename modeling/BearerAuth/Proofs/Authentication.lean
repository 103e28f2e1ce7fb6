import BearerAuth.Gate.Rpc
import BearerAuth.Proofs.Token.Issuing

/-! What a token is trusted for. A token counts for a type exactly if its claims say so, and
an issued token says what it was issued for unless its identity stands in that place. The
gates add nothing to this but the exempt paths. -/

namespace BearerAuth

open Token

/-! ## Types and identities in claims -/

theorem TokenType.ofName_eq_ok_iff {text : String} {type : TokenType} :
    ofName text = .ok type ↔ text = type.name := by
  constructor
  · intro h
    unfold ofName at h
    split at h
    · cases h
      assumption
    · split at h
      · cases h
        assumption
      · contradiction
  · rintro rfl
    exact ofName_name type

theorem TokenType.name_inj {type other : TokenType} : type.name = other.name ↔ type = other := by
  cases type <;> cases other <;> decide

namespace ClaimMap

theorem tokenType_eq_ok_iff {claims : ClaimMap} {type : TokenType} :
    claims.tokenType = .ok type ↔ claims.get? tokenTypeClaim = some (.str type.name) := by
  unfold tokenType
  split
  · simp_all
  · rename_i text htext
    simp [htext, TokenType.ofName_eq_ok_iff]
  · rename_i value hvalue hclaim
    simp only [reduceCtorEq, hclaim, Option.some.injEq, false_iff]
    exact fun h => hvalue _ h

theorem identity_eq_ok_iff {claims : ClaimMap} {identityKey : Option String} {found : String} :
    claims.identity identityKey = .ok found ↔
      match identityKey.filter (!·.isEmpty) with
      | none => found = ""
      | some key => found ≠ "" ∧ claims.get? key = some (.str found) := by
  rw [identity]
  cases identityKey.filter (!·.isEmpty) with
  | none => exact ⟨fun h => (Except.ok.inj h).symm, fun h => congrArg _ h.symm⟩
  | some key =>
      cases hget : claims.get? key with
      | none => simp [hget]
      | some value =>
          cases value with
          | str text =>
              simp only [hget, Option.some.injEq, Json.str.injEq]
              constructor
              · intro h
                split at h
                · contradiction
                · rename_i htext
                  cases h
                  exact ⟨by simpa using htext, rfl⟩
              · rintro ⟨hfound, rfl⟩
                rw [if_neg (by simpa using hfound)]
          | _ => simp [hget]

end ClaimMap

namespace SigningContext

variable {context : SigningContext} {token identity : String} {type required : TokenType}
  {now expires t : Instant}

/-! ## Checks for a type -/

theorem check_eq_ok_iff :
    context.check token t = .ok () ↔ ∃ claims, context.claims token t = .ok claims := by
  rw [check]
  cases context.claims token t with
  | error error => exact iff_of_false nofun nofun
  | ok claims => exact iff_of_true rfl ⟨claims, rfl⟩

theorem check_eq_error_iff {error : AuthError} :
    context.check token t = .error error ↔ context.claims token t = .error error := by
  rw [check]
  cases context.claims token t with
  | error found =>
      exact ⟨fun h => congrArg _ (Except.error.inj h), fun h => congrArg _ (Except.error.inj h)⟩
  | ok claims => exact iff_of_false nofun nofun

/-- A token is accepted for a type exactly if it is valid and says that it is of this type; then
its claims name the holder. -/
theorem identityOf_eq_ok_iff {found : String} :
    context.identityOf required token t = .ok found ↔
      ∃ claims, context.claims token t = .ok claims ∧ claims.tokenType = .ok required ∧
        claims.identity context.identityKey = .ok found := by
  simp only [identityOf, bind_eq_ok]
  constructor
  · rintro ⟨claims, hclaims, type, htype, h⟩
    split at h
    · rename_i heq
      exact ⟨claims, hclaims, heq ▸ htype, h⟩
    · contradiction
  · rintro ⟨claims, hclaims, htype, h⟩
    exact ⟨claims, hclaims, required, htype, by rw [if_pos rfl, h]⟩

theorem identityOf_of_type {claims : ClaimMap} (hclaims : context.claims token t = .ok claims)
    (htype : claims.tokenType = .ok type) :
    context.identityOf required token t =
      if type = required then claims.identity context.identityKey
      else .error required.mismatch := by
  simp only [identityOf, hclaims, htype, ok_bind]

theorem secret_ne_nil_of_identityOf {found : String}
    (h : context.identityOf required token t = .ok found) : context.secret ≠ [] := by
  obtain ⟨claims, hclaims, -⟩ := identityOf_eq_ok_iff.mp h
  exact (verify_eq_ok_iff.mp hclaims).1

theorem authenticate_of_token {source : BearerSource} (h : source.token = .ok token) :
    context.authenticate source t = context.identityOf .access token t := by
  rw [authenticate, h, ok_bind]

theorem authenticate_eq_ok_iff {source : BearerSource} :
    context.authenticate source t = .ok identity ↔
      ∃ token, source.token = .ok token ∧ context.identityOf .access token t = .ok identity :=
  bind_eq_ok

/-! ## Issued tokens -/

/-- The word that an issued token says its type with. -/
def statedType (context : SigningContext) (type : TokenType) (identity : String) : String :=
  if context.identityKey = some tokenTypeClaim then identity else type.name

theorem get?_tokenType_issuedClaims (hidentity : identity ≠ "") :
    (context.issuedClaims type identity now expires).get? tokenTypeClaim =
      some (.str (context.statedType type identity)) := by
  have himpersonal : (TokenClaims.impersonal ⟨type, some identity, now, expires⟩).get?
      tokenTypeClaim = some (.str type.name) := by
    rw [TokenClaims.get?_impersonal, if_neg (by decide), if_neg (by decide), if_neg (by decide),
      if_pos rfl]
  rw [issuedClaims, TokenClaims.get?_toMap, himpersonal, statedType]
  cases hkey : context.identityKey with
  | none => rfl
  | some key =>
      by_cases hempty : key = ""
      · simp [TokenClaims.holder?, hempty, tokenTypeClaim]
      · simp only [holder?_issued hempty hidentity, Option.some.injEq]
        by_cases h : key = tokenTypeClaim
        · simp [h]
        · simp [h]

theorem identity_issuedClaims {key : String} (hkey : context.identityKey = some key)
    (hnonempty : key ≠ "") (hidentity : identity ≠ "") :
    (context.issuedClaims type identity now expires).identity context.identityKey =
      .ok identity := by
  have hget : (context.issuedClaims type identity now expires).get? key =
      some (.str identity) := by
    rw [issuedClaims, TokenClaims.get?_toMap, hkey, holder?_issued hnonempty hidentity]
    exact if_pos rfl
  have hfilter : context.identityKey.filter (!·.isEmpty) = some key := by
    simp [hkey, Option.filter_some, hnonempty]
  simp [ClaimMap.identity, hfilter, hget, hidentity]

/-- Tokens can carry an identity: the name for identities, if there is one, is that of no claim
that a token needs, and there is an identity to stand under it. -/
structure CanCarry (context : SigningContext) (identity : String) : Prop where
  key_ne_empty : ∀ key ∈ context.identityKey, key ≠ ""
  key_free : ∀ key ∈ context.identityKey, key ∉ tokenTypeClaim :: validityClaims
  identity_ne_empty : context.identityKey.isSome → identity ≠ ""

/-- The identity that a token gives back; without a name to stand under it is lost. -/
def givenBack (context : SigningContext) (identity : String) : String :=
  if context.isIdentityRequired then identity else ""

theorem givenBack_of_isSome (h : context.identityKey.isSome) :
    context.givenBack identity = identity := if_pos h

theorem givenBack_givenBack :
    context.givenBack (context.givenBack identity) = context.givenBack identity := by
  unfold givenBack
  split
  · rfl
  · rfl

theorem get?_issuedClaims_of_mem {name : String} (h : context.CanCarry identity)
    (hname : name ∈ tokenTypeClaim :: validityClaims) :
    (context.issuedClaims type identity now expires).get? name =
      (TokenClaims.impersonal ⟨type, some identity, now, expires⟩).get? name := by
  refine get?_toMap_of_ne fun holder hholder heq => ?_
  exact h.key_free holder.1 (TokenClaims.identityKey_of_holder? hholder) (heq ▸ hname)

theorem tokenType_issuedClaims (h : context.CanCarry identity) :
    (context.issuedClaims type identity now expires).tokenType = .ok type := by
  rw [ClaimMap.tokenType_eq_ok_iff, get?_issuedClaims_of_mem h List.mem_cons_self,
    TokenClaims.get?_impersonal, if_neg (by decide), if_neg (by decide), if_neg (by decide),
    if_pos rfl]

theorem identity_issuedClaims_givenBack (h : context.CanCarry identity) :
    (context.issuedClaims type identity now expires).identity context.identityKey =
      .ok (context.givenBack identity) := by
  cases hkey : context.identityKey with
  | none =>
      rw [givenBack, isIdentityRequired, hkey]
      rfl
  | some key =>
      have hsome : context.identityKey.isSome := hkey ▸ rfl
      rw [← hkey, givenBack_of_isSome hsome]
      exact identity_issuedClaims hkey (h.key_ne_empty key hkey) (h.identity_ne_empty hsome)

/-- An issued token passes for another type only if its identity is the word for this type and
stands where the type should. -/
theorem identityOf_issued_eq_ok_iff (hsecret : context.secret ≠ []) (hidentity : identity ≠ "")
    (htype : type ≠ required) :
    (∃ found, context.identityOf required
        (sign context.secret (context.issuedClaims type identity now expires)) t = .ok found) ↔
      context.identityKey = some tokenTypeClaim ∧ identity = required.name ∧ 0 ≤ now.seconds ∧
        now.seconds ≤ t.seconds ∧ t.seconds ≤ expires.seconds := by
  have hstated : (context.issuedClaims type identity now expires).tokenType = .ok required ↔
      context.identityKey = some tokenTypeClaim ∧ identity = required.name := by
    rw [ClaimMap.tokenType_eq_ok_iff, get?_tokenType_issuedClaims hidentity, statedType]
    by_cases hkey : context.identityKey = some tokenTypeClaim
    · simp [hkey]
    · simp [hkey, TokenType.name_inj, htype]
  have hfree (hkey : context.identityKey = some tokenTypeClaim) :
      ∀ key ∈ context.identityKey, key ∉ validityClaims := by
    rw [hkey]
    rintro key ⟨⟩
    decide
  simp only [identityOf_eq_ok_iff]
  constructor
  · rintro ⟨found, claims, hclaims, hrequired, -⟩
    cases eq_issuedClaims_of_claims hsecret hclaims
    obtain ⟨hkey, hword⟩ := hstated.mp hrequired
    exact ⟨hkey, hword, (claims_issued_eq_ok_iff hsecret (hfree hkey)).mp hclaims⟩
  · rintro ⟨hkey, hword, htimes⟩
    exact ⟨identity, _, (claims_issued_eq_ok_iff hsecret (hfree hkey)).mpr htimes,
      hstated.mpr ⟨hkey, hword⟩, identity_issuedClaims hkey (by decide) hidentity⟩

end SigningContext

/-! ## Gates -/

theorem SigningContext.isPathSkipped_iff {context : SigningContext} {path : String} :
    context.isPathSkipped path = true ↔ SkipPath.Exempts context.skipPatterns path :=
  SkipPath.anyCovers_iff

namespace Gate

theorem status_rejection_ne (error : AuthError) : (rejection error).status ≠ 200 := by
  unfold rejection rejectionStatus
  split
  · simp [Http.Response.error, Http.Response.json]
  · simp [Http.Response.error, Http.Response.json]

theorem passage_eq_turnedAway_iff {type : TokenType} {result : Except AuthError String}
    {error : AuthError} : passage type result = .turnedAway error ↔ result = .error error := by
  cases result <;> simp [passage]

theorem passage_eq_admitted_iff {type : TokenType} {result : Except AuthError String}
    {identity : String} :
    passage type result = .admitted (some ⟨identity, type⟩) ↔ result = .ok identity := by
  cases result <;> simp [passage]

variable {context : SigningContext} {token : String} {t : Instant}

theorem refresh_admits_iff {headers : List Http.Header} (h : httpToken headers = .ok token) :
    (∃ caller, refresh context t headers = .admitted caller) ↔
      ∃ found, context.identityOf .refresh token t = .ok found := by
  simp only [refresh, h, ok_bind]
  cases context.identityOf .refresh token t <;> simp [passage]

theorem access_admits_iff {headers : List Http.Header} {path : String}
    (h : httpToken headers = .ok token) :
    (∃ caller, access context t headers path = .admitted (some caller)) ↔
      context.isPathSkipped path = false ∧
        ∃ found, context.identityOf .access token t = .ok found := by
  have htoken : (BearerSource.ofHttp headers path).token = .ok token := h
  rw [access, SigningContext.authenticate_of_token htoken]
  cases context.isPathSkipped path with
  | true => simp
  | false => cases context.identityOf .access token t <;> simp [passage]

/-- A call has no path, so that no pattern exempts it. -/
theorem authenticateUnlessSkipped_ofRpc (context : SigningContext) (metadata : List Http.Header)
    (t : Instant) : context.authenticateUnlessSkipped (.ofRpc metadata) t =
      context.authenticate (.ofRpc metadata) t := rfl

theorem intercept_eq_ok_iff {metadata : List Http.Header} {caller : Caller} :
    intercept context t metadata = .ok caller ↔ ∃ identity,
      context.authenticate (.ofRpc metadata) t = .ok identity ∧ caller = ⟨identity, .access⟩ := by
  rw [intercept, authenticateUnlessSkipped_ofRpc]
  cases context.authenticate (.ofRpc metadata) t <;> simp [eq_comm]

theorem intercept_eq_error_iff {metadata : List Http.Header} {status : RpcStatus} :
    intercept context t metadata = .error status ↔ ∃ error,
      context.authenticate (.ofRpc metadata) t = .error error ∧ status = .ofError error := by
  rw [intercept, authenticateUnlessSkipped_ofRpc]
  cases context.authenticate (.ofRpc metadata) t <;> simp [eq_comm]

theorem intercept_admits_iff {metadata : List Http.Header} (h : rpcToken metadata = .ok token) :
    (∃ caller, intercept context t metadata = .ok caller) ↔
      ∃ found, context.identityOf .access token t = .ok found := by
  have htoken : (BearerSource.ofRpc metadata).token = .ok token := h
  simp only [intercept_eq_ok_iff, SigningContext.authenticate_of_token htoken]
  constructor
  · rintro ⟨caller, identity, hidentity, -⟩
    exact ⟨identity, hidentity⟩
  · rintro ⟨identity, hidentity⟩
    exact ⟨_, identity, hidentity, rfl⟩

end Gate

end BearerAuth
