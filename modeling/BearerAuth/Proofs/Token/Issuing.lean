import BearerAuth.Authentication
import BearerAuth.Proofs.ClaimMap
import BearerAuth.Proofs.Token.Verification
import BearerAuth.Token.Issue

/-! What becomes of an issued token. It is authentic under the secret that signed it, so its
own claims alone decide when it is accepted, and verification gives back the claims that
were written. -/

namespace BearerAuth

open Token

/-! ## Claims of issued tokens -/

namespace TokenClaims

/-- The name that the identity is written under and the identity, if it is written at all. -/
def holder? (claims : TokenClaims) (identityKey : Option String) : Option (String × String) :=
  match identityKey, claims.identity with
  | some key, some identity =>
      if key.isEmpty || identity.isEmpty then none else some (key, identity)
  | _, _ => none

theorem identityKey_of_holder? {claims : TokenClaims} {identityKey : Option String}
    {holder : String × String} (h : holder ∈ claims.holder? identityKey) :
    identityKey = some holder.1 := by
  unfold holder? at h
  split at h
  · simp only [Option.mem_def, Option.ite_none_left_eq_some, Option.some.injEq] at h
    rw [← h.2]
  · contradiction

/-- The claims without the identity. -/
def impersonal (claims : TokenClaims) : ClaimMap := claims.toMap none

theorem toMap_eq (claims : TokenClaims) (identityKey : Option String) :
    claims.toMap identityKey =
      match claims.holder? identityKey with
      | some (key, identity) => claims.impersonal.setText key identity
      | none => claims.impersonal := by
  obtain ⟨type, identity, issued, expires⟩ := claims
  cases identityKey with
  | none => rfl
  | some key =>
      cases identity with
      | none => rfl
      | some identity =>
          simp only [toMap, holder?]
          by_cases h : (key.isEmpty || identity.isEmpty) = true
          · rw [if_pos h, if_pos h]
            rfl
          · rw [if_neg h, if_neg h]
            rfl

theorem get?_impersonal (claims : TokenClaims) (name : String) :
    claims.impersonal.get? name =
      if "exp" = name then some claims.expires.toJson
      else if "iat" = name then some claims.issued.toJson
      else if "nbf" = name then some claims.issued.toJson
      else if tokenTypeClaim = name then some (.str claims.type.name)
      else none := by
  simp [impersonal, toMap]

/-- The identity takes the place of a claim of the same name and leaves the others alone. -/
theorem get?_toMap (claims : TokenClaims) (identityKey : Option String) (name : String) :
    (claims.toMap identityKey).get? name =
      match claims.holder? identityKey with
      | some (key, identity) =>
          if key = name then some (.str identity) else claims.impersonal.get? name
      | none => claims.impersonal.get? name := by
  rw [toMap_eq]
  cases claims.holder? identityKey with
  | none => rfl
  | some holder => exact ClaimMap.get?_setText _ holder.1 holder.2 name

theorem forall_mem_impersonal {claims : TokenClaims} {p : Json → Prop}
    (htext : ∀ text, p (.str text)) (hinstant : ∀ instant : Instant, p instant.toJson) :
    ∀ member ∈ claims.impersonal.members, p member.2 := by
  have hinstants {base : ClaimMap} (hbase : ∀ member ∈ base.members, p member.2)
      (name : String) (instant : Instant) :
      ∀ member ∈ (base.set name instant.toJson instant.isCanonical_toJson).members, p member.2 :=
    ClaimMap.forall_mem_set (p := fun member => p member.2) (hinstant instant) hbase
  refine hinstants (hinstants (hinstants ?_ "nbf" _) "iat" _) "exp" _
  exact ClaimMap.forall_mem_set (p := fun member => p member.2) (htext claims.type.name)
    (by simp [ClaimMap.empty])

/-- What is true of texts and of instants is true of the claims of an issued token. -/
theorem forall_mem_toMap {claims : TokenClaims} {identityKey : Option String} {p : Json → Prop}
    (htext : ∀ text, p (.str text)) (hinstant : ∀ instant : Instant, p instant.toJson) :
    ∀ member ∈ (claims.toMap identityKey).members, p member.2 := by
  rw [toMap_eq]
  have himpersonal : ∀ member ∈ claims.impersonal.members, p member.2 :=
    forall_mem_impersonal htext hinstant
  cases claims.holder? identityKey with
  | none => exact himpersonal
  | some holder =>
      exact ClaimMap.forall_mem_set (p := fun member => p member.2) (htext holder.2) himpersonal

theorem isCompound_toMap {claims : TokenClaims} {identityKey : Option String} {name : String}
    {value : Json} (h : (claims.toMap identityKey).get? name = some value) :
    value.isCompound = false :=
  forall_mem_toMap (p := fun value => value.isCompound = false) (fun _ => rfl) (fun _ => rfl)
    (name, value) (ClaimMap.mem_of_get? h)

theorem isExact_toMap (claims : TokenClaims) (identityKey : Option String) :
    (claims.toMap identityKey).toJson.isExact = true :=
  Json.membersExact_iff.mpr
    (forall_mem_toMap (p := fun value => value.isExact = true) (fun _ => rfl) (fun _ => rfl))

theorem nesting_toMap (claims : TokenClaims) (identityKey : Option String) :
    (claims.toMap identityKey).toJson.nesting ≤ Json.maxNesting := by
  have hmembers : Json.nestingOfMembers (claims.toMap identityKey).members ≤ 0 :=
    Json.nestingOfMembers_le_iff.mpr
      (forall_mem_toMap (p := fun value => value.nesting ≤ 0) (fun _ => Nat.le_refl 0)
        (fun _ => Nat.le_refl 0))
  simp only [ClaimMap.toJson, Json.nesting, Json.maxNesting]
  omega

end TokenClaims

/-! ## Signed claims -/

namespace Token

theorem holdsValue_segment {value : Json} (hexact : value.isExact = true)
    (hnesting : value.nesting ≤ Json.maxNesting) : HoldsValue (segment value) value :=
  ⟨_, rfl, Json.ofOctets?_text hexact hnesting⟩

theorem holdsObject_segment {members : List Member}
    (hexact : (Json.obj members).isExact = true)
    (hnesting : (Json.obj members).nesting ≤ Json.maxNesting) :
    HoldsObject (segment (.obj members)) members :=
  holdsValue_segment hexact hnesting

theorem namesAlgorithm_issuedHeader : NamesAlgorithm (segment issuedHeader) .hs256 :=
  ⟨_, holdsObject_segment rfl (by decide), by decide⟩

/-- Two segments with the code that an algorithm gives for both under a key. -/
def coded (algorithm : MacAlgorithm) (key header claims : List UInt8) : Compact :=
  ⟨header, claims, Base64Url.encode (algorithm.code key (header ++ dot :: claims))⟩

theorem authentic_coded {algorithm : MacAlgorithm} {header claims : List UInt8}
    {members : List Member} (key : List UInt8) (hheader : NamesAlgorithm header algorithm)
    (hclaims : HoldsObject claims members) :
    Authentic (coded algorithm key header claims) key algorithm members :=
  ⟨hheader, hclaims, rfl⟩

theorem authentic_signed (secret : List UInt8) {claims : ClaimMap}
    (hexact : claims.toJson.isExact = true)
    (hnesting : claims.toJson.nesting ≤ Json.maxNesting) :
    Authentic (signed secret claims) secret .hs256 claims.members :=
  authentic_coded secret namesAlgorithm_issuedHeader (holdsObject_segment hexact hnesting)

theorem octets_sign (secret : List UInt8) (claims : ClaimMap) :
    Text.octets (sign secret claims) = (signed secret claims).bytes := by
  refine Text.octets_ofAscii fun b hb => ?_
  exact Nat.lt_succ_of_lt (Compact.visible_of_encoded rfl rfl rfl b hb).2

/-- What becomes of a signed token under its secret is for its claims to say. -/
theorem verify_sign {secret : List UInt8} {claims : ClaimMap} (now : Instant)
    (hsecret : secret ≠ []) (hexact : claims.toJson.isExact = true)
    (hnesting : claims.toJson.nesting ≤ Json.maxNesting) :
    verify (sign secret claims) secret now =
      match Validity.ofMembers claims.members with
      | .error fault => .error fault.refusal
      | .ok validity => (Verdict.ofClaims claims.members validity).resultAt now := by
  rw [verify, examine_of_authentic (octets_sign secret claims) hsecret
    (authentic_signed secret hexact hnesting)]
  cases Validity.ofMembers claims.members <;> rfl

/-- A signed token is accepted under its secret as long as its claims admit the time, and the
result is the claims that were signed. -/
theorem verify_sign_eq_ok_iff {secret : List UInt8} {claims found : ClaimMap} {now : Instant}
    (hsecret : secret ≠ []) (hexact : claims.toJson.isExact = true)
    (hnesting : claims.toJson.nesting ≤ Json.maxNesting) :
    verify (sign secret claims) secret now = .ok found ↔
      (∃ validity, Validity.ofMembers claims.members = .ok validity ∧ validity.Admits now) ∧
        found = claims := by
  rw [verify_sign now hsecret hexact hnesting]
  cases Validity.ofMembers claims.members with
  | error fault => simp
  | ok validity =>
      simp only [Verdict.resultAt_ofClaims_eq_ok_iff, ClaimMap.ofMembers_members, Except.ok.injEq,
        exists_eq_left']

theorem verify_sign_empty {secret : List UInt8} (hsecret : secret ≠ []) (now : Instant) :
    verify (sign secret .empty) secret now = .ok .empty :=
  (verify_sign_eq_ok_iff hsecret rfl (by decide)).mpr
    ⟨⟨⟨none, none, false⟩, rfl, by simp, by simp, rfl⟩, rfl⟩

/-! ## Validity of issued tokens -/

/-- The claims that decide when and for whom a token is valid. -/
def validityClaims : List String := ["exp", "nbf", "aud"]

theorem timeClaim_of_instant {members : List Member} {name : String} {instant : Instant}
    (h : Json.lookup? members name = some instant.toJson) :
    timeClaim members name =
      if 0 ≤ instant.seconds then .ok (some instant.seconds.toNat)
      else .error (.invalidClaimFormat name) := by
  simp only [timeClaim, h, secondOf?, Instant.toJson]
  by_cases hpositive : 0 ≤ instant.seconds
  · simp [hpositive]
  · simp [hpositive]

theorem timeClaim_eq_ok_iff {members : List Member} {name : String} {instant : Instant}
    (h : Json.lookup? members name = some instant.toJson) {found : Option Nat} :
    timeClaim members name = .ok found ↔
      0 ≤ instant.seconds ∧ found = some instant.seconds.toNat := by
  rw [timeClaim_of_instant h]
  by_cases hpositive : 0 ≤ instant.seconds
  · simp [hpositive, eq_comm]
  · simp [hpositive]

theorem isReadable_toMap (claims : TokenClaims) (identityKey : Option String) :
    isReadable (claims.toMap identityKey).members = true := by
  have hcompound (name : String) :
      ((claims.toMap identityKey).get? name).any Json.isCompound = false := by
    rw [Option.any_eq_false]
    intro value hvalue
    simpa using TokenClaims.isCompound_toMap hvalue
  have hfilled (name : String) :
      ((claims.toMap identityKey).get? name).any Json.isFilled = false := by
    rw [Option.any_eq_false]
    intro value hvalue
    have hvalue := TokenClaims.isCompound_toMap hvalue
    cases value <;> simp_all [Json.isFilled, Json.isCompound]
  simp [isReadable, ClaimMap.lookup?_members, ClaimMap.isUnrepeated_members, hcompound, hfilled]

/-- The times of an issued token, unless the identity takes their place. -/
theorem get?_toMap_of_ne {claims : TokenClaims} {identityKey : Option String} {name : String}
    (h : ∀ holder ∈ claims.holder? identityKey, holder.1 ≠ name) :
    (claims.toMap identityKey).get? name = claims.impersonal.get? name := by
  rw [TokenClaims.get?_toMap]
  cases hholder : claims.holder? identityKey with
  | none => rfl
  | some holder => exact if_neg (h holder hholder)

/-- An issued token is valid from the second it was issued in to the second it expires in,
neither of which may lie before 1970. -/
theorem admits_toMap_iff {claims : TokenClaims} {identityKey : Option String} {now : Instant}
    (h : ∀ holder ∈ claims.holder? identityKey, holder.1 ∉ validityClaims) :
    (∃ validity, Validity.ofMembers (claims.toMap identityKey).members = .ok validity ∧
        validity.Admits now) ↔
      0 ≤ claims.issued.seconds ∧ claims.issued.seconds ≤ now.seconds ∧
        now.seconds ≤ claims.expires.seconds := by
  have hget (name : String) (hname : name ∈ validityClaims) :
      Json.lookup? (claims.toMap identityKey).members name = claims.impersonal.get? name := by
    rw [ClaimMap.lookup?_members]
    exact get?_toMap_of_ne fun holder hholder heq => h holder hholder (heq ▸ hname)
  have hexpires : Json.lookup? (claims.toMap identityKey).members "exp" =
      some claims.expires.toJson := by
    rw [hget "exp" (by decide), TokenClaims.get?_impersonal, if_pos rfl]
  have hstarts : Json.lookup? (claims.toMap identityKey).members "nbf" =
      some claims.issued.toJson := by
    rw [hget "nbf" (by decide), TokenClaims.get?_impersonal, if_neg (by decide),
      if_neg (by decide), if_pos rfl]
  have haudience : Json.lookup? (claims.toMap identityKey).members "aud" = none := by
    rw [hget "aud" (by decide), TokenClaims.get?_impersonal, if_neg (by decide),
      if_neg (by decide), if_neg (by decide), if_neg (by decide)]
  simp only [Validity.ofMembers_eq_ok_iff, isReadable_toMap, haudience,
    timeClaim_eq_ok_iff hexpires, timeClaim_eq_ok_iff hstarts, true_and]
  constructor
  · rintro ⟨⟨expires, starts, hasAudience⟩, ⟨⟨hend, rfl⟩, ⟨hissued, rfl⟩, -⟩, hadmits⟩
    have hlast := hadmits.notExpired _ rfl
    have hfirst := hadmits.started _ rfl
    omega
  · rintro ⟨hissued, hfirst, hlast⟩
    refine ⟨⟨some _, some _, false⟩, ⟨⟨by omega, rfl⟩, ⟨hissued, rfl⟩, rfl⟩, ?_, ?_, rfl⟩
    · simp
      omega
    · simp
      omega

end Token

namespace SigningContext

variable {context : SigningContext} {type : TokenType} {identity : String}
  {now expires : Instant}

theorem holder?_issued {key : String} (hkey : key ≠ "") (hidentity : identity ≠ "") :
    TokenClaims.holder? ⟨type, some identity, now, expires⟩ (some key) = some (key, identity) := by
  simp [TokenClaims.holder?, hkey, hidentity]

/-- What is accepted as an issued token has the claims that it was issued with. -/
theorem eq_issuedClaims_of_claims {t : Instant} {found : ClaimMap} (hsecret : context.secret ≠ [])
    (h : context.claims (sign context.secret (context.issuedClaims type identity now expires)) t =
      .ok found) :
    found = context.issuedClaims type identity now expires :=
  ((verify_sign_eq_ok_iff hsecret (TokenClaims.isExact_toMap _ _)
    (TokenClaims.nesting_toMap _ _)).mp h).2

/-- An issued token whose identity leaves the validity claims alone is accepted from the second
it was issued in to the second it expires in. -/
theorem claims_issued_eq_ok_iff {t : Instant} (hsecret : context.secret ≠ [])
    (hfree : ∀ key ∈ context.identityKey, key ∉ validityClaims) :
    (context.claims (sign context.secret (context.issuedClaims type identity now expires)) t =
        .ok (context.issuedClaims type identity now expires)) ↔
      0 ≤ now.seconds ∧ now.seconds ≤ t.seconds ∧ t.seconds ≤ expires.seconds := by
  have hholder : ∀ holder ∈ TokenClaims.holder? ⟨type, some identity, now, expires⟩
      context.identityKey, holder.1 ∉ validityClaims := fun holder hholder =>
    hfree holder.1 (TokenClaims.identityKey_of_holder? hholder)
  rw [SigningContext.claims, issuedClaims, verify_sign_eq_ok_iff hsecret
    (TokenClaims.isExact_toMap _ _) (TokenClaims.nesting_toMap _ _), admits_toMap_iff hholder]
  exact and_iff_left rfl

theorem signingSecret_eq_ok_iff {secret : List UInt8} :
    context.signingSecret = .ok secret ↔ context.secret ≠ [] ∧ context.secret = secret := by
  by_cases h : context.secret = []
  · simp [signingSecret, hasSecret, h]
  · simp [signingSecret, hasSecret, h]

theorem expiry_eq_ok_iff {lifetime : Span} :
    expiry now lifetime = .ok expires ↔ now.plus? lifetime = some expires := by
  unfold expiry
  cases now.plus? lifetime <;> simp

/-- Issuing succeeds exactly where there is a secret and both lifetimes end in the range of the
clock. -/
theorem issue_eq_ok_iff {pair : TokenPair} :
    context.issue identity now = .ok pair ↔
      context.secret ≠ [] ∧ ∃ access refresh, now.plus? context.accessLifetime = some access ∧
        now.plus? context.refreshLifetime = some refresh ∧
        pair =
          { accessToken := sign context.secret (context.issuedClaims .access identity now access)
            refreshToken := sign context.secret (context.issuedClaims .refresh identity now refresh)
            accessExpires := access
            refreshExpires := refresh } := by
  simp only [issue, bind_eq_ok, signingSecret_eq_ok_iff, expiry_eq_ok_iff]
  constructor
  · rintro ⟨secret, ⟨hsecret, rfl⟩, access, haccess, refresh, hrefresh, hpair⟩
    exact ⟨hsecret, access, refresh, haccess, hrefresh, (Except.ok.inj hpair).symm⟩
  · rintro ⟨hsecret, access, refresh, haccess, hrefresh, rfl⟩
    exact ⟨_, ⟨hsecret, rfl⟩, access, haccess, refresh, hrefresh, rfl⟩

/-- Both lifetimes that start at a time end in the range of the clock. -/
def CanIssueAt (context : SigningContext) (now : Instant) : Prop :=
  ∃ access refresh, now.plus? context.accessLifetime = some access ∧
    now.plus? context.refreshLifetime = some refresh

theorem issue_of_not_canIssueAt (hsecret : context.secret ≠ []) (h : ¬context.CanIssueAt now) :
    context.issue identity now = .error .clockOverflow := by
  have hsigning := signingSecret_eq_ok_iff.mpr ⟨hsecret, rfl⟩
  have hover {lifetime : Span} (hnone : now.plus? lifetime = none) :
      expiry now lifetime = .error .clockOverflow := by
    rw [expiry, hnone]
  cases haccess : now.plus? context.accessLifetime with
  | none =>
      rw [issue, hsigning, hover haccess]
      rfl
  | some access =>
      cases hrefresh : now.plus? context.refreshLifetime with
      | none =>
          rw [issue, hsigning, expiry_eq_ok_iff.mpr haccess, hover hrefresh]
          rfl
      | some refresh => exact absurd ⟨access, refresh, haccess, hrefresh⟩ h

/-- With a secret, issuing fails only where the clock cannot reach the end of a lifetime. -/
theorem issue_eq_error_iff {error : IssueError} (hsecret : context.secret ≠ []) :
    context.issue identity now = .error error ↔
      ¬context.CanIssueAt now ∧ error = .clockOverflow := by
  by_cases hissue : context.CanIssueAt now
  · obtain ⟨access, refresh, haccess, hrefresh⟩ := hissue
    rw [issue_eq_ok_iff.mpr ⟨hsecret, access, refresh, haccess, hrefresh, rfl⟩]
    exact iff_of_false nofun fun h => h.1 ⟨access, refresh, haccess, hrefresh⟩
  · rw [issue_of_not_canIssueAt hsecret hissue]
    simp [hissue, eq_comm]

end SigningContext

end BearerAuth
