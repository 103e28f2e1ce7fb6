import BearerAuth.Proofs.Token.CustomClaims

/-! What the bare check of a token with claims of the caller's choice looks at besides the
signature and the times. Two other claims count: a subject that is an array or an object cannot be
read, and a token that names an audience is for somebody else. All the rest is left alone. -/

namespace BearerAuth

open Token

/-! ## Claims that are looked at -/

namespace ClaimMap

variable {claims : ClaimMap} {now expires : Instant} {name : String}

/-- The subject is an array or an object. -/
def HasCompoundSubject (claims : ClaimMap) : Prop :=
  (∃ items, claims.get? "sub" = some (.arr items)) ∨
    ∃ members, claims.get? "sub" = some (.obj members)

/-- The audience is a text or a list of texts. -/
def NamesAudience (claims : ClaimMap) : Prop :=
  (∃ text, claims.get? "aud" = some (.str text)) ∨
    ∃ texts : List String, claims.get? "aud" = some (.arr (texts.map .str))

theorem hasCompoundSubject_iff :
    claims.HasCompoundSubject ↔ (claims.get? "sub").any Json.isCompound = true := by
  rw [← not_iff_not, Bool.not_eq_true, any_isCompound_eq_false_iff, HasCompoundSubject, not_or,
    not_exists, not_exists]

theorem namesAudience_iff :
    claims.NamesAudience ↔ (claims.get? "aud").any isAudience = true := by
  rw [← not_iff_not, Bool.not_eq_true, any_isAudience_eq_false_iff, NamesAudience, not_or,
    not_exists, not_exists]

theorem get?_completed_of_absent (h : claims.get? name = none) :
    (SigningContext.completed claims now expires).get? name = ownTime? now expires name := by
  rw [completes_completed, h, Option.none_or]

theorem get?_completed_of_not_time (h : ownTime? now expires name = none) :
    (SigningContext.completed claims now expires).get? name = claims.get? name := by
  rw [completes_completed, h, Option.or_none]

/-- What claims that state no times say about their validity once the times are filled in. -/
theorem ofMembers_completed (hexp : claims.get? "exp" = none) (hnbf : claims.get? "nbf" = none) :
    Validity.ofMembers (SigningContext.completed claims now expires).members =
      if (claims.get? "sub").any Json.isCompound then .error .json
      else if expires.seconds < 0 then .error (.invalidClaimFormat "exp")
      else if now.seconds < 0 then .error (.invalidClaimFormat "nbf")
      else .ok ⟨some expires.seconds.toNat, some now.seconds.toNat,
        (claims.get? "aud").any isAudience⟩ := by
  have hexpValue : (SigningContext.completed claims now expires).get? "exp" =
      some expires.toJson := get?_completed_of_absent hexp
  have hnbfValue : (SigningContext.completed claims now expires).get? "nbf" =
      some now.toJson := get?_completed_of_absent hnbf
  have hsub : (SigningContext.completed claims now expires).get? "sub" = claims.get? "sub" :=
    get?_completed_of_not_time rfl
  have haud : (SigningContext.completed claims now expires).get? "aud" = claims.get? "aud" :=
    get?_completed_of_not_time rfl
  have hreadable : isReadable (SigningContext.completed claims now expires).members =
      !(claims.get? "sub").any Json.isCompound := by
    rw [Bool.eq_iff_iff, isReadable_members_iff, hexpValue, hnbfValue, hsub]
    simp [Instant.toJson, Json.isFilled]
  have hexpires := timeClaim_of_instant ((lookup?_members _ _).trans hexpValue)
  have hstarts := timeClaim_of_instant ((lookup?_members _ _).trans hnbfValue)
  simp only [Validity.ofMembers, hreadable, hexpires, hstarts, lookup?_members, haud, Bool.not_not]
  cases (claims.get? "sub").any Json.isCompound with
  | true => rfl
  | false =>
      by_cases hend : expires.seconds < 0
      · simp only [if_pos hend, if_neg (Int.not_le.mpr hend)]
        rfl
      · by_cases hstart : now.seconds < 0
        · simp only [if_neg hend, if_pos hstart, if_pos (Int.not_lt.mp hend),
            if_neg (Int.not_le.mpr hstart)]
          rfl
        · simp only [if_neg hend, if_neg hstart, if_pos (Int.not_lt.mp hend),
            if_pos (Int.not_lt.mp hstart)]
          rfl

end ClaimMap

/-! ## The check of a token at the time it is issued -/

namespace SigningContext

variable {context : SigningContext} {claims : ClaimMap} {now expires : Instant}

/-- The answers to a token at the time that its times were filled in with. The first condition that
holds counts. -/
theorem check_sign_completed (hsecret : context.secret ≠ [])
    (hexact : claims.toJson.isExact = true)
    (hnesting : (SigningContext.completed claims now expires).toJson.nesting ≤ Json.maxNesting)
    (hexp : claims.get? "exp" = none) (hnbf : claims.get? "nbf" = none)
    (hforward : now.seconds ≤ expires.seconds) :
    context.check (sign context.secret (SigningContext.completed claims now expires)) now =
      if (claims.get? "sub").any Json.isCompound then .error (Fault.refusal .json)
      else if expires.seconds < 0 then .error (Fault.refusal (.invalidClaimFormat "exp"))
      else if now.seconds < 0 then .error (Fault.refusal (.invalidClaimFormat "nbf"))
      else if (claims.get? "aud").any isAudience then .error (Fault.refusal .invalidAudience)
      else .ok () := by
  have hcompleted := (ClaimMap.completes_completed claims now expires).isExact hexact
  rw [check, SigningContext.claims, verify_sign now hsecret hcompleted hnesting,
    ClaimMap.ofMembers_completed hexp hnbf]
  cases (claims.get? "sub").any Json.isCompound with
  | true => rfl
  | false =>
      by_cases hend : expires.seconds < 0
      · simp [hend]
      by_cases hstart : now.seconds < 0
      · simp [hend, hstart]
      -- The token is in its lifetime, so that nothing but the audience is left to decide.
      simp only [Bool.false_eq_true, if_false, hend, hstart]
      rw [Verdict.resultAt_of_between (by rintro n ⟨⟩; omega) (by rintro n ⟨⟩; omega),
        Verdict.ofClaims]
      cases (claims.get? "aud").any isAudience <;> rfl

/-- How the check of a token answers at the time it is issued, for claims that state no times. It
accepts them, unless it is before 1970 or the claims have a subject that is an array or an object,
or name an audience. -/
structure CheckedWhenIssued (context : SigningContext) (claims : ClaimMap) (now expires : Instant)
    (token : String) : Prop where
  accepted : context.check token now = .ok () ↔
    0 ≤ now.seconds ∧ ¬claims.HasCompoundSubject ∧ ¬claims.NamesAudience
  compoundSubject : claims.HasCompoundSubject →
    context.check token now = .error (.invalidSignature "JSON error: <json>")
  early : ¬claims.HasCompoundSubject → now.seconds < 0 →
    context.check token now = .error (.invalidSignature
      ("Invalid format for claim: " ++ if expires.seconds < 0 then "exp" else "nbf"))
  audience : ¬claims.HasCompoundSubject → 0 ≤ now.seconds → claims.NamesAudience →
    context.check token now = .error (.invalidSignature "InvalidAudience")

theorem checkedWhenIssued_sign (hsecret : context.secret ≠ [])
    (hexact : claims.toJson.isExact = true)
    (hnesting : (SigningContext.completed claims now expires).toJson.nesting ≤ Json.maxNesting)
    (hexp : claims.get? "exp" = none) (hnbf : claims.get? "nbf" = none)
    (hforward : now.seconds ≤ expires.seconds) :
    context.CheckedWhenIssued claims now expires
      (sign context.secret (SigningContext.completed claims now expires)) := by
  have hanswer := check_sign_completed hsecret hexact hnesting hexp hnbf hforward
  refine ⟨?_, ?_, ?_, ?_⟩
  all_goals simp only [hanswer, ClaimMap.hasCompoundSubject_iff, ClaimMap.namesAudience_iff]
  · by_cases hsub : (claims.get? "sub").any Json.isCompound = true
    · simp [hsub]
    by_cases hend : expires.seconds < 0
    · simp [hsub, hend, Int.lt_of_le_of_lt hforward hend]
    by_cases hstart : now.seconds < 0
    · simp [hsub, hend, hstart]
    cases (claims.get? "aud").any isAudience with
    | true => simp [hsub, hend, hstart]
    | false => simp [hsub, hend, hstart, Int.not_lt.mp hstart]
  · intro hsub
    rw [if_pos hsub]
    rfl
  · intro hsub hstart
    rw [if_neg hsub]
    by_cases hend : expires.seconds < 0
    · rw [if_pos hend, if_pos hend]
      rfl
    · rw [if_neg hend, if_pos hstart, if_neg hend]
      rfl
  · intro hsub hstart haud
    rw [if_neg hsub, if_neg (Int.not_lt.mpr (Int.le_trans hstart hforward)),
      if_neg (Int.not_lt.mpr hstart), if_pos haud]
    rfl

/-- Claims without floating-point numbers that state no times are signed with the times added, and
then checked as they are, except for the subject and the audience. -/
theorem issueClaims_checked (context : SigningContext) (claims : ClaimMap) (now expires : Instant)
    (hsecret : context.secret ≠ []) (hexact : claims.toJson.isExact = true)
    (hnesting : (SigningContext.completed claims now expires).toJson.nesting ≤ 127)
    (hexp : claims.get? "exp" = none) (hnbf : claims.get? "nbf" = none)
    (hexpires : now.plus? context.accessLifetime = some expires)
    (hlifetime : 0 ≤ context.accessLifetime.nanos) :
    ∃ token, context.issueClaims claims now = .ok (token, expires) ∧
      context.CheckedWhenIssued claims now expires token := by
  have hforward : now.seconds ≤ expires.seconds := Instant.seconds_le_of_plus? hexpires hlifetime
  exact ⟨_, issueClaims_eq_ok hsecret hexpires,
    checkedWhenIssued_sign hsecret hexact hnesting hexp hnbf hforward⟩

/-- Claims with a text for the subject, and numbers and lists for others. -/
def plainClaims : ClaimMap :=
  .ofMembers [("aud", .atom (.whole ⟨7, by decide⟩)), ("iss", .arr [.str "a", .null]),
    ("sub", .str "user-42")]

theorem issueClaims_checked_plainClaims : ∃ token,
    issueClaims ⟨[115], none, defaultAccessLifetime, defaultRefreshLifetime, []⟩ plainClaims
        ⟨1700000000 * 1000000000, by decide⟩ =
      .ok (token, ⟨1700007200 * 1000000000, by decide⟩) ∧
      check ⟨[115], none, defaultAccessLifetime, defaultRefreshLifetime, []⟩ token
        ⟨1700000000 * 1000000000, by decide⟩ = .ok () := by
  obtain ⟨token, hissue, hchecked⟩ := issueClaims_checked
    ⟨[115], none, defaultAccessLifetime, defaultRefreshLifetime, []⟩ plainClaims
    ⟨1700000000 * 1000000000, by decide⟩ ⟨1700007200 * 1000000000, by decide⟩ (by decide) rfl
    (by decide) rfl rfl rfl (by decide)
  refine ⟨token, hissue, hchecked.accepted.mpr ⟨by decide, ?_, ?_⟩⟩
  · rw [ClaimMap.hasCompoundSubject_iff]
    decide
  · rw [ClaimMap.namesAudience_iff]
    decide

/-- A token that names an audience is refused as soon as it has been issued. -/
theorem issueClaims_refused_audience : ∃ token,
    issueClaims ⟨Text.octets "s3cr3t!!", none, defaultAccessLifetime, defaultRefreshLifetime, []⟩
        (.ofMembers [("aud", .str "web")]) ⟨1700000000 * 1000000000, by decide⟩ =
      .ok (token, ⟨1700007200 * 1000000000, by decide⟩) ∧
      check ⟨Text.octets "s3cr3t!!", none, defaultAccessLifetime, defaultRefreshLifetime, []⟩ token
          ⟨1700000000 * 1000000000, by decide⟩ =
        .error (.invalidSignature "InvalidAudience") :=
  have hsecret : Text.octets "s3cr3t!!" ≠ [] := by decide
  ⟨_, issueClaims_eq_ok hsecret rfl,
    (checkedWhenIssued_sign hsecret rfl (by decide) rfl rfl (by decide)).audience
      (by rw [ClaimMap.hasCompoundSubject_iff]; decide) (by decide) (.inl ⟨"web", rfl⟩)⟩

end SigningContext

end BearerAuth
