import BearerAuth.Proofs.Token.RegisteredClaims

/-! Tokens with claims of the caller's choice. Issuing adds the times that are missing and leaves
every other claim alone; verification gives back what was signed, nested values included, exactly
while the claims themselves admit the time. -/

namespace BearerAuth

open Token

/-! ## Missing times -/

namespace ClaimMap

/-- The time that is written under a name if the claims have none there. -/
def ownTime? (now expires : Instant) (name : String) : Option Json :=
  if "exp" = name then some expires.toJson
  else if "iat" = name then some now.toJson
  else if "nbf" = name then some now.toJson
  else none

theorem isSome_ownTime?_iff {now expires : Instant} {name : String} :
    (ownTime? now expires name).isSome = true ↔ name ∈ ["exp", "iat", "nbf"] := by
  unfold ownTime?
  split_ifs with hexp hiat hnbf
  · simp [← hexp]
  · simp [← hiat]
  · simp [← hnbf]
  · simp [Ne.symm hexp, Ne.symm hiat, Ne.symm hnbf]

/-- Claims with their missing times, and otherwise as they were given. -/
def Completes (completed claims : ClaimMap) (now expires : Instant) : Prop :=
  ∀ name, completed.get? name = (claims.get? name).or (ownTime? now expires name)

theorem completes_completed (claims : ClaimMap) (now expires : Instant) :
    (SigningContext.completed claims now expires).Completes claims now expires := by
  intro name
  simp only [SigningContext.completed, get?_setNew, ownTime?]
  by_cases hexp : "exp" = name
  · subst hexp
    simp
  by_cases hiat : "iat" = name
  · subst hiat
    simp
  by_cases hnbf : "nbf" = name
  · subst hnbf
    simp
  simp [hexp, hiat, hnbf]

theorem Completes.eq_completed {completed claims : ClaimMap} {now expires : Instant}
    (h : completed.Completes claims now expires) :
    completed = SigningContext.completed claims now expires :=
  eq_of_get? fun name => (h name).trans (completes_completed claims now expires name).symm

theorem Completes.isExact {completed claims : ClaimMap} {now expires : Instant}
    (h : completed.Completes claims now expires) (hexact : claims.toJson.isExact = true) :
    completed.toJson.isExact = true := by
  rw [h.eq_completed]
  have hclaims := Json.membersExact_iff.mp hexact
  apply Json.membersExact_iff.mpr
  exact forall_mem_setNew (p := fun member => member.2.isExact = true) rfl
    (forall_mem_setNew (p := fun member => member.2.isExact = true) rfl
      (forall_mem_setNew (p := fun member => member.2.isExact = true) rfl hclaims))

theorem Completes.isSome_time {completed claims : ClaimMap} {now expires : Instant}
    (h : completed.Completes claims now expires) {name : String}
    (hname : name ∈ ["exp", "iat", "nbf"]) : ∃ value, completed.get? name = some value := by
  apply Option.isSome_iff_exists.mp
  rw [h name, Option.isSome_or, isSome_ownTime?_iff.mpr hname, Bool.or_true]

/-! ## Validity of exact claims -/

/-- Claims with integers for times that admit the present second, no array or object for the
subject, and no audience. -/
structure AdmitsAt (claims : ClaimMap) (t : Instant) : Prop where
  expires : ∃ n : Whole, claims.get? "exp" = some (.atom (.whole n)) ∧ t.seconds ≤ n.value
  starts : ∃ n : Whole, claims.get? "nbf" = some (.atom (.whole n)) ∧ 0 ≤ n.value ∧
    n.value ≤ t.seconds
  subject_ne_arr : ∀ items, claims.get? "sub" ≠ some (.arr items)
  subject_ne_obj : ∀ members, claims.get? "sub" ≠ some (.obj members)
  audience_ne_str : ∀ text, claims.get? "aud" ≠ some (.str text)
  audience_ne_texts : ∀ texts : List String, claims.get? "aud" ≠ some (.arr (texts.map .str))

variable {claims : ClaimMap} {name : String} {t : Instant}

theorem isExact_of_get? {value : Json} (hexact : claims.toJson.isExact = true)
    (h : claims.get? name = some value) : value.isExact = true :=
  Json.membersExact_iff.mp hexact (name, value) (mem_of_get? h)

theorem secondOf?_eq_some_iff {value : Json} (hexact : value.isExact = true) {n : Nat} :
    secondOf? value = some n ↔
      ∃ whole : Whole, value = .atom (.whole whole) ∧ 0 ≤ whole.value ∧ n = whole.value.toNat := by
  cases value with
  | atom atom =>
      cases atom with
      | whole whole => simp [secondOf?, eq_comm]
      | float x => exact absurd hexact Bool.false_ne_true
      | _ => simp [secondOf?]
  | _ => simp [secondOf?]

theorem timeClaim_members_eq_ok_iff (hexact : claims.toJson.isExact = true) {value : Json}
    (h : claims.get? name = some value) {found : Option Nat} :
    timeClaim claims.members name = .ok found ↔
      ∃ whole : Whole, claims.get? name = some (.atom (.whole whole)) ∧ 0 ≤ whole.value ∧
        found = some whole.value.toNat := by
  have hsecond (n : Nat) := secondOf?_eq_some_iff (isExact_of_get? hexact h) (n := n)
  simp only [timeClaim, lookup?_members, h, Option.some.injEq]
  cases hfound : secondOf? value with
  | none =>
      simp only [hfound, reduceCtorEq, false_iff, not_exists, not_and] at hsecond
      simp only [reduceCtorEq, false_iff, not_exists, not_and]
      intro whole hwhole hpositive
      exact absurd rfl (hsecond _ whole hwhole hpositive)
  | some n =>
      obtain ⟨whole, rfl, hpositive, rfl⟩ := (hsecond n).mp hfound
      simp [hpositive, eq_comm]

theorem isReadable_members_iff :
    isReadable claims.members = true ↔
      (claims.get? "exp").any Json.isFilled = false ∧
        (claims.get? "nbf").any Json.isFilled = false ∧
        (claims.get? "sub").any Json.isCompound = false := by
  simp [isReadable, lookup?_members, isUnrepeated_members, and_assoc]

theorem any_isCompound_eq_false_iff {found : Option Json} :
    found.any Json.isCompound = false ↔
      (∀ items, found ≠ some (.arr items)) ∧ ∀ members, found ≠ some (.obj members) := by
  cases found with
  | none => simp
  | some value => cases value <;> simp [Json.isCompound]

theorem any_isAudience_eq_false_iff {found : Option Json} :
    found.any isAudience = false ↔
      (∀ text, found ≠ some (.str text)) ∧
        ∀ texts : List String, found ≠ some (.arr (texts.map .str)) := by
  cases found with
  | none => simp
  | some value =>
      rw [Option.any_some, ← Bool.not_eq_true, Json.isAudience_eq_true_iff, not_or, not_exists,
        not_exists]
      simp

/-- Exact claims with both times are accepted at just the times that they admit. -/
theorem admits_members_iff (hexact : claims.toJson.isExact = true)
    (hexp : ∃ value, claims.get? "exp" = some value)
    (hnbf : ∃ value, claims.get? "nbf" = some value) :
    (∃ validity, Validity.ofMembers claims.members = .ok validity ∧ validity.Admits t) ↔
      claims.AdmitsAt t := by
  obtain ⟨expValue, hexp⟩ := hexp
  obtain ⟨nbfValue, hnbf⟩ := hnbf
  simp only [Validity.ofMembers_eq_ok_iff, timeClaim_members_eq_ok_iff hexact hexp,
    timeClaim_members_eq_ok_iff hexact hnbf, isReadable_members_iff, lookup?_members,
    any_isCompound_eq_false_iff]
  constructor
  · rintro ⟨⟨expires, starts, hasAudience⟩, ⟨⟨-, -, hsubject⟩, ⟨last, hlast, hend, rfl⟩,
      ⟨first, hfirst, hstart, rfl⟩, rfl⟩, hadmits⟩
    have hnotExpired := hadmits.notExpired _ rfl
    have hstarted := hadmits.started _ rfl
    obtain ⟨htext, htexts⟩ := any_isAudience_eq_false_iff.mp hadmits.noAudience
    exact
      { expires := ⟨last, hlast, by omega⟩
        starts := ⟨first, hfirst, hstart, by omega⟩
        subject_ne_arr := hsubject.1
        subject_ne_obj := hsubject.2
        audience_ne_str := htext
        audience_ne_texts := htexts }
  · intro h
    obtain ⟨last, hlast, hend⟩ := h.expires
    obtain ⟨first, hfirst, hstart, hstarted⟩ := h.starts
    have haudience := any_isAudience_eq_false_iff.mpr ⟨h.audience_ne_str, h.audience_ne_texts⟩
    refine ⟨⟨some last.value.toNat, some first.value.toNat, false⟩,
      ⟨⟨?_, ?_, h.subject_ne_arr, h.subject_ne_obj⟩, ⟨last, hlast, by omega, rfl⟩,
        ⟨first, hfirst, hstart, rfl⟩, haudience⟩, ?_⟩
    · rw [hlast]
      rfl
    · rw [hfirst]
      rfl
    · refine ⟨?_, ?_, rfl⟩
      · rintro _ ⟨⟩
        omega
      · rintro _ ⟨⟩
        omega

end ClaimMap

/-! ## Issuing and verifying -/

namespace SigningContext

theorem issueClaims_eq_ok_iff {context : SigningContext} {claims : ClaimMap}
    {now expires : Instant} {token : String} :
    context.issueClaims claims now = .ok (token, expires) ↔
      context.secret ≠ [] ∧ now.plus? context.accessLifetime = some expires ∧
        token = sign context.secret (SigningContext.completed claims now expires) := by
  simp only [issueClaims, bind_eq_ok, signingSecret_eq_ok_iff, expiry_eq_ok_iff]
  constructor
  · rintro ⟨secret, ⟨hsecret, rfl⟩, found, hfound, h⟩
    obtain ⟨htoken, rfl⟩ := Prod.mk.inj (Except.ok.inj h)
    exact ⟨hsecret, hfound, htoken.symm⟩
  · rintro ⟨hsecret, hexpires, rfl⟩
    exact ⟨_, ⟨hsecret, rfl⟩, expires, hexpires, rfl⟩

theorem issueClaims_eq_ok {context : SigningContext} {claims : ClaimMap} {now expires : Instant}
    (hsecret : context.secret ≠ [])
    (hexpires : now.plus? context.accessLifetime = some expires) :
    context.issueClaims claims now =
      .ok (sign context.secret (SigningContext.completed claims now expires), expires) :=
  issueClaims_eq_ok_iff.mpr ⟨hsecret, hexpires, rfl⟩

/-- Claims without floating-point numbers are signed with the missing times added. At the times
that the signed claims admit, and at no others, the token gives back just these claims. -/
theorem issueClaims_verified (context : SigningContext) (claims completed : ClaimMap)
    (now expires : Instant) (hsecret : context.secret ≠ [])
    (hexact : claims.toJson.isExact = true)
    (hexpires : now.plus? context.accessLifetime = some expires)
    (hcompletes : completed.Completes claims now expires)
    (hnesting : completed.toJson.nesting ≤ 127) :
    ∃ token, context.issueClaims claims now = .ok (token, expires) ∧
      ∀ t found, verify token context.secret t = .ok found ↔
        completed.AdmitsAt t ∧ found = completed := by
  have hcompleted := hcompletes.isExact hexact
  refine ⟨sign context.secret completed, ?_, ?_⟩
  · rw [issueClaims_eq_ok hsecret hexpires, hcompletes.eq_completed]
  · intro t found
    rw [verify_sign_eq_ok_iff hsecret hcompleted hnesting,
      ClaimMap.admits_members_iff hcompleted (hcompletes.isSome_time (by simp))
        (hcompletes.isSome_time (by simp))]

/-- Claims with characters that are escaped, an object in a list and a negative number. -/
def nestedClaims : ClaimMap :=
  .ofMembers [("scope", .arr [.str "a\"\\\n", .obj [("n", .atom (.whole ⟨-5, by decide⟩))], .null])]

theorem issueClaims_verified_nestedClaims : ∃ token completed,
    completed.Completes nestedClaims ⟨1700000000 * 1000000000, by decide⟩
        ⟨1700007200 * 1000000000, by decide⟩ ∧
      issueClaims ⟨[115], none, defaultAccessLifetime, defaultRefreshLifetime, []⟩ nestedClaims
          ⟨1700000000 * 1000000000, by decide⟩ =
        .ok (token, ⟨1700007200 * 1000000000, by decide⟩) ∧
      verify token [115] ⟨1700007200 * 1000000000, by decide⟩ = .ok completed := by
  let now : Instant := ⟨1700000000 * 1000000000, by decide⟩
  let expires : Instant := ⟨1700007200 * 1000000000, by decide⟩
  have hcompletes := ClaimMap.completes_completed nestedClaims now expires
  obtain ⟨token, hissue, hverify⟩ := issueClaims_verified
    ⟨[115], none, defaultAccessLifetime, defaultRefreshLifetime, []⟩ nestedClaims
    (SigningContext.completed nestedClaims now expires) now expires (by decide) rfl rfl hcompletes
    (by decide)
  have hget (name : String) (hname : "scope" ≠ name) :
      (SigningContext.completed nestedClaims now expires).get? name =
        ClaimMap.ownTime? now expires name := by
    rw [hcompletes name, nestedClaims, ClaimMap.get?_ofMembers, Json.lookup?_cons, if_neg hname]
    rfl
  refine ⟨token, _, hcompletes, hissue, (hverify _ _).mpr ⟨?_, rfl⟩⟩
  exact
    { expires := ⟨⟨1700007200, by decide⟩, hget "exp" (by decide), by decide⟩
      starts := ⟨⟨1700000000, by decide⟩, hget "nbf" (by decide), by decide, by decide⟩
      subject_ne_arr := by simp [hget "sub" (by decide), ClaimMap.ownTime?]
      subject_ne_obj := by simp [hget "sub" (by decide), ClaimMap.ownTime?]
      audience_ne_str := by simp [hget "aud" (by decide), ClaimMap.ownTime?]
      audience_ne_texts := by simp [hget "aud" (by decide), ClaimMap.ownTime?] }

end SigningContext

end BearerAuth
