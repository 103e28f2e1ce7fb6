import BearerAuth.Proofs.GateAgreement
import Mathlib.Data.List.Induction

/-! Whom an accepted token names. The last option that names the claim for identities decides which
claim that is, and an empty name is never kept; so with a name every check that succeeds gives back a
text that is not empty, and the empty one is left to requests that were not checked at all. -/

namespace BearerAuth

/-! ## The name for identities -/

/-- The name that an option gives to the claim for identities. -/
def SigningOption.identityKey? : SigningOption → Option String
  | .identityKey key => some key
  | _ => none

/-- The last name that options give to the claim for identities. -/
def SigningOption.lastIdentityKey? (options : List SigningOption) : Option String :=
  (options.filterMap identityKey?).getLast?

namespace SigningContext

open SigningOption
open SkipPath (Exempts)

/-- The last option that gives a name decides; an empty name takes away what was there before. -/
theorem identityKey_withOptions (context : SigningContext) (options : List SigningOption) :
    (context.withOptions options).identityKey =
      match lastIdentityKey? options with
      | some key => if key.isEmpty then none else some key
      | none => context.identityKey := by
  induction options using List.reverseRecOn with
  | nil => rfl
  | append_singleton options option ih =>
      have hstep : context.withOptions (options ++ [option]) =
          (context.withOptions options).withOption option := by
        simp [withOptions]
      rw [hstep, lastIdentityKey?, List.filterMap_append]
      cases option with
      | identityKey key => simp [withOption, identityKey?]
      | skipPaths patterns => simpa [withOption, identityKey?, lastIdentityKey?] using ih
      | commonSkipPaths => simpa [withOption, identityKey?, lastIdentityKey?] using ih

theorem identityKey_ofSecret_withOptions (secret : List UInt8) (access refresh : Span)
    (options : List SigningOption) :
    ((ofSecret secret access refresh).withOptions options).identityKey =
      (lastIdentityKey? options).filter (!·.isEmpty) := by
  rw [identityKey_withOptions]
  cases lastIdentityKey? options with
  | none => rfl
  | some key => cases hkey : key.isEmpty <;> simp [Option.filter_some, hkey]

example : (unset.withOptions [.identityKey "sub", .commonSkipPaths, .identityKey ""]).identityKey =
    none := rfl

/-! ## Callers -/

variable {context : SigningContext}

/-- Verified claims name a caller under a name. -/
def NamesUnder (verified : Except AuthError ClaimMap) (key found : String) : Prop :=
  found ≠ "" ∧ ∃ claims, verified = .ok claims ∧ claims.get? key = some (.str found)

/-- All checks give back the callers that verified claims name under a name. Only a request for an
exempt path passes without a caller. -/
structure TellsCallers (context : SigningContext) (key : String) : Prop where
  request : ∀ {source : BearerSource} {now found}, context.authenticate source now = .ok found →
    ∃ token, source.token = .ok token ∧ NamesUnder (context.claims token now) key found
  refresh : ∀ {token now found}, context.identityOf .refresh token now = .ok found →
    NamesUnder (context.claims token now) key found
  underKey : ∀ {token secret now found}, context.identityUnder token secret now = .ok found →
    NamesUnder (Token.verify token secret now) key found
  unlessSkipped : ∀ {source : BearerSource} {now},
    context.authenticateUnlessSkipped source now = .ok "" ↔
      ∃ path, source.path = some path ∧ Exempts context.skipPatterns path

/-- No check gives back a caller. -/
structure TellsNobody (context : SigningContext) : Prop where
  request : ∀ {source now found}, context.authenticate source now = .ok found → found = ""
  refresh : ∀ {token now found}, context.identityOf .refresh token now = .ok found → found = ""
  underKey : ∀ {token secret now found}, context.identityUnder token secret now = .ok found →
    found = ""
  unlessSkipped : ∀ {source now found},
    context.authenticateUnlessSkipped source now = .ok found → found = ""

theorem authenticateUnlessSkipped_eq_ok_iff {source : BearerSource} {now : Instant}
    {found : String} :
    context.authenticateUnlessSkipped source now = .ok found ↔
      (∃ path, source.path = some path ∧ Exempts context.skipPatterns path) ∧ found = "" ∨
        (¬∃ path, source.path = some path ∧ Exempts context.skipPatterns path) ∧
          context.authenticate source now = .ok found := by
  by_cases hexempt : ∃ path, source.path = some path ∧ Exempts context.skipPatterns path
  · obtain ⟨path, hpath, hexempts⟩ := hexempt
    rw [authenticateUnlessSkipped_of_exempts hexempts hpath]
    simp [hpath, hexempts, eq_comm]
  · rw [authenticateUnlessSkipped_of_not_exempts]
    · simp [hexempt]
    · exact fun path hpath hexempts => hexempt ⟨path, hpath, hexempts⟩

theorem namesUnder_of_identity {key found : String} {claims : ClaimMap}
    {verified : Except AuthError ClaimMap} (hkey : context.identityKey = some key)
    (hnonempty : key ≠ "") (hverified : verified = .ok claims)
    (hidentity : claims.identity context.identityKey = .ok found) :
    NamesUnder verified key found := by
  rw [ClaimMap.identity_eq_ok_iff, hkey, Option.filter_some,
    if_pos (by simpa using hnonempty)] at hidentity
  exact ⟨hidentity.1, claims, hverified, hidentity.2⟩

theorem tellsCallers {key : String} (hkey : context.identityKey = some key)
    (hnonempty : key ≠ "") : context.TellsCallers key := by
  have hof {required token now found} (h : context.identityOf required token now = .ok found) :
      NamesUnder (context.claims token now) key found := by
    obtain ⟨claims, hclaims, -, hidentity⟩ := identityOf_eq_ok_iff.mp h
    exact namesUnder_of_identity hkey hnonempty hclaims hidentity
  have hrequest {source : BearerSource} {now found}
      (h : context.authenticate source now = .ok found) :
      ∃ token, source.token = .ok token ∧ NamesUnder (context.claims token now) key found := by
    obtain ⟨token, htoken, h⟩ := authenticate_eq_ok_iff.mp h
    exact ⟨token, htoken, hof h⟩
  constructor
  case request => exact hrequest
  case refresh => exact hof
  case underKey =>
    intro token secret now found h
    obtain ⟨claims, hclaims, hidentity⟩ := bind_eq_ok.mp h
    exact namesUnder_of_identity hkey hnonempty hclaims hidentity
  case unlessSkipped =>
    intro source now
    rw [authenticateUnlessSkipped_eq_ok_iff]
    constructor
    · rintro (⟨hexempt, -⟩ | ⟨-, h⟩)
      · exact hexempt
      · obtain ⟨token, -, hfound, -⟩ := hrequest h
        exact absurd rfl hfound
    · exact fun hexempt => .inl ⟨hexempt, rfl⟩

theorem tellsNobody (hkey : context.identityKey = none) : context.TellsNobody := by
  have hidentity {claims : ClaimMap} {found}
      (h : claims.identity context.identityKey = .ok found) : found = "" := by
    rwa [ClaimMap.identity_eq_ok_iff, hkey] at h
  have hof {required token now found} (h : context.identityOf required token now = .ok found) :
      found = "" := by
    obtain ⟨claims, -, -, h⟩ := identityOf_eq_ok_iff.mp h
    exact hidentity h
  have hrequest {source : BearerSource} {now found}
      (h : context.authenticate source now = .ok found) : found = "" := by
    obtain ⟨token, -, h⟩ := authenticate_eq_ok_iff.mp h
    exact hof h
  constructor
  case request => exact hrequest
  case refresh => exact hof
  case underKey =>
    intro token secret now found h
    obtain ⟨claims, -, h⟩ := bind_eq_ok.mp h
    exact hidentity h
  case unlessSkipped =>
    intro source now found h
    rcases authenticateUnlessSkipped_eq_ok_iff.mp h with ⟨-, h⟩ | ⟨-, h⟩
    · exact h
    · exact hrequest h

/-! ## Options -/

/-- A context that is made with options never keeps an empty name for identities. If the last name
that the options give is not empty, its checks tell callers by it; else they tell nobody. -/
structure TellsByOptions (context : SigningContext) (options : List SigningOption) : Prop where
  key_ne_empty : context.identityKey ≠ some ""
  named : ∀ {key}, lastIdentityKey? options = some key → key ≠ "" → context.TellsCallers key
  unnamed : (∀ key, lastIdentityKey? options = some key → key = "") → context.TellsNobody

/-- Whatever the options are, an empty identity is never taken for a caller. -/
theorem tellsByOptions (secret : List UInt8) (access refresh : Span)
    (options : List SigningOption) :
    ((ofSecret secret access refresh).withOptions options).TellsByOptions options := by
  have hidentityKey := identityKey_ofSecret_withOptions secret access refresh options
  constructor
  case key_ne_empty =>
    rw [hidentityKey, ne_eq, Option.filter_eq_some_iff]
    simp
  case named =>
    intro key hlast hkey
    apply tellsCallers _ hkey
    simp [hidentityKey, hlast, Option.filter_some, hkey]
  case unnamed =>
    intro hlast
    apply tellsNobody
    rw [hidentityKey, Option.filter_eq_none_iff]
    intro key hkey
    simp [hlast key hkey]

end SigningContext

end BearerAuth
