import BearerAuth.Proofs.Token.Issuing

/-! What a signed token gives back, whatever claims were signed. A number may come back as another
one, and claims that are nested too deep do not come back at all; but texts do not change on the
way, so that a valid token states the type and the holder that its claims stated. -/

namespace BearerAuth

open Token

/-! ## Texts -/

namespace Json

theorem text?_canonical (value : Json) : value.canonical.text? = value.text? := by
  cases value with
  | atom value => rfl
  | str text => rfl
  | arr items => rfl
  | obj members => rfl

theorem text?_of_reread {value found : Json} (h : reread? value = some found) :
    found.text? = value.text? := by
  cases value with
  | atom value =>
      obtain ⟨read, -, rfl⟩ := Option.map_eq_some_iff.mp h
      rfl
  | str text =>
      cases h
      rfl
  | arr items =>
      obtain ⟨read, -, rfl⟩ := Option.map_eq_some_iff.mp h
      rfl
  | obj members =>
      obtain ⟨read, -, rfl⟩ := Option.map_eq_some_iff.mp h
      rfl

theorem lookup?_of_reread {members found : List Member} (h : rereadMembers? members = some found)
    (name : String) :
    (lookup? found name).map text? = (lookup? members name).map text? := by
  induction members generalizing found with
  | nil =>
      cases h
      rfl
  | cons member members ih =>
      obtain ⟨first, others, rfl, hfirst, hothers⟩ := rereadMembers?_cons_eq_some h
      rw [lookup?_cons, lookup?_cons]
      by_cases hname : member.1 = name
      · rw [if_pos hname, if_pos hname, Option.map_or, Option.map_or, ih hothers, Option.map_some,
          Option.map_some, text?_of_reread hfirst]
      · rw [if_neg hname, if_neg hname, ih hothers]

end Json

namespace ClaimMap

variable {claims others : ClaimMap}

/-- What those who want a text find under a name: nothing, something else, or a text. -/
def textUnder (claims : ClaimMap) (name : String) : Option (Option String) :=
  (claims.get? name).map Json.text?

theorem textUnder_of_reread {members : List Member}
    (h : Json.rereadMembers? claims.members = some members) (name : String) :
    (ofMembers members).textUnder name = claims.textUnder name := by
  have hcanonical : Json.text? ∘ Json.canonical = Json.text? := funext Json.text?_canonical
  rw [textUnder, get?_ofMembers, Option.map_map, hcanonical, Json.lookup?_of_reread h name,
    lookup?_members, textUnder]

theorem tokenType_eq_elim (claims : ClaimMap) :
    claims.tokenType = (claims.textUnder tokenTypeClaim).elim (.error .missingTokenType)
      (·.elim (.error .invalidTokenType) TokenType.ofName) := by
  rw [tokenType, textUnder]
  cases claims.get? tokenTypeClaim with
  | none => rfl
  | some value => cases value <;> rfl

theorem identity_eq_elim (claims : ClaimMap) (identityKey : Option String) :
    claims.identity identityKey = (identityKey.filter (!·.isEmpty)).elim (.ok "") fun key =>
      (claims.textUnder key).elim (.error .missingIdentity)
        (·.elim (.error .invalidIdentity) fun text =>
          if text.isEmpty then .error .invalidIdentity else .ok text) := by
  rw [identity]
  cases identityKey.filter (!·.isEmpty) with
  | none => rfl
  | some key =>
      simp only [Option.elim_some, textUnder]
      cases claims.get? key with
      | none => rfl
      | some value => cases value <;> rfl

/-- The type and the holder of a token are for its texts to say. -/
theorem tokenType_eq_of_textUnder
    (h : claims.textUnder tokenTypeClaim = others.textUnder tokenTypeClaim) :
    claims.tokenType = others.tokenType := by
  rw [tokenType_eq_elim, tokenType_eq_elim, h]

theorem identity_eq_of_textUnder (h : ∀ name, claims.textUnder name = others.textUnder name)
    (identityKey : Option String) : claims.identity identityKey = others.identity identityKey := by
  rw [identity_eq_elim, identity_eq_elim, funext h]

end ClaimMap

/-! ## Valid signed tokens -/

namespace Token

variable {secret : List UInt8} {claims found : ClaimMap} {t : Instant}

theorem ofLastDots?_signed (secret : List UInt8) (claims : ClaimMap) :
    Compact.ofLastDots? (signed secret claims).bytes = some (signed secret claims) :=
  Compact.ofLastDots?_eq_some_iff.mpr ⟨rfl, dot_not_mem_encode _, dot_not_mem_encode _⟩

/-- A valid signed token gives back the claims as they are read from their text. -/
theorem reread_of_verify_sign (h : verify (sign secret claims) secret t = .ok found) :
    ∃ members, Json.rereadMembers? claims.members = some members ∧ found = .ofMembers members := by
  obtain ⟨-, cut, algorithm, members, validity, hoctets, hauthentic, -, -, rfl⟩ :=
    verify_eq_ok_iff.mp h
  have hcut : signed secret claims = cut := by
    apply Option.some.inj
    rw [← ofLastDots?_signed, ← octets_sign, hoctets, hauthentic.ofLastDots?]
  obtain ⟨bytes, hbytes, hvalue⟩ := hauthentic.claims
  rw [← hcut] at hbytes
  rw [← Base64Url.encode_inj hbytes, Json.ofOctets?_text_eq, Json.ofText?_text_eq_some_iff]
    at hvalue
  obtain ⟨read, hread, hmembers⟩ := Option.map_eq_some_iff.mp hvalue.1
  cases hmembers
  exact ⟨members, hread, rfl⟩

/-- Claims without floating-point numbers come back as they were signed. -/
theorem eq_of_verify_sign (hexact : claims.toJson.isExact = true)
    (h : verify (sign secret claims) secret t = .ok found) : found = claims := by
  obtain ⟨members, hread, rfl⟩ := reread_of_verify_sign h
  rw [Json.rereadMembers?_of_membersExact claims.members hexact] at hread
  cases hread
  exact claims.ofMembers_members

theorem textUnder_of_verify_sign (h : verify (sign secret claims) secret t = .ok found)
    (name : String) : found.textUnder name = claims.textUnder name := by
  obtain ⟨members, hread, rfl⟩ := reread_of_verify_sign h
  exact ClaimMap.textUnder_of_reread hread name

theorem tokenType_of_verify_sign (h : verify (sign secret claims) secret t = .ok found) :
    found.tokenType = claims.tokenType :=
  ClaimMap.tokenType_eq_of_textUnder (textUnder_of_verify_sign h tokenTypeClaim)

theorem identity_of_verify_sign (h : verify (sign secret claims) secret t = .ok found)
    (identityKey : Option String) : found.identity identityKey = claims.identity identityKey :=
  ClaimMap.identity_eq_of_textUnder (textUnder_of_verify_sign h) identityKey

end Token

end BearerAuth
