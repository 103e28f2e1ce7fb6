import BearerAuth.Bearer
import BearerAuth.Proofs.Outcome
import BearerAuth.Proofs.Token.Verification
import BearerAuth.Text.Utf8

/-! What is read of the field for tokens. A web request without a readable token is told so in one
of two ways, a remote call in one; and a token of visible characters behind the scheme and one
blank is read as it is. Conversely the token that is read fixes the value of the field up to the
blanks around it, or up to the case of the scheme. -/

namespace BearerAuth

/-! ## Values as texts -/

theorem Http.toNat_lt_of_isTextByte {b : UInt8} (h : Http.isTextByte b = true) : b.toNat < 128 := by
  simp only [Http.isTextByte, Bool.or_eq_true, Bool.and_eq_true, beq_iff_eq, decide_eq_true_eq,
    UInt8.lt_iff_toNat_lt] at h
  rcases h with rfl | ⟨-, h⟩
  · decide
  · exact Nat.lt_succ_of_lt h

theorem Http.valueText?_eq_some_iff {value : List UInt8} {cs : List Char} :
    Http.valueText? value = some cs ↔
      value.all Http.isTextByte = true ∧ value = Text.octets (String.ofList cs) := by
  have hascii (hall : value.all Http.isTextByte = true) :
      Text.octets (Text.ofAscii value) = value :=
    Text.octets_ofAscii fun b hb => toNat_lt_of_isTextByte (List.all_eq_true.mp hall b hb)
  unfold valueText?
  constructor
  · intro h
    split at h
    · rename_i hall
      cases h
      exact ⟨hall, (hascii hall).symm⟩
    · contradiction
  · rintro ⟨hall, hvalue⟩
    have htext : Text.ofAscii value = String.ofList cs :=
      Text.octets_inj ((hascii hall).trans hvalue)
    rw [if_pos hall, Option.some.injEq, ← String.toList_ofList (l := cs), ← htext]
    exact String.toList_ofList.symm

/-! ## Requests without a token -/

theorem authorizationToken_eq_error {cs : List Char} {error : AuthError}
    (h : authorizationToken cs = .error error) : error = .malformedAuthHeader := by
  unfold authorizationToken at h
  dsimp only at h
  split at h
  · split at h
    · split at h
      · contradiction
      · exact (Except.error.inj h).symm
    · exact (Except.error.inj h).symm
  · exact (Except.error.inj h).symm

theorem httpToken_eq_error {headers : List Http.Header} {error : AuthError}
    (h : httpToken headers = .error error) :
    error = .emptyAuthHeader ∨ error = .malformedAuthHeader := by
  unfold httpToken at h
  split at h
  · exact .inl (Except.error.inj h).symm
  · split at h
    · exact .inr (Except.error.inj h).symm
    · exact .inr (authorizationToken_eq_error (map_eq_error.mp h))

theorem rpcToken_eq_error {metadata : List Http.Header} {error : AuthError}
    (h : rpcToken metadata = .error error) : ∃ reason, error = .unauthenticated reason := by
  unfold rpcToken at h
  split at h
  · exact ⟨_, (Except.error.inj h).symm⟩
  · split at h
    · exact ⟨_, (Except.error.inj h).symm⟩
    · split at h
      · contradiction
      · exact ⟨_, (Except.error.inj h).symm⟩

/-! ## Tokens of visible characters -/

/-- A text of visible ASCII characters, of which there is at least one. -/
structure IsVisible (token : String) : Prop where
  ne_empty : token ≠ ""
  visible : ∀ b ∈ Text.octets token, 33 ≤ b.toNat ∧ b.toNat < 127

theorem isBlank_ofNat {n : Nat} (hlow : 33 ≤ n) (hhigh : n < 127) :
    Text.isBlank (Char.ofNat n) = false := by
  have hall : ∀ n < 127, 33 ≤ n → Text.isBlank (Char.ofNat n) = false := by decide
  exact hall n hhigh hlow

namespace IsVisible

variable {token start : String}

theorem eq_ofAscii (h : IsVisible token) : token = Text.ofAscii (Text.octets token) := by
  have hascii : ∀ b ∈ Text.octets token, b.toNat < 128 := fun b hb =>
    Nat.lt_succ_of_lt (h.visible b hb).2
  exact Text.octets_inj (Text.octets_ofAscii hascii).symm

theorem toList_eq (h : IsVisible token) :
    token.toList = (Text.octets token).map fun b => Char.ofNat b.toNat :=
  calc
    token.toList = (Text.ofAscii (Text.octets token)).toList := congrArg String.toList h.eq_ofAscii
    _ = _ := String.toList_ofList

theorem blank_free (h : IsVisible token) : ∀ c ∈ token.toList, Text.isBlank c = false := by
  intro c hc
  rw [h.toList_eq, List.mem_map] at hc
  obtain ⟨b, hb, rfl⟩ := hc
  exact isBlank_ofNat (h.visible b hb).1 (h.visible b hb).2

theorem isTextByte (h : IsVisible token) : (Text.octets token).all Http.isTextByte = true := by
  rw [List.all_eq_true]
  intro b hb
  obtain ⟨hlow, hhigh⟩ := h.visible b hb
  simp only [Http.isTextByte, Bool.or_eq_true, Bool.and_eq_true, decide_eq_true_eq,
    UInt8.le_iff_toNat_le, UInt8.lt_iff_toNat_lt]
  exact .inr ⟨Nat.le_of_succ_le hlow, hhigh⟩

theorem valueText?_append (h : IsVisible token)
    (hstart : (Text.octets start).all Http.isTextByte = true) :
    Http.valueText? (Text.octets (start ++ token)) = some (start.toList ++ token.toList) := by
  rw [Http.valueText?_eq_some_iff, Text.octets_append, List.all_append, hstart, h.isTextByte,
    String.ofList_append, String.ofList_toList, String.ofList_toList, Text.octets_append]
  exact ⟨rfl, rfl⟩

end IsVisible

theorem Token.isVisible_of_verify {token : String} {key : List UInt8} {now : Instant}
    {claims : ClaimMap} (h : verify token key now = .ok claims) : IsVisible token := by
  obtain ⟨-, cut, algorithm, members, validity, hoctets, hauthentic, -⟩ := verify_eq_ok_iff.mp h
  constructor
  case ne_empty =>
    intro hempty
    have hfilled := isEmpty_eq_false hoctets
    rw [hempty] at hfilled
    contradiction
  case visible =>
    rw [hoctets]
    exact hauthentic.visible

/-! ## Web requests -/

theorem authorizationToken_eq_ok_iff_words {cs token : List Char} :
    authorizationToken cs = .ok token ↔ ∃ rest, cs = bearerScheme ++ rest ∧
      rest.head?.any Text.isBlank = true ∧ Text.words rest = [token] := by
  constructor
  · intro h
    unfold authorizationToken at h
    dsimp only at h
    split at h
    · rename_i hscheme
      obtain ⟨rest, rfl⟩ := List.isPrefixOf_iff_prefix.mp hscheme
      rw [List.drop_left] at h
      split at h
      · rename_i hblank
        split at h
        · rename_i found hwords
          cases h
          exact ⟨rest, rfl, hblank, hwords⟩
        · contradiction
      · contradiction
    · contradiction
  · rintro ⟨rest, rfl, hblank, hwords⟩
    have hscheme : bearerScheme.isPrefixOf (bearerScheme ++ rest) = true :=
      List.isPrefixOf_iff_prefix.mpr (List.prefix_append _ _)
    simp only [authorizationToken, hscheme, List.drop_left, hblank, hwords, if_true]

/-- A token is read of the scheme, blanks and the token, which blanks may follow. -/
theorem authorizationToken_eq_ok_iff {cs token : List Char} :
    authorizationToken cs = .ok token ↔ token ≠ [] ∧ (∀ c ∈ token, Text.isBlank c = false) ∧
      ∃ before behind, cs = bearerScheme ++ before ++ token ++ behind ∧ before ≠ [] ∧
        (∀ c ∈ before, Text.isBlank c = true) ∧ ∀ c ∈ behind, Text.isBlank c = true := by
  have hhead {before behind : List Char} (hne : token ≠ [])
      (hfree : ∀ c ∈ token, Text.isBlank c = false)
      (hbefore : ∀ c ∈ before, Text.isBlank c = true) :
      (before ++ token ++ behind).head?.any Text.isBlank = true ↔ before ≠ [] := by
    obtain ⟨d, token, rfl⟩ := List.exists_cons_of_ne_nil hne
    cases before with
    | nil => simp [hfree d List.mem_cons_self]
    | cons c before => simp [hbefore c List.mem_cons_self]
  simp only [authorizationToken_eq_ok_iff_words, Text.words_eq_singleton_iff]
  constructor
  · rintro ⟨_, rfl, hblank, hne, hfree, before, behind, rfl, hbefore, hbehind⟩
    exact ⟨hne, hfree, before, behind, by simp, (hhead hne hfree hbefore).mp hblank, hbefore,
      hbehind⟩
  · rintro ⟨hne, hfree, before, behind, rfl, hblanks, hbefore, hbehind⟩
    exact ⟨before ++ token ++ behind, by simp, (hhead hne hfree hbefore).mpr hblanks, hne, hfree,
      before, behind, rfl, hbefore, hbehind⟩

theorem bearerScheme_eq : bearerScheme = "Bearer".toList := rfl

theorem authorizationToken_bearer {cs : List Char} (hne : cs ≠ [])
    (hblank : ∀ c ∈ cs, Text.isBlank c = false) :
    authorizationToken ("Bearer ".toList ++ cs) = .ok cs :=
  authorizationToken_eq_ok_iff.mpr ⟨hne, hblank, [' '], [], by simp [bearerScheme_eq], by decide,
    List.forall_mem_singleton.mpr rfl, by simp⟩

theorem httpToken_eq_ok_iff {headers : List Http.Header} {token : String} :
    httpToken headers = .ok token ↔ ∃ value cs,
      Http.firstValue? headers authorizationField = some value ∧
        Http.valueText? value = some cs ∧ authorizationToken cs = .ok token.toList := by
  constructor
  · intro h
    unfold httpToken at h
    split at h
    · contradiction
    · rename_i value hvalue
      split at h
      · contradiction
      · rename_i cs hcs
        obtain ⟨found, hread, rfl⟩ := map_eq_ok.mp h
        rw [← String.toList_ofList (l := found)] at hread
        exact ⟨value, cs, (Option.filter_eq_some_iff.mp hvalue).1, hcs, hread⟩
  · rintro ⟨value, cs, hvalue, hcs, htoken⟩
    have hfilled : value.isEmpty = false := by
      cases value with
      | nil =>
          cases hcs
          contradiction
      | cons b value => rfl
    simp only [httpToken, hvalue, Option.filter_some, hfilled, Bool.not_false, if_true, hcs, htoken,
      Except.map, String.ofList_toList]

/-- What a token is written as in the field for tokens. -/
def bearerValue (token : String) : List UInt8 := Text.octets ("Bearer " ++ token)

theorem httpToken_of_bearerValue {headers : List Http.Header} {token : String}
    (h : IsVisible token)
    (hvalue : Http.firstValue? headers authorizationField = some (bearerValue token)) :
    httpToken headers = .ok token := by
  have hne : token.toList ≠ [] := by simpa using h.ne_empty
  exact httpToken_eq_ok_iff.mpr ⟨_, _, hvalue, h.valueText?_append (by decide),
    authorizationToken_bearer hne h.blank_free⟩

/-! ## Remote calls -/

theorem cutSpace?_eq_some_iff {cs before behind : List Char} :
    cutSpace? cs = some (before, behind) ↔ cs = before ++ ' ' :: behind ∧ ' ' ∉ before := by
  induction cs generalizing before with
  | nil => simp [cutSpace?]
  | cons c cs ih =>
      rw [cutSpace?]
      by_cases hc : c = ' '
      · subst hc
        cases before with
        | nil => simp [eq_comm]
        | cons d before => simp +contextual [eq_comm]
      · rw [if_neg hc, Option.map_eq_some_iff]
        cases before with
        | nil => simp [hc]
        | cons d before =>
            constructor
            · rintro ⟨cut, hcut, heq⟩
              cases heq
              obtain ⟨rfl, hfree⟩ := ih.mp hcut
              exact ⟨rfl, by simp [hfree, Ne.symm hc]⟩
            · rintro ⟨heq, hfree⟩
              obtain ⟨rfl, rfl⟩ := List.cons.inj heq
              exact ⟨_, ih.mpr ⟨rfl, fun h => hfree (List.mem_cons_of_mem c h)⟩, rfl⟩

/-- A token is read of the scheme in any case, a space and the token. -/
theorem rpcToken_eq_ok_iff {metadata : List Http.Header} {token : String} :
    rpcToken metadata = .ok token ↔ ∃ value scheme,
      Http.firstValue? metadata authorizationField = some value ∧
        Http.valueText? value = some (scheme ++ ' ' :: token.toList) ∧ ' ' ∉ scheme ∧
          scheme.map Char.toLower = bearerScheme.map Char.toLower := by
  constructor
  · intro h
    unfold rpcToken at h
    split at h
    · contradiction
    · rename_i cs hcs
      obtain ⟨value, hvalue, hread⟩ := Option.bind_eq_some_iff.mp (Option.filter_eq_some_iff.mp hcs).1
      split at h
      · contradiction
      · rename_i scheme found hcut
        split at h
        · rename_i hscheme
          cases h
          obtain ⟨rfl, hfree⟩ := cutSpace?_eq_some_iff.mp hcut
          exact ⟨value, scheme, hvalue, by rw [hread, String.toList_ofList], hfree, hscheme⟩
        · contradiction
  · rintro ⟨value, scheme, hvalue, hread, hfree, hscheme⟩
    have hcut : cutSpace? (scheme ++ ' ' :: token.toList) = some (scheme, token.toList) :=
      cutSpace?_eq_some_iff.mpr ⟨rfl, hfree⟩
    have hfilled : (scheme ++ ' ' :: token.toList).isEmpty = false := by simp
    simp only [rpcToken, hvalue, Option.bind_some, hread, Option.filter_some, hfilled,
      Bool.not_false, if_true, hcut, hscheme, String.ofList_toList]

end BearerAuth
