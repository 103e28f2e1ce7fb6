import BearerAuth.Proofs.Bearer

/-! The grammar of the field for tokens: the scheme, at least one blank, one word, and perhaps
blanks again. A web request has a token exactly if the first of its fields with the name has such
a text for its value, and a text that is parsed for itself goes by the same rule. -/

namespace BearerAuth

/-! ## Fields by name -/

namespace Http

/-- The first of some fields with a name, whatever the case of its letters, has a value. -/
inductive FirstNamed (name : String) : List Header → List UInt8 → Prop where
  | here {header : Header} {headers : List Header} :
      sameName header.name name = true → FirstNamed name (header :: headers) header.value
  | behind {header : Header} {headers : List Header} {value : List UInt8} :
      sameName header.name name = false → FirstNamed name headers value →
      FirstNamed name (header :: headers) value

variable {name : String} {headers : List Header} {value : List UInt8}

theorem firstNamed_iff : FirstNamed name headers value ↔ firstValue? headers name = some value := by
  constructor
  · intro h
    induction h with
    | here hname => exact firstValue?_cons_of_same hname _
    | behind hname _ ih => rw [firstValue?_cons_of_not_same hname, ih]
  · intro h
    induction headers with
    | nil => contradiction
    | cons header headers ih =>
        cases hname : sameName header.name name with
        | true =>
            rw [firstValue?_cons_of_same hname] at h
            cases h
            exact .here hname
        | false =>
            rw [firstValue?_cons_of_not_same hname] at h
            exact .behind hname (ih h)

theorem firstValue?_eq_none_iff :
    firstValue? headers name = none ↔ ∀ header ∈ headers, sameName header.name name = false := by
  simp [firstValue?]

theorem isTextByte_iff {b : UInt8} : isTextByte b = true ↔ b = 9 ∨ 32 ≤ b ∧ b ≤ 126 := by
  simp only [isTextByte, Bool.or_eq_true, beq_iff_eq, Bool.and_eq_true, decide_eq_true_eq,
    UInt8.le_iff_toNat_le, UInt8.lt_iff_toNat_lt]
  exact or_congr_right (and_congr_right fun _ => Nat.lt_succ_iff)

end Http

/-! ## Texts with a token -/

/-- A text with a token: the scheme, blanks of which there is at least one, the token, which is a
word, and perhaps blanks. -/
inductive BearerText : String → String → Prop where
  | intro {before token behind : String} :
      before ≠ "" → (∀ c ∈ before.toList, Text.isBlank c = true) →
      token ≠ "" → (∀ c ∈ token.toList, Text.isBlank c = false) →
      (∀ c ∈ behind.toList, Text.isBlank c = true) →
      BearerText ("Bearer" ++ before ++ token ++ behind) token

variable {text token other : String} {headers others : List Http.Header}

theorem authorizationToken_eq_ok_iff_bearerText :
    authorizationToken text.toList = .ok token.toList ↔ BearerText text token := by
  rw [authorizationToken_eq_ok_iff]
  constructor
  · rintro ⟨hne, hfree, before, behind, htext, hbefore, hblanks, hbehind⟩
    have hplain : text = "Bearer" ++ String.ofList before ++ token ++ String.ofList behind := by
      apply String.toList_inj.mp
      simpa [bearerScheme_eq] using htext
    rw [hplain]
    exact .intro (by simpa using hbefore) (by simpa using hblanks) (by simpa using hne) hfree
      (by simpa using hbehind)
  · intro h
    cases h with
    | @intro before token behind hbefore hblanks hne hfree hbehind =>
        exact ⟨by simpa using hne, hfree, before.toList, behind.toList, by simp [bearerScheme_eq],
          by simpa using hbefore, hblanks, hbehind⟩

theorem parseAuthorization_eq_ok_iff :
    parseAuthorization text = .ok token ↔ BearerText text token := by
  rw [← authorizationToken_eq_ok_iff_bearerText, parseAuthorization, map_eq_ok]
  constructor
  · rintro ⟨cs, hread, rfl⟩
    rwa [String.toList_ofList]
  · intro h
    exact ⟨token.toList, h, String.ofList_toList⟩

example : parseAuthorization "Bearer\u3000abc\t" = .ok "abc" := by decide

theorem BearerText.unique (h : BearerText text token) (hother : BearerText text other) :
    token = other :=
  Except.ok.inj ((parseAuthorization_eq_ok_iff.mpr h).symm.trans
    (parseAuthorization_eq_ok_iff.mpr hother))

theorem parseAuthorization_eq_error (h : ∀ token, ¬BearerText text token) :
    parseAuthorization text = .error .malformedAuthHeader := by
  cases hparse : parseAuthorization text with
  | ok token => exact absurd (parseAuthorization_eq_ok_iff.mp hparse) (h token)
  | error error => rw [authorizationToken_eq_error (map_eq_error.mp hparse)]

/-! ## Requests with a token -/

theorem httpToken_eq_ok_iff_bearerText :
    httpToken headers = .ok token ↔ ∃ value text,
      Http.firstValue? headers authorizationField = some value ∧
        value.all Http.isTextByte = true ∧ value = Text.octets text ∧ BearerText text token := by
  simp only [httpToken_eq_ok_iff, Http.valueText?_eq_some_iff]
  constructor
  · rintro ⟨value, cs, hfirst, ⟨hbytes, hvalue⟩, htoken⟩
    refine ⟨value, String.ofList cs, hfirst, hbytes, hvalue, ?_⟩
    rwa [← authorizationToken_eq_ok_iff_bearerText, String.toList_ofList]
  · rintro ⟨value, text, hfirst, hbytes, hvalue, htoken⟩
    refine ⟨value, text.toList, hfirst, ⟨hbytes, ?_⟩, ?_⟩
    · rwa [String.ofList_toList]
    · rwa [authorizationToken_eq_ok_iff_bearerText]

/-- A request is said to have no field for tokens exactly if it has none or an empty one. -/
theorem httpToken_eq_empty_iff :
    httpToken headers = .error .emptyAuthHeader ↔
      Http.firstValue? headers authorizationField = none ∨
        Http.firstValue? headers authorizationField = some [] := by
  unfold httpToken
  cases Http.firstValue? headers authorizationField with
  | none => exact iff_of_true rfl (.inl rfl)
  | some value =>
      cases value with
      | nil => exact iff_of_true rfl (.inr rfl)
      | cons b value =>
          refine iff_of_false (fun h => ?_) (by simp)
          simp only [Option.filter_some, List.isEmpty_cons, Bool.not_false, if_true] at h
          cases hcs : Http.valueText? (b :: value) with
          | none =>
              rw [hcs] at h
              contradiction
          | some cs =>
              rw [hcs] at h
              have herror := authorizationToken_eq_error (map_eq_error.mp h)
              contradiction

/-- How the token of a web request is read: the first field with the name decides, there is a token
exactly if its value is a text of the grammar in printable characters and tabs, and all other values
but the empty one are malformed. -/
structure FieldReadByGrammar (headers : List Http.Header) : Prop where
  firstDecides : ∀ others : List Http.Header,
    (∀ value, Http.FirstNamed "authorization" headers value ↔
      Http.FirstNamed "authorization" others value) → httpToken headers = httpToken others
  empty : httpToken headers = .error .emptyAuthHeader ↔
    (∀ header ∈ headers, Http.sameName header.name "authorization" = false) ∨
      Http.FirstNamed "authorization" headers []
  token : ∀ token, httpToken headers = .ok token ↔ ∃ value text,
    Http.FirstNamed "authorization" headers value ∧
      (∀ b ∈ value, b = 9 ∨ 32 ≤ b ∧ b ≤ 126) ∧ value = Text.octets text ∧ BearerText text token
  malformed : httpToken headers ≠ .error .emptyAuthHeader →
    (∀ token, httpToken headers ≠ .ok token) → httpToken headers = .error .malformedAuthHeader

/-- How a text is parsed for itself. -/
structure TextReadByGrammar (text : String) : Prop where
  token : ∀ token, parseAuthorization text = .ok token ↔ BearerText text token
  unique : ∀ {token other}, BearerText text token → BearerText text other → token = other
  malformed : (∀ token, ¬BearerText text token) →
    parseAuthorization text = .error .malformedAuthHeader

theorem fieldReadByGrammar (headers : List Http.Header) : FieldReadByGrammar headers where
  firstDecides others h := by
    simp only [Http.firstNamed_iff] at h
    have hfirst : Http.firstValue? headers authorizationField =
        Http.firstValue? others authorizationField := Option.ext h
    rw [httpToken, httpToken, hfirst]
  empty := by
    rw [httpToken_eq_empty_iff, Http.firstValue?_eq_none_iff, Http.firstNamed_iff,
      authorizationField]
  token token := by
    simp only [httpToken_eq_ok_iff_bearerText, Http.firstNamed_iff, List.all_eq_true,
      Http.isTextByte_iff, authorizationField]
  malformed hempty htoken := by
    cases hread : httpToken headers with
    | ok token => exact absurd hread (htoken token)
    | error error =>
        rcases httpToken_eq_error hread with rfl | rfl
        · exact absurd hread hempty
        · rfl

/-- Requests and texts are read by one grammar. -/
theorem readByGrammar (headers : List Http.Header) (text : String) :
    FieldReadByGrammar headers ∧ TextReadByGrammar text := by
  constructor
  · exact fieldReadByGrammar headers
  · exact
      { token := fun token => parseAuthorization_eq_ok_iff
        unique := BearerText.unique
        malformed := parseAuthorization_eq_error }

end BearerAuth
