import BearerAuth.Proofs.BearerGrammar
import BearerAuth.Proofs.RoundTrip

/-! One token over two transports. Remote calls take the scheme in any case and everything behind the
first space, web requests one spelling of the scheme and any blanks around one word. An accepted
token is a word of visible characters, so where one transport accepts a value, the other one
accepts its token in the plain spelling, for the same identity. -/

namespace BearerAuth

open Token

variable {metadata headers : List Http.Header} {value : List UInt8} {token : String}

/-! ## Values with a token -/

/-- The value that a call's token is read of is the scheme in some case, a space and the token. -/
theorem value_of_rpcToken (hvalue : Http.firstValue? metadata authorizationField = some value)
    (h : rpcToken metadata = .ok token) :
    ∃ scheme, value = Text.octets (scheme ++ " " ++ token) ∧
      Http.sameName scheme "Bearer" = true := by
  obtain ⟨found, scheme, hfound, hread, -, hscheme⟩ := rpcToken_eq_ok_iff.mp h
  cases hvalue.symm.trans hfound
  refine ⟨String.ofList scheme, ?_, ?_⟩
  · rw [(Http.valueText?_eq_some_iff.mp hread).2]
    congr 1
    apply String.toList_inj.mp
    simp
  · rw [Http.sameName, beq_iff_eq]
    apply String.toList_inj.mp
    change (String.map Char.toLower _).toList = (String.map Char.toLower _).toList
    rw [String.toList_map, String.toList_map, String.toList_ofList]
    exact hscheme

/-- The value that a request's token is read of is the scheme, blanks, the token and perhaps blanks
again. -/
theorem value_of_httpToken (hvalue : Http.firstValue? headers authorizationField = some value)
    (h : httpToken headers = .ok token) :
    ∃ before behind, value = Text.octets ("Bearer" ++ before ++ token ++ behind) ∧ before ≠ "" ∧
      (∀ c ∈ before.toList, Text.isBlank c = true) ∧
      (∀ c ∈ token.toList, Text.isBlank c = false) ∧
      ∀ c ∈ behind.toList, Text.isBlank c = true := by
  obtain ⟨found, text, hfound, -, hplain, htext⟩ := httpToken_eq_ok_iff_bearerText.mp h
  cases hvalue.symm.trans hfound
  cases htext with
  | @intro before _ behind hbefore hblanks hne hfree hbehind =>
      exact ⟨before, behind, hplain, hbefore, hblanks, hfree, hbehind⟩

theorem rpcToken_of_bearerValue (h : IsVisible token)
    (hvalue : Http.firstValue? metadata authorizationField = some (bearerValue token)) :
    rpcToken metadata = .ok token :=
  rpcToken_eq_ok_iff.mpr ⟨_, bearerScheme, hvalue, h.valueText?_append (by decide), by decide, rfl⟩

/-- The scheme of a call may be in small letters. -/
theorem rpcToken_of_smallLetters (h : IsVisible token)
    (hvalue : Http.firstValue? metadata authorizationField =
      some (Text.octets ("bearer " ++ token))) :
    rpcToken metadata = .ok token :=
  rpcToken_eq_ok_iff.mpr ⟨_, "bearer".toList, hvalue, h.valueText?_append (by decide), by decide,
    by decide⟩

/-- A call's value that starts with the scheme of web requests is spelled plainly. -/
theorem eq_bearerValue_of_rpcToken (hvalue : Http.firstValue? metadata authorizationField = some value)
    (hstart : Text.octets "Bearer" <+: value) (h : rpcToken metadata = .ok token) :
    value = bearerValue token := by
  obtain ⟨found, scheme, hfound, hread, -, hscheme⟩ := rpcToken_eq_ok_iff.mp h
  cases hvalue.symm.trans hfound
  obtain ⟨htext, hvalue⟩ := Http.valueText?_eq_some_iff.mp hread
  have hplain : bearerScheme <+: scheme ++ ' ' :: token.toList := by
    rw [Http.valueText?, if_pos htext, Option.some.injEq] at hread
    rw [← hread]
    exact hstart.map fun b => Char.ofNat b.toNat
  have hlength : scheme.length = bearerScheme.length := by
    simpa using congrArg List.length hscheme
  have heq : scheme = bearerScheme :=
    (List.prefix_of_prefix_length_le (List.prefix_append _ _) hplain hlength.le).eq_of_length hlength
  rw [hvalue, heq, bearerValue]
  congr 1
  apply String.toList_inj.mp
  simp [bearerScheme_eq]

namespace SigningContext

variable {context : SigningContext} {now : Instant} {identity : String}

theorem isVisible_of_identityOf {required : TokenType}
    (h : context.identityOf required token now = .ok identity) : IsVisible token := by
  obtain ⟨claims, hclaims, -⟩ := identityOf_eq_ok_iff.mp h
  exact isVisible_of_verify hclaims

/-- At a time, the token of an accepted call is accepted in a web request and the other way round,
in the plain spelling; and no value is accepted for two identities. -/
structure TransportsAgree (context : SigningContext) (now : Instant) : Prop where
  call : ∀ {metadata value identity},
    Http.firstValue? metadata authorizationField = some value →
    context.authenticate (.ofRpc metadata) now = .ok identity →
    ∃ scheme token, value = Text.octets (scheme ++ " " ++ token) ∧
      Http.sameName scheme "Bearer" = true ∧ (∀ c ∈ token.toList, Text.isBlank c = false) ∧
      ∀ headers path, Http.firstValue? headers authorizationField = some (bearerValue token) →
        context.authenticate (.ofHttp headers path) now = .ok identity
  callAsWritten : ∀ {metadata headers path value identity},
    Http.firstValue? metadata authorizationField = some value →
    Http.firstValue? headers authorizationField = some value → Text.octets "Bearer" <+: value →
    context.authenticate (.ofRpc metadata) now = .ok identity →
    context.authenticate (.ofHttp headers path) now = .ok identity
  request : ∀ {headers path value identity},
    Http.firstValue? headers authorizationField = some value →
    context.authenticate (.ofHttp headers path) now = .ok identity →
    ∃ before token behind, value = Text.octets ("Bearer" ++ before ++ token ++ behind) ∧
      before ≠ "" ∧ (∀ c ∈ before.toList, Text.isBlank c = true) ∧
      (∀ c ∈ token.toList, Text.isBlank c = false) ∧
      (∀ c ∈ behind.toList, Text.isBlank c = true) ∧
      ∀ metadata, Http.firstValue? metadata authorizationField = some (bearerValue token) →
        context.authenticate (.ofRpc metadata) now = .ok identity
  oneIdentity : ∀ {metadata headers path value identity other},
    Http.firstValue? metadata authorizationField = some value →
    Http.firstValue? headers authorizationField = some value →
    context.authenticate (.ofRpc metadata) now = .ok identity →
    context.authenticate (.ofHttp headers path) now = .ok other → identity = other

theorem authenticate_as_written {path : String}
    (hcall : Http.firstValue? metadata authorizationField = some value)
    (hrequest : Http.firstValue? headers authorizationField = some value)
    (hstart : Text.octets "Bearer" <+: value)
    (h : context.authenticate (.ofRpc metadata) now = .ok identity) :
    context.authenticate (.ofHttp headers path) now = .ok identity := by
  obtain ⟨token, htoken, hidentity⟩ := authenticate_eq_ok_iff.mp h
  rw [eq_bearerValue_of_rpcToken hcall hstart htoken] at hrequest
  exact authenticate_eq_ok_iff.mpr
    ⟨token, httpToken_of_bearerValue (isVisible_of_identityOf hidentity) hrequest, hidentity⟩

/-- In every context and at every time the transports agree. -/
theorem transportsAgree (context : SigningContext) (now : Instant) :
    context.TransportsAgree now where
  call hvalue h := by
    obtain ⟨token, htoken, hidentity⟩ := authenticate_eq_ok_iff.mp h
    obtain ⟨scheme, hplain, hscheme⟩ := value_of_rpcToken hvalue htoken
    have hvisible := isVisible_of_identityOf hidentity
    refine ⟨scheme, token, hplain, hscheme, hvisible.blank_free, fun headers path hheaders => ?_⟩
    exact authenticate_eq_ok_iff.mpr ⟨token, httpToken_of_bearerValue hvisible hheaders, hidentity⟩
  callAsWritten := authenticate_as_written
  request hvalue h := by
    obtain ⟨token, htoken, hidentity⟩ := authenticate_eq_ok_iff.mp h
    obtain ⟨before, behind, hplain, hne, hbefore, hfree, hbehind⟩ :=
      value_of_httpToken hvalue htoken
    have hvisible := isVisible_of_identityOf hidentity
    refine ⟨before, token, behind, hplain, hne, hbefore, hfree, hbehind, fun metadata hmetadata => ?_⟩
    exact authenticate_eq_ok_iff.mpr ⟨token, rpcToken_of_bearerValue hvisible hmetadata, hidentity⟩
  oneIdentity hcall hrequest h hother := by
    obtain ⟨token, htoken, -⟩ := authenticate_eq_ok_iff.mp hother
    obtain ⟨before, behind, hplain, -⟩ := value_of_httpToken hrequest htoken
    refine Except.ok.inj ((authenticate_as_written hcall hrequest ?_ h).symm.trans hother)
    rw [hplain, Text.octets_append, Text.octets_append, Text.octets_append, List.append_assoc,
      List.append_assoc]
    exact List.prefix_append _ _

theorem transportsAgree_smallLetters : ∃ (context : SigningContext) (now : Instant)
    (metadata : List Http.Header) (value : List UInt8),
    Http.firstValue? metadata authorizationField = some value ∧
      context.authenticate (.ofRpc metadata) now = .ok "user-42" ∧
      ∃ scheme token, value = Text.octets (scheme ++ " " ++ token) ∧
        context.authenticate (.ofHttp [⟨authorizationField, bearerValue token⟩] "/") now =
          .ok "user-42" := by
  let context : SigningContext :=
    ⟨[115], some "sub", defaultAccessLifetime, defaultRefreshLifetime, []⟩
  let now : Instant := ⟨1700000000 * 1000000000, by decide⟩
  let token := sign context.secret (context.issuedClaims .access "user-42" now now)
  let value := Text.octets ("bearer " ++ token)
  let metadata : List Http.Header := [⟨authorizationField, value⟩]
  have hfirst : Http.firstValue? metadata authorizationField = some value :=
    Http.firstValue?_cons_self ⟨authorizationField, value⟩ []
  have htrusted : context.TrustedAs .access token "user-42" now :=
    trustedAs_issued (by decide) rfl (by decide) (by decide) (by decide) (by decide)
      (Int.le_refl _) (Int.le_refl _)
  obtain ⟨claims, hclaims, -⟩ := bind_eq_ok.mp htrusted.readsType
  have htoken : rpcToken metadata = .ok token :=
    rpcToken_of_smallLetters (isVisible_of_verify hclaims) hfirst
  have hcall : context.authenticate (.ofRpc metadata) now = .ok "user-42" :=
    htrusted.request (.ofRpc metadata) htoken
  obtain ⟨scheme, found, hvalue, -, -, hrequest⟩ := (transportsAgree context now).call hfirst hcall
  exact ⟨context, now, metadata, value, hfirst, hcall, scheme, found, hvalue,
    hrequest _ "/" (Http.firstValue?_cons_self ⟨authorizationField, bearerValue found⟩ [])⟩

end SigningContext

end BearerAuth
