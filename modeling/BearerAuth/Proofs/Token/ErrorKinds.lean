import BearerAuth.Proofs.Token.Issuing
import BearerAuth.Proofs.Token.Refusal

/-! What the kind of an error says about a token. Malformed and misshapen tokens are told by their
outline. All else counts against the signature or, where the signature is the right one, against the
time; so damage behind the second dot is never reported as a malformed token. -/

namespace BearerAuth.Token

variable {bytes segment key : List UInt8} {cut : Compact} {token : String} {now : Instant}
  {error : AuthError} {fault : Fault}

/-! ## What counts against the signature -/

theorem kind_of_segmentBytes_error (h : segmentBytes segment = .error fault) :
    fault.refusal.kind = .signature := by
  unfold segmentBytes at h
  cases hdecode : Base64Url.decode segment with
  | ok bytes =>
      rw [hdecode] at h
      contradiction
  | error error =>
      rw [hdecode] at h
      cases h
      rfl

theorem kind_of_valueOf_error (h : valueOf bytes = .error fault) :
    fault.refusal.kind = .signature := by
  unfold valueOf at h
  split at h
  · contradiction
  · cases h
    rfl

theorem kind_of_algorithmOf_error (h : algorithmOf segment = .error fault) :
    fault.refusal.kind = .signature := by
  obtain h | ⟨bytes, -, h⟩ := bind_eq_error.mp h
  · exact kind_of_segmentBytes_error h
  obtain h | ⟨header, -, h⟩ := bind_eq_error.mp h
  · exact kind_of_valueOf_error h
  split at h
  · cases h
    rfl
  · split at h
    · cases h
      rfl
    · contradiction

theorem kind_of_checkSignature_error (h : checkSignature cut key = .error fault) :
    fault.refusal.kind = .signature := by
  obtain h | ⟨algorithm, -, h⟩ := bind_eq_error.mp h
  · exact kind_of_algorithmOf_error h
  obtain h | ⟨signature, -, h⟩ := bind_eq_error.mp h
  · exact kind_of_segmentBytes_error h
  split at h
  · contradiction
  · cases h
    rfl

theorem kind_of_claimMembers_error (h : claimMembers cut = .error fault) :
    fault.refusal.kind = .signature := by
  obtain h | ⟨bytes, -, h⟩ := bind_eq_error.mp h
  · exact kind_of_segmentBytes_error h
  obtain h | ⟨value, -, h⟩ := bind_eq_error.mp h
  · exact kind_of_valueOf_error h
  cases value with
  | obj members => contradiction
  | _ =>
      cases h
      rfl

theorem kind_of_authenticate_error (h : authenticate bytes key = .error fault) :
    fault.refusal.kind = .signature := by
  unfold authenticate at h
  split at h
  · cases h
    rfl
  · obtain h | ⟨⟨⟩, -, h⟩ := bind_eq_error.mp h
    · exact kind_of_checkSignature_error h
    · exact kind_of_claimMembers_error h

/-! ## What verification answers -/

/-- Verification fails with an error of a kind. -/
def FailsWith (token : String) (key : List UInt8) (now : Instant) (kind : ErrorKind) : Prop :=
  ∃ error, verify token key now = .error error ∧ error.kind = kind

theorem FailsWith.kind_eq {kind other : ErrorKind} (h : FailsWith token key now kind)
    (hother : FailsWith token key now other) : kind = other := by
  obtain ⟨error, herror, rfl⟩ := h
  obtain ⟨error', herror', rfl⟩ := hother
  rw [herror] at herror'
  exact congrArg AuthError.kind (Except.error.inj herror')

/-- What stands behind the last dot is the written form of the code that an algorithm gives for what
stands in front of it. -/
def SignedWith (token : String) (key : List UInt8) (algorithm : MacAlgorithm) : Prop :=
  ∃ message signature, Text.octets token = message ++ dot :: signature ∧ dot ∉ signature ∧
    Base64Url.decode signature = .ok (algorithm.code key message)

theorem Authentic.signedWith {algorithm : MacAlgorithm} {members : List Member}
    (h : Authentic cut key algorithm members) (htoken : Text.octets token = cut.bytes) :
    SignedWith token key algorithm := by
  refine ⟨cut.message, cut.signature, htoken, h.dot_not_mem_signature, ?_⟩
  rw [h.signature]
  exact Base64Url.decode_encode _

theorem examine_of_ne (htoken : token ≠ "") (hkey : key ≠ []) :
    examine token key =
      match checkOutline (Text.octets token) with
      | .error error => .refused error
      | .ok () =>
          match examineSigned (Text.octets token) key with
          | .error fault => .refused fault.refusal
          | .ok verdict => verdict := by
  have htoken' : token.isEmpty = false := by simpa using htoken
  have hkey' : key.isEmpty = false := by simpa using hkey
  rw [examine, htoken', hkey']
  rfl

theorem verify_of_checkOutline_error (htoken : token ≠ "") (hkey : key ≠ [])
    (h : checkOutline (Text.octets token) = .error error) :
    verify token key now = .error error := by
  rw [verify, examine_of_ne htoken hkey, h]
  exact Verdict.resultAt_refused error now

theorem failsWith_of_malformed (htoken : token ≠ "") (hkey : key ≠ [])
    (h : Malformed (Text.octets token)) : FailsWith token key now .malformedInput := by
  obtain ⟨reason, hreason⟩ := checkOutline_of_malformed h
  exact ⟨_, verify_of_checkOutline_error htoken hkey hreason, rfl⟩

theorem verify_of_misshapen (htoken : token ≠ "") (hkey : key ≠ [])
    (h : Misshapen (Text.octets token)) : verify token key now = .error .invalidClaims :=
  verify_of_checkOutline_error htoken hkey (checkOutline_of_misshapen h)

theorem Verdict.resultAt_ofClaims_error {members : List Member} {validity : Validity}
    (h : (ofClaims members validity).resultAt now = .error error) :
    ∃ fault : Fault, error = fault.refusal := by
  unfold resultAt at h
  split at h
  · cases h
    exact ⟨_, rfl⟩
  split at h
  · cases h
    exact ⟨_, rfl⟩
  unfold ofClaims at h
  split at h
  · cases h
    exact ⟨_, rfl⟩
  · contradiction

theorem refusal_of_verify_error {algorithm : MacAlgorithm} {members : List Member} (hkey : key ≠ [])
    (htoken : Text.octets token = cut.bytes) (h : Authentic cut key algorithm members)
    (hverify : verify token key now = .error error) : ∃ fault : Fault, error = fault.refusal := by
  rw [verify, examine_of_authentic htoken hkey h] at hverify
  cases hvalidity : Validity.ofMembers members with
  | error fault =>
      rw [hvalidity] at hverify
      cases hverify
      exact ⟨fault, rfl⟩
  | ok validity =>
      rw [hvalidity] at hverify
      exact Verdict.resultAt_ofClaims_error hverify

theorem authentic_or_failsWith (now : Instant) (htoken : token ≠ "") (hkey : key ≠ [])
    (h : Outlined (Text.octets token) cut) :
    (∃ signed algorithm members, Text.octets token = Compact.bytes signed ∧
      Authentic signed key algorithm members) ∨ FailsWith token key now .signature := by
  have houtline := checkOutline_of_outlined h
  by_cases hsignature : cut.signature.isEmpty = true
  · rw [if_pos hsignature] at houtline
    exact .inr ⟨_, verify_of_checkOutline_error htoken hkey houtline, rfl⟩
  rw [if_neg hsignature] at houtline
  cases hauthenticate : authenticate (Text.octets token) key with
  | ok members =>
      obtain ⟨signed, algorithm, hbytes, hauthentic⟩ := authenticate_eq_ok_iff.mp hauthenticate
      exact .inl ⟨signed, algorithm, members, hbytes, hauthentic⟩
  | error fault =>
      refine .inr ⟨fault.refusal, ?_, kind_of_authenticate_error hauthenticate⟩
      rw [verify, examine_of_ne htoken hkey, houtline, examineSigned, hauthenticate, error_bind]
      exact Verdict.resultAt_refused _ now

theorem answer_of_outlined (now : Instant) (htoken : token ≠ "") (hkey : key ≠ [])
    (h : Outlined (Text.octets token) cut) :
    (∃ claims, verify token key now = .ok claims) ∨
      FailsWith token key now .signature ∨ FailsWith token key now .expiry := by
  obtain ⟨signed, algorithm, members, hbytes, hauthentic⟩ | hfails :=
    authentic_or_failsWith now htoken hkey h
  · cases hverify : verify token key now with
    | ok claims => exact .inl ⟨claims, rfl⟩
    | error error =>
        obtain ⟨fault, rfl⟩ := refusal_of_verify_error hkey hbytes hauthentic hverify
        rcases fault.kind_refusal with hkind | hkind
        · exact .inr (.inl ⟨_, hverify, hkind⟩)
        · exact .inr (.inr ⟨_, hverify, hkind⟩)
  · exact .inr (.inl hfails)

/-- The kind of an error tells the outline of the token that it is for. -/
theorem FailsWith.outline {kind : ErrorKind} (h : FailsWith token key now kind) (htoken : token ≠ "")
    (hkey : key ≠ []) :
    kind = .malformedInput ∧ Malformed (Text.octets token) ∨
      kind = .claimShape ∧ Misshapen (Text.octets token) ∨
      (kind = .signature ∨ kind = .expiry) ∧ ∃ cut, Outlined (Text.octets token) cut := by
  -- Each outline has its own kinds of answers, and an error has one kind.
  obtain hmalformed | hmisshapen | ⟨cut, houtlined⟩ := outline_cases (Text.octets token)
  · exact .inl ⟨h.kind_eq (failsWith_of_malformed htoken hkey hmalformed), hmalformed⟩
  · exact .inr (.inl ⟨h.kind_eq ⟨_, verify_of_misshapen htoken hkey hmisshapen, rfl⟩, hmisshapen⟩)
  · refine .inr (.inr ⟨?_, cut, houtlined⟩)
    obtain ⟨claims, hclaims⟩ | hsignature | hexpiry := answer_of_outlined now htoken hkey houtlined
    · obtain ⟨error, herror, -⟩ := h
      rw [hclaims] at herror
      contradiction
    · exact .inl (h.kind_eq hsignature)
    · exact .inr (h.kind_eq hexpiry)

theorem failsWith_malformedInput_iff (htoken : token ≠ "") (hkey : key ≠ []) :
    FailsWith token key now .malformedInput ↔ Malformed (Text.octets token) := by
  refine ⟨fun hfails => ?_, failsWith_of_malformed htoken hkey⟩
  obtain ⟨-, hmalformed⟩ | ⟨⟨⟩, -⟩ | ⟨⟨⟨⟩⟩ | ⟨⟨⟩⟩, -⟩ := hfails.outline htoken hkey
  exact hmalformed

theorem verify_eq_invalidClaims_iff (htoken : token ≠ "") (hkey : key ≠ []) :
    verify token key now = .error .invalidClaims ↔ Misshapen (Text.octets token) := by
  refine ⟨fun hverify => ?_, verify_of_misshapen htoken hkey⟩
  have hfails : FailsWith token key now .claimShape := ⟨_, hverify, rfl⟩
  obtain ⟨⟨⟩, -⟩ | ⟨-, hmisshapen⟩ | ⟨⟨⟨⟩⟩ | ⟨⟨⟩⟩, -⟩ := hfails.outline htoken hkey
  exact hmisshapen

theorem signedWith_of_failsWith_expiry (htoken : token ≠ "") (hkey : key ≠ [])
    (h : FailsWith token key now .expiry) : ∃ cut algorithm,
      IsFirstCut (Text.octets token) cut ∧ NamesAlgorithm cut.header algorithm ∧
        SignedWith token key algorithm := by
  obtain ⟨⟨⟩, -⟩ | ⟨⟨⟩, -⟩ | ⟨-, cut, houtlined⟩ := h.outline htoken hkey
  obtain ⟨signed, algorithm, members, hbytes, hauthentic⟩ | hsignature :=
    authentic_or_failsWith now htoken hkey houtlined
  · refine ⟨signed, algorithm, ?_, hauthentic.header, hauthentic.signedWith hbytes⟩
    rw [hbytes]
    exact ofFirstDots_eq_ok_iff_isFirstCut.mp hauthentic.ofFirstDots
  · exact absurd (h.kind_eq hsignature) (by decide)

theorem failsWith_malformedInput_of_damage {signature : List UInt8} {damaged : String}
    (later : Instant) (htoken : token ≠ "") (hkey : key ≠ [])
    (hcut : IsFirstCut (Text.octets token) cut)
    (hdamaged : Text.octets damaged = ({ cut with signature } : Compact).bytes) :
    FailsWith damaged key later .malformedInput ↔ FailsWith token key now .malformedInput := by
  have hne : damaged ≠ "" := by simpa using isEmpty_eq_false hdamaged
  have hother : IsFirstCut (Text.octets damaged) { cut with signature } :=
    ⟨hdamaged, hcut.header, hcut.claims⟩
  rw [failsWith_malformedInput_iff hne hkey, failsWith_malformedInput_iff htoken hkey,
    hother.malformed_iff, hcut.malformed_iff]

/-- The kind of the error tells what is wrong with a token. -/
structure SortedByKind (token : String) (key : List UInt8) (now : Instant) : Prop where
  dots : (∃ cut, IsFirstCut (Text.octets token) cut) ↔ 2 ≤ token.toList.count '.'
  malformed : FailsWith token key now .malformedInput ↔ Malformed (Text.octets token)
  misshapen : verify token key now = .error .invalidClaims ↔ Misshapen (Text.octets token)
  otherwise : ¬Malformed (Text.octets token) → ¬Misshapen (Text.octets token) →
    (∃ claims, verify token key now = .ok claims) ∨ FailsWith token key now .signature ∨
      FailsWith token key now .expiry
  expiry : FailsWith token key now .expiry → ∃ cut algorithm,
    IsFirstCut (Text.octets token) cut ∧ NamesAlgorithm cut.header algorithm ∧
      SignedWith token key algorithm
  damage : ∀ cut, IsFirstCut (Text.octets token) cut → ∀ signature damaged later,
    Text.octets damaged = ({ cut with signature } : Compact).bytes →
      (FailsWith damaged key later .malformedInput ↔ FailsWith token key now .malformedInput)

/-- Every token is sorted by the kind of its error, under every key and at every time. -/
theorem sortedByKind_of_ne (now : Instant) (htoken : token ≠ "") (hkey : key ≠ []) :
    SortedByKind token key now where
  dots := by
    simp only [← count_dot_octets, ← Compact.exists_ofFirstDots_iff,
      ofFirstDots_eq_ok_iff_isFirstCut]
  malformed := failsWith_malformedInput_iff htoken hkey
  misshapen := verify_eq_invalidClaims_iff htoken hkey
  otherwise hmalformed hmisshapen := by
    obtain h | h | ⟨cut, houtlined⟩ := outline_cases (Text.octets token)
    · exact absurd h hmalformed
    · exact absurd h hmisshapen
    · exact answer_of_outlined now htoken hkey houtlined
  expiry := signedWith_of_failsWith_expiry htoken hkey
  damage _ hcut _ _ later := failsWith_malformedInput_of_damage later htoken hkey hcut

/-- A token with an empty list as its claims is not malformed but misshapen. -/
theorem sortedByKind_listClaims :
    verify "e30.W10.eA" [115] ⟨0, by decide⟩ = .error .invalidClaims ∧
      SortedByKind "e30.W10.eA" [115] ⟨0, by decide⟩ := by
  have htoken : "e30.W10.eA" ≠ "" := by decide
  have hkey : [115] ≠ ([] : List UInt8) := by decide
  have hsorted := sortedByKind_of_ne ⟨0, by decide⟩ htoken hkey
  have hcut : IsFirstCut (Text.octets "e30.W10.eA")
      ⟨segment (.obj []), segment (.arr []), [101, 65]⟩ := ⟨by decide, by decide, by decide⟩
  have hmisshapen : Misshapen (Text.octets "e30.W10.eA") :=
    ⟨_, [], .arr [], hcut, holdsValue_segment rfl (by decide), holdsValue_segment rfl (by decide),
      nofun⟩
  exact ⟨hsorted.misshapen.mpr hmisshapen, hsorted⟩

end BearerAuth.Token
