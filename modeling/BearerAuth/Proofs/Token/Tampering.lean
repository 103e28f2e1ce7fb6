import BearerAuth.Proofs.Token.Issuing

/-! Exchanging the signature of an accepted token. Whatever stands behind the second dot, the
outline is still that of a token, so only the signature can be at fault: it is missing, it
shifts the segments into each other, it is no written form, or it is that of another code. -/

namespace BearerAuth.Token

variable {cut : Compact} {key : List UInt8} {algorithm : MacAlgorithm} {members : List Member}

/-- A fault that is reported as a wrong signature. -/
def Fault.CountsAgainstSignature (fault : Fault) : Prop :=
  ∃ reason, fault.refusal = .invalidSignature reason

theorem segmentBytes_of_decode_error {segment : List UInt8} {error : Base64Url.DecodeError}
    (h : Base64Url.decode segment = .error error) :
    segmentBytes segment = .error (.base64 error) := by
  rw [segmentBytes, h]
  rfl

/-- A token that cannot be cut at its last dots into the segments it was signed with has a
header that is no written form. -/
theorem authenticate_of_dot (token : Compact) (key : List UInt8) (hdot : dot ∈ token.signature) :
    ∃ fault, authenticate token.bytes key = .error fault ∧ fault.CountsAgainstSignature := by
  unfold authenticate
  cases hlast : Compact.ofLastDots? token.bytes with
  | none => exact ⟨.invalidToken, rfl, _, rfl⟩
  | some shifted =>
      obtain ⟨error, herror⟩ :=
        Base64Url.decode_eq_error (Compact.dot_mem_header_of_ofLastDots? hlast hdot) rfl
      refine ⟨.base64 error, ?_, _, rfl⟩
      simp only [checkSignature, algorithmOf, segmentBytes_of_decode_error herror, error_bind]

theorem authenticate_of_ne {signature : List UInt8} (h : Authentic cut key algorithm members)
    (hdot : dot ∉ signature) (hne : signature ≠ cut.signature) :
    ∃ fault, authenticate ({ cut with signature } : Compact).bytes key = .error fault ∧
      fault.CountsAgainstSignature := by
  have hlast := Compact.ofLastDots?_eq_some_iff.mpr
    ⟨rfl, (show dot ∉ ({ cut with signature } : Compact).claims from h.claims.dot_not_mem), hdot⟩
  have halgorithm := algorithmOf_eq_ok_iff.mpr h.header
  simp only [authenticate, hlast, checkSignature, halgorithm, ok_bind]
  cases hdecode : Base64Url.decode signature with
  | error error =>
      refine ⟨.base64 error, ?_, _, rfl⟩
      rw [segmentBytes_of_decode_error hdecode]
      rfl
  | ok bytes =>
      have hbytes := Base64Url.encode_of_decode hdecode
      have hcode : bytes ≠ algorithm.code key ({ cut with signature } : Compact).message := by
        rintro rfl
        exact hne (hbytes.trans h.signature.symm)
      refine ⟨.invalidSignature, ?_, _, rfl⟩
      rw [segmentBytes_eq_ok_iff.mpr hbytes, ok_bind, if_neg hcode]
      rfl

/-- With another signature an authentic token is refused for its signature. -/
theorem examine_of_other_signature {token : String} {signature : List UInt8}
    (h : Authentic cut key algorithm members) (hkey : key ≠ [])
    (htoken : Text.octets token = ({ cut with signature } : Compact).bytes)
    (hne : signature ≠ cut.signature) :
    ∃ reason, examine token key = .refused (.invalidSignature reason) := by
  have hkey' : key.isEmpty = false := by simpa using hkey
  obtain ⟨fields, hheader, -⟩ := h.header
  have houtline : checkOutline ({ cut with signature } : Compact).bytes =
      if signature.isEmpty then .error (.invalidSignature "missing signature") else .ok () :=
    checkOutline_of_objects hheader h.claims
  simp only [examine, isEmpty_eq_false htoken, hkey', htoken, houtline, Bool.false_eq_true,
    if_false]
  by_cases hsignature : signature = []
  · exact ⟨"missing signature", by simp [hsignature]⟩
  · have hfault : ∃ fault, authenticate ({ cut with signature } : Compact).bytes key =
        .error fault ∧ fault.CountsAgainstSignature := by
      by_cases hdot : dot ∈ signature
      · exact authenticate_of_dot { cut with signature } key hdot
      · exact authenticate_of_ne h hdot hne
    obtain ⟨fault, hfault, reason, hreason⟩ := hfault
    refine ⟨reason, ?_⟩
    simp [hsignature, examineSigned, hfault, hreason]

/-! ## Tokens in text -/

theorem sign_eq_segments (secret : List UInt8) (claims : ClaimMap) :
    sign secret claims =
      Text.ofAscii (signed secret claims).header ++ "." ++
        Text.ofAscii (signed secret claims).claims ++ "." ++
          Text.ofAscii (signed secret claims).signature := by
  have hdot : "." = Text.ofAscii [dot] := by decide
  rw [sign, hdot, ← Text.ofAscii_append, ← Text.ofAscii_append, ← Text.ofAscii_append,
    ← Text.ofAscii_append]
  simp [Compact.bytes, Compact.message]

theorem octets_segments (header claims signature : String) :
    Text.octets (header ++ "." ++ claims ++ "." ++ signature) =
      Compact.bytes ⟨Text.octets header, Text.octets claims, Text.octets signature⟩ := by
  have hdot : Text.octets "." = [dot] := by decide
  simp [Text.octets_append, hdot, Compact.bytes, Compact.message]

/-- If the signature of an accepted token is exchanged for any other text, the token is refused
for its signature at all times. -/
theorem refused_of_other_signature {header claims signature other : String}
    {now : Instant} {found : ClaimMap}
    (h : verify (header ++ "." ++ claims ++ "." ++ signature) key now = .ok found)
    (hne : other ≠ signature) (later : Instant) :
    ∃ reason,
      verify (header ++ "." ++ claims ++ "." ++ other) key later =
        .error (.invalidSignature reason) ∧
      (AuthError.invalidSignature reason).kind = .signature := by
  obtain ⟨hkey, cut, algorithm, members, -, hoctets, hauthentic, -⟩ := verify_eq_ok_iff.mp h
  rw [octets_segments] at hoctets
  cases Compact.bytes_inj hoctets hauthentic.count_dot
  obtain ⟨reason, hreason⟩ := examine_of_other_signature hauthentic hkey
    (octets_segments header claims other) fun heq => hne (Text.octets_inj heq)
  exact ⟨reason, by rw [verify, hreason, Verdict.resultAt_refused], rfl⟩

theorem refused_without_signature : ∃ header claims signature : String,
    verify (header ++ "." ++ claims ++ "." ++ signature) [115] ⟨0, by decide⟩ = .ok .empty ∧
      "" ≠ signature ∧ ∃ reason,
        verify (header ++ "." ++ claims ++ "." ++ "") [115] ⟨0, by decide⟩ =
          .error (.invalidSignature reason) ∧
        (AuthError.invalidSignature reason).kind = .signature := by
  have hsecret : [115] ≠ ([] : List UInt8) := by decide
  have htoken := verify_sign_empty hsecret ⟨0, by decide⟩
  rw [sign_eq_segments] at htoken
  have hne : "" ≠ Text.ofAscii (signed [115] .empty).signature := by
    intro heq
    have hascii : ∀ b ∈ (signed [115] .empty).signature, b.toNat < 128 := Base64Url.encode_lt _
    have hoctets := congrArg Text.octets heq
    rw [Text.octets_ofAscii hascii] at hoctets
    exact (authentic_signed [115] rfl (by decide)).signature_ne_nil hoctets.symm
  exact ⟨_, _, _, htoken, hne, refused_of_other_signature htoken hne ⟨0, by decide⟩⟩

end BearerAuth.Token
