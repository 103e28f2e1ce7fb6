import BearerAuth.Proofs.Token.Outline

/-! What verification can blame: the key, the form of a token, its signature, the time or the
shape of its claims. What a token is for is not looked at, and neither is how it was sent. -/

namespace BearerAuth.Token

variable {error : AuthError}

/-! ## Faults and outlines -/

theorem Fault.kind_refusal (fault : Fault) :
    fault.refusal.kind = .signature ∨ fault.refusal.kind = .expiry := by
  cases fault with
  | expiredSignature => exact .inr rfl
  | immatureSignature => exact .inr rfl
  | _ => exact .inl rfl

/-- The kinds of what an outline can lack. -/
def outlineKinds : List ErrorKind := [.malformedInput, .claimShape, .signature]

theorem kind_of_checkOutline_error {bytes : List UInt8}
    (h : checkOutline bytes = .error error) : error.kind ∈ outlineKinds := by
  obtain hmalformed | hmisshapen | ⟨cut, houtlined⟩ := outline_cases bytes
  · obtain ⟨reason, hreason⟩ := checkOutline_of_malformed hmalformed
    rw [hreason] at h
    cases h
    exact List.mem_cons_self
  · rw [checkOutline_of_misshapen hmisshapen] at h
    cases h
    decide
  · rw [checkOutline_of_outlined houtlined] at h
    split at h
    · cases h
      decide
    · contradiction

/-! ## Verdicts -/

/-- The kinds of errors that verification answers with. -/
def verificationKinds : List ErrorKind := .configuration :: .expiry :: outlineKinds

theorem Fault.kind_refusal_mem (fault : Fault) : fault.refusal.kind ∈ verificationKinds := by
  rcases fault.kind_refusal with h | h
  · rw [h]
    decide
  · rw [h]
    decide

theorem Verdict.kind_of_resultAt_error {verdict : Verdict} {now : Instant}
    (hresult : ∀ found, verdict.result = .error found → found.kind ∈ verificationKinds)
    (h : verdict.resultAt now = .error error) : error.kind ∈ verificationKinds := by
  unfold resultAt at h
  split at h
  · cases h
    exact Fault.kind_refusal_mem _
  · split at h
    · cases h
      exact Fault.kind_refusal_mem _
    · exact hresult error h

theorem kind_of_examineSigned_error {bytes key : List UInt8} {verdict : Verdict}
    (h : examineSigned bytes key = .ok verdict) :
    ∀ found, verdict.result = .error found → found.kind ∈ verificationKinds := by
  obtain ⟨members, -, h⟩ := bind_eq_ok.mp h
  obtain ⟨validity, -, h⟩ := bind_eq_ok.mp h
  cases h
  intro found hfound
  simp only [Verdict.ofClaims] at hfound
  split at hfound
  · cases hfound
    exact Fault.kind_refusal_mem _
  · contradiction

theorem kind_of_examine_error {token : String} {key : List UInt8} :
    ∀ found, (examine token key).result = .error found → found.kind ∈ verificationKinds := by
  intro found h
  unfold examine at h
  split at h
  · cases h
    decide
  split at h
  · cases h
    decide
  split at h
  · rename_i fault houtline
    cases h
    exact List.mem_cons_of_mem _ (List.mem_cons_of_mem _ (kind_of_checkOutline_error houtline))
  split at h
  · cases h
    exact Fault.kind_refusal_mem _
  · rename_i verdict hverdict
    exact kind_of_examineSigned_error hverdict found h

/-- Verification never answers with an error of any other kind. -/
theorem kind_of_verify_error {token : String} {key : List UInt8} {now : Instant}
    (h : verify token key now = .error error) : error.kind ∈ verificationKinds :=
  Verdict.kind_of_resultAt_error kind_of_examine_error h

end BearerAuth.Token
