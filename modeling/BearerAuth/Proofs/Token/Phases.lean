import BearerAuth.Proofs.Token.ErrorKinds

/-! What verification answers over time. A token that is not authentic under the key, or whose
claims cannot be read, is refused alike at all times. Any other token has at most a first and a last
second, and the clock decides between these and an answer that is always the same. -/

namespace BearerAuth.Token

variable {bytes key : List UInt8} {token name : String} {members : List Member} {fault : Fault}
  {validity : Validity} {last first : Option Nat} {result : Except AuthError ClaimMap}
  {claims found : ClaimMap} {start stop t later : Instant}

/-! ## The checks in order -/

/-- What is wrong with claims of a validity at a time: the end counts first, then the start, then
the audience. -/
def Validity.checkAt (validity : Validity) (now : Instant) : Except Fault Unit :=
  if validity.expires.any fun n => (n : Int) < now.seconds then .error .expiredSignature
  else if validity.starts.any fun n => now.seconds < n then .error .immatureSignature
  else if validity.hasAudience then .error .invalidAudience
  else .ok ()

/-- The checks on a token that has its outline, one after the other. The clock is looked at once
the times have been read. -/
def checksAt (bytes key : List UInt8) (now : Instant) : Except Fault ClaimMap := do
  let members ← authenticate bytes key
  let validity ← Validity.ofMembers members
  validity.checkAt now
  return .ofMembers members

theorem Verdict.resultAt_ofClaims :
    (ofClaims members validity).resultAt t =
      (validity.checkAt t >>= fun _ => .ok (.ofMembers members)).mapError Fault.refusal := by
  unfold resultAt ofClaims Validity.checkAt
  dsimp only
  split
  · rfl
  split
  · rfl
  split
  · rfl
  · rfl

/-- Looking at the clock after all the rest comes to the same. -/
theorem verify_eq_checksAt (htoken : token ≠ "") (hkey : key ≠ []) :
    verify token key t = (checkOutline (Text.octets token) >>= fun _ =>
      (checksAt (Text.octets token) key t).mapError Fault.refusal) := by
  rw [verify, examine_of_ne htoken hkey]
  cases checkOutline (Text.octets token) with
  | error error => exact Verdict.resultAt_refused error t
  | ok =>
      rw [ok_bind, examineSigned, checksAt]
      cases authenticate (Text.octets token) key with
      | error fault => exact Verdict.resultAt_refused _ t
      | ok members =>
          rw [ok_bind, ok_bind]
          cases Validity.ofMembers members with
          | error fault => exact Verdict.resultAt_refused _ t
          | ok validity => exact Verdict.resultAt_ofClaims

/-! ## Answers that do not depend on the time -/

theorem kind_of_timeClaim_error (h : timeClaim members name = .error fault) :
    fault.refusal.kind = .signature := by
  unfold timeClaim at h
  split at h
  · cases h
  split at h
  · cases h
  · cases h
    rfl

theorem kind_of_ofMembers_error (h : Validity.ofMembers members = .error fault) :
    fault.refusal.kind = .signature := by
  unfold Validity.ofMembers at h
  cases hreadable : isReadable members with
  | false =>
      rw [hreadable] at h
      cases h
      rfl
  | true =>
      simp only [hreadable, Bool.not_true, Bool.false_eq_true, if_false, bind_eq_error] at h
      obtain h | ⟨expires, -, h⟩ := h
      · exact kind_of_timeClaim_error h
      obtain h | ⟨starts, -, h⟩ := h
      · exact kind_of_timeClaim_error h
      · cases h

/-- A token is refused at all times for something else than the time, or it is authentic and
its claims say when it is valid. -/
theorem examine_cases (token : String) (key : List UInt8) :
    (∃ error, examine token key = .refused error ∧ error.kind ≠ .expiry) ∨
      ∃ cut algorithm members validity, Text.octets token = Compact.bytes cut ∧
        Authentic cut key algorithm members ∧ Validity.ofMembers members = .ok validity ∧
        examine token key = .ofClaims members validity := by
  by_cases htoken : token = ""
  · subst htoken
    exact .inl ⟨.emptyToken, rfl, by decide⟩
  by_cases hkey : key = []
  · subst hkey
    refine .inl ⟨.missingSecret, ?_, by decide⟩
    have htoken' : token.isEmpty = false := by simpa using htoken
    rw [examine, htoken']
    rfl
  cases houtline : checkOutline (Text.octets token) with
  | error error =>
      refine .inl ⟨error, ?_, ?_⟩
      · rw [examine_of_ne htoken hkey, houtline]
      · intro hkind
        have hmem := kind_of_checkOutline_error houtline
        rw [hkind] at hmem
        exact absurd hmem (by decide)
  | ok =>
      cases hauthenticate : authenticate (Text.octets token) key with
      | error fault =>
          refine .inl ⟨fault.refusal, ?_, ?_⟩
          · rw [examine_of_ne htoken hkey, houtline, examineSigned, hauthenticate, error_bind]
          · rw [kind_of_authenticate_error hauthenticate]
            decide
      | ok members =>
          obtain ⟨cut, algorithm, hbytes, hauthentic⟩ := authenticate_eq_ok_iff.mp hauthenticate
          have hexamine := examine_of_authentic hbytes hkey hauthentic
          cases hvalidity : Validity.ofMembers members with
          | error fault =>
              rw [hvalidity] at hexamine
              refine .inl ⟨fault.refusal, hexamine, ?_⟩
              rw [kind_of_ofMembers_error hvalidity]
              decide
          | ok validity =>
              rw [hvalidity] at hexamine
              exact .inr ⟨cut, algorithm, members, validity, hbytes, hauthentic, hvalidity,
                hexamine⟩

/-! ## Phases -/

/-- The answers for a token over time: behind its last second it has expired, else it is not valid
yet before its first second, and at all other times the answer is the same and not about the time.
A token that has a first or a last second is authentic and carries them among its claims. -/
structure HasPhases (token : String) (key : List UInt8) (last first : Option Nat)
    (result : Except AuthError ClaimMap) : Prop where
  expired : ∀ t, (∃ n ∈ last, (n : Int) < t.seconds) → verify token key t = .error .expired
  early : ∀ t, (∀ n ∈ last, t.seconds ≤ (n : Int)) → (∃ n ∈ first, t.seconds < (n : Int)) →
    verify token key t = .error .notYetValid
  during : ∀ t, (∀ n ∈ last, t.seconds ≤ (n : Int)) → (∀ n ∈ first, (n : Int) ≤ t.seconds) →
    verify token key t = result
  timeless : ∀ error, result = .error error → error.kind ≠ .expiry
  source : (last = none ∧ first = none ∧ ∃ error, result = .error error) ∨
    ∃ cut algorithm members, Text.octets token = Compact.bytes cut ∧
      Authentic cut key algorithm members ∧ timeClaim members "exp" = .ok last ∧
      timeClaim members "nbf" = .ok first

theorem hasPhases_examine (token : String) (key : List UInt8) :
    HasPhases token key (examine token key).expires (examine token key).starts
      (examine token key).result where
  expired := by
    rintro t ⟨n, hlast, hover⟩
    exact Verdict.resultAt_of_expired hlast hover
  early := by
    rintro t hduring ⟨n, hfirst, hearly⟩
    exact Verdict.resultAt_of_early hduring hfirst hearly
  during _ := Verdict.resultAt_of_between
  timeless := by
    intro error hresult
    obtain ⟨found, hexamine, hkind⟩ | ⟨-, -, members, validity, -, -, -, hexamine⟩ :=
      examine_cases token key
    · rw [hexamine] at hresult
      cases hresult
      exact hkind
    · rw [hexamine, Verdict.ofClaims] at hresult
      dsimp only at hresult
      split at hresult
      · cases hresult
        decide
      · cases hresult
  source := by
    obtain ⟨error, hexamine, -⟩ |
      ⟨cut, algorithm, members, validity, hbytes, hauthentic, hvalidity, hexamine⟩ :=
      examine_cases token key
    · rw [hexamine]
      exact .inl ⟨rfl, rfl, error, rfl⟩
    · rw [hexamine]
      obtain ⟨-, hexpires, hstarts, -⟩ := Validity.ofMembers_eq_ok_iff.mp hvalidity
      exact .inr ⟨cut, algorithm, members, hbytes, hauthentic, hexpires, hstarts⟩

/-! ## Earlier and later -/

theorem HasPhases.verify_eq_expired_iff (h : HasPhases token key last first result) :
    verify token key t = .error .expired ↔ ∃ n ∈ last, (n : Int) < t.seconds := by
  refine ⟨fun hverify => ?_, h.expired t⟩
  by_contra hnone
  have hlast : ∀ n ∈ last, t.seconds ≤ (n : Int) := by simpa using hnone
  by_cases hearly : ∃ n ∈ first, t.seconds < (n : Int)
  · rw [h.early t hlast hearly] at hverify
    cases hverify
  · have hfirst : ∀ n ∈ first, (n : Int) ≤ t.seconds := by simpa using hearly
    rw [h.during t hlast hfirst] at hverify
    exact h.timeless _ hverify rfl

theorem verify_expired_of_le (hlater : t.nanos ≤ later.nanos)
    (h : verify token key t = .error .expired) : verify token key later = .error .expired := by
  have hphases := hasPhases_examine token key
  obtain ⟨n, hlast, hover⟩ := hphases.verify_eq_expired_iff.mp h
  exact hphases.expired later ⟨n, hlast, Int.lt_of_lt_of_le hover (Instant.seconds_mono hlater)⟩

theorem verify_eq_ok_of_between (hstart : start.nanos ≤ t.nanos) (hstop : t.nanos ≤ stop.nanos)
    (hfirst : verify token key start = .ok claims) (hlast : verify token key stop = .ok found) :
    verify token key t = .ok claims := by
  obtain ⟨-, hstarts, hresult⟩ := Verdict.resultAt_eq_ok_iff.mp hfirst
  obtain ⟨hexpires, -, -⟩ := Verdict.resultAt_eq_ok_iff.mp hlast
  refine Verdict.resultAt_eq_ok_iff.mpr ⟨fun n hn => ?_, fun n hn => ?_, hresult⟩
  · exact Int.le_trans (Instant.seconds_mono hstop) (hexpires n hn)
  · exact Int.le_trans (hstarts n hn) (Instant.seconds_mono hstart)

/-- A token goes through phases, although the clock is looked at in the middle of the checks: what
has expired stays so, and it is accepted without a break and with the same claims. -/
structure GoesThroughPhases (token : String) (key : List UInt8) : Prop where
  inOrder : token ≠ "" → key ≠ [] → ∀ t,
    verify token key t = (checkOutline (Text.octets token) >>= fun _ =>
      (checksAt (Text.octets token) key t).mapError Fault.refusal)
  phases : ∃ last first result, HasPhases token key last first result
  staysExpired : ∀ t later, t.nanos ≤ later.nanos →
    verify token key t = .error .expired → verify token key later = .error .expired
  withoutBreak : ∀ start t stop claims found, start.nanos ≤ t.nanos → t.nanos ≤ stop.nanos →
    verify token key start = .ok claims → verify token key stop = .ok found →
      verify token key t = .ok claims
  sameClaims : ∀ t later claims found, verify token key t = .ok claims →
    verify token key later = .ok found → claims = found

/-- Every token goes through phases, whoever made it. -/
theorem goesThroughPhases (token : String) (key : List UInt8) : GoesThroughPhases token key where
  inOrder htoken hkey _ := verify_eq_checksAt htoken hkey
  phases := ⟨_, _, _, hasPhases_examine token key⟩
  staysExpired _ _ := verify_expired_of_le
  withoutBreak _ _ _ _ _ := verify_eq_ok_of_between
  sameClaims _ _ _ _ := verify_unique

end BearerAuth.Token
