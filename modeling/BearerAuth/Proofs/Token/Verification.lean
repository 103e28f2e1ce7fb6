import BearerAuth.Proofs.Base64Url
import BearerAuth.Proofs.Outcome
import BearerAuth.Proofs.Token.Splitting
import BearerAuth.Token.Verification

/-! What verification accepts. A token is authentic if its segments are the written forms of
a header, of claims and of the code that the header's algorithm gives for both; it is
accepted exactly while its own claims admit the time. -/

namespace BearerAuth.Token

/-! ## Segments -/

/-- A segment is the written form of a value. -/
def HoldsValue (segment : List UInt8) (value : Json) : Prop :=
  ∃ bytes, segment = Base64Url.encode bytes ∧ Json.ofOctets? bytes = some value

/-- A segment is the written form of an object with these members. -/
def HoldsObject (segment : List UInt8) (members : List Member) : Prop :=
  HoldsValue segment (.obj members)

theorem HoldsValue.unique {segment : List UInt8} {value other : Json}
    (h : HoldsValue segment value) (hother : HoldsValue segment other) : value = other := by
  obtain ⟨bytes, rfl, hvalue⟩ := h
  obtain ⟨found, hbytes, hfound⟩ := hother
  rw [← Base64Url.encode_inj hbytes, hvalue] at hfound
  exact Option.some.inj hfound

theorem dot_not_mem_encode (bytes : List UInt8) : dot ∉ Base64Url.encode bytes :=
  Base64Url.not_mem_encode rfl bytes

theorem HoldsObject.dot_not_mem {segment : List UInt8} {members : List Member}
    (h : HoldsObject segment members) : dot ∉ segment := by
  obtain ⟨bytes, rfl, -⟩ := h
  exact dot_not_mem_encode bytes

theorem segmentValue_eq_ok_iff {name : String} {segment : List UInt8} {value : Json} :
    segmentValue name segment = .ok value ↔ HoldsValue segment value := by
  unfold segmentValue
  constructor
  · intro h
    split at h
    · contradiction
    · rename_i bytes hbytes
      split at h
      · contradiction
      · rename_i found hfound
        cases h
        exact ⟨bytes, Base64Url.encode_of_decode hbytes, hfound⟩
  · rintro ⟨bytes, rfl, hvalue⟩
    simp [Base64Url.decode_encode, hvalue]

theorem checkHeader_eq_ok_iff {segment : List UInt8} :
    checkHeader segment = .ok () ↔ ∃ fields, HoldsObject segment fields := by
  rw [checkHeader, bind_eq_ok]
  constructor
  · rintro ⟨value, hvalue, h⟩
    cases value with
    | obj fields => exact ⟨fields, segmentValue_eq_ok_iff.mp hvalue⟩
    | _ => contradiction
  · rintro ⟨fields, h⟩
    exact ⟨.obj fields, segmentValue_eq_ok_iff.mpr h, rfl⟩

theorem checkClaims_eq_ok_iff {segment : List UInt8} :
    checkClaims segment = .ok () ↔ ∃ members, HoldsObject segment members := by
  rw [checkClaims, bind_eq_ok]
  constructor
  · rintro ⟨value, hvalue, h⟩
    cases value with
    | obj members => exact ⟨members, segmentValue_eq_ok_iff.mp hvalue⟩
    | _ => contradiction
  · rintro ⟨members, h⟩
    exact ⟨.obj members, segmentValue_eq_ok_iff.mpr h, rfl⟩

/-- Where an object stands between the first two dots, the outline depends on the other segments. -/
theorem checkOutline_of_holdsObject (token : Compact) {members : List Member}
    (hheader : dot ∉ token.header) (hclaims : HoldsObject token.claims members) :
    checkOutline token.bytes = (checkHeader token.header >>= fun _ =>
      if token.signature.isEmpty then .error (.invalidSignature "missing signature")
      else .ok ()) := by
  have hcut := Compact.ofFirstDots_eq_ok_iff.mpr ⟨rfl, hheader, hclaims.dot_not_mem⟩
  simp only [checkOutline, hcut, checkClaims_eq_ok_iff.mpr ⟨members, hclaims⟩, ok_bind]

theorem checkOutline_of_objects {token : Compact} {fields members : List Member}
    (hheader : HoldsObject token.header fields) (hclaims : HoldsObject token.claims members) :
    checkOutline token.bytes =
      if token.signature.isEmpty then .error (.invalidSignature "missing signature")
      else .ok () := by
  rw [checkOutline_of_holdsObject token hheader.dot_not_mem hclaims,
    checkHeader_eq_ok_iff.mpr ⟨fields, hheader⟩, ok_bind]

/-! ## Authentic tokens -/

theorem Compact.visible_of_encoded {token : Compact} {header claims signature : List UInt8}
    (hheader : token.header = Base64Url.encode header)
    (hclaims : token.claims = Base64Url.encode claims)
    (hsignature : token.signature = Base64Url.encode signature) :
    ∀ b ∈ token.bytes, 33 ≤ b.toNat ∧ b.toNat < 127 := by
  intro b hb
  simp only [Compact.bytes, Compact.message, List.mem_append, List.mem_cons] at hb
  rcases hb with (hb | rfl | hb) | rfl | hb
  · exact Base64Url.encode_visible _ b (hheader ▸ hb)
  · decide
  · exact Base64Url.encode_visible _ b (hclaims ▸ hb)
  · decide
  · exact Base64Url.encode_visible _ b (hsignature ▸ hb)

theorem segmentBytes_eq_ok_iff {segment bytes : List UInt8} :
    segmentBytes segment = .ok bytes ↔ segment = Base64Url.encode bytes :=
  mapError_eq_ok.trans Base64Url.decode_eq_ok_iff

theorem valueOf_eq_ok_iff {bytes : List UInt8} {value : Json} :
    valueOf bytes = .ok value ↔ Json.ofOctets? bytes = some value := by
  unfold valueOf
  split
  · rename_i found hfound
    simp [hfound]
  · rename_i hfound
    simp [hfound]

/-- A header segment names an algorithm with a shared secret. -/
def NamesAlgorithm (segment : List UInt8) (algorithm : MacAlgorithm) : Prop :=
  ∃ fields, HoldsObject segment fields ∧
    headerAlgorithm? (.obj fields) = some (.mac algorithm)

theorem algorithmOf_eq_ok_iff {segment : List UInt8} {algorithm : MacAlgorithm} :
    algorithmOf segment = .ok algorithm ↔ NamesAlgorithm segment algorithm := by
  simp only [algorithmOf, bind_eq_ok, segmentBytes_eq_ok_iff, valueOf_eq_ok_iff]
  constructor
  · rintro ⟨bytes, hbytes, header, hheader, h⟩
    split at h
    · contradiction
    · rename_i named hnamed
      split at h
      · contradiction
      · rename_i found hfound
        cases h
        cases named with
        | mac named =>
            cases hfound
            cases header with
            | obj fields => exact ⟨fields, ⟨bytes, hbytes, hheader⟩, hnamed⟩
            | _ => contradiction
        | _ => contradiction
  · rintro ⟨fields, ⟨bytes, hbytes, hheader⟩, hnamed⟩
    exact ⟨bytes, hbytes, .obj fields, hheader, by rw [hnamed]; rfl⟩

/-- The segments of a token are the written forms of a header, of claims with these members
and of the code that the header's algorithm gives for both under a key. -/
structure Authentic (token : Compact) (key : List UInt8) (algorithm : MacAlgorithm)
    (members : List Member) : Prop where
  header : NamesAlgorithm token.header algorithm
  claims : HoldsObject token.claims members
  signature : token.signature = Base64Url.encode (algorithm.code key token.message)

namespace Authentic

variable {token : Compact} {key : List UInt8} {algorithm : MacAlgorithm} {members : List Member}

theorem dot_not_mem_header (h : Authentic token key algorithm members) : dot ∉ token.header := by
  obtain ⟨fields, hfields, -⟩ := h.header
  exact hfields.dot_not_mem

theorem dot_not_mem_signature (h : Authentic token key algorithm members) :
    dot ∉ token.signature := by
  rw [h.signature]
  exact dot_not_mem_encode _

theorem signature_ne_nil (h : Authentic token key algorithm members) : token.signature ≠ [] := by
  rw [h.signature]
  intro hempty
  exact algorithm.code_ne_nil key token.message (Base64Url.encode_eq_nil.mp hempty)

theorem visible (h : Authentic token key algorithm members) :
    ∀ b ∈ token.bytes, 33 ≤ b.toNat ∧ b.toNat < 127 := by
  obtain ⟨fields, ⟨headerBytes, hheader, -⟩, -⟩ := h.header
  obtain ⟨claimBytes, hclaims, -⟩ := h.claims
  exact Compact.visible_of_encoded hheader hclaims h.signature

theorem ofLastDots? (h : Authentic token key algorithm members) :
    Compact.ofLastDots? token.bytes = some token :=
  Compact.ofLastDots?_eq_some_iff.mpr ⟨rfl, h.claims.dot_not_mem, h.dot_not_mem_signature⟩

theorem ofFirstDots (h : Authentic token key algorithm members) :
    Compact.ofFirstDots token.bytes = .ok token :=
  Compact.ofFirstDots_eq_ok_iff.mpr ⟨rfl, h.dot_not_mem_header, h.claims.dot_not_mem⟩

theorem count_dot (h : Authentic token key algorithm members) : token.bytes.count dot = 2 :=
  Compact.count_dot_eq_two h.dot_not_mem_header h.claims.dot_not_mem h.dot_not_mem_signature

end Authentic

theorem checkSignature_eq_ok_iff {token : Compact} {key : List UInt8} :
    checkSignature token key = .ok () ↔
      ∃ algorithm, NamesAlgorithm token.header algorithm ∧
        token.signature = Base64Url.encode (algorithm.code key token.message) := by
  simp only [checkSignature, bind_eq_ok, algorithmOf_eq_ok_iff, segmentBytes_eq_ok_iff]
  constructor
  · rintro ⟨algorithm, halgorithm, signature, hsignature, h⟩
    refine ⟨algorithm, halgorithm, ?_⟩
    split at h
    · rename_i hcode
      rw [hsignature, hcode]
    · contradiction
  · rintro ⟨algorithm, halgorithm, hsignature⟩
    exact ⟨algorithm, halgorithm, _, hsignature, if_pos rfl⟩

theorem claimMembers_eq_ok_iff {token : Compact} {members : List Member} :
    claimMembers token = .ok members ↔ HoldsObject token.claims members := by
  simp only [claimMembers, bind_eq_ok, segmentBytes_eq_ok_iff, valueOf_eq_ok_iff]
  constructor
  · rintro ⟨bytes, hbytes, value, hvalue, h⟩
    cases value with
    | obj found =>
        cases h
        exact ⟨bytes, hbytes, hvalue⟩
    | _ => contradiction
  · rintro ⟨bytes, hbytes, hvalue⟩
    exact ⟨bytes, hbytes, .obj members, hvalue, rfl⟩

/-- Exactly the authentic tokens are authenticated. -/
theorem authenticate_eq_ok_iff {bytes key : List UInt8} {members : List Member} :
    authenticate bytes key = .ok members ↔
      ∃ token algorithm, bytes = Compact.bytes token ∧ Authentic token key algorithm members := by
  unfold authenticate
  constructor
  · intro h
    split at h
    · contradiction
    · rename_i token htoken
      obtain ⟨⟨⟩, hsignature, h⟩ := bind_eq_ok.mp h
      obtain ⟨algorithm, hheader, hsignature⟩ := checkSignature_eq_ok_iff.mp hsignature
      exact ⟨token, algorithm, (Compact.ofLastDots?_eq_some_iff.mp htoken).1, hheader,
        claimMembers_eq_ok_iff.mp h, hsignature⟩
  · rintro ⟨token, algorithm, rfl, h⟩
    simp only [h.ofLastDots?, checkSignature_eq_ok_iff.mpr ⟨algorithm, h.header, h.signature⟩,
      ok_bind]
    exact claimMembers_eq_ok_iff.mpr h.claims

/-! ## Verdicts -/

theorem Validity.ofMembers_eq_ok_iff {members : List Member} {validity : Validity} :
    ofMembers members = .ok validity ↔
      isReadable members = true ∧ timeClaim members "exp" = .ok validity.expires ∧
        timeClaim members "nbf" = .ok validity.starts ∧
        (Json.lookup? members "aud").any isAudience = validity.hasAudience := by
  obtain ⟨expires, starts, hasAudience⟩ := validity
  unfold ofMembers
  cases isReadable members with
  | false =>
      refine iff_of_false (fun h => ?_) (fun h => Bool.false_ne_true h.1)
      obtain ⟨_, hthrow, -⟩ := bind_eq_ok.mp h
      cases hthrow
  | true =>
      simp only [Bool.not_true, Bool.false_eq_true, if_false, bind_eq_ok, true_and]
      constructor
      · rintro ⟨found, hexpires, first, hstarts, h⟩
        cases h
        exact ⟨hexpires, hstarts, rfl⟩
      · rintro ⟨hexpires, hstarts, rfl⟩
        exact ⟨expires, hexpires, starts, hstarts, rfl⟩

/-- Claims with this validity are accepted at a time. -/
structure Validity.Admits (validity : Validity) (now : Instant) : Prop where
  notExpired : ∀ n ∈ validity.expires, now.seconds ≤ (n : Int)
  started : ∀ n ∈ validity.starts, (n : Int) ≤ now.seconds
  noAudience : validity.hasAudience = false

theorem Verdict.resultAt_eq_ok_iff {verdict : Verdict} {now : Instant} {claims : ClaimMap} :
    verdict.resultAt now = .ok claims ↔
      (∀ n ∈ verdict.expires, now.seconds ≤ (n : Int)) ∧
        (∀ n ∈ verdict.starts, (n : Int) ≤ now.seconds) ∧ verdict.result = .ok claims := by
  obtain ⟨expires, starts, result⟩ := verdict
  have hexpires : (expires.any fun n => (n : Int) < now.seconds) = false ↔
      ∀ n ∈ expires, now.seconds ≤ (n : Int) := by
    cases expires <;> simp
  have hstarts : (starts.any fun n => now.seconds < (n : Int)) = false ↔
      ∀ n ∈ starts, (n : Int) ≤ now.seconds := by
    cases starts <;> simp
  simp only [resultAt, ← hexpires, ← hstarts]
  cases (expires.any fun n => decide ((n : Int) < now.seconds)) with
  | true => simp
  | false =>
      cases (starts.any fun n => decide (now.seconds < (n : Int))) with
      | true => simp
      | false => simp

/-- Behind its last second a verdict is that the token has expired, whenever it starts. -/
theorem Verdict.resultAt_of_expired {verdict : Verdict} {now : Instant} {last : Nat}
    (hlast : verdict.expires = some last) (hexpired : (last : Int) < now.seconds) :
    verdict.resultAt now = .error .expired := by
  obtain ⟨expires, starts, result⟩ := verdict
  cases hlast
  have hany : ((some last).any fun n => (n : Int) < now.seconds) = true := by simpa using hexpired
  rw [resultAt, if_pos hany]
  rfl

theorem Verdict.resultAt_of_early {verdict : Verdict} {now : Instant} {first : Nat}
    (hlast : ∀ n ∈ verdict.expires, now.seconds ≤ (n : Int)) (hfirst : verdict.starts = some first)
    (hearly : now.seconds < (first : Int)) : verdict.resultAt now = .error .notYetValid := by
  obtain ⟨expires, starts, result⟩ := verdict
  cases hfirst
  have hexpired : ¬(expires.any fun n => (n : Int) < now.seconds) = true := by
    cases expires <;> simp_all
  have hany : ((some first).any fun n => now.seconds < (n : Int)) = true := by simpa using hearly
  rw [resultAt, if_neg hexpired, if_pos hany]
  rfl

theorem Verdict.resultAt_of_between {verdict : Verdict} {now : Instant}
    (hexpires : ∀ n ∈ verdict.expires, now.seconds ≤ (n : Int))
    (hstarts : ∀ n ∈ verdict.starts, (n : Int) ≤ now.seconds) :
    verdict.resultAt now = verdict.result := by
  obtain ⟨expires, starts, result⟩ := verdict
  have hexpired : ¬(expires.any fun n => (n : Int) < now.seconds) = true := by
    cases expires <;> simp_all
  have hstarted : ¬(starts.any fun n => now.seconds < (n : Int)) = true := by
    cases starts <;> simp_all
  rw [resultAt, if_neg hexpired, if_neg hstarted]

theorem Verdict.resultAt_toNat {first last : Int} {now : Instant} (hfirst : 0 ≤ first)
    (hlast : 0 ≤ last) (result : Except AuthError ClaimMap) :
    resultAt ⟨some last.toNat, some first.toNat, result⟩ now =
      if last < now.seconds then .error .expired
      else if now.seconds < first then .error .notYetValid
      else result := by
  have hfirst' : (first.toNat : Int) = first := Int.toNat_of_nonneg hfirst
  have hlast' : (last.toNat : Int) = last := Int.toNat_of_nonneg hlast
  by_cases hover : last < now.seconds
  · rw [if_pos hover]
    exact resultAt_of_expired rfl (hlast' ▸ hover)
  rw [if_neg hover]
  have hduring : ∀ n ∈ some last.toNat, now.seconds ≤ (n : Int) := by
    rintro n ⟨⟩
    rw [hlast']
    exact Int.not_lt.mp hover
  by_cases hbefore : now.seconds < first
  · rw [if_pos hbefore]
    exact resultAt_of_early hduring rfl (hfirst' ▸ hbefore)
  rw [if_neg hbefore]
  apply resultAt_of_between hduring
  rintro n ⟨⟩
  rw [hfirst']
  exact Int.not_lt.mp hbefore

theorem Verdict.resultAt_refused (error : AuthError) (now : Instant) :
    (refused error).resultAt now = .error error := rfl

theorem Verdict.resultAt_ofClaims_eq_ok_iff {members : List Member} {validity : Validity}
    {now : Instant} {claims : ClaimMap} :
    (ofClaims members validity).resultAt now = .ok claims ↔
      validity.Admits now ∧ claims = .ofMembers members := by
  rw [resultAt_eq_ok_iff]
  obtain ⟨expires, starts, hasAudience⟩ := validity
  cases hasAudience with
  | true =>
      simp only [ofClaims, if_true, reduceCtorEq, and_false, false_iff]
      rintro ⟨h, -⟩
      exact absurd h.noAudience (by simp)
  | false =>
      simp only [ofClaims, Bool.false_eq_true, if_false, Except.ok.injEq]
      constructor
      · rintro ⟨hexpires, hstarts, rfl⟩
        exact ⟨⟨hexpires, hstarts, rfl⟩, rfl⟩
      · rintro ⟨h, rfl⟩
        exact ⟨h.notExpired, h.started, rfl⟩

theorem isEmpty_eq_false {token : String} {cut : Compact} (h : Text.octets token = cut.bytes) :
    token.isEmpty = false := by
  rw [Bool.eq_false_iff]
  intro hempty
  rw [String.isEmpty_iff.mp hempty] at h
  simp [Text.octets, Compact.bytes] at h

/-- The verdict on an authentic token is what its claims say about their validity. -/
theorem examine_of_authentic {token : String} {cut : Compact} {key : List UInt8}
    {algorithm : MacAlgorithm} {members : List Member} (htoken : Text.octets token = cut.bytes)
    (hkey : key ≠ []) (h : Authentic cut key algorithm members) :
    examine token key =
      match Validity.ofMembers members with
      | .error fault => .refused fault.refusal
      | .ok validity => .ofClaims members validity := by
  have hkey' : key.isEmpty = false := by simpa using hkey
  obtain ⟨fields, hheader, -⟩ := h.header
  have houtline := checkOutline_of_objects hheader h.claims
  have hsignature : cut.signature.isEmpty = false := by simpa using h.signature_ne_nil
  have hauthenticate := authenticate_eq_ok_iff.mpr ⟨cut, algorithm, rfl, h⟩
  simp only [examine, isEmpty_eq_false htoken, hkey', htoken, houtline, hsignature, examineSigned,
    hauthenticate, ok_bind, Bool.false_eq_true, if_false]
  cases Validity.ofMembers members <;> rfl

/-- Exactly the authentic tokens are accepted whose claims can be read and admit the time;
the result is the claim map of the object that the token carries. -/
theorem verify_eq_ok_iff {token : String} {key : List UInt8} {now : Instant}
    {claims : ClaimMap} :
    verify token key now = .ok claims ↔
      key ≠ [] ∧ ∃ cut algorithm members validity,
        Text.octets token = Compact.bytes cut ∧ Authentic cut key algorithm members ∧
          Validity.ofMembers members = .ok validity ∧ validity.Admits now ∧
          claims = .ofMembers members := by
  constructor
  · intro h
    unfold verify examine at h
    split at h
    · contradiction
    split at h
    · contradiction
    rename_i hkey
    split at h
    · contradiction
    split at h
    · contradiction
    rename_i verdict hverdict
    obtain ⟨members, hmembers, hverdict⟩ := bind_eq_ok.mp hverdict
    obtain ⟨validity, hvalidity, hverdict⟩ := bind_eq_ok.mp hverdict
    cases hverdict
    obtain ⟨cut, algorithm, hbytes, hauthentic⟩ := authenticate_eq_ok_iff.mp hmembers
    obtain ⟨hadmits, hclaims⟩ := Verdict.resultAt_ofClaims_eq_ok_iff.mp h
    exact ⟨by simpa using hkey, cut, algorithm, members, validity, hbytes, hauthentic, hvalidity,
      hadmits, hclaims⟩
  · rintro ⟨hkey, cut, algorithm, members, validity, hbytes, hauthentic, hvalidity, hadmits,
      hclaims⟩
    rw [verify, examine_of_authentic hbytes hkey hauthentic, hvalidity]
    exact Verdict.resultAt_ofClaims_eq_ok_iff.mpr ⟨hadmits, hclaims⟩

/-- A token is accepted with the same claims at all times. -/
theorem verify_unique {token : String} {key : List UInt8} {now later : Instant}
    {claims found : ClaimMap} (h : verify token key now = .ok claims)
    (hlater : verify token key later = .ok found) : claims = found := by
  obtain ⟨-, -, hresult⟩ := Verdict.resultAt_eq_ok_iff.mp h
  obtain ⟨-, -, hfound⟩ := Verdict.resultAt_eq_ok_iff.mp hlater
  exact Except.ok.inj (hresult.symm.trans hfound)

end BearerAuth.Token
