import BearerAuth.Proofs.Token.ErrorKinds

/-! What a forged token learns from its refusal. The key enters verification only where the code of
a message is compared with the signature, and a forged token does not get past this comparison. So
the answer to it is a function of the token, and neither the key nor the time nor the claims can be
read off it. -/

namespace BearerAuth.Token

variable {token other : String} {key first second : List UInt8} {cut : Compact}

/-- Under a key no algorithm gives the code that stands behind the last dot of a token. -/
def Forged (token : String) (key : List UInt8) : Prop :=
  ∀ algorithm, ¬SignedWith token key algorithm

theorem signedWith_iff {algorithm : MacAlgorithm} (htoken : Text.octets token = cut.bytes)
    (hdot : dot ∉ cut.signature) :
    SignedWith token key algorithm ↔
      Base64Url.decode cut.signature = .ok (algorithm.code key cut.message) := by
  constructor
  · rintro ⟨message, signature, hbytes, hsignature, hdecode⟩
    have hcut := cutLast?_append hdot cut.message
    rw [← Compact.bytes, ← htoken, hbytes, cutLast?_append hsignature] at hcut
    cases hcut
    exact hdecode
  · exact fun hdecode => ⟨cut.message, cut.signature, htoken, hdot, hdecode⟩

/-- A signature of fewer than 32 octets is forged under every key. -/
theorem forged_of_short {signature : List UInt8} (htoken : Text.octets token = cut.bytes)
    (hsignature : cut.signature = Base64Url.encode signature) (hlength : signature.length < 32) :
    Forged token key := by
  intro algorithm hsigned
  have hdot : dot ∉ cut.signature := hsignature ▸ dot_not_mem_encode signature
  have hdecode := (signedWith_iff htoken hdot).mp hsigned
  rw [hsignature, Base64Url.decode_encode] at hdecode
  have hcode := algorithm.le_length_code key cut.message
  rw [← Except.ok.inj hdecode] at hcode
  exact absurd hlength (Nat.not_lt_of_le hcode)

/-! ## One run -/

/-- What is at fault with a signature that no algorithm gives. -/
def forgeryFault (header signature : List UInt8) : Fault :=
  match algorithmOf header with
  | .error fault => fault
  | .ok _ =>
      match segmentBytes signature with
      | .error fault => fault
      | .ok _ => .invalidSignature

theorem kind_forgeryFault (header signature : List UInt8) :
    (forgeryFault header signature).refusal.kind = .signature := by
  unfold forgeryFault
  split
  · rename_i fault hfault
    exact kind_of_algorithmOf_error hfault
  · split
    · rename_i fault hfault
      exact kind_of_segmentBytes_error hfault
    · rfl

theorem checkSignature_of_ne (h : ∀ algorithm : MacAlgorithm,
    Base64Url.decode cut.signature ≠ .ok (algorithm.code key cut.message)) :
    checkSignature cut key = .error (forgeryFault cut.header cut.signature) := by
  unfold checkSignature forgeryFault
  cases algorithmOf cut.header with
  | error fault => rfl
  | ok algorithm =>
      cases hsignature : segmentBytes cut.signature with
      | error fault => rfl
      | ok signature =>
          have hdecode := Base64Url.decode_eq_ok_iff.mpr (segmentBytes_eq_ok_iff.mp hsignature)
          have hne : signature ≠ algorithm.code key cut.message :=
            fun heq => h algorithm (heq ▸ hdecode)
          simp only [ok_bind, if_neg hne]
          rfl

/-- What is at fault with forged octets whose outline is sound. -/
def forgedFault (bytes : List UInt8) : Fault :=
  match Compact.ofLastDots? bytes with
  | none => .invalidToken
  | some cut => forgeryFault cut.header cut.signature

theorem authenticate_of_forged (h : Forged token key) :
    authenticate (Text.octets token) key = .error (forgedFault (Text.octets token)) := by
  unfold authenticate forgedFault
  cases hcut : Compact.ofLastDots? (Text.octets token) with
  | none => rfl
  | some cut =>
      -- The cut at the last two dots has the signature of the cut at the last one.
      obtain ⟨htoken, -, hdot⟩ := Compact.ofLastDots?_eq_some_iff.mp hcut
      have hne (algorithm : MacAlgorithm) := mt (signedWith_iff htoken hdot).mpr (h algorithm)
      simp only [checkSignature_of_ne hne, error_bind]

/-- The answer to a forged token. -/
def answerToForgery (token : String) : AuthError :=
  if token.isEmpty then .emptyToken
  else
    match checkOutline (Text.octets token) with
    | .error error => error
    | .ok () => (forgedFault (Text.octets token)).refusal

theorem kind_answerToForgery (token : String) : (answerToForgery token).kind ≠ .expiry := by
  unfold answerToForgery
  split
  · decide
  split
  · rename_i error herror
    intro hkind
    have hmem := kind_of_checkOutline_error herror
    rw [hkind] at hmem
    revert hmem
    decide
  · unfold forgedFault
    split
    · decide
    · rw [kind_forgeryFault]
      decide

theorem verify_of_forged (now : Instant) (hkey : key ≠ []) (h : Forged token key) :
    verify token key now = .error (answerToForgery token) := by
  have hkey' : key.isEmpty = false := by simpa using hkey
  have hexamine : examine token key = .refused (answerToForgery token) := by
    simp only [examine, answerToForgery, hkey', Bool.false_eq_true, if_false, examineSigned,
      authenticate_of_forged h, error_bind]
    split
    · rfl
    · split <;> simp_all
  rw [verify, hexamine, Verdict.resultAt_refused]

/-! ## Two runs -/

/-- Two tokens of three segments differ in the members of their claims only. -/
def SameButClaims (token other : String) : Prop :=
  ∃ (cut : Compact) (claims : List UInt8) (members members' : List Member),
    Text.octets token = cut.bytes ∧ Text.octets other = ({ cut with claims } : Compact).bytes ∧
      dot ∉ cut.header ∧ dot ∉ cut.signature ∧
      HoldsObject cut.claims members ∧ HoldsObject claims members'

/-- The answer to a forged token does not tell its claims. -/
theorem answerToForgery_of_sameButClaims (h : SameButClaims token other) :
    answerToForgery token = answerToForgery other := by
  obtain ⟨cut, claims, members, members', htoken, hother, hheader, hsignature, hclaims, hclaims'⟩ := h
  have hcut := Compact.ofLastDots?_eq_some_iff.mpr ⟨rfl, hclaims.dot_not_mem, hsignature⟩
  have hcut' : Compact.ofLastDots? ({ cut with claims } : Compact).bytes = some { cut with claims } :=
    Compact.ofLastDots?_eq_some_iff.mpr ⟨rfl, hclaims'.dot_not_mem, hsignature⟩
  have houtline : checkOutline (Text.octets token) = checkOutline (Text.octets other) := by
    rw [htoken, hother, checkOutline_of_holdsObject cut hheader hclaims,
      checkOutline_of_holdsObject { cut with claims } hheader hclaims']
  have hfault : forgedFault (Text.octets token) = forgedFault (Text.octets other) := by
    simp only [forgedFault, htoken, hother, hcut, hcut']
  simp only [answerToForgery, isEmpty_eq_false htoken, isEmpty_eq_false hother, houtline, hfault]

/-- Whoever holds a token that is forged under two keys gets one answer under both, at any two
times. It does not blame the time, and other claims in the token do not change it. -/
theorem refused_alike_of_forged (hfirst : first ≠ []) (hsecond : second ≠ [])
    (hforgedFirst : Forged token first) (hforgedSecond : Forged token second)
    (now later : Instant) :
    ∃ error, verify token first now = .error error ∧ verify token second later = .error error ∧
      error.kind ≠ .expiry ∧
      ∀ other, SameButClaims token other → ∀ key, key ≠ [] → Forged other key →
        ∀ time, verify other key time = .error error := by
  refine ⟨answerToForgery token, verify_of_forged now hfirst hforgedFirst,
    verify_of_forged later hsecond hforgedSecond, kind_answerToForgery token, ?_⟩
  intro other hother key hkey hforged time
  rw [verify_of_forged time hkey hforged, answerToForgery_of_sameButClaims hother]

/-- A token of three segments whose signature is the written form of a single octet. -/
def tooShort (members : List Member) : String :=
  Text.ofAscii (Compact.bytes ⟨segment issuedHeader, segment (.obj members), Base64Url.encode [0]⟩)

theorem octets_tooShort (members : List Member) : Text.octets (tooShort members) =
    Compact.bytes ⟨segment issuedHeader, segment (.obj members), Base64Url.encode [0]⟩ := by
  refine Text.octets_ofAscii fun b hb => ?_
  exact Nat.lt_succ_of_lt (Compact.visible_of_encoded rfl rfl rfl b hb).2

theorem refused_alike_tooShort :
    Forged (tooShort []) [115] ∧ Forged (tooShort []) [116] ∧ ∃ error,
      verify (tooShort []) [115] ⟨0, by decide⟩ = .error error ∧
      verify (tooShort []) [116] ⟨1, by decide⟩ = .error error ∧
      verify (tooShort [("exp", .nat 0 (by decide))]) [117] ⟨5000000000, by decide⟩ =
        .error error := by
  have hne (b : UInt8) : [b] ≠ [] := List.cons_ne_nil b []
  have hforged (members : List Member) (key : List UInt8) : Forged (tooShort members) key :=
    forged_of_short (octets_tooShort members) rfl (by decide)
  have hsame : SameButClaims (tooShort []) (tooShort [("exp", .nat 0 (by decide))]) :=
    ⟨_, segment (.obj [("exp", .nat 0 (by decide))]), [], [("exp", .nat 0 (by decide))],
      octets_tooShort _, octets_tooShort _, dot_not_mem_encode _, dot_not_mem_encode _,
      holdsObject_segment rfl (by decide), holdsObject_segment rfl (by decide)⟩
  obtain ⟨error, hfirst, hsecond, -, hother⟩ := refused_alike_of_forged (hne 115) (hne 116)
    (hforged [] [115]) (hforged [] [116]) ⟨0, by decide⟩ ⟨1, by decide⟩
  exact ⟨hforged [] _, hforged [] _, error, hfirst, hsecond,
    hother _ hsame [117] (hne 117) (hforged _ _) _⟩

end BearerAuth.Token
