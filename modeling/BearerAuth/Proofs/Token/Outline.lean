import BearerAuth.Proofs.Token.Verification

/-! What the outline of a token can be. Its first two segments decide whether the token is malformed,
misshapen or outlined, and each of the three has its own answer; what stands behind the second dot
only matters for the third. -/

namespace BearerAuth.Token

variable {bytes segment : List UInt8} {cut : Compact}

/-! ## The first two segments -/

/-- Octets are cut at their first two dots; what stands behind the second one is the signature. -/
structure IsFirstCut (bytes : List UInt8) (cut : Compact) : Prop where
  bytes_eq : bytes = cut.bytes
  header : dot ∉ cut.header
  claims : dot ∉ cut.claims

theorem ofFirstDots_eq_ok_iff_isFirstCut :
    Compact.ofFirstDots bytes = .ok cut ↔ IsFirstCut bytes cut := by
  rw [Compact.ofFirstDots_eq_ok_iff]
  exact ⟨fun h => ⟨h.1, h.2.1, h.2.2⟩, fun h => ⟨h.bytes_eq, h.header, h.claims⟩⟩

theorem IsFirstCut.unique {other : Compact} (h : IsFirstCut bytes cut)
    (hother : IsFirstCut bytes other) : cut = other := by
  rw [← ofFirstDots_eq_ok_iff_isFirstCut] at h hother
  rw [h] at hother
  exact Except.ok.inj hother

/-- The text of a token is malformed: there are not three segments, the first one is not the written
form of an object, or the second one is not the written form of any value. -/
inductive Malformed (bytes : List UInt8) : Prop where
  | dots : bytes.count dot < 2 → Malformed bytes
  | header {cut : Compact} : IsFirstCut bytes cut →
      (∀ fields, ¬HoldsValue cut.header (.obj fields)) → Malformed bytes
  | claims {cut : Compact} : IsFirstCut bytes cut →
      (∀ value, ¬HoldsValue cut.claims value) → Malformed bytes

/-- A token has a header, but its claims are the written form of a value without names. -/
def Misshapen (bytes : List UInt8) : Prop :=
  ∃ cut fields value, IsFirstCut bytes cut ∧ HoldsValue cut.header (.obj fields) ∧
    HoldsValue cut.claims value ∧ ∀ members, value ≠ .obj members

/-- The first two segments of a token are the written forms of objects. -/
structure Outlined (bytes : List UInt8) (cut : Compact) : Prop where
  isFirstCut : IsFirstCut bytes cut
  header : ∃ fields, HoldsObject cut.header fields
  claims : ∃ members, HoldsObject cut.claims members

/-- There are no other outlines. -/
theorem outline_cases (bytes : List UInt8) :
    Malformed bytes ∨ Misshapen bytes ∨ ∃ cut, Outlined bytes cut := by
  by_cases hdots : bytes.count dot < 2
  · exact .inl (.dots hdots)
  obtain ⟨cut, hcut⟩ := Compact.exists_ofFirstDots_iff.mpr (Nat.le_of_not_lt hdots)
  have hfirst := ofFirstDots_eq_ok_iff_isFirstCut.mp hcut
  by_cases hheader : ∃ fields, HoldsValue cut.header (.obj fields)
  · obtain ⟨fields, hfields⟩ := hheader
    by_cases hclaims : ∃ value, HoldsValue cut.claims value
    · obtain ⟨value, hvalue⟩ := hclaims
      by_cases hmembers : ∃ members, value = .obj members
      · obtain ⟨members, rfl⟩ := hmembers
        exact .inr (.inr ⟨cut, hfirst, ⟨fields, hfields⟩, ⟨members, hvalue⟩⟩)
      · exact .inr (.inl ⟨cut, fields, value, hfirst, hfields, hvalue, not_exists.mp hmembers⟩)
    · exact .inl (.claims hfirst (not_exists.mp hclaims))
  · exact .inl (.header hfirst (not_exists.mp hheader))

/-- What stands behind the second dot does not matter for whether a token is malformed. -/
theorem IsFirstCut.malformed_iff (h : IsFirstCut bytes cut) :
    Malformed bytes ↔ (∀ fields, ¬HoldsValue cut.header (.obj fields)) ∨
      ∀ value, ¬HoldsValue cut.claims value := by
  constructor
  · intro hmalformed
    cases hmalformed with
    | dots hdots =>
        have hcut := Compact.exists_ofFirstDots_iff.mp ⟨cut, ofFirstDots_eq_ok_iff_isFirstCut.mpr h⟩
        omega
    | header hother hheader => exact .inl (h.unique hother ▸ hheader)
    | claims hother hclaims => exact .inr (h.unique hother ▸ hclaims)
  · rintro (hheader | hclaims)
    · exact .header h hheader
    · exact .claims h hclaims

/-! ## What the outline is refused for -/

theorem segmentValue_error (name : String) (h : ∀ value, ¬HoldsValue segment value) :
    ∃ reason, segmentValue name segment = .error (.malformedToken reason) := by
  cases hvalue : segmentValue name segment with
  | ok value => exact absurd (segmentValue_eq_ok_iff.mp hvalue) (h value)
  | error error =>
      unfold segmentValue at hvalue
      split at hvalue
      · cases hvalue
        exact ⟨_, rfl⟩
      · split at hvalue
        · cases hvalue
          exact ⟨_, rfl⟩
        · contradiction

theorem checkHeader_error (h : ∀ fields, ¬HoldsValue segment (.obj fields)) :
    ∃ reason, checkHeader segment = .error (.malformedToken reason) := by
  unfold checkHeader
  by_cases hvalue : ∃ value, HoldsValue segment value
  · obtain ⟨value, hvalue⟩ := hvalue
    rw [segmentValue_eq_ok_iff.mpr hvalue, ok_bind]
    cases value with
    | obj fields => exact absurd hvalue (h fields)
    | _ => exact ⟨_, rfl⟩
  · obtain ⟨reason, hreason⟩ := segmentValue_error "header" (not_exists.mp hvalue)
    exact ⟨reason, by rw [hreason, error_bind]⟩

theorem checkOutline_of_malformed (h : Malformed bytes) :
    ∃ reason, checkOutline bytes = .error (.malformedToken reason) := by
  have hcut {cut : Compact} (hfirst : IsFirstCut bytes cut) :=
    ofFirstDots_eq_ok_iff_isFirstCut.mpr hfirst
  cases h with
  | dots hdots =>
      unfold checkOutline
      cases hfirst : Compact.ofFirstDots bytes with
      | error count => exact ⟨_, rfl⟩
      | ok cut =>
          have hcount := Compact.exists_ofFirstDots_iff.mp ⟨cut, hfirst⟩
          omega
  | header hfirst hheader =>
      obtain ⟨reason, hreason⟩ := checkHeader_error hheader
      exact ⟨reason, by simp only [checkOutline, hcut hfirst, hreason, error_bind]⟩
  | claims hfirst hclaims =>
      rename_i cut
      obtain ⟨reason, hreason⟩ := segmentValue_error "claims" hclaims
      by_cases hheader : ∃ fields, HoldsValue cut.header (.obj fields)
      · refine ⟨reason, ?_⟩
        simp only [checkOutline, hcut hfirst, checkHeader_eq_ok_iff.mpr hheader, ok_bind, checkClaims,
          hreason, error_bind]
      · obtain ⟨reason, hreason⟩ := checkHeader_error (not_exists.mp hheader)
        exact ⟨reason, by simp only [checkOutline, hcut hfirst, hreason, error_bind]⟩

theorem checkOutline_of_misshapen (h : Misshapen bytes) :
    checkOutline bytes = .error .invalidClaims := by
  obtain ⟨cut, fields, value, hfirst, hheader, hvalue, hmembers⟩ := h
  simp only [checkOutline, ofFirstDots_eq_ok_iff_isFirstCut.mpr hfirst,
    checkHeader_eq_ok_iff.mpr ⟨fields, hheader⟩, ok_bind, checkClaims,
    segmentValue_eq_ok_iff.mpr hvalue]
  cases value with
  | obj members => exact absurd rfl (hmembers members)
  | _ => rfl

theorem checkOutline_of_outlined (h : Outlined bytes cut) :
    checkOutline bytes =
      if cut.signature.isEmpty then .error (.invalidSignature "missing signature") else .ok () := by
  obtain ⟨fields, hheader⟩ := h.header
  obtain ⟨members, hclaims⟩ := h.claims
  rw [h.isFirstCut.bytes_eq]
  exact checkOutline_of_objects hheader hclaims

end BearerAuth.Token
