import BearerAuth.Proofs.Token.Issuing

/-! The claims with a fixed meaning, as verification and as callers read them. Verification takes
the times and the audience from the claims as they are written, callers take them from the claim
map. Neither is written twice in an accepted token, so what was checked is what callers find. -/

namespace BearerAuth

namespace Json

/-! ## Shapes of canonical values -/

theorem all_isText_canonicalItems (items : List Json) :
    (canonicalItems items).all isText = items.all isText := by
  induction items with
  | nil => rfl
  | cons item items ih =>
      rw [canonicalItems, List.all_cons, List.all_cons, ih]
      cases item <;> rfl

theorem all_isText_iff {items : List Json} :
    items.all isText = true ↔ ∃ texts : List String, items = texts.map .str := by
  constructor
  · intro h
    induction items with
    | nil => exact ⟨[], rfl⟩
    | cons item items ih =>
        rw [List.all_cons, Bool.and_eq_true] at h
        obtain ⟨texts, rfl⟩ := ih h.2
        cases item with
        | str text => exact ⟨text :: texts, rfl⟩
        | _ => exact absurd h.1 Bool.false_ne_true
  · rintro ⟨texts, rfl⟩
    simp [isText, text?]

theorem isAudience_eq_true_iff {value : Json} :
    Token.isAudience value = true ↔
      (∃ text, value = .str text) ∨ ∃ texts : List String, value = .arr (texts.map .str) := by
  cases value with
  | str text => simp [Token.isAudience, isText, text?]
  | arr items => simpa [Token.isAudience, isText, text?, isTextList] using all_isText_iff
  | _ => simp [Token.isAudience, isText, text?, isTextList]

theorem isAudience_canonical (value : Json) :
    Token.isAudience value.canonical = Token.isAudience value := by
  cases value with
  | arr items =>
      simp only [Token.isAudience, canonical, isTextList, all_isText_canonicalItems]
      rfl
  | _ => rfl

end Json

namespace Token

variable {members : List Member} {name : String} {now : Instant}

/-! ## Claims that are written once -/

/-- What a claim map holds under a name is all that is written under it. -/
def WrittenOnce (members : List Member) (claims : ClaimMap) (name : String) : Prop :=
  (Json.valuesOf members name).length ≤ 1 ∧
    (Json.valuesOf members name).map Json.canonical = (claims.get? name).toList

theorem writtenOnce_of_isUnrepeated (h : isUnrepeated members name = true) :
    WrittenOnce members (.ofMembers members) name := by
  have honce : (Json.valuesOf members name).length ≤ 1 := by simpa [isUnrepeated] using h
  refine ⟨honce, ?_⟩
  rw [Json.valuesOf_eq_lookup? honce, ClaimMap.get?_ofMembers]
  cases Json.lookup? members name <;> rfl

/-! ## Times -/

/-- A value is a number that names a second within a bound: an integer that is not negative names
itself, any other number names the integer nearest to it. -/
inductive NamesSecond (bound : Int → Prop) : Json → Prop where
  | whole (n : Whole) : 0 ≤ n.value → bound n.value → NamesSecond bound (.atom (.whole n))
  | float (x : Number.Binary64) (n : Nat) : x.nearestNat? = some n → bound n →
      NamesSecond bound (.atom (.float x))

theorem namesSecond_of_secondOf? {bound : Int → Prop} {value : Json} {n : Nat}
    (h : secondOf? value = some n) (hbound : bound n) : NamesSecond bound value.canonical := by
  unfold secondOf? at h
  split at h
  · rename_i whole
    split at h
    · rename_i hpositive
      cases h
      rw [Int.toNat_of_nonneg hpositive] at hbound
      exact .whole whole hpositive hbound
    · contradiction
  · exact .float _ n h hbound
  · contradiction

theorem namesSecond_of_timeClaim {bound : Int → Prop} {found : Option Nat} {value : Json}
    (hread : timeClaim members name = .ok found) (hbound : ∀ n ∈ found, bound (n : Int))
    (h : (ClaimMap.ofMembers members).get? name = some value) : NamesSecond bound value := by
  rw [ClaimMap.get?_ofMembers] at h
  obtain ⟨written, hwritten, rfl⟩ := Option.map_eq_some_iff.mp h
  simp only [timeClaim, hwritten] at hread
  split at hread
  · rename_i n hsecond
    cases hread
    exact namesSecond_of_secondOf? hsecond (hbound n rfl)
  · contradiction

/-! ## Accepted claims -/

theorem not_audience_of_not_any {value : Json}
    (hnone : (Json.lookup? members "aud").any isAudience = false)
    (h : (ClaimMap.ofMembers members).get? "aud" = some value) :
    (∀ text, value ≠ .str text) ∧ ∀ texts : List String, value ≠ .arr (texts.map .str) := by
  rw [ClaimMap.get?_ofMembers] at h
  obtain ⟨written, hwritten, rfl⟩ := Option.map_eq_some_iff.mp h
  rw [hwritten, Option.any_some, ← Json.isAudience_canonical, ← Bool.not_eq_true,
    Json.isAudience_eq_true_iff, not_or, not_exists, not_exists] at hnone
  exact hnone

/-- What callers find in the claim map of an accepted token: each claim with a fixed meaning is
written once at most, the times are numbers that admit the present second, and there is no
audience. -/
structure AsChecked (token : String) (now : Instant) (claims : ClaimMap) : Prop where
  once : ∃ cut bytes members, Compact.ofFirstDots (Text.octets token) = .ok cut ∧
    Compact.ofLastDots? (Text.octets token) = some cut ∧ cut.claims = Base64Url.encode bytes ∧
      Json.ofOctets? bytes = some (.obj members) ∧ claims = .ofMembers members ∧
      ∀ name ∈ ["exp", "nbf", "sub", "iss", "aud"], WrittenOnce members claims name
  expires : ∀ value, claims.get? "exp" = some value → NamesSecond (now.seconds ≤ ·) value
  starts : ∀ value, claims.get? "nbf" = some value → NamesSecond (· ≤ now.seconds) value
  audience : ∀ value, claims.get? "aud" = some value →
    (∀ text, value ≠ .str text) ∧ ∀ texts : List String, value ≠ .arr (texts.map .str)

/-- The claims that were checked are the claims that callers get. -/
theorem asChecked_of_verify {token : String} {key : List UInt8} {claims : ClaimMap}
    (h : verify token key now = .ok claims) : AsChecked token now claims := by
  obtain ⟨-, cut, algorithm, members, validity, hoctets, hauthentic, hvalidity, hadmits, rfl⟩ :=
    verify_eq_ok_iff.mp h
  obtain ⟨hreadable, hexpires, hstarts, haudience⟩ := Validity.ofMembers_eq_ok_iff.mp hvalidity
  obtain ⟨bytes, hbytes, hmembers⟩ := hauthentic.claims
  simp only [isReadable, Bool.and_eq_true, List.all_eq_true] at hreadable
  obtain ⟨⟨⟨honce, -⟩, -⟩, -⟩ := hreadable
  exact
    { once := ⟨cut, bytes, members, hoctets ▸ hauthentic.ofFirstDots,
        hoctets ▸ hauthentic.ofLastDots?, hbytes, hmembers, rfl,
        fun name hname => writtenOnce_of_isUnrepeated (honce name hname)⟩
      expires := fun _ hvalue =>
        namesSecond_of_timeClaim hexpires hadmits.notExpired hvalue
      starts := fun _ hvalue => namesSecond_of_timeClaim hstarts hadmits.started hvalue
      audience := fun _ hvalue =>
        not_audience_of_not_any (haudience.trans hadmits.noAudience) hvalue }

/-- Claims with both times, and with a list that is not an audience in the place of one. -/
def claimsWithMixedList : ClaimMap :=
  .ofMembers [("exp", .atom (.whole ⟨1700007200, by decide⟩)),
    ("nbf", .atom (.whole ⟨1700000000, by decide⟩)), ("aud", .arr [.str "a", .null])]

theorem asChecked_claimsWithMixedList :
    verify (sign [115] claimsWithMixedList) [115] ⟨1700000000 * 1000000000, by decide⟩ =
        .ok claimsWithMixedList ∧
      AsChecked (sign [115] claimsWithMixedList) ⟨1700000000 * 1000000000, by decide⟩
        claimsWithMixedList := by
  have haccepted : verify (sign [115] claimsWithMixedList) [115]
      ⟨1700000000 * 1000000000, by decide⟩ = .ok claimsWithMixedList := by
    refine (verify_sign_eq_ok_iff (by decide) rfl (by decide)).mpr
      ⟨⟨⟨some 1700007200, some 1700000000, false⟩, rfl, ?_, ?_, rfl⟩, rfl⟩
    · simp [Instant.seconds, second]
    · simp [Instant.seconds, second]
  exact ⟨haccepted, asChecked_of_verify haccepted⟩

end Token

end BearerAuth
