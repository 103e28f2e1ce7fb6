import BearerAuth.Proofs.ClaimMap
import BearerAuth.Proofs.Token.Issuing

/-! What an accepted token is made of. The outline is checked on the segments before the first
two dots and the signature on the segments before the last two. An authentic token has two
dots, so no accepted token can be cut in two ways. -/

namespace BearerAuth.Token

/-! ## Named algorithms -/

theorem ofName?_eq_some {text : String} {algorithm : Algorithm}
    (h : Algorithm.ofName? text = some algorithm) : text = algorithm.name := by
  have hname := List.find?_some h
  exact (beq_iff_eq.mp hname).symm

theorem choice?_eq_some {value : Json} {name : String} (h : value.choice? = some name) :
    value = .str name ∨ value = .obj [(name, .null)] := by
  unfold Json.choice? at h
  split at h
  · cases h
    exact .inl rfl
  · cases h
    exact .inr rfl
  · contradiction

/-- A header that names an algorithm does so once, by its name. -/
theorem headerAlgorithm?_eq_some {fields : List Member} {algorithm : Algorithm}
    (h : headerAlgorithm? (.obj fields) = some algorithm) :
    ∃ value, Json.valuesOf fields "alg" = [value] ∧
      (value = .str algorithm.name ∨ value = .obj [(algorithm.name, .null)]) := by
  simp only [headerAlgorithm?, Option.ite_none_right_eq_some, Bool.and_eq_true,
    List.all_eq_true] at h
  obtain ⟨⟨-, honce⟩, h⟩ := h
  obtain ⟨value, hvalue, hnamed⟩ := Option.bind_eq_some_iff.mp h
  obtain ⟨name, hname, halgorithm⟩ := Option.bind_eq_some_iff.mp hnamed
  have honce : (Json.valuesOf fields "alg").length ≤ 1 := by
    simpa [isUnrepeated] using honce "alg" (by simp [knownFields])
  refine ⟨value, ?_, ofName?_eq_some halgorithm ▸ choice?_eq_some hname⟩
  rw [Json.valuesOf_eq_lookup? honce, hvalue, Option.toList_some]

/-! ## Accepted tokens -/

/-- What an accepted token is made of: a header that names an algorithm, claims that are read as
the result, and the code that this algorithm gives for both under the key. Cutting it at its
first dots and at its last dots gives the same segments. -/
structure Accepted (token : String) (key : List UInt8) (claims : ClaimMap) (cut : Compact)
    (algorithm : MacAlgorithm) : Prop where
  octets : Text.octets token = cut.header ++ dot :: cut.claims ++ dot :: cut.signature
  twoDots : token.toList.count '.' = 2
  firstDots : Compact.ofFirstDots (Text.octets token) = .ok cut
  lastDots : Compact.ofLastDots? (Text.octets token) = some cut
  header : ∃ bytes fields value, cut.header = Base64Url.encode bytes ∧
    Json.ofOctets? bytes = some (.obj fields) ∧ Json.valuesOf fields "alg" = [value] ∧
      (value = .str (Algorithm.mac algorithm).name ∨
        value = .obj [((Algorithm.mac algorithm).name, .null)])
  claims : ∃ bytes members, cut.claims = Base64Url.encode bytes ∧
    Json.ofOctets? bytes = some (.obj members) ∧ claims = .ofMembers members ∧
      ∀ name, claims.get? name = (Json.lookup? members name).map Json.canonical
  key_ne_nil : key ≠ []
  signature_ne_nil : cut.signature ≠ []
  signature : cut.signature =
    Base64Url.encode (algorithm.code key (cut.header ++ dot :: cut.claims))

/-- Whatever is accepted is two segments that were signed with the key, and nothing else. -/
theorem accepted_of_verify {token : String} {key : List UInt8} {now : Instant}
    {claims : ClaimMap} (h : verify token key now = .ok claims) :
    ∃ cut algorithm, Accepted token key claims cut algorithm := by
  obtain ⟨hkey, cut, algorithm, members, validity, hoctets, hauthentic, -, -, rfl⟩ :=
    verify_eq_ok_iff.mp h
  obtain ⟨fields, ⟨headerBytes, hheader, hfields⟩, hnamed⟩ := hauthentic.header
  obtain ⟨value, hvalue, hname⟩ := headerAlgorithm?_eq_some hnamed
  obtain ⟨claimBytes, hclaims, hmembers⟩ := hauthentic.claims
  exact ⟨cut, algorithm,
    { octets := hoctets
      twoDots := by rw [← count_dot_octets, hoctets, hauthentic.count_dot]
      firstDots := hoctets ▸ hauthentic.ofFirstDots
      lastDots := hoctets ▸ hauthentic.ofLastDots?
      header := ⟨headerBytes, fields, value, hheader, hfields, hvalue, hname⟩
      claims := ⟨claimBytes, members, hclaims, hmembers, rfl, ClaimMap.get?_ofMembers members⟩
      key_ne_nil := hkey
      signature_ne_nil := hauthentic.signature_ne_nil
      signature := hauthentic.signature }⟩

theorem accepted_sign_empty : ∃ cut algorithm,
    Accepted (sign [115] .empty) [115] .empty cut algorithm :=
  accepted_of_verify (verify_sign_empty (by decide) ⟨0, by decide⟩)

/-! ## Headers that choose an algorithm -/

/-- A header with the name of the algorithm as the only key of an object over null. -/
def choosingHeader : List Member :=
  [("typ", .str "JWT"), ("alg", .obj [("HS256", .null)])]

/-- A token without claims that has this header. -/
def choosingToken : String :=
  "eyJ0eXAiOiJKV1QiLCJhbGciOnsiSFMyNTYiOm51bGx9fQ.e30.I6aqrzSp880w5LsJMjyTvT86Jo9lNu5NzHpnLZFBw2A"

theorem octets_choosingToken : Text.octets choosingToken =
    (coded .hs256 [115] (segment (.obj choosingHeader)) (segment (.obj []))).bytes := by
  decide +kernel

/-- A token is accepted although its header does not name the algorithm by a text. -/
theorem verify_choosingToken : verify choosingToken [115] ⟨0, by decide⟩ = .ok .empty ∧
    ¬∃ cut fields algorithm, Compact.ofFirstDots (Text.octets choosingToken) = .ok cut ∧
      HoldsObject cut.header fields ∧
      Json.lookup? fields "alg" = some (.str (Algorithm.mac algorithm).name) := by
  have hheader : HoldsObject (segment (.obj choosingHeader)) choosingHeader :=
    holdsObject_segment rfl (by decide)
  have hnamed : NamesAlgorithm (segment (.obj choosingHeader)) .hs256 :=
    ⟨_, hheader, by decide⟩
  have hclaims : HoldsObject (segment (.obj [])) [] := holdsObject_segment rfl (by decide)
  have hauthentic := authentic_coded [115] hnamed hclaims
  constructor
  · exact verify_eq_ok_iff.mpr ⟨by decide, _, .hs256, [], ⟨none, none, false⟩,
      octets_choosingToken, hauthentic, rfl, ⟨by simp, by simp, rfl⟩, rfl⟩
  · rintro ⟨cut, fields, algorithm, hcut, hfields, halgorithm⟩
    rw [octets_choosingToken, hauthentic.ofFirstDots] at hcut
    cases hcut
    cases HoldsValue.unique hheader hfields
    simp [choosingHeader, Json.lookup?, Json.valuesOf] at halgorithm

end BearerAuth.Token
