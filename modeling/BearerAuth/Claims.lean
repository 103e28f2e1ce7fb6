import BearerAuth.AuthError
import BearerAuth.Json.Canonical
import BearerAuth.Time.Basic

/-! The claims of a token. A claim map is a canonical JSON object. The type of a token and
the identity of its holder are claims like any other, and the identity is written last. -/

namespace BearerAuth

/-! ## Claim maps -/

/-- Claims under distinct names, in the order of the names. -/
structure ClaimMap where
  members : List Member
  canonical : Json.Ordered members ∧ Json.MembersCanonical members

namespace ClaimMap

def empty : ClaimMap := ⟨[], by simp [Json.Ordered, Json.MembersCanonical]⟩

/-- The claims of an object; the last value under a repeated name counts. -/
def ofMembers (members : List Member) : ClaimMap :=
  ⟨Json.canonicalMembers members, Json.canonicalMembers_spec members⟩

def toJson (claims : ClaimMap) : Json := .obj claims.members

def get? (claims : ClaimMap) (name : String) : Option Json :=
  (claims.members.find? (·.1 == name)).map (·.2)

/-- The claims with one more, which takes the place of a claim of the same name. -/
def set (claims : ClaimMap) (name : String) (value : Json) (h : value.IsCanonical) : ClaimMap :=
  ⟨Json.insert name value claims.members,
    Json.ordered_insert name value claims.canonical.1,
    Json.membersCanonical_insert h claims.canonical.2⟩

/-- The claims with one more, unless there is a claim of the same name. -/
def setNew (claims : ClaimMap) (name : String) (value : Json) (h : value.IsCanonical) :
    ClaimMap :=
  if (claims.get? name).isSome then claims else claims.set name value h

def setText (claims : ClaimMap) (name text : String) : ClaimMap :=
  claims.set name (.str text) (by simp [Json.IsCanonical])

end ClaimMap

/-- The whole seconds of an instant as a claim. -/
def Instant.toJson (instant : Instant) : Json :=
  .atom (.whole ⟨instant.seconds, by have := instant.seconds_inRange; omega⟩)

theorem Instant.exists_toJson (instant : Instant) :
    ∃ whole : Whole, whole.value = instant.seconds ∧ instant.toJson = .atom (.whole whole) :=
  ⟨_, rfl, rfl⟩

theorem Instant.toJson_eq {instant : Instant} {whole : Whole} (h : whole.value = instant.seconds) :
    instant.toJson = .atom (.whole whole) := by
  cases whole
  cases h
  rfl

theorem Instant.isCanonical_toJson (instant : Instant) : instant.toJson.IsCanonical := by
  simp [Instant.toJson, Json.IsCanonical]

/-! ## Token types -/

/-- What a token is for. -/
inductive TokenType where
  | access
  | refresh
deriving DecidableEq, Repr

namespace TokenType

def name : TokenType → String
  | access => "access"
  | refresh => "refresh"

def ofName (text : String) : Except AuthError TokenType :=
  if text = "access" then .ok access
  else if text = "refresh" then .ok refresh
  else .error .invalidTokenType

/-- Why a token of another type is turned away where this type is required. -/
def mismatch : TokenType → AuthError
  | access => .notAccessToken
  | refresh => .notRefreshToken

theorem ofName_name (type : TokenType) : ofName type.name = .ok type := by
  cases type <;> rfl

end TokenType

/-! ## Claims with a meaning -/

/-- The name of the claim that holds the token type. -/
def tokenTypeClaim : String := "token_type"

/-- What the service says in a token that it issues. -/
structure TokenClaims where
  type : TokenType
  identity : Option String
  issued : Instant
  expires : Instant

/-- The claims of an issued token. An empty identity, or one without a name to stand under,
is left out; the identity replaces a claim of the same name. -/
def TokenClaims.toMap (claims : TokenClaims) (identityKey : Option String) : ClaimMap :=
  let base := ClaimMap.empty.setText tokenTypeClaim claims.type.name
    |>.set "nbf" claims.issued.toJson claims.issued.isCanonical_toJson
    |>.set "iat" claims.issued.toJson claims.issued.isCanonical_toJson
    |>.set "exp" claims.expires.toJson claims.expires.isCanonical_toJson
  match identityKey, claims.identity with
  | some key, some identity =>
      if key.isEmpty || identity.isEmpty then base else base.setText key identity
  | _, _ => base

namespace ClaimMap

/-- The token type that the claims state. -/
def tokenType (claims : ClaimMap) : Except AuthError TokenType :=
  match claims.get? tokenTypeClaim with
  | none => .error .missingTokenType
  | some (.str text) => TokenType.ofName text
  | some _ => .error .invalidTokenType

/-- The identity under a name, which is a text that is not empty; without a name there is no
identity to state. -/
def identity (claims : ClaimMap) (identityKey : Option String) : Except AuthError String :=
  match identityKey.filter (!·.isEmpty) with
  | none => .ok ""
  | some key =>
      match claims.get? key with
      | none => .error .missingIdentity
      | some (.str text) => if text.isEmpty then .error .invalidIdentity else .ok text
      | some _ => .error .invalidIdentity

end ClaimMap

end BearerAuth
