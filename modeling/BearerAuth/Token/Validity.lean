import BearerAuth.Claims
import BearerAuth.Token.Fault
import BearerAuth.Token.Header

/-! When and for whom a token is valid, as its claims say. The claims with a fixed meaning
may not be repeated, so they cannot say two things. -/

namespace BearerAuth.Token

/-- The claims that may occur only once. -/
def registeredClaims : List String := ["exp", "nbf", "sub", "iss", "aud"]

/-- Whether the claims with a fixed meaning can be read at all. -/
def isReadable (members : List Member) : Bool :=
  registeredClaims.all (isUnrepeated members) &&
    !((Json.lookup? members "exp").any Json.isFilled) &&
    !((Json.lookup? members "nbf").any Json.isFilled) &&
    !((Json.lookup? members "sub").any Json.isCompound)

/-- The second that a value names: an integer that is not negative, or the integer nearest to
a number that is not. -/
def secondOf? : Json → Option Nat
  | .atom (.whole n) => if 0 ≤ n.value then some n.value.toNat else none
  | .atom (.float x) => x.nearestNat?
  | _ => none

/-- The second under a name, if there is a claim of that name. -/
def timeClaim (members : List Member) (name : String) : Except Fault (Option Nat) :=
  match Json.lookup? members name with
  | none => .ok none
  | some value =>
      match secondOf? value with
      | some n => .ok (some n)
      | none => .error (.invalidClaimFormat name)

/-- Whether a value names an audience: a text or a list of texts. Tokens for an audience are
not accepted, since the service has no name of its own. -/
def isAudience (value : Json) : Bool := value.isText || value.isTextList

structure Validity where
  /-- The last second at which the token is valid. -/
  expires : Option Nat
  /-- The first second at which the token is valid. -/
  starts : Option Nat
  /-- Whether the token is for an audience. -/
  hasAudience : Bool

/-- Reads the validity of a token off its claims. -/
def Validity.ofMembers (members : List Member) : Except Fault Validity := do
  if !isReadable members then throw .json
  let expires ← timeClaim members "exp"
  let starts ← timeClaim members "nbf"
  return ⟨expires, starts, (Json.lookup? members "aud").any isAudience⟩

end BearerAuth.Token
