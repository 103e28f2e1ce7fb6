import BearerAuth.Json.Shape
import BearerAuth.Token.Algorithm

/-! The header of a token. It has to name an algorithm; other fields have to have the right
shape and are not used. -/

namespace BearerAuth.Token

/-- The fields that hold a text or null. -/
def textFields : List String :=
  ["typ", "cty", "jku", "kid", "x5u", "x5t", "x5t#S256", "enc", "zip", "url", "nonce"]

/-- The fields that hold a list of texts or null. -/
def listFields : List String := ["x5c", "crit"]

/-- The fields that may occur only once. -/
def knownFields : List String := "alg" :: "jwk" :: textFields ++ listFields

/-- The algorithm that a value names. -/
def algorithmNamed? (value : Json) : Option Algorithm :=
  value.choice?.bind Algorithm.ofName?

/-- Whether a field has the right shape. -/
def isFieldSound (field : Member) : Bool :=
  if field.1 == "alg" then (algorithmNamed? field.2).isSome
  else if field.1 == "jwk" then field.2.isNull
  else if textFields.contains field.1 then field.2.isText || field.2.isNull
  else if listFields.contains field.1 then field.2.isTextList || field.2.isNull
  else field.2.isText

/-- Whether a name occurs at most once. -/
def isUnrepeated (members : List Member) (name : String) : Bool :=
  (Json.valuesOf members name).length ≤ 1

/-- The algorithm that a header names, if all its fields are sound. -/
def headerAlgorithm? : Json → Option Algorithm
  | .obj fields =>
      if fields.all isFieldSound && knownFields.all (isUnrepeated fields) then
        (Json.lookup? fields "alg").bind algorithmNamed?
      else none
  | _ => none

end BearerAuth.Token
