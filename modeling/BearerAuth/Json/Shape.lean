import BearerAuth.Json.Basic

/-! The shapes that values are asked for: texts, lists of texts, records with named fields
and choices between names. -/

namespace BearerAuth.Json

def isNull : Json → Bool
  | .atom .null => true
  | _ => false

def isCompound : Json → Bool
  | .arr _ | .obj _ => true
  | _ => false

/-- Whether a value is an array or an object that is not empty. -/
def isFilled : Json → Bool
  | .arr items => !items.isEmpty
  | .obj members => !members.isEmpty
  | _ => false

/-- The text that a value is. -/
def text? : Json → Option String
  | .str text => some text
  | _ => none

def isText (value : Json) : Bool := value.text?.isSome

/-- The texts that a value lists. -/
def texts? : Json → Option (List String)
  | .arr items => items.mapM text?
  | _ => none

def isTextList : Json → Bool
  | .arr items => items.all isText
  | _ => false

/-- The truth value that a value is. -/
def bool? : Json → Option Bool
  | .atom (.bool value) => some value
  | _ => none

/-- The natural number below a bound that a value is. -/
def natBelow? (bound : Nat) : Json → Option Nat
  | .atom (.whole n) => if 0 ≤ n.value ∧ n.value < bound then some n.value.toNat else none
  | _ => none

/-- The name that a value chooses, either as a text or as the only key of an object over
null. -/
def choice? : Json → Option String
  | .str name => some name
  | .obj [(name, .atom .null)] => some name
  | _ => none

/-- The values of the named fields of a record: of an object, which may have more of them,
or of an array in the order of the names. -/
def fields? (names : List String) : Json → Option (List Json)
  | .obj members => names.mapM (lookup? members)
  | .arr items => if items.length = names.length then some items else none
  | _ => none

def ofTexts (texts : List String) : Json := .arr (texts.map .str)

end BearerAuth.Json
