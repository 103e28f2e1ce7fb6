import BearerAuth.Json.Lexeme
import BearerAuth.Text.Utf8

/-! JSON text. Writing puts the lexemes of a value behind one another without blanks;
reading takes the lexemes one at a time and keeps the arrays and objects that are still
open on a stack. -/

namespace BearerAuth.Json

/-! ## Writing -/

mutual

def lexemes : Json → List Lexeme
  | .atom value => [.atom value]
  | .str text => [.str text]
  | .arr items => .openArray :: itemLexemes items ++ [.closeArray]
  | .obj members => .openObject :: memberLexemes members ++ [.closeObject]

/-- The lexemes of items with commas between them. -/
def itemLexemes : List Json → List Lexeme
  | [] => []
  | [item] => lexemes item
  | item :: other :: items => lexemes item ++ .comma :: itemLexemes (other :: items)

/-- The lexemes of members with commas between them. -/
def memberLexemes : List Member → List Lexeme
  | [] => []
  | [(key, value)] => .str key :: .colon :: lexemes value
  | (key, value) :: other :: members =>
      .str key :: .colon :: lexemes value ++ .comma :: memberLexemes (other :: members)

end

def chars (value : Json) : List Char := (lexemes value).flatMap Lexeme.text

def text (value : Json) : String := String.ofList (chars value)

/-! ## Reading -/

/-- An array or an object in which a value has to follow; what it holds is last first. -/
inductive Frame where
  | array (items : List Json)
  | member (members : List Member) (key : String)

/-- What has been read, and what may follow. -/
inductive Reading where
  | awaitValue (stack : List Frame)
  | firstItem (stack : List Frame)
  | afterItem (items : List Json) (stack : List Frame)
  | firstKey (stack : List Frame)
  | awaitKey (members : List Member) (stack : List Frame)
  | awaitColon (members : List Member) (key : String) (stack : List Frame)
  | afterMember (members : List Member) (stack : List Frame)
  | finished (value : Json)

namespace Reading

/-- A value has been read inside these frames. -/
def complete (value : Json) : List Frame → Reading
  | [] => finished value
  | .array items :: stack => afterItem (value :: items) stack
  | .member members key :: stack => afterMember ((key, value) :: members) stack

/-- A lexeme with which a value starts. -/
def start (stack : List Frame) : Lexeme → Option Reading
  | .openArray => if stack.length < maxNesting then some (firstItem stack) else none
  | .openObject => if stack.length < maxNesting then some (firstKey stack) else none
  | .str text => some (complete (.str text) stack)
  | .atom value => some (complete (.atom value) stack)
  | _ => none

def step : Reading → Lexeme → Option Reading
  | awaitValue stack, lexeme => start stack lexeme
  | firstItem stack, .closeArray => some (complete (.arr []) stack)
  | firstItem stack, lexeme => start (.array [] :: stack) lexeme
  | afterItem items stack, .comma => some (awaitValue (.array items :: stack))
  | afterItem items stack, .closeArray => some (complete (.arr items.reverse) stack)
  | firstKey stack, .closeObject => some (complete (.obj []) stack)
  | firstKey stack, .str text => some (awaitColon [] text stack)
  | awaitKey members stack, .str text => some (awaitColon members text stack)
  | awaitColon members key stack, .colon => some (awaitValue (.member members key :: stack))
  | afterMember members stack, .comma => some (awaitKey members stack)
  | afterMember members stack, .closeObject =>
      some (complete (.obj members.reverse) stack)
  | _, _ => none

/-- The outermost value once it has been read. -/
def result? : Reading → Option Json
  | finished value => some value
  | _ => none

end Reading

def ofLexemes? (lexemes : List Lexeme) : Option Json :=
  (lexemes.foldlM Reading.step (.awaitValue [])).bind Reading.result?

def ofChars? (cs : List Char) : Option Json := (lexemes? cs).bind ofLexemes?

def ofText? (text : String) : Option Json := ofChars? text.toList

def ofOctets? (bytes : List UInt8) : Option Json := (Text.ofOctets? bytes).bind ofText?

end BearerAuth.Json
