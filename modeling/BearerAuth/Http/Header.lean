/-! Header fields. A field has a name that does not depend on case and a value of octets;
of several fields with one name the first counts. -/

namespace BearerAuth.Http

structure Header where
  name : String
  value : List UInt8
deriving DecidableEq

/-- Two names that differ in case at most. -/
def sameName (a b : String) : Bool := a.toLower == b.toLower

def firstValue? (headers : List Header) (name : String) : Option (List UInt8) :=
  (headers.find? fun header => sameName header.name name).map (·.value)

theorem firstValue?_cons_of_same {header : Header} {name : String}
    (h : sameName header.name name = true) (headers : List Header) :
    firstValue? (header :: headers) name = some header.value := by
  simp [firstValue?, h]

theorem firstValue?_cons_of_not_same {header : Header} {name : String}
    (h : sameName header.name name = false) (headers : List Header) :
    firstValue? (header :: headers) name = firstValue? headers name := by
  simp [firstValue?, h]

theorem firstValue?_cons_self (header : Header) (headers : List Header) :
    firstValue? (header :: headers) header.name = some header.value :=
  firstValue?_cons_of_same (beq_self_eq_true _) headers

def isNameChar (c : Char) : Bool := c.isAlphanum || "!#$%&'*+-.^_\x60|~".toList.contains c

/-- Whether a text is the name of a field or of a method. -/
def isName (text : String) : Bool := !text.isEmpty && text.toList.all isNameChar

/-- The octets of a value: everything but control characters, and the tab. -/
def isValueByte (b : UInt8) : Bool := b == 9 || (32 ≤ b && b != 127)

def isValue (bytes : List UInt8) : Bool := bytes.all isValueByte

/-- The octets of a value that can be read as a text. -/
def isTextByte (b : UInt8) : Bool := b == 9 || (32 ≤ b && b < 127)

/-- The text that a value can be read as. -/
def valueText? (value : List UInt8) : Option (List Char) :=
  if value.all isTextByte then some (value.map fun b => Char.ofNat b.toNat) else none

end BearerAuth.Http
