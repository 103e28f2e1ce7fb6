import BearerAuth.Number.Binary64

/-! JSON values. An object keeps its members as they are written, repeated keys included;
what a repeated key means is for the reader of the object to say. -/

namespace BearerAuth

/-- An integer that is kept exactly; any other number is a 64-bit float. -/
structure Whole where
  value : Int
  inRange : -0x8000000000000000 ≤ value ∧ value < 0x10000000000000000
deriving DecidableEq, Repr

/-- A natural number that fits into 64 bits. -/
def Whole.ofNat (n : Nat) (h : n < 0x10000000000000000) : Whole := ⟨n, by omega⟩

/-- The values without parts that are written without quotes. -/
inductive Atom where
  | null
  | bool (value : Bool)
  | whole (value : Whole)
  | float (value : Number.Binary64)
deriving DecidableEq, Repr

inductive Json where
  | atom (value : Atom)
  | str (text : String)
  | arr (items : List Json)
  | obj (members : List (String × Json))

abbrev Member := String × Json

namespace Json

def null : Json := .atom .null

def bool (value : Bool) : Json := .atom (.bool value)

def nat (n : Nat) (h : n < 0x10000000000000000) : Json := .atom (.whole (.ofNat n h))

/-- The values under a key, in the order written. -/
def valuesOf (members : List Member) (key : String) : List Json :=
  (members.filter (·.1 == key)).map (·.2)

/-- The value under a key, where the last of several counts. -/
def lookup? (members : List Member) (key : String) : Option Json :=
  (valuesOf members key).getLast?

/-! ## Nesting -/

mutual

/-- How deep arrays and objects stand inside one another. -/
def nesting : Json → Nat
  | .atom _ | .str _ => 0
  | .arr items => nestingOfItems items + 1
  | .obj members => nestingOfMembers members + 1

def nestingOfItems : List Json → Nat
  | [] => 0
  | item :: items => max (nesting item) (nestingOfItems items)

def nestingOfMembers : List Member → Nat
  | [] => 0
  | (_, value) :: members => max (nesting value) (nestingOfMembers members)

end

def maxNesting : Nat := 127

end Json

end BearerAuth
