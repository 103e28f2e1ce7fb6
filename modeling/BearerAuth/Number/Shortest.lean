import BearerAuth.Number.Binary64

/-! The shortest decimal text of a number: of all decimals that round to the number the
ones with the fewest digits, and of those the nearest. -/

namespace BearerAuth.Number.Binary64

/-! ## Digits -/

/-- Whether the decimal `digits * 10 ^ tens` is no further from the number than half the
distance to its neighbours; the ends count when the mantissa is even. -/
def readsBack (x : Binary64) (digits : Nat) (tens : Int) : Bool :=
  let quarter := x.exponent - 2
  let below := if x.mantissa = 0x10000000000000 && minExponent < x.exponent then 1 else 2
  let scale (n : Nat) := n * Nat.pow 2 quarter.toNat * Nat.pow 10 (-tens).toNat
  let candidate := digits * Nat.pow 10 tens.toNat * Nat.pow 2 (-quarter).toNat
  let low := scale (4 * x.mantissa - below)
  let high := scale (4 * x.mantissa + 2)
  if x.mantissa % 2 = 0 then low ≤ candidate && candidate ≤ high
  else low < candidate && candidate < high

/-- The multiple of a power of ten that rounds to the number, if one of the number's two
neighbours on that grid does; of two the nearer, and of two equally near the even one. -/
def onGrid? (x : Binary64) (tens : Int) : Option Nat :=
  let num := x.magnitude.1 * Nat.pow 10 (-tens).toNat
  let den := x.magnitude.2 * Nat.pow 10 tens.toNat
  let down := num / den
  match x.readsBack down tens, x.readsBack (down + 1) tens with
  | true, true => some (roundQuotient num den)
  | true, false => some down
  | false, true => some (down + 1)
  | false, false => none

/-- The coarsest of a number of decimal grids that a decimal for the number lies on, with
the decimal's digits; the finest grid is `10 ^ -343`. -/
def coarsest (x : Binary64) : Nat → Nat × Int
  | 0 => (0, 0)
  | grids + 1 =>
      let tens := (grids : Int) - 343
      match x.onGrid? tens with
      | some digits => (digits, tens)
      | none => coarsest x grids

/-- The shortest digits of a number and the power of ten of the last one. -/
def shortest (x : Binary64) : Nat × Int := x.coarsest 655

/-! ## Text -/

def digitsOf (n : Nat) : List Char := Nat.toDigits 10 n

/-- Decimal digits without a point are written plainly when the first one stands from the
fifth place behind the point up to the sixteenth before it. -/
def isPlain (leading : Int) : Bool := -5 ≤ leading && leading < 16

/-- The text for digits, the last of which counts powers of ten. -/
def digitsText (digits : List Char) (tens : Int) : List Char :=
  let leading := tens + digits.length - 1
  if isPlain leading then
    if 0 ≤ tens then digits ++ List.replicate tens.toNat '0' ++ ['.', '0']
    else if 0 ≤ leading then
      digits.take (leading + 1).toNat ++ ['.'] ++ digits.drop (leading + 1).toNat
    else ['0', '.'] ++ List.replicate (-leading - 1).toNat '0' ++ digits
  else
    digits.take 1 ++ (if digits.length = 1 then [] else '.' :: digits.drop 1) ++ ['e'] ++
      (if leading < 0 then ['-'] else ['+']) ++ digitsOf leading.natAbs

def text (x : Binary64) : List Char :=
  (if x.negative then ['-'] else []) ++
    if x.mantissa = 0 then ['0', '.', '0']
    else digitsText (digitsOf x.shortest.1) x.shortest.2

end BearerAuth.Number.Binary64
