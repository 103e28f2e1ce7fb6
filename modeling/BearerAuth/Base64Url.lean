/-! Octets as base64url text without padding. Three octets are written as four symbols of
six bits; one or two octets at the end as two or three symbols whose unused bits are zero.
Reading refuses every other text, so each list of octets has one written form. -/

namespace BearerAuth.Base64Url

/-! ## Symbols -/

/-- The symbol for a number below 64. -/
def symbol (n : Nat) : UInt8 :=
  if n < 26 then UInt8.ofNat (65 + n)
  else if n < 52 then UInt8.ofNat (71 + n)
  else if n < 62 then UInt8.ofNat (n - 4)
  else if n = 62 then 45
  else 95

/-- The number that a symbol stands for. -/
def value? (b : UInt8) : Option Nat :=
  let n := b.toNat
  if 65 ≤ n && n ≤ 90 then some (n - 65)
  else if 97 ≤ n && n ≤ 122 then some (n - 71)
  else if 48 ≤ n && n ≤ 57 then some (n + 4)
  else if n = 45 then some 62
  else if n = 95 then some 63
  else none

/-- The padding sign, which is never accepted. -/
def padding : UInt8 := 61

/-! ## Writing -/

def encode : List UInt8 → List UInt8
  | [] => []
  | [x] => [symbol (x.toNat / 4), symbol (x.toNat % 4 * 16)]
  | [x, y] =>
      [symbol (x.toNat / 4), symbol (x.toNat % 4 * 16 + y.toNat / 16),
        symbol (y.toNat % 16 * 4)]
  | x :: y :: z :: rest =>
      symbol (x.toNat / 4) :: symbol (x.toNat % 4 * 16 + y.toNat / 16) ::
        symbol (y.toNat % 16 * 4 + z.toNat / 64) :: symbol (z.toNat % 64) :: encode rest

/-! ## Reading -/

/-- Why a text is not the written form of any octets. -/
inductive DecodeError where
  | invalidSymbol (offset : Nat) (symbol : UInt8)
  | invalidLength (length : Nat)
  | invalidLastSymbol (offset : Nat) (symbol : UInt8)
  | invalidPadding
deriving DecidableEq, Repr

def DecodeError.message : DecodeError → String
  | invalidSymbol offset symbol =>
      "Invalid symbol " ++ toString symbol.toNat ++ ", offset " ++ toString offset ++ "."
  | invalidLength length => "Invalid input length: " ++ toString length
  | invalidLastSymbol offset symbol =>
      "Invalid last symbol " ++ toString symbol.toNat ++ ", offset " ++ toString offset ++ "."
  | invalidPadding => "Invalid padding"

/-- The number that the symbol at an offset stands for. -/
def valueAt (offset : Nat) (b : UInt8) : Except DecodeError Nat :=
  match value? b with
  | some n => .ok n
  | none => .error (.invalidSymbol offset b)

/-- The numbers of the symbols in the last group, and the offset of the first padding sign
behind them. Padding is remembered from the third place on and nothing else may follow it. -/
def lastValues (start : Nat) :
    Nat → Option Nat → List UInt8 → Except DecodeError (List Nat × Option Nat)
  | _, pad, [] => .ok ([], pad)
  | place, pad, b :: rest =>
      if b = padding then
        if place < 2 then .error (.invalidSymbol (start + place) b)
        else lastValues start (place + 1) (pad.or (some (start + place))) rest
      else
        match pad with
        | some offset => .error (.invalidSymbol offset padding)
        | none => do
            let n ← valueAt (start + place) b
            let (values, pad) ← lastValues start (place + 1) none rest
            return (n :: values, pad)

/-- The octets of a last group of one to four symbols; unused bits have to be zero. -/
def lastOctets (start : Nat) (group : List UInt8) : List Nat → Except DecodeError (List UInt8)
  | [a, b] =>
      if b % 16 = 0 then .ok [UInt8.ofNat (a * 4 + b / 16)]
      else .error (.invalidLastSymbol (start + 1) (group.getD 1 0))
  | [a, b, c] =>
      if c % 4 = 0 then
        .ok [UInt8.ofNat (a * 4 + b / 16), UInt8.ofNat (b % 16 * 16 + c / 4)]
      else .error (.invalidLastSymbol (start + 2) (group.getD 2 0))
  | [a, b, c, d] =>
      .ok [UInt8.ofNat (a * 4 + b / 16), UInt8.ofNat (b % 16 * 16 + c / 4),
        UInt8.ofNat (c % 4 * 64 + d)]
  | values => .error (.invalidLength (start + values.length))

/-- Reads the last group, which starts at an offset. -/
def decodeLast (start : Nat) (group : List UInt8) : Except DecodeError (List UInt8) := do
  let (values, pad) ← lastValues start 0 none group
  if values.length < 2 then .error (.invalidLength (start + values.length))
  else if pad.isSome then .error .invalidPadding
  else lastOctets start group values

/-- Reads groups of four symbols from an offset on, the last group apart. -/
def decodeFrom (start : Nat) : List UInt8 → Except DecodeError (List UInt8)
  | [] => .ok []
  | a :: b :: c :: d :: e :: rest => do
      let a ← valueAt start a
      let b ← valueAt (start + 1) b
      let c ← valueAt (start + 2) c
      let d ← valueAt (start + 3) d
      let others ← decodeFrom (start + 4) (e :: rest)
      return UInt8.ofNat (a * 4 + b / 16) :: UInt8.ofNat (b % 16 * 16 + c / 4) ::
        UInt8.ofNat (c % 4 * 64 + d) :: others
  | group => decodeLast start group

/-- A symbol that no length allows: it stands alone in the last group and is no symbol. -/
def strayLast? (text : List UInt8) : Option UInt8 :=
  if text.length % 4 = 1 then
    text.getLast?.filter fun b => b != padding && (value? b).isNone
  else none

/-- The octets that a text is the written form of. -/
def decode (text : List UInt8) : Except DecodeError (List UInt8) :=
  match strayLast? text with
  | some b => .error (.invalidSymbol (text.length - 1) b)
  | none => decodeFrom 0 text

end BearerAuth.Base64Url
