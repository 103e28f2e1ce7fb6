import BearerAuth.Text.Blank
import BearerAuth.Time.Period

/-! Periods as people write them: numbers with units, such as two hours and thirty minutes
written `2h 30m`. Each character moves the reader on, so a faulty text is refused at the
first place where it can no longer be completed. -/

namespace BearerAuth.PeriodText

/-! ## Units -/

/-- The units of time. -/
inductive TimeUnit where
  | nanosecond
  | microsecond
  | millisecond
  | second
  | minute
  | hour
  | day
  | week
  | month
  | year
deriving DecidableEq, Repr

namespace TimeUnit

/-- The names of each unit. A month is the twelfth part of a year of 365.25 days. -/
def names : List (TimeUnit × List String) :=
  [(nanosecond, ["nanos", "nsec", "ns"]),
    (microsecond, ["usec", "us", "µs"]),
    (millisecond, ["millis", "msec", "ms"]),
    (second, ["seconds", "second", "secs", "sec", "s"]),
    (minute, ["minutes", "minute", "min", "mins", "m"]),
    (hour, ["hours", "hour", "hr", "hrs", "h"]),
    (day, ["days", "day", "d"]),
    (week, ["weeks", "week", "wk", "wks", "w"]),
    (month, ["months", "month", "M"]),
    (year, ["years", "year", "yrs", "yr", "y"])]

/-- The unit with a name. -/
def ofName? (name : String) : Option TimeUnit :=
  (names.find? fun entry => entry.2.contains name).map (·.1)

/-- The nanoseconds of a unit. -/
def nanos : TimeUnit → Nat
  | nanosecond => 1
  | microsecond => 1000
  | millisecond => 1000000
  | second => 1000000000
  | minute => 60 * 1000000000
  | hour => 3600 * 1000000000
  | day => 86400 * 1000000000
  | week => 604800 * 1000000000
  | month => 2630016 * 1000000000
  | year => 31557600 * 1000000000

/-- Whether whole numbers of a unit are counted in nanoseconds, and not in seconds. -/
def isSubsecond : TimeUnit → Bool
  | nanosecond | microsecond | millisecond => true
  | _ => false

/-- Whether fractions of a unit are counted in nanoseconds, and not in seconds. -/
def isShort : TimeUnit → Bool
  | nanosecond | microsecond | millisecond | second | minute => true
  | _ => false

end TimeUnit

/-! ## Values -/

/-- Why a text is not a period. -/
inductive PeriodError where
  | empty
  | numberExpected (offset : Nat)
  | invalidCharacter (offset : Nat)
  | unitNeeded (number : Nat)
  | unknownUnit (name : String)
  | outOfRange
  /-- A full second of nanoseconds is left when the seconds are at their greatest. -/
  | carryOverflow
deriving DecidableEq, Repr

/-- The text shown for a faulty period. -/
def PeriodError.message : PeriodError → String
  | empty => "value was empty"
  | numberExpected offset => "expected number at " ++ toString offset
  | invalidCharacter offset => "invalid character at " ++ toString offset
  | unitNeeded number =>
      "time unit needed, for example " ++ toString number ++ "sec or " ++ toString number ++ "ms"
  | unknownUnit name =>
      "unknown time unit \"" ++ name ++ "\", supported units: ns, us/µs, ms, sec, min, hours, " ++
        "days, weeks, months, years (and few variations)"
  | outOfRange =>
      "number is too large or cannot be represented without a lack of precision (values below " ++
        "1ns are not supported)"
  | carryOverflow => "seconds overflow"

/-- A number that has to fit into 64 bits. -/
def fitting (n : Nat) : Except PeriodError Nat :=
  if n < 0x10000000000000000 then .ok n else .error .outOfRange

/-- A quotient that has to be whole. -/
def exactly (num den : Nat) : Except PeriodError Nat :=
  if num % den = 0 then .ok (num / den) else .error .outOfRange

/-- A period and some more seconds and nanoseconds. More than a second of nanoseconds is
carried with a check; exactly one second is left to the sum itself. -/
def addParts (total : Period) (seconds nanos : Nat) : Except PeriodError Period := do
  let sub ← fitting (total.subsecond + nanos)
  let carry := if sub > nanosPerSecond then sub / nanosPerSecond else 0
  let rest := if sub > nanosPerSecond then sub % nanosPerSecond else sub
  let added ← fitting (seconds + carry)
  let sum ← fitting (total.seconds + added)
  match Period.ofParts? sum rest with
  | some period => .ok period
  | none => .error .carryOverflow

/-- A decimal fraction: a numerator over a power of ten. -/
structure Fraction where
  numerator : Nat
  denominator : Nat

/-- The whole part of an item added to a period. -/
def addWhole (total : Period) (unit : TimeUnit) (number : Nat) : Except PeriodError Period := do
  if unit.isSubsecond then addParts total 0 (← fitting (number * unit.nanos))
  else addParts total (← fitting (number * (unit.nanos / nanosPerSecond))) 0

/-- The fraction of an item added to a period; it has to come to a whole number. -/
def addFraction (total : Period) (unit : TimeUnit) (fraction : Fraction) :
    Except PeriodError Period := do
  if unit = .nanosecond then .error .outOfRange
  else if unit.isShort then
    let product ← fitting (fraction.numerator * unit.nanos)
    addParts total 0 (← exactly product fraction.denominator)
  else
    let product ← fitting (fraction.numerator * (unit.nanos / nanosPerSecond))
    addParts total (← exactly product fraction.denominator) 0

/-- A complete item added to a period. -/
def addItem (total : Period) (number : Nat) (fraction : Option Fraction) (name : String) :
    Except PeriodError Period :=
  match TimeUnit.ofName? name with
  | none => .error (if name.isEmpty then .unitNeeded number else .unknownUnit name)
  | some unit => do
      let total ← addWhole total unit number
      match fraction with
      | none => return total
      | some fraction => addFraction total unit fraction

/-! ## Reading -/

/-- Whether a character can stand in the name of a unit. -/
def isUnitChar (c : Char) : Bool := c.isAlpha || c == 'µ'

/-- The part of an item that is being read. -/
inductive Part where
  /-- Between items; the place where the last item ended. -/
  | between (offset : Nat)
  | whole (number : Nat)
  /-- Behind the point; the place up to which the fraction has been read. -/
  | fraction (number : Nat) (fraction : Fraction) (offset : Nat)
  /-- In the name of a unit. -/
  | unitName (number : Nat) (fraction : Option Fraction) (name : List Char)

/-- What has been read. -/
structure Reading where
  total : Period
  /-- Whether there has been an item. -/
  isItemSeen : Bool
  part : Part

/-- The number of a decimal digit. -/
def digit (c : Char) : Nat := c.toNat - '0'.toNat

/-- A fraction with one more digit. -/
def Fraction.push (fraction : Fraction) (c : Char) : Except PeriodError Fraction := do
  let denominator ← fitting (fraction.denominator * 10)
  let numerator ← fitting (fraction.numerator * 10 + digit c)
  return ⟨numerator, denominator⟩

/-- One more character, which stands at an offset. -/
def Reading.step (reading : Reading) (offset : Nat) (c : Char) : Except PeriodError Reading :=
  match reading.part with
  | .between start =>
      if c.isDigit then .ok { reading with isItemSeen := true, part := .whole (digit c) }
      else if Text.isBlank c then .ok reading
      else .error (.numberExpected start)
  | .whole number =>
      if c.isDigit then do
        return { reading with part := .whole (← fitting (number * 10 + digit c)) }
      else if Text.isBlank c then .ok reading
      else if isUnitChar c then .ok { reading with part := .unitName number none [c] }
      else if c = '.' then .ok { reading with part := .fraction number ⟨0, 1⟩ offset }
      else .error (.invalidCharacter offset)
  | .fraction number fraction start =>
      if c.isDigit then do
        return { reading with part := .fraction number (← fraction.push c) (offset + 1) }
      else if Text.isBlank c then
        .ok { reading with part := .fraction number fraction (offset + c.utf8Size) }
      else if isUnitChar c && fraction.denominator != 1 then
        .ok { reading with part := .unitName number (some fraction) [c] }
      else .error (.invalidCharacter start)
  | .unitName number fraction name =>
      if c.isDigit then do
        let total ← addItem reading.total number fraction (String.ofList name)
        return { reading with total := total, part := .whole (digit c) }
      else if Text.isBlank c then do
        let total ← addItem reading.total number fraction (String.ofList name)
        return { reading with total := total, part := .between (offset + c.utf8Size) }
      else if isUnitChar c then
        .ok { reading with part := .unitName number fraction (name ++ [c]) }
      else .error (.invalidCharacter offset)

/-- The period once the text has ended. -/
def Reading.finish (reading : Reading) : Except PeriodError Period :=
  match reading.part with
  | .between _ => if reading.isItemSeen then .ok reading.total else .error .empty
  | .whole number => addItem reading.total number none ""
  | .fraction number fraction start =>
      if fraction.denominator = 1 then .error (.invalidCharacter start)
      else addItem reading.total number (some fraction) ""
  | .unitName number fraction name =>
      addItem reading.total number fraction (String.ofList name)

/-- Reads the rest of a text, which starts at an offset. -/
def Reading.run (reading : Reading) (offset : Nat) : List Char → Except PeriodError Period
  | [] => reading.finish
  | c :: cs => do (← reading.step offset c).run (offset + c.utf8Size) cs

/-- The period that a text names. A zero alone needs no unit. -/
def parse (text : String) : Except PeriodError Period :=
  if text = "0" then .ok .zero else Reading.run ⟨.zero, false, .between 0⟩ 0 text.toList

end BearerAuth.PeriodText
