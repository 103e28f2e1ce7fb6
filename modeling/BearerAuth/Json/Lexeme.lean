import BearerAuth.Json.Basic
import BearerAuth.Number.Shortest

/-! The lexemes of JSON text: six marks, quoted strings and bare words. A lexeme is the
longest that can be read at its place; blanks may stand between any two. -/

namespace BearerAuth.Json

inductive Lexeme where
  | openArray
  | closeArray
  | openObject
  | closeObject
  | comma
  | colon
  | str (text : String)
  | atom (value : Atom)

/-! ## Numbers -/

structure Numeral where
  negative : Bool
  /-- The digits before the point. -/
  whole : List Char
  /-- The digits behind the point, if there is one. -/
  fraction : Option (List Char)
  /-- The power of ten, if one is written. -/
  exponent : Option Int

/-- The number that decimal digits stand for. -/
def ofDigits (digits : List Char) : Nat := Nat.ofDigitChars 10 digits 0

/-- Reads a power of ten up to the end of the text. -/
def exponent? : List Char → Option Int
  | '-' :: digits =>
      if !digits.isEmpty && digits.all Char.isDigit then some (-(ofDigits digits : Int)) else none
  | '+' :: digits =>
      if !digits.isEmpty && digits.all Char.isDigit then some (ofDigits digits) else none
  | digits =>
      if !digits.isEmpty && digits.all Char.isDigit then some (ofDigits digits) else none

/-- Reads what may follow the digits before the point. -/
def numeralEnd? (negative : Bool) (whole : List Char) : List Char → Option Numeral
  | [] => some ⟨negative, whole, none, none⟩
  | '.' :: cs =>
      let fraction := cs.takeWhile Char.isDigit
      if fraction.isEmpty then none
      else
        match cs.dropWhile Char.isDigit with
        | [] => some ⟨negative, whole, some fraction, none⟩
        | e :: cs =>
            if e == 'e' || e == 'E' then
              (exponent? cs).map fun n => ⟨negative, whole, some fraction, some n⟩
            else none
  | e :: cs =>
      if e == 'e' || e == 'E' then
        (exponent? cs).map fun n => ⟨negative, whole, none, some n⟩
      else none

/-- Reads a number without a sign; only zero itself starts with a zero. -/
def unsigned? (negative : Bool) (cs : List Char) : Option Numeral :=
  let whole := cs.takeWhile Char.isDigit
  if whole.isEmpty || (whole.head? == some '0' && whole != ['0']) then none
  else numeralEnd? negative whole (cs.dropWhile Char.isDigit)

def numeral? : List Char → Option Numeral
  | '-' :: cs => unsigned? true cs
  | cs => unsigned? false cs

/-- Digits appended to a number as long as it stays below `2 ^ 64`, and the digits left. -/
def absorb (n : Nat) : List Char → Nat × List Char
  | [] => (n, [])
  | c :: cs =>
      let next := 10 * n + (c.toNat - '0'.toNat)
      if next < 0x10000000000000000 then absorb next cs else (n, c :: cs)

/-- The value of a number. Digits that no longer fit into 64 bits count as zeros before the
point and not at all behind it. -/
def Numeral.value? (numeral : Numeral) : Option Atom :=
  let (n, dropped) := absorb 0 numeral.whole
  let exact : Option Whole :=
    if numeral.fraction.isNone && numeral.exponent.isNone && dropped.isEmpty then
      if numeral.negative then
        if h : 0 < n ∧ n ≤ 0x8000000000000000 then some ⟨-n, by omega⟩ else none
      else if h : n < 0x10000000000000000 then some (.ofNat n h) else none
    else none
  match exact with
  | some value => some (.whole value)
  | none =>
      let fraction := numeral.fraction.getD []
      let (m, ignored) := absorb n fraction
      let places : Int := fraction.length - ignored.length
      (Number.Binary64.ofDecimal? numeral.negative m
        (dropped.length - places + numeral.exponent.getD 0)).map .float

/-! ## Bare words -/

/-- The characters that a bare word can hold. -/
def isWordChar (c : Char) : Bool := c.isAlphanum || c == '+' || c == '-' || c == '.'

/-- The value that a bare word stands for. -/
def atom? (word : List Char) : Option Atom :=
  if word = "null".toList then some .null
  else if word = "true".toList then some (.bool true)
  else if word = "false".toList then some (.bool false)
  else (numeral? word).bind Numeral.value?

/-- The word that a value is written as. -/
def atomText : Atom → List Char
  | .null => "null".toList
  | .bool value => (if value then "true" else "false").toList
  | .whole n => (if n.value < 0 then ['-'] else []) ++ Nat.toDigits 10 n.value.natAbs
  | .float x => x.text

/-! ## Strings -/

def hexDigit? (c : Char) : Option Nat :=
  if '0' ≤ c && c ≤ '9' then some (c.toNat - '0'.toNat)
  else if 'a' ≤ c && c ≤ 'f' then some (c.toNat - 'a'.toNat + 10)
  else if 'A' ≤ c && c ≤ 'F' then some (c.toNat - 'A'.toNat + 10)
  else none

def hexUnit? : List Char → Option (Nat × List Char)
  | a :: b :: c :: d :: cs =>
      match hexDigit? a, hexDigit? b, hexDigit? c, hexDigit? d with
      | some a, some b, some c, some d => some (((a * 16 + b) * 16 + c) * 16 + d, cs)
      | _, _, _, _ => none
  | _ => none

def isHighHalf (n : Nat) : Bool := 0xD800 ≤ n && n < 0xDC00

def isLowHalf (n : Nat) : Bool := 0xDC00 ≤ n && n < 0xE000

/-- Reads an escape that holds the second half of a pair. -/
def secondHalf? : List Char → Option (Nat × List Char)
  | '\\' :: 'u' :: cs => (hexUnit? cs).filter (isLowHalf ·.1)
  | _ => none

/-- The character above `0xFFFF` that a pair stands for. -/
def pairChar (first second : Nat) : Char :=
  Char.ofNat (0x10000 + (first - 0xD800) * 0x400 + (second - 0xDC00))

/-- Reads the rest of a numbered escape; halves come in pairs only. -/
def numbered? (cs : List Char) : Option (Char × List Char) :=
  match hexUnit? cs with
  | none => none
  | some (first, cs) =>
      if isHighHalf first then (secondHalf? cs).map fun (second, cs) => (pairChar first second, cs)
      else if isLowHalf first then none
      else some (Char.ofNat first, cs)

/-- The character that a letter behind a backslash stands for. -/
def escaped? : Char → Option Char
  | '"' => some '"'
  | '\\' => some '\\'
  | '/' => some '/'
  | 'b' => some '\x08'
  | 'f' => some '\x0C'
  | 'n' => some '\n'
  | 'r' => some '\r'
  | 't' => some '\t'
  | _ => none

/-- Reads what follows a backslash. -/
def escape? : List Char → Option (Char × List Char)
  | [] => none
  | 'u' :: cs => numbered? cs
  | c :: cs => (escaped? c).map (·, cs)

theorem length_hexUnit? {cs rest : List Char} {n : Nat} (h : hexUnit? cs = some (n, rest)) :
    rest.length < cs.length := by
  unfold hexUnit? at h
  split at h
  · split at h
    · cases h
      simp only [List.length_cons]
      omega
    · contradiction
  · contradiction

theorem length_secondHalf? {cs rest : List Char} {n : Nat}
    (h : secondHalf? cs = some (n, rest)) : rest.length < cs.length := by
  unfold secondHalf? at h
  split at h
  · have := length_hexUnit? (Option.filter_eq_some_iff.mp h).1
    simp only [List.length_cons]
    omega
  · contradiction

theorem length_numbered? {cs rest : List Char} {c : Char} (h : numbered? cs = some (c, rest)) :
    rest.length < cs.length := by
  unfold numbered? at h
  split at h
  · contradiction
  · rename_i first after hf
    have h1 := length_hexUnit? hf
    split at h
    · obtain ⟨⟨second, left⟩, hs, hp⟩ := Option.map_eq_some_iff.mp h
      have h2 := length_secondHalf? hs
      simp only [Prod.mk.injEq] at hp
      rw [← hp.2]
      omega
    · split at h
      · contradiction
      · simp only [Option.some.injEq, Prod.mk.injEq] at h
        exact h.2 ▸ h1

theorem length_escape? {cs rest : List Char} {c : Char} (h : escape? cs = some (c, rest)) :
    rest.length < cs.length := by
  unfold escape? at h
  split at h
  · contradiction
  · have := length_numbered? h
    simp only [List.length_cons]
    omega
  · obtain ⟨d, _, hp⟩ := Option.map_eq_some_iff.mp h
    cases hp
    simp

/-- Reads a string up to its closing quote. Control characters have to be escaped. -/
def quoted? : List Char → Option (List Char × List Char)
  | [] => none
  | c :: cs =>
      if c = '"' then some ([], cs)
      else if c = '\\' then
        match _h : escape? cs with
        | none => none
        | some (d, rest) => (quoted? rest).map fun (text, rest) => (d :: text, rest)
      else if c.toNat < 0x20 then none
      else (quoted? cs).map fun (text, rest) => (c :: text, rest)
termination_by cs => cs.length
decreasing_by
  · exact Nat.lt_succ_of_lt (length_escape? _h)
  · exact Nat.lt_succ_self _

def charText (c : Char) : List Char :=
  if c = '"' then ['\\', '"']
  else if c = '\\' then ['\\', '\\']
  else if c = '\x08' then ['\\', 'b']
  else if c = '\x0C' then ['\\', 'f']
  else if c = '\n' then ['\\', 'n']
  else if c = '\r' then ['\\', 'r']
  else if c = '\t' then ['\\', 't']
  else if c.toNat < 0x20 then
    ['\\', 'u', '0', '0', Nat.digitChar (c.toNat / 16), Nat.digitChar (c.toNat % 16)]
  else [c]

def quotedText (text : String) : List Char :=
  '"' :: text.toList.flatMap charText ++ ['"']

/-! ## Lexemes -/

def Lexeme.text : Lexeme → List Char
  | openArray => ['[']
  | closeArray => [']']
  | openObject => ['\x7b']
  | closeObject => ['\x7d']
  | comma => [',']
  | colon => [':']
  | str text => quotedText text
  | atom value => atomText value

/-- Whether a character separates lexemes and is nothing else. -/
def isSpace (c : Char) : Bool := c == ' ' || c == '\t' || c == '\n' || c == '\r'

/-- The mark that a character is. -/
def mark? (c : Char) : Option Lexeme :=
  if c = '[' then some .openArray
  else if c = ']' then some .closeArray
  else if c = '\x7b' then some .openObject
  else if c = '\x7d' then some .closeObject
  else if c = ',' then some .comma
  else if c = ':' then some .colon
  else none

theorem length_quoted? {cs text rest : List Char} (h : quoted? cs = some (text, rest)) :
    rest.length < cs.length := by
  fun_induction quoted? cs generalizing text rest with
  | case1 => contradiction
  | case2 cs => simp_all
  | case3 cs _ => contradiction
  | case4 cs d after he _ ih =>
      obtain ⟨inner, hi, hp⟩ := Option.map_eq_some_iff.mp h
      have h1 := ih hi
      have h2 := length_escape? he
      simp only [Prod.mk.injEq] at hp
      simp only [List.length_cons, ← hp.2]
      omega
  | case5 => contradiction
  | case6 c cs _ _ _ ih =>
      obtain ⟨inner, hi, hp⟩ := Option.map_eq_some_iff.mp h
      have h1 := ih hi
      simp only [Prod.mk.injEq] at hp
      simp only [List.length_cons, ← hp.2]
      omega

def lexemes? : List Char → Option (List Lexeme)
  | [] => some []
  | c :: cs =>
      if isSpace c then lexemes? cs
      else if c = '"' then
        match _h : quoted? cs with
        | none => none
        | some (text, rest) => (lexemes? rest).map (.str (String.ofList text) :: ·)
      else if isWordChar c then
        match atom? (c :: cs.takeWhile isWordChar) with
        | none => none
        | some value => (lexemes? (cs.dropWhile isWordChar)).map (.atom value :: ·)
      else
        match mark? c with
        | none => none
        | some mark => (lexemes? cs).map (mark :: ·)
termination_by cs => cs.length
decreasing_by
  · exact Nat.lt_succ_self _
  · exact Nat.lt_succ_of_lt (length_quoted? _h)
  · exact Nat.lt_succ_of_le (List.dropWhile_suffix isWordChar).length_le
  · exact Nat.lt_succ_self _

end BearerAuth.Json
