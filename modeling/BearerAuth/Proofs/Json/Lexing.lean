import BearerAuth.Json.Text
import Mathlib.Data.List.Basic
import Mathlib.Data.List.TakeWhile

/-! Written lexemes are read back. A string ends at its own quote, whatever it holds, and a
word ends at the first character that no word can hold; so only the character behind a word
matters for what is read. -/

namespace BearerAuth

/-- Whether a value is written and read without rounding, which 64-bit floats need not be. -/
def Atom.isExact : Atom → Bool
  | .float _ => false
  | _ => true

namespace Json

/-! ## Numbers -/

theorem le_ofDigitChars (digits : List Char) (n : Nat) : n ≤ Nat.ofDigitChars 10 digits n := by
  rw [Nat.ofDigitChars_eq_ofDigitChars_zero]
  have hpos : 0 < 10 ^ digits.length := Nat.pow_pos (by decide)
  have hmul : n ≤ 10 ^ digits.length * n := Nat.le_mul_of_pos_left n hpos
  omega

/-- No digit is left over of a number below `2 ^ 64`. -/
theorem absorb_eq (digits : List Char) {n : Nat}
    (h : Nat.ofDigitChars 10 digits n < 0x10000000000000000) :
    absorb n digits = (Nat.ofDigitChars 10 digits n, []) := by
  induction digits generalizing n with
  | nil => simp [absorb]
  | cons c digits ih =>
      rw [Nat.ofDigitChars_cons] at h ⊢
      have hnext := Nat.lt_of_le_of_lt (le_ofDigitChars digits _) h
      simp only [absorb]
      rw [if_pos hnext]
      exact ih h

theorem absorb_toDigits {n : Nat} (h : n < 0x10000000000000000) :
    absorb 0 (Nat.toDigits 10 n) = (n, []) := by
  have hvalue : Nat.ofDigitChars 10 (Nat.toDigits 10 n) 0 = n := Nat.ofDigitChars_ten_toDigits
  have habsorb := absorb_eq (Nat.toDigits 10 n) (n := 0) (by rw [hvalue]; exact h)
  rwa [hvalue] at habsorb

theorem isDigit_toDigits {n : Nat} {c : Char} (h : c ∈ Nat.toDigits 10 n) : c.isDigit = true :=
  Nat.isDigit_of_mem_toDigits (by decide) (by decide) h

theorem head?_toDigits {n : Nat} (h : (Nat.toDigits 10 n).head? = some '0') :
    Nat.toDigits 10 n = ['0'] := by
  induction n using Nat.strongRecOn with
  | ind n ih =>
      by_cases hn : n < 10
      · have hall : ∀ m < 10, [m.digitChar].head? = some '0' → [m.digitChar] = ['0'] := by decide
        rw [Nat.toDigits_of_lt_base hn] at h ⊢
        exact hall n hn h
      · exfalso
        rw [Nat.toDigits_of_base_le (by decide) (by omega),
          List.head?_append_of_ne_nil _ Nat.toDigits_ne_nil] at h
        have hzero := ih (n / 10) (by omega) h
        have hback := Nat.ofDigitChars_ten_toDigits (n := n / 10)
        rw [hzero] at hback
        simp only [Nat.ofDigitChars_cons, Nat.ofDigitChars_nil, Nat.mul_zero] at hback
        simp at hback
        omega

theorem unsigned?_toDigits (negative : Bool) (n : Nat) :
    unsigned? negative (Nat.toDigits 10 n) = some ⟨negative, Nat.toDigits 10 n, none, none⟩ := by
  have hdigits : ∀ c ∈ Nat.toDigits 10 n, c.isDigit = true := fun c => isDigit_toDigits
  have htake : (Nat.toDigits 10 n).takeWhile Char.isDigit = Nat.toDigits 10 n :=
    List.takeWhile_eq_self_iff.mpr hdigits
  have hdrop : (Nat.toDigits 10 n).dropWhile Char.isDigit = [] :=
    List.dropWhile_eq_nil_iff.mpr hdigits
  have hempty : (Nat.toDigits 10 n).isEmpty = false := by simp [Nat.toDigits_ne_nil]
  have hzero : ((Nat.toDigits 10 n).head? == some '0' && Nat.toDigits 10 n != ['0']) = false := by
    rw [Bool.and_eq_false_iff]
    by_cases hh : (Nat.toDigits 10 n).head? = some '0'
    · right
      simpa using head?_toDigits hh
    · left
      simpa using hh
  simp only [unsigned?, htake, hdrop, hempty, hzero, Bool.or_self]
  rfl

theorem numeral?_digits (n : Nat) :
    numeral? (Nat.toDigits 10 n) = some ⟨false, Nat.toDigits 10 n, none, none⟩ := by
  unfold numeral?
  split
  · rename_i cs hcs
    have hd := isDigit_toDigits (n := n) (c := '-') (by rw [hcs]; simp)
    contradiction
  · exact unsigned?_toDigits false n

theorem numeral?_negative (n : Nat) :
    numeral? ('-' :: Nat.toDigits 10 n) = some ⟨true, Nat.toDigits 10 n, none, none⟩ :=
  unsigned?_toDigits true n

theorem value?_digits {negative : Bool} {n : Nat} {value : Whole}
    (hsign : value.value = if negative then -(n : Int) else n) (hpos : negative = true → 0 < n) :
    Numeral.value? ⟨negative, Nat.toDigits 10 n, none, none⟩ = some (.whole value) := by
  have hrange := value.inRange
  cases negative with
  | true =>
      have hn := hpos rfl
      simp only [if_true] at hsign
      have hbounds : 0 < n ∧ n ≤ 0x8000000000000000 := by omega
      obtain ⟨number, hnumber⟩ := value
      simp only at hsign
      subst hsign
      have hdigits := absorb_toDigits (show n < 0x10000000000000000 by omega)
      simp only [Numeral.value?, hdigits, Option.isNone_none, List.isEmpty_nil, Bool.and_self,
        if_true, dif_pos hbounds]
  | false =>
      simp only [Bool.false_eq_true, if_false] at hsign
      have hbound : n < 0x10000000000000000 := by omega
      obtain ⟨number, hnumber⟩ := value
      simp only at hsign
      subst hsign
      simp only [Numeral.value?, absorb_toDigits hbound, Option.isNone_none, List.isEmpty_nil,
        Bool.and_self, if_true, Bool.false_eq_true, if_false, dif_pos hbound, Whole.ofNat]

/-! ## Words -/

theorem isWordChar_of_isDigit {c : Char} (h : c.isDigit = true) : isWordChar c = true := by
  simp [isWordChar, Char.isAlphanum, h]

/-- A character of a word neither separates lexemes nor opens a string. -/
theorem not_isSpace_of_isWordChar {c : Char} (h : isWordChar c = true) :
    isSpace c = false ∧ c ≠ '"' := by
  constructor
  · rw [Bool.eq_false_iff]
    intro hs
    simp only [isSpace, Bool.or_eq_true, beq_iff_eq] at hs
    rcases hs with ((rfl | rfl) | rfl) | rfl <;> contradiction
  · rintro rfl
    contradiction

/-- The word of an integer: its digits, behind a minus sign if it is negative. -/
theorem atomText_whole (n : Whole) :
    atomText (.whole n) =
      (if n.value < 0 then ['-'] else []) ++ Nat.toDigits 10 n.value.natAbs := rfl

theorem mem_atomText_whole {n : Whole} {c : Char} (h : c ∈ atomText (.whole n)) :
    c = '-' ∨ c.isDigit = true := by
  rw [atomText_whole, List.mem_append] at h
  rcases h with h | h
  · left
    split at h
    · simpa using h
    · simp at h
  · right
    exact isDigit_toDigits h

theorem numeral?_whole (n : Whole) :
    (numeral? (atomText (.whole n))).bind Numeral.value? = some (.whole n) := by
  rw [atomText_whole]
  by_cases hn : n.value < 0
  · rw [if_pos hn, List.singleton_append, numeral?_negative]
    exact value?_digits (by rw [if_pos rfl]; omega) (by omega)
  · rw [if_neg hn, List.nil_append, numeral?_digits]
    exact value?_digits (by rw [if_neg Bool.false_ne_true]; omega) (by simp)

theorem atom?_atomText {value : Atom} (h : value.isExact = true) :
    atom? (atomText value) = some value := by
  cases value with
  | null => rfl
  | bool value => cases value <;> rfl
  | float value => contradiction
  | whole n =>
      have hletter : ∀ c : Char, c ≠ '-' → c.isDigit = false → c ∉ atomText (.whole n) := by
        intro c hminus hdigit hc
        rcases mem_atomText_whole hc with rfl | hd
        · contradiction
        · rw [hd] at hdigit
          contradiction
      have hne : ∀ (word : List Char) (c : Char), c ∈ word → c ≠ '-' → c.isDigit = false →
          atomText (.whole n) ≠ word := by
        rintro word c hc hminus hdigit rfl
        exact hletter c hminus hdigit hc
      unfold atom?
      rw [if_neg (hne _ 'n' (by decide) (by decide) (by decide)),
        if_neg (hne _ 't' (by decide) (by decide) (by decide)),
        if_neg (hne _ 'f' (by decide) (by decide) (by decide))]
      exact numeral?_whole n

theorem isWordChar_digitsOf (n : Nat) :
    ∀ c ∈ Number.Binary64.digitsOf n, isWordChar c = true := fun _ hc =>
  isWordChar_of_isDigit (isDigit_toDigits hc)

/-- The digits of a number and what stands between them belong to one word. -/
theorem isWordChar_digitsText {digits : List Char} (h : ∀ c ∈ digits, isWordChar c = true)
    (tens : Int) : ∀ c ∈ Number.Binary64.digitsText digits tens, isWordChar c = true := by
  have hzeros (n : Nat) : ∀ c ∈ List.replicate n '0', isWordChar c = true := by
    intro c hc
    rw [List.eq_of_mem_replicate hc]
    rfl
  have htake (n : Nat) : ∀ c ∈ digits.take n, isWordChar c = true := fun c hc =>
    h c (List.mem_of_mem_take hc)
  have hdrop (n : Nat) : ∀ c ∈ digits.drop n, isWordChar c = true := fun c hc =>
    h c (List.mem_of_mem_drop hc)
  unfold Number.Binary64.digitsText
  dsimp only
  split
  · split
    · simp only [List.forall_mem_append]
      exact ⟨⟨h, hzeros _⟩, List.all_eq_true.mp rfl⟩
    · split
      · simp only [List.forall_mem_append]
        exact ⟨⟨htake _, List.all_eq_true.mp rfl⟩, hdrop _⟩
      · simp only [List.forall_mem_append]
        exact ⟨⟨List.all_eq_true.mp rfl, hzeros _⟩, h⟩
  · simp only [List.forall_mem_append]
    refine ⟨⟨⟨⟨htake 1, ?_⟩, List.all_eq_true.mp rfl⟩, ?_⟩, isWordChar_digitsOf _⟩
    · split
      · simp
      · exact List.forall_mem_cons.mpr ⟨rfl, hdrop 1⟩
    · split
      · exact List.all_eq_true.mp rfl
      · exact List.all_eq_true.mp rfl

theorem digitsText_ne_nil (digits : List Char) (tens : Int) :
    Number.Binary64.digitsText digits tens ≠ [] := by
  unfold Number.Binary64.digitsText
  dsimp only
  split
  · split
    · simp
    · split
      · simp
      · simp
  · simp

theorem isWordChar_atomText (value : Atom) : ∀ c ∈ atomText value, isWordChar c = true := by
  cases value with
  | null => exact List.all_eq_true.mp rfl
  | bool value => cases value <;> exact List.all_eq_true.mp rfl
  | float x =>
      simp only [atomText, Number.Binary64.text, List.forall_mem_append]
      constructor
      · split
        · exact List.all_eq_true.mp rfl
        · simp
      · split
        · exact List.all_eq_true.mp rfl
        · exact isWordChar_digitsText (isWordChar_digitsOf _) _
  | whole n =>
      intro c hc
      rcases mem_atomText_whole hc with rfl | hd
      · rfl
      · exact isWordChar_of_isDigit hd

theorem atomText_ne_nil (value : Atom) : atomText value ≠ [] := by
  cases value with
  | null => decide
  | bool value => cases value <;> decide
  | float x =>
      apply List.append_ne_nil_of_right_ne_nil
      split
      · simp
      · exact digitsText_ne_nil _ _
  | whole n => simp [atomText_whole, Nat.toDigits_ne_nil]

/-! ## Strings -/

theorem quoted?_close (cs : List Char) : quoted? ('"' :: cs) = some ([], cs) := by
  rw [quoted?]
  rfl

theorem quoted?_escape {c : Char} {cs rest : List Char} (h : escape? cs = some (c, rest)) :
    quoted? ('\\' :: cs) = (quoted? rest).map fun (text, rest) => (c :: text, rest) := by
  rw [quoted?, if_neg (by decide), if_pos rfl]
  split
  · rename_i hnone
    rw [h] at hnone
    contradiction
  · rename_i d after hsome
    rw [h] at hsome
    cases hsome
    rfl

theorem quoted?_plain {c : Char} (cs : List Char) (hquote : c ≠ '"') (hslash : c ≠ '\\')
    (hcontrol : ¬ c.toNat < 0x20) :
    quoted? (c :: cs) = (quoted? cs).map fun (text, rest) => (c :: text, rest) := by
  rw [quoted?, if_neg hquote, if_neg hslash, if_neg hcontrol]

theorem hexDigit?_digitChar : ∀ n < 16, hexDigit? (Nat.digitChar n) = some n := by decide

theorem escape?_control {c : Char} (h : c.toNat < 0x20) (cs : List Char) :
    escape? ('u' :: '0' :: '0' :: Nat.digitChar (c.toNat / 16) ::
      Nat.digitChar (c.toNat % 16) :: cs) = some (c, cs) := by
  have hzero : hexDigit? '0' = some 0 := by decide
  have hunit : hexUnit? ('0' :: '0' :: Nat.digitChar (c.toNat / 16) ::
      Nat.digitChar (c.toNat % 16) :: cs) = some (c.toNat, cs) := by
    simp only [hexUnit?, hzero, hexDigit?_digitChar (c.toNat / 16) (by omega),
      hexDigit?_digitChar (c.toNat % 16) (by omega), Option.some.injEq, Prod.mk.injEq, and_true]
    omega
  have hhigh : isHighHalf c.toNat = false := by simp [isHighHalf]; omega
  have hlow : isLowHalf c.toNat = false := by simp [isLowHalf]; omega
  simp [escape?, numbered?, hunit, hhigh, hlow]

theorem quoted?_charText (c : Char) (cs : List Char) :
    quoted? (charText c ++ cs) = (quoted? cs).map fun (text, rest) => (c :: text, rest) := by
  unfold charText
  split
  · subst c
    exact quoted?_escape rfl
  split
  · subst c
    exact quoted?_escape rfl
  split
  · subst c
    exact quoted?_escape rfl
  split
  · subst c
    exact quoted?_escape rfl
  split
  · subst c
    exact quoted?_escape rfl
  split
  · subst c
    exact quoted?_escape rfl
  split
  · subst c
    exact quoted?_escape rfl
  split
  · rename_i hcontrol
    exact quoted?_escape (escape?_control hcontrol cs)
  · rename_i hquote hslash _ _ _ _ _ hcontrol
    exact quoted?_plain cs hquote hslash hcontrol

/-- A written text is read up to the quote behind it. -/
theorem quoted?_text (cs rest : List Char) :
    quoted? (cs.flatMap charText ++ '"' :: rest) = some (cs, rest) := by
  induction cs with
  | nil => exact quoted?_close rest
  | cons c cs ih =>
      rw [List.flatMap_cons, List.append_assoc, quoted?_charText, ih]
      rfl

/-! ## Lexemes -/

/-- Whether no word goes on into a text. -/
def EndsWord (rest : List Char) : Prop := ∀ c ∈ rest.head?, isWordChar c = false

theorem endsWord_nil : EndsWord [] := by simp [EndsWord]

theorem endsWord_cons {c : Char} (h : isWordChar c = false) (rest : List Char) :
    EndsWord (c :: rest) := by
  simpa [EndsWord] using h

theorem EndsWord.takeWhile {rest : List Char} (h : EndsWord rest) :
    rest.takeWhile isWordChar = [] := by
  cases rest with
  | nil => rfl
  | cons c rest => rw [List.takeWhile_cons_of_neg (by simp [h c rfl])]

theorem EndsWord.dropWhile {rest : List Char} (h : EndsWord rest) :
    rest.dropWhile isWordChar = rest := by
  cases rest with
  | nil => rfl
  | cons c rest => rw [List.dropWhile_cons_of_neg (by simp [h c rfl])]

theorem lexemes?_str (text : String) (rest : List Char) :
    lexemes? (Lexeme.text (.str text) ++ rest) = (lexemes? rest).map (.str text :: ·) := by
  have hquoted := quoted?_text text.toList rest
  simp only [Lexeme.text, quotedText, List.cons_append, List.append_assoc, List.nil_append]
  rw [lexemes?, if_neg (by decide), if_pos rfl]
  split
  · rename_i hnone
    rw [hquoted] at hnone
    contradiction
  · rename_i found after hsome
    rw [hquoted] at hsome
    cases hsome
    rw [String.ofList_toList]

theorem lexemes?_atom (value : Atom) {rest : List Char} (hrest : EndsWord rest) :
    lexemes? (Lexeme.text (.atom value) ++ rest) =
      (atom? (atomText value)).bind fun found => (lexemes? rest).map (.atom found :: ·) := by
  have hword := isWordChar_atomText value
  simp only [Lexeme.text]
  cases hchars : atomText value with
  | nil => exact absurd hchars (atomText_ne_nil value)
  | cons c cs =>
      rw [hchars] at hword
      have hc := hword c (by simp)
      have hcs : ∀ d ∈ cs, isWordChar d = true := fun d hd => hword d (by simp [hd])
      obtain ⟨hspace, hquote⟩ := not_isSpace_of_isWordChar hc
      rw [List.cons_append, lexemes?, if_neg (by simp [hspace]), if_neg hquote, if_pos hc,
        List.takeWhile_append_of_pos hcs, List.dropWhile_append_of_pos hcs, hrest.takeWhile,
        hrest.dropWhile, List.append_nil]
      cases atom? (c :: cs) <;> rfl

/-- A mark is one character that neither a blank, nor a string, nor a word starts with. -/
theorem lexemes?_mark {c : Char} {mark : Lexeme} (h : mark? c = some mark) (rest : List Char) :
    lexemes? (c :: rest) = (lexemes? rest).map (mark :: ·) := by
  have hmarks : c = '[' ∨ c = ']' ∨ c = '\x7b' ∨ c = '\x7d' ∨ c = ',' ∨ c = ':' := by
    simp only [mark?] at h
    repeat' split at h
    all_goals simp_all
  have hspace : isSpace c = false := by
    rcases hmarks with rfl | rfl | rfl | rfl | rfl | rfl <;> rfl
  have hquote : c ≠ '"' := by
    rcases hmarks with rfl | rfl | rfl | rfl | rfl | rfl <;> decide
  have hword : isWordChar c = false := by
    rcases hmarks with rfl | rfl | rfl | rfl | rfl | rfl <;> decide
  rw [lexemes?, if_neg (by simp [hspace]), if_neg hquote, if_neg (by simp [hword]), h]

end Json

end BearerAuth
