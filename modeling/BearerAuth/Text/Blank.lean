import BearerAuth.Text.Pieces

/-! White space, trimming and words. A blank is a character of the White_Space property;
joiners, the zero width space and the byte order mark are not blanks. -/

namespace BearerAuth.Text

/-- The characters of the White_Space property. -/
def isBlank (c : Char) : Bool :=
  let n := c.toNat
  (0x09 ≤ n && n ≤ 0x0D) || n == 0x20 || n == 0x85 || n == 0xA0 || n == 0x1680 ||
    (0x2000 ≤ n && n ≤ 0x200A) || n == 0x2028 || n == 0x2029 || n == 0x202F ||
    n == 0x205F || n == 0x3000

/-- The text without the blanks at its start. -/
def trimLeft (cs : List Char) : List Char := cs.dropWhile isBlank

/-- The text without the blanks at both ends. -/
def trimBlanks (cs : List Char) : List Char := (trimLeft (trimLeft cs).reverse).reverse

/-- The non-empty runs of characters between blanks. -/
def words (cs : List Char) : List (List Char) :=
  (allPiecesBy isBlank cs).filter (!·.isEmpty)

/-- A trimmed text does not start with a blank. -/
theorem trimLeft_head (cs : List Char) : ∀ c ∈ (trimLeft cs).head?, isBlank c = false := by
  induction cs with
  | nil => simp [trimLeft]
  | cons c cs ih =>
      cases h : isBlank c <;> simp_all [trimLeft]

/-- A word holds at least one character, and no blank. -/
theorem blank_free_words (cs : List Char) :
    ∀ word ∈ words cs, word ≠ [] ∧ ∀ c ∈ word, isBlank c = false := by
  intro word hw
  simp only [words, List.mem_filter, Bool.not_eq_true', List.isEmpty_eq_false_iff] at hw
  exact ⟨hw.2, separator_free_allPiecesBy isBlank cs word hw.1⟩

/-- A blank at the start belongs to no word. -/
theorem words_blank_cons {c : Char} (h : isBlank c = true) (cs : List Char) :
    words (c :: cs) = words cs := by
  simp [words, allPiecesBy, piecesBy_separator h]

/-- A text has no words exactly if it is blank throughout. -/
theorem words_eq_nil_iff {cs : List Char} : words cs = [] ↔ ∀ c ∈ cs, isBlank c = true := by
  induction cs with
  | nil => simp [words, allPiecesBy]
  | cons c cs ih =>
      cases h : isBlank c with
      | true => simp [words_blank_cons h, ih, h]
      | false => simp [words, allPiecesBy, piecesBy_other h, h]

/-- Blanks at the start belong to no word. -/
theorem words_blanks_append {blanks : List Char} (h : ∀ c ∈ blanks, isBlank c = true)
    (cs : List Char) : words (blanks ++ cs) = words cs := by
  induction blanks with
  | nil => rfl
  | cons c blanks ih =>
      obtain ⟨hc, hblanks⟩ := List.forall_mem_cons.mp h
      rw [List.cons_append, words_blank_cons hc, ih hblanks]

/-- A text whose words all stand in the first piece goes on with blanks behind this piece. -/
theorem exists_blanks_of_piecesBy {cs : List Char}
    (h : (piecesBy isBlank cs).2.filter (!·.isEmpty) = []) :
    ∃ blanks, cs = (piecesBy isBlank cs).1 ++ blanks ∧ ∀ c ∈ blanks, isBlank c = true := by
  induction cs with
  | nil => exact ⟨[], rfl, by simp⟩
  | cons c cs ih =>
      cases hc : isBlank c with
      | true =>
          rw [piecesBy_separator hc] at h ⊢
          exact ⟨c :: cs, rfl, List.forall_mem_cons.mpr ⟨hc, words_eq_nil_iff.mp h⟩⟩
      | false =>
          rw [piecesBy_other hc] at h ⊢
          obtain ⟨blanks, hcs, hblanks⟩ := ih h
          exact ⟨blanks, congrArg (c :: ·) hcs, hblanks⟩

/-- A text has one word exactly if it is this word with blanks around it. -/
theorem words_eq_singleton_iff {cs word : List Char} :
    words cs = [word] ↔ word ≠ [] ∧ (∀ c ∈ word, isBlank c = false) ∧
      ∃ before behind, cs = before ++ word ++ behind ∧ (∀ c ∈ before, isBlank c = true) ∧
        ∀ c ∈ behind, isBlank c = true := by
  constructor
  · intro h
    have hword := blank_free_words cs word (h ▸ List.mem_singleton_self word)
    refine ⟨hword.1, hword.2, ?_⟩
    induction cs with
    | nil => contradiction
    | cons c cs ih =>
        cases hc : isBlank c with
        | true =>
            rw [words_blank_cons hc] at h
            obtain ⟨before, behind, rfl, hbefore, hbehind⟩ := ih h
            exact ⟨c :: before, behind, rfl, List.forall_mem_cons.mpr ⟨hc, hbefore⟩, hbehind⟩
        | false =>
            simp only [words, allPiecesBy, piecesBy_other hc, List.filter_cons, List.isEmpty_cons,
              Bool.not_false, if_true, List.cons.injEq] at h
            obtain ⟨blanks, hcs, hblanks⟩ := exists_blanks_of_piecesBy h.2
            exact ⟨[], blanks, by rw [← h.1, List.nil_append, List.cons_append, ← hcs], by simp,
              hblanks⟩
  · rintro ⟨hne, hfree, before, behind, rfl, hbefore, hbehind⟩
    have hnone := words_eq_nil_iff.mpr hbehind
    rw [words, allPiecesBy, List.filter_eq_nil_iff] at hnone
    obtain ⟨hfirst, hothers⟩ := List.forall_mem_cons.mp hnone
    have hempty : (piecesBy isBlank behind).1 = [] := by simpa using hfirst
    rw [List.append_assoc, words_blanks_append hbefore, words, allPiecesBy,
      piecesBy_append_of_free hfree, hempty, List.append_nil,
      List.filter_cons_of_pos (by simpa using hne), List.filter_eq_nil_iff.mpr hothers]

end BearerAuth.Text
