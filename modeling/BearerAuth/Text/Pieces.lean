/-! Cutting a text at separators. A text with n separators has n + 1 pieces, so the
first piece is kept apart from the others and no case is left over. -/

namespace BearerAuth.Text

/-- The piece before the first separator, and the pieces after each separator in order. -/
def piecesBy (isSeparator : Char → Bool) : List Char → List Char × List (List Char)
  | [] => ([], [])
  | c :: cs =>
      if isSeparator c then ([], (piecesBy isSeparator cs).1 :: (piecesBy isSeparator cs).2)
      else (c :: (piecesBy isSeparator cs).1, (piecesBy isSeparator cs).2)

/-- All the pieces of a text in one list. -/
def allPiecesBy (isSeparator : Char → Bool) (cs : List Char) : List (List Char) :=
  (piecesBy isSeparator cs).1 :: (piecesBy isSeparator cs).2

@[simp] theorem piecesBy_nil (isSeparator : Char → Bool) : piecesBy isSeparator [] = ([], []) := rfl

theorem piecesBy_separator {isSeparator : Char → Bool} {c : Char} (h : isSeparator c = true)
    (cs : List Char) :
    piecesBy isSeparator (c :: cs) =
      ([], (piecesBy isSeparator cs).1 :: (piecesBy isSeparator cs).2) := by
  simp [piecesBy, h]

theorem piecesBy_other {isSeparator : Char → Bool} {c : Char} (h : isSeparator c = false)
    (cs : List Char) :
    piecesBy isSeparator (c :: cs) =
      (c :: (piecesBy isSeparator cs).1, (piecesBy isSeparator cs).2) := by
  simp [piecesBy, h]

/-- A text without separators belongs to the first piece. -/
theorem piecesBy_append_of_free {isSeparator : Char → Bool} {cs : List Char}
    (h : ∀ c ∈ cs, isSeparator c = false) (rest : List Char) :
    piecesBy isSeparator (cs ++ rest) =
      (cs ++ (piecesBy isSeparator rest).1, (piecesBy isSeparator rest).2) := by
  induction cs with
  | nil => rfl
  | cons c cs ih =>
      rw [List.cons_append, piecesBy_other (h c List.mem_cons_self),
        ih fun d hd => h d (List.mem_cons_of_mem c hd)]
      rfl

/-- A text without separators is one piece. -/
theorem piecesBy_of_free {isSeparator : Char → Bool} {cs : List Char}
    (h : ∀ c ∈ cs, isSeparator c = false) : piecesBy isSeparator cs = (cs, []) := by
  simpa using piecesBy_append_of_free h []

/-- One more piece than separators. -/
theorem length_allPiecesBy (isSeparator : Char → Bool) (cs : List Char) :
    (allPiecesBy isSeparator cs).length = cs.countP isSeparator + 1 := by
  induction cs with
  | nil => rfl
  | cons c cs ih =>
      cases h : isSeparator c <;> simp_all [allPiecesBy, piecesBy]

/-- No piece holds a separator. -/
theorem separator_free_allPiecesBy (isSeparator : Char → Bool) (cs : List Char) :
    ∀ piece ∈ allPiecesBy isSeparator cs, ∀ c ∈ piece, isSeparator c = false := by
  induction cs with
  | nil => simp [allPiecesBy]
  | cons c cs ih =>
      simp only [allPiecesBy, List.mem_cons, forall_eq_or_imp] at ih ⊢
      cases h : isSeparator c <;> simpa [piecesBy, h] using ih

/-- The pieces of two texts with a separator between them are the pieces of both. -/
theorem allPiecesBy_append_separator {isSeparator : Char → Bool} {c : Char}
    (h : isSeparator c = true) (first second : List Char) :
    allPiecesBy isSeparator (first ++ c :: second) =
      allPiecesBy isSeparator first ++ allPiecesBy isSeparator second := by
  induction first with
  | nil => simp [allPiecesBy, piecesBy_separator h]
  | cons d first ih =>
      cases hd : isSeparator d with
      | true => simpa [allPiecesBy, piecesBy_separator hd] using ih
      | false => simpa [allPiecesBy, piecesBy_other hd] using ih

/-! ## One separator -/

variable {isSeparator : Char → Bool} {separator : Char}

/-- The pieces with the separator between them are the text again. -/
theorem join_piecesBy (hseparator : ∀ c, isSeparator c = true ↔ c = separator) (cs : List Char) :
    (piecesBy isSeparator cs).1 ++ (piecesBy isSeparator cs).2.flatMap (separator :: ·) = cs := by
  induction cs with
  | nil => rfl
  | cons c cs ih =>
      cases h : isSeparator c with
      | true =>
          rw [piecesBy_separator h, List.flatMap_cons, List.cons_append, ih,
            (hseparator c).mp h]
          rfl
      | false => rw [piecesBy_other h, List.cons_append, ih]

/-- Texts without the separator are the pieces of the text that joins them. -/
theorem piecesBy_join (hseparator : ∀ c, isSeparator c = true ↔ c = separator)
    {first : List Char} {others : List (List Char)} (hfirst : separator ∉ first)
    (hothers : ∀ piece ∈ others, separator ∉ piece) :
    piecesBy isSeparator (first ++ others.flatMap (separator :: ·)) = (first, others) := by
  have hfree {piece : List Char} (h : separator ∉ piece) : ∀ c ∈ piece, isSeparator c = false := by
    intro c hc
    rw [Bool.eq_false_iff]
    exact fun heq => h ((hseparator c).mp heq ▸ hc)
  induction others generalizing first with
  | nil => simpa using piecesBy_of_free (hfree hfirst)
  | cons piece others ih =>
      obtain ⟨hpiece, hothers⟩ := List.forall_mem_cons.mp hothers
      rw [List.flatMap_cons, piecesBy_append_of_free (hfree hfirst), List.cons_append,
        piecesBy_separator ((hseparator separator).mpr rfl), ih hpiece hothers, List.append_nil]

/-- With a separator in front of it, a text is made of its pieces with a separator in front of
each. -/
theorem flatMap_allPiecesBy (hseparator : ∀ c, isSeparator c = true ↔ c = separator)
    (cs : List Char) :
    (allPiecesBy isSeparator cs).flatMap (separator :: ·) = separator :: cs := by
  rw [allPiecesBy, List.flatMap_cons, List.cons_append, join_piecesBy hseparator]

/-- The pieces of a text are what stands between two neighbouring separators, if there is one more
at both ends. -/
theorem mem_allPiecesBy_iff (hseparator : ∀ c, isSeparator c = true ↔ c = separator)
    {cs piece : List Char} :
    piece ∈ allPiecesBy isSeparator cs ↔ separator ∉ piece ∧ ∃ before behind,
      separator :: (cs ++ [separator]) =
        before ++ separator :: (piece ++ separator :: behind) := by
  have hself := (hseparator separator).mpr rfl
  constructor
  · intro h
    refine ⟨fun hmem => ?_, ?_⟩
    · have hfree := separator_free_allPiecesBy isSeparator cs piece h separator hmem
      rw [hself] at hfree
      contradiction
    · obtain ⟨front, rest, hpieces⟩ := List.append_of_mem h
      have hcs := flatMap_allPiecesBy hseparator cs
      rw [hpieces, List.flatMap_append, List.flatMap_cons] at hcs
      rw [← List.cons_append, ← hcs]
      cases rest with
      | nil => exact ⟨front.flatMap (separator :: ·), [], by simp⟩
      | cons next rest =>
          exact ⟨front.flatMap (separator :: ·),
            next ++ rest.flatMap (separator :: ·) ++ [separator], by simp⟩
  · rintro ⟨hfree, before, behind, hcs⟩
    have hpiece : allPiecesBy isSeparator piece = [piece] := by
      rw [allPiecesBy, piecesBy_of_free]
      intro c hc
      rw [Bool.eq_false_iff]
      exact fun heq => hfree ((hseparator c).mp heq ▸ hc)
    have hpieces := congrArg (allPiecesBy isSeparator) hcs
    rw [← List.nil_append (separator :: (cs ++ _))] at hpieces
    simp only [allPiecesBy_append_separator hself, hpiece] at hpieces
    -- Each of the separators at the ends comes with one empty piece.
    have hinner : allPiecesBy isSeparator cs ++ [[]] =
        (piecesBy isSeparator before).2 ++ piece :: allPiecesBy isSeparator behind :=
      (List.cons.inj hpieces).2
    have hbehind : allPiecesBy isSeparator behind ≠ [] := List.cons_ne_nil _ _
    have hpieces : allPiecesBy isSeparator cs =
        (allPiecesBy isSeparator cs ++ [[]]).dropLast := List.dropLast_concat.symm
    rw [hpieces, hinner, List.dropLast_append_of_ne_nil (List.cons_ne_nil _ _),
      List.dropLast_cons_of_ne_nil hbehind]
    simp

end BearerAuth.Text
