import BearerAuth.SkipPath
import Mathlib.Data.List.Basic

/-! Which paths a pattern exempts. The scan takes the first occurrence of each piece, and what this
leaves of the path ends with what any other occurrence leaves. So the scan finds the pieces wherever
they stand one behind the other, and a pattern with asterisks inside exempts exactly the paths that
have its start, its end and its pieces in this order. -/

namespace BearerAuth.SkipPath

open BearerAuth.Text

/-! ## Pieces one behind the other -/

/-- The pieces stand in a text one behind the other, the last of them just before the rest. -/
inductive Placed : List (List Char) → List Char → List Char → Prop where
  | nil (rest) : Placed [] rest rest
  | cons (gap piece) {pieces after rest} (h : Placed pieces after rest) :
      Placed (piece :: pieces) (gap ++ piece ++ after) rest

theorem placed_iff_exists_gaps {pieces : List (List Char)} {text rest : List Char} :
    Placed pieces text rest ↔ ∃ gaps : List (List Char), gaps.length = pieces.length ∧
      text = (List.zipWith (· ++ ·) gaps pieces).flatten ++ rest := by
  constructor
  · intro h
    induction h with
    | nil rest => exact ⟨[], rfl, rfl⟩
    | cons gap piece _ ih =>
        obtain ⟨gaps, hlength, rfl⟩ := ih
        exact ⟨gap :: gaps, by simp [hlength], by simp⟩
  · rintro ⟨gaps, hlength, rfl⟩
    induction pieces generalizing gaps with
    | nil => simpa using Placed.nil rest
    | cons piece pieces ih =>
        obtain ⟨gap, gaps, rfl⟩ := List.exists_cons_of_length_eq_add_one hlength
        simpa using Placed.cons gap piece (ih gaps (by simpa using hlength))

/-- A text in front of the first piece widens the gap before it. -/
theorem Placed.exists_append {pieces : List (List Char)} {text rest : List Char}
    (h : Placed pieces text rest) (before : List Char) :
    ∃ rest, Placed pieces (before ++ text) rest := by
  cases h with
  | nil => exact ⟨_, .nil _⟩
  | cons gap piece h => exact ⟨rest, by simpa using Placed.cons (before ++ gap) piece h⟩

/-! ## The first occurrence -/

theorem exists_gap_of_behindFirst? {piece text : List Char} {cut : List Char × List Char}
    (h : behindFirst? piece text = some cut) : ∃ gap, cut.1 = gap ++ piece := by
  induction text generalizing cut with
  | nil =>
      simp only [behindFirst?] at h
      split at h
      · rename_i hempty
        cases h
        exact ⟨[], by simpa using hempty⟩
      · contradiction
  | cons c cs ih =>
      simp only [behindFirst?] at h
      split at h
      · cases h
        exact ⟨[], rfl⟩
      · obtain ⟨inner, hinner, rfl⟩ := Option.map_eq_some_iff.mp h
        obtain ⟨gap, hgap⟩ := ih hinner
        exact ⟨c :: gap, by simp [hgap]⟩

theorem suffix_drop_of_append {before rest text piece : List Char}
    (h : before ++ rest = text) (hlength : piece.length ≤ before.length) :
    rest <:+ text.drop piece.length := by
  subst h
  rw [List.drop_append_of_le_length hlength]
  exact List.suffix_append _ _

/-- Where a piece occurs there is a first occurrence, behind which no less of the text follows. -/
theorem behindFirst?_of_occurrence (gap piece rest : List Char) :
    ∃ cut, behindFirst? piece (gap ++ piece ++ rest) = some cut ∧ rest <:+ cut.2 := by
  induction gap with
  | nil =>
      cases htext : piece ++ rest with
      | nil =>
          obtain ⟨rfl, rfl⟩ := List.append_eq_nil_iff.mp htext
          exact ⟨([], []), rfl, List.suffix_rfl⟩
      | cons c cs =>
          have hstart : piece.isPrefixOf (c :: cs) = true :=
            List.isPrefixOf_iff_prefix.mpr ⟨rest, htext⟩
          refine ⟨(piece, (c :: cs).drop piece.length), ?_, suffix_drop_of_append htext (Nat.le_refl _)⟩
          rw [List.nil_append, htext, behindFirst?, if_pos hstart]
  | cons c gap ih =>
      obtain ⟨cut, hcut, hrest⟩ := ih
      rw [List.cons_append, List.cons_append, behindFirst?]
      by_cases hstart : piece.isPrefixOf (c :: (gap ++ piece ++ rest)) = true
      · -- The piece stands at the start already, so even more of the text follows it.
        have htext : c :: (gap ++ piece) ++ rest = c :: (gap ++ piece ++ rest) := rfl
        refine ⟨_, if_pos hstart, suffix_drop_of_append htext ?_⟩
        simp only [List.length_cons, List.length_append]
        omega
      · rw [if_neg hstart, hcut]
        exact ⟨_, rfl, hrest⟩

/-! ## The scan -/

namespace Cursor

theorem advanceAll?_cons (cursor : Cursor) (piece : List Char) (pieces : List (List Char)) :
    cursor.advanceAll? (piece :: pieces) =
      (cursor.advance? piece).bind fun next => next.advanceAll? pieces := rfl

/-- Behind the pieces that a scan has found, the text goes on where the cursor stands. -/
theorem placed_of_advanceAll? {pieces : List (List Char)} {cursor next : Cursor}
    (h : cursor.advanceAll? pieces = some next) : Placed pieces cursor.after next.after := by
  induction pieces generalizing cursor with
  | nil =>
      cases h
      exact .nil _
  | cons piece pieces ih =>
      rw [advanceAll?_cons, Option.bind_eq_some_iff] at h
      obtain ⟨found, hfound, h⟩ := h
      obtain ⟨cut, hcut, rfl⟩ := Option.map_eq_some_iff.mp hfound
      obtain ⟨gap, hgap⟩ := exists_gap_of_behindFirst? hcut
      rw [← behindFirst?_append hcut, hgap]
      exact .cons gap piece (ih h)

/-- The scan finds pieces that are placed anywhere in what lies ahead of the cursor, and leaves no
less of it than they do. -/
theorem advanceAll?_of_placed {pieces : List (List Char)} {text rest : List Char}
    (h : Placed pieces text rest) {cursor : Cursor} (hahead : text <:+ cursor.after) :
    ∃ next, cursor.advanceAll? pieces = some next ∧ rest <:+ next.after := by
  induction h generalizing cursor with
  | nil rest => exact ⟨cursor, rfl, hahead⟩
  | @cons gap piece _ after _ _ ih =>
      obtain ⟨before, hbefore⟩ := hahead
      obtain ⟨cut, hcut, hafter⟩ := behindFirst?_of_occurrence (before ++ gap) piece after
      have htext : before ++ gap ++ piece ++ after = cursor.after := by
        simpa using hbefore
      rw [htext] at hcut
      let found : Cursor := ⟨cursor.before ++ cut.1, cut.2⟩
      obtain ⟨next, hnext, hrest⟩ := ih (show after <:+ found.after from hafter)
      refine ⟨next, ?_, hrest⟩
      rw [advanceAll?_cons, advance?, hcut]
      exact hnext

/-- The scan loses nothing by its choice of first occurrences. -/
theorem isSome_advanceAll?_iff {pieces : List (List Char)} {cursor : Cursor} :
    (cursor.advanceAll? pieces).isSome ↔ ∃ rest, Placed pieces cursor.after rest := by
  constructor
  · intro h
    obtain ⟨next, hnext⟩ := Option.isSome_iff_exists.mp h
    exact ⟨_, placed_of_advanceAll? hnext⟩
  · rintro ⟨rest, h⟩
    obtain ⟨next, hnext, -⟩ := advanceAll?_of_placed h List.suffix_rfl
    exact Option.isSome_iff_exists.mpr ⟨next, hnext⟩

end Cursor

/-! ## Cutting a pattern -/

theorem isAsterisk_iff (c : Char) : isAsterisk c = true ↔ c = '*' := beq_iff_eq

/-- A pattern is a first text, texts in the middle and a last text with asterisks between them. -/
structure IsCut (pattern first : List Char) (middle : List (List Char)) (last : List Char) :
    Prop where
  pattern_eq : pattern = first ++ middle.flatMap ('*' :: ·) ++ '*' :: last
  first_free : '*' ∉ first
  middle_free : ∀ piece ∈ middle, '*' ∉ piece
  last_free : '*' ∉ last

theorem exists_isCut {pattern : List Char} (h : '*' ∈ pattern) :
    ∃ first middle last, IsCut pattern first middle last := by
  have hjoin := join_piecesBy isAsterisk_iff pattern
  have hfree : ∀ piece ∈ allPiecesBy isAsterisk pattern, '*' ∉ piece := fun piece hpiece hmem =>
    absurd (separator_free_allPiecesBy isAsterisk pattern piece hpiece '*' hmem) (by decide)
  obtain ⟨hfirst, hothers⟩ := List.forall_mem_cons.mp hfree
  rcases List.eq_nil_or_concat (piecesBy isAsterisk pattern).2 with hnil | ⟨middle, last, hlast⟩
  · rw [hnil, List.flatMap_nil, List.append_nil] at hjoin
    rw [hjoin] at hfirst
    exact absurd h hfirst
  · rw [List.concat_eq_append] at hlast
    rw [hlast] at hjoin hothers
    rw [List.forall_mem_append, List.forall_mem_singleton] at hothers
    exact ⟨_, middle, last, by simpa using hjoin.symm, hfirst, hothers.1, hothers.2⟩

theorem IsCut.piecesBy_eq {pattern first last : List Char} {middle : List (List Char)}
    (h : IsCut pattern first middle last) :
    piecesBy isAsterisk pattern = (first, middle ++ [last]) := by
  have hothers : ∀ piece ∈ middle ++ [last], '*' ∉ piece := by
    rw [List.forall_mem_append, List.forall_mem_singleton]
    exact ⟨h.middle_free, h.last_free⟩
  rw [← piecesBy_join isAsterisk_iff h.first_free hothers, h.pattern_eq]
  simp

/-- A pattern is one of the paths that its own pieces describe. -/
theorem placed_pattern (middle : List (List Char)) (last : List Char) :
    ∃ rest, Placed (middle.filter (!·.isEmpty)) (middle.flatMap ('*' :: ·) ++ '*' :: last) rest := by
  induction middle with
  | nil => exact ⟨_, .nil _⟩
  | cons piece middle ih =>
      obtain ⟨rest, hrest⟩ := ih
      by_cases hempty : piece = []
      · subst hempty
        simpa using hrest.exists_append ['*']
      · refine ⟨rest, ?_⟩
        simpa [hempty] using Placed.cons ['*'] piece hrest

/-! ## Rules -/

theorem fits_self (pattern : List Char) : fits pattern pattern = true := by simp [fits]

/-- A pattern without asterisks exempts the path that it is. -/
theorem fits_iff_of_free {pattern : List Char} (h : '*' ∉ pattern) (path : List Char) :
    fits path pattern = true ↔ path = pattern := by
  have hany : pattern.any isAsterisk = false := by
    rw [List.any_eq_false]
    exact fun c hc hasterisk => h ((isAsterisk_iff c).mp hasterisk ▸ hc)
  have hlast : pattern.getLast?.any isAsterisk = false := by
    rw [Option.any_eq_false]
    intro c hc
    exact Bool.eq_false_iff.mpr (List.any_eq_false.mp hany c (List.mem_of_getLast? hc))
  simp [fits, hany, hlast]

/-- A pattern that ends with an asterisk exempts the paths that start with the rest of it. -/
theorem fits_append_asterisk_iff (start path : List Char) :
    fits path (start ++ ['*']) = true ↔ start <+: path := by
  have hlast : (start ++ ['*']).getLast?.any isAsterisk = true := by simp [isAsterisk]
  by_cases heq : path = start ++ ['*']
  · subst heq
    exact iff_of_true (fits_self _) (List.prefix_append _ _)
  · rw [fits, if_neg heq, if_pos hlast, List.dropLast_concat, List.isPrefixOf_iff_prefix]

/-- A path fits the pieces of a pattern if it starts with the first one, ends with the last one and
has the others, as far as they are not empty, placed behind the first one. -/
theorem fitsPieces_iff {path first last : List Char} {middle : List (List Char)} :
    fitsPieces path first (middle ++ [last]) = true ↔
      last <:+ path ∧ ∃ text rest, path = first ++ text ∧
        Placed (middle.filter (!·.isEmpty)) text rest := by
  unfold fitsPieces
  rw [List.getLastD_concat, List.dropLast_concat]
  split
  · rename_i hstart
    refine iff_of_false Bool.false_ne_true ?_
    rintro ⟨-, text, rest, rfl, -⟩
    simp [Cursor.behindStart?] at hstart
  · rename_i cursor hstart
    have hpath := Cursor.path_behindStart? hstart
    have hbefore : cursor.before = first := by
      unfold Cursor.behindStart? at hstart
      split at hstart
      · cases hstart
        rfl
      · contradiction
    rw [Bool.and_eq_true, List.isSuffixOf_iff_suffix, Cursor.isSome_advanceAll?_iff]
    refine and_congr_right fun _ => ?_
    rw [← hpath, Cursor.path, hbefore]
    constructor
    · rintro ⟨rest, h⟩
      exact ⟨_, rest, rfl, h⟩
    · rintro ⟨text, rest, htext, h⟩
      exact ⟨rest, List.append_cancel_left htext ▸ h⟩

/-- A pattern that does not end with an asterisk exempts the paths that have its pieces. -/
theorem IsCut.fits_iff {pattern first last : List Char} {middle : List (List Char)}
    (h : IsCut pattern first middle last) (hlast : last ≠ []) (path : List Char) :
    fits path pattern = true ↔
      last <:+ path ∧ ∃ text rest, path = first ++ text ∧
        Placed (middle.filter (!·.isEmpty)) text rest := by
  have hsplit : pattern = first ++ (middle.flatMap ('*' :: ·) ++ '*' :: last) := by
    rw [h.pattern_eq, List.append_assoc]
  have hany : pattern.any isAsterisk = true := by
    rw [hsplit]
    simp [isAsterisk]
  have hend : pattern.getLast?.any isAsterisk = false := by
    rw [h.pattern_eq, List.getLast?_append, List.getLast?_cons, List.getLast?_eq_some_getLast hlast]
    exact beq_false_of_ne fun heq => h.last_free (heq ▸ List.getLast_mem hlast)
  by_cases heq : path = pattern
  · -- A path that is spelled like the pattern has its asterisks in the gaps.
    rw [heq]
    obtain ⟨rest, hrest⟩ := placed_pattern middle last
    have hsuffix : last <:+ pattern :=
      ⟨first ++ middle.flatMap ('*' :: ·) ++ ['*'], by simp [hsplit]⟩
    exact iff_of_true (fits_self _) ⟨hsuffix, _, rest, hsplit, hrest⟩
  · rw [fits, if_neg heq, hend, hany, h.piecesBy_eq]
    exact fitsPieces_iff

/-- Which paths a pattern exempts, by where its asterisks stand. The texts in the gaps are free; the
end of the path may overlap the pieces and the first text. -/
structure GoesByRules (pattern : String) : Prop where
  literal : '*' ∉ pattern.toList → ∀ path, covers pattern path = true ↔ path = pattern
  openEnd : ∀ start, pattern = start ++ "*" →
    ∀ path, covers pattern path = true ↔ start.toList <+: path.toList
  hasCut : '*' ∈ pattern.toList → ∃ first middle last, IsCut pattern.toList first middle last
  pieces : ∀ {first middle last}, IsCut pattern.toList first middle last → last ≠ [] →
    ∀ path, covers pattern path = true ↔
      last <:+ path.toList ∧ ∃ (gaps : List (List Char)) (rest : List Char),
        gaps.length = (middle.filter (!·.isEmpty)).length ∧
          path.toList =
            first ++ (List.zipWith (· ++ ·) gaps (middle.filter (!·.isEmpty))).flatten ++ rest

/-- Every pattern exempts the paths that its rule describes, and no others. -/
theorem goesByRules (pattern : String) : GoesByRules pattern where
  literal h path := by
    rw [covers, fits_iff_of_free h, String.toList_inj]
  openEnd start h path := by
    have htoList : pattern.toList = start.toList ++ ['*'] := by
      rw [h, String.toList_append]
      rfl
    rw [covers, htoList, fits_append_asterisk_iff]
  hasCut := exists_isCut
  pieces hcut hlast path := by
    rw [covers, hcut.fits_iff hlast]
    refine and_congr_right fun _ => ?_
    simp only [placed_iff_exists_gaps]
    constructor
    · rintro ⟨text, rest, hpath, gaps, hlength, rfl⟩
      exact ⟨gaps, rest, hlength, by rw [hpath, List.append_assoc]⟩
    · rintro ⟨gaps, rest, hlength, hpath⟩
      exact ⟨_, rest, hpath.trans (List.append_assoc _ _ _), gaps, hlength, rfl⟩

/-- One letter can be the piece in the middle and the end of the path at once. -/
theorem goesByRules_overlap :
    IsCut "/a*b*b".toList ['/', 'a'] [['b']] ['b'] ∧ covers "/a*b*b" "/ab" = true ∧
      covers "/a*b*b" "/abc" = false := by
  have hcut : IsCut "/a*b*b".toList ['/', 'a'] [['b']] ['b'] :=
    ⟨rfl, by decide, by decide, by decide⟩
  have hrule := (goesByRules "/a*b*b").pieces hcut (List.cons_ne_nil _ _)
  refine ⟨hcut, ?_, ?_⟩
  · exact (hrule "/ab").mpr ⟨by decide, [[]], [], rfl, rfl⟩
  · rw [Bool.eq_false_iff]
    exact fun h => absurd ((hrule "/abc").mp h).1 (by decide)

end BearerAuth.SkipPath
