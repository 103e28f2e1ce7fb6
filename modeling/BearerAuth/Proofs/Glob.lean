import BearerAuth.Proofs.SkipPath
import Mathlib.Data.List.Infix

/-! How the paths that a pattern exempts compare with the paths that it describes as a glob, in which
every asterisk stands for any text. A final asterisk is the only one that counts, so such a pattern
exempts no path that it does not describe. Any other pattern finds its pieces wherever a glob does,
but lets the end of the path overlap them, so it exempts every path that it describes. -/

namespace BearerAuth.SkipPath

/-! ## Globs -/

/-- A pattern describes a path if the path is the pattern with a text in the place of each
asterisk. -/
inductive Glob : List Char → List Char → Prop where
  | nil : Glob [] []
  | asterisk (gap) {pattern path} (h : Glob pattern path) : Glob ('*' :: pattern) (gap ++ path)
  | literal {c pattern path} (hc : c ≠ '*') (h : Glob pattern path) : Glob (c :: pattern) (c :: path)

namespace Glob

theorem nil_iff {path : List Char} : Glob [] path ↔ path = [] := by
  constructor
  · intro h
    cases h
    rfl
  · rintro rfl
    exact .nil

theorem asterisk_iff {pattern path : List Char} :
    Glob ('*' :: pattern) path ↔ ∃ gap rest, path = gap ++ rest ∧ Glob pattern rest := by
  constructor
  · intro h
    cases h with
    | asterisk gap h => exact ⟨gap, _, rfl, h⟩
    | literal hc => exact absurd rfl hc
  · rintro ⟨gap, rest, rfl, h⟩
    exact .asterisk gap h

theorem literal_iff {c : Char} (hc : c ≠ '*') {pattern path : List Char} :
    Glob (c :: pattern) path ↔ ∃ rest, path = c :: rest ∧ Glob pattern rest := by
  constructor
  · intro h
    cases h with
    | asterisk => exact absurd rfl hc
    | literal _ h => exact ⟨_, rfl, h⟩
  · rintro ⟨rest, rfl, h⟩
    exact .literal hc h

/-- What two patterns one behind the other describe is made of what each of them describes. -/
theorem append_iff {first second path : List Char} :
    Glob (first ++ second) path ↔
      ∃ start rest, path = start ++ rest ∧ Glob first start ∧ Glob second rest := by
  induction first generalizing path with
  | nil => simp [nil_iff]
  | cons c first ih =>
      rw [List.cons_append]
      by_cases hc : c = '*'
      · subst hc
        simp only [asterisk_iff, ih]
        constructor
        · rintro ⟨gap, _, rfl, start, rest, rfl, hstart, hrest⟩
          exact ⟨gap ++ start, rest, by simp, ⟨gap, start, rfl, hstart⟩, hrest⟩
        · rintro ⟨_, rest, rfl, ⟨gap, start, rfl, hstart⟩, hrest⟩
          exact ⟨gap, start ++ rest, by simp, start, rest, rfl, hstart, hrest⟩
      · simp only [literal_iff hc, ih]
        constructor
        · rintro ⟨_, rfl, start, rest, rfl, hstart, hrest⟩
          exact ⟨c :: start, rest, rfl, ⟨start, rfl, hstart⟩, hrest⟩
        · rintro ⟨_, rest, rfl, ⟨start, rfl, hstart⟩, hrest⟩
          exact ⟨start ++ rest, rfl, start, rest, rfl, hstart, hrest⟩

theorem iff_eq_of_free {pattern : List Char} (h : '*' ∉ pattern) {path : List Char} :
    Glob pattern path ↔ path = pattern := by
  induction pattern generalizing path with
  | nil => exact nil_iff
  | cons c pattern ih =>
      rw [List.mem_cons, not_or] at h
      rw [literal_iff (Ne.symm h.1)]
      simp [ih h.2]

theorem refl (pattern : List Char) : Glob pattern pattern := by
  induction pattern with
  | nil => exact .nil
  | cons c pattern ih =>
      by_cases hc : c = '*'
      · subst hc
        exact .asterisk ['*'] ih
      · exact .literal hc ih

/-- What stands for a final asterisk is the rest of the path. -/
theorem append_asterisk_iff {start path : List Char} :
    Glob (start ++ ['*']) path ↔ ∃ text, text <+: path ∧ Glob start text := by
  simp only [append_iff, asterisk_iff, nil_iff]
  constructor
  · rintro ⟨text, rest, hpath, htext, -⟩
    exact ⟨text, ⟨rest, hpath.symm⟩, htext⟩
  · rintro ⟨text, ⟨rest, hpath⟩, htext⟩
    exact ⟨text, rest, hpath.symm, htext, rest, [], by simp, rfl⟩

theorem inside_iff {first last : List Char} (hfirst : '*' ∉ first) (hlast : '*' ∉ last)
    {path : List Char} :
    Glob (first ++ '*' :: last) path ↔ ∃ gap, path = first ++ gap ++ last := by
  simp only [append_iff, asterisk_iff, iff_eq_of_free hfirst, iff_eq_of_free hlast]
  constructor
  · rintro ⟨_, _, rfl, rfl, gap, _, rfl, rfl⟩
    exact ⟨gap, (List.append_assoc _ _ _).symm⟩
  · rintro ⟨gap, rfl⟩
    exact ⟨first, gap ++ last, List.append_assoc _ _ _, rfl, gap, last, rfl, rfl⟩

/-- Whether a pattern describes a path: an asterisk is tried with every end of the path. -/
def test : List Char → List Char → Bool
  | [], path => path.isEmpty
  | c :: pattern, path =>
      if c = '*' then path.tails.any (test pattern)
      else path.head? == some c && test pattern path.tail

theorem test_iff {pattern path : List Char} : test pattern path = true ↔ Glob pattern path := by
  induction pattern generalizing path with
  | nil => simp [test, nil_iff]
  | cons c pattern ih =>
      rw [test]
      by_cases hc : c = '*'
      · subst hc
        simp only [if_true, List.any_eq_true, List.mem_tails, ih, asterisk_iff]
        constructor
        · rintro ⟨rest, ⟨gap, hgap⟩, h⟩
          exact ⟨gap, rest, hgap.symm, h⟩
        · rintro ⟨gap, rest, rfl, h⟩
          exact ⟨rest, List.suffix_append gap rest, h⟩
      · rw [if_neg hc, literal_iff hc]
        cases path with
        | nil => simp
        | cons d path => simp [ih, and_comm]

instance (pattern path : List Char) : Decidable (Glob pattern path) :=
  decidable_of_iff (test pattern path = true) test_iff

end Glob

/-! ## Pieces of a glob -/

/-- In a path that a pattern describes the pieces of the pattern stand one behind the other. -/
theorem exists_placed_of_glob {middle : List (List Char)} (hmiddle : ∀ piece ∈ middle, '*' ∉ piece)
    {text : List Char} (h : Glob (middle.flatMap ('*' :: ·)) text) (behind : List Char) :
    ∃ rest, Placed (middle.filter (!·.isEmpty)) (text ++ behind) rest := by
  induction middle generalizing text with
  | nil => exact ⟨_, .nil _⟩
  | cons piece middle ih =>
      obtain ⟨hpiece, hothers⟩ := List.forall_mem_cons.mp hmiddle
      rw [List.flatMap_cons, List.cons_append, Glob.asterisk_iff] at h
      obtain ⟨gap, _, rfl, hpieces⟩ := h
      obtain ⟨start, text, rfl, hstart, htext⟩ := Glob.append_iff.mp hpieces
      have heq : start = piece := (Glob.iff_eq_of_free hpiece).mp hstart
      obtain ⟨rest, hrest⟩ := ih hothers htext
      rw [heq]
      by_cases hempty : piece = []
      · subst hempty
        simpa using hrest.exists_append gap
      · refine ⟨rest, ?_⟩
        simpa [hempty] using Placed.cons gap piece hrest

theorem IsCut.fits_of_glob {pattern first last : List Char} {middle : List (List Char)}
    (h : IsCut pattern first middle last) (hlast : last ≠ []) {path : List Char}
    (hglob : Glob pattern path) : fits path pattern = true := by
  rw [h.pattern_eq, List.append_assoc, Glob.append_iff] at hglob
  obtain ⟨start, _, rfl, hstart, hglob⟩ := hglob
  obtain ⟨text, _, rfl, htext, hglob⟩ := Glob.append_iff.mp hglob
  obtain ⟨gap, finish, rfl, hfinish⟩ := Glob.asterisk_iff.mp hglob
  obtain rfl := (Glob.iff_eq_of_free h.first_free).mp hstart
  obtain rfl := (Glob.iff_eq_of_free h.last_free).mp hfinish
  obtain ⟨rest, hrest⟩ := exists_placed_of_glob h.middle_free htext (gap ++ finish)
  apply (h.fits_iff hlast _).mpr
  exact ⟨⟨start ++ text ++ gap, by simp⟩, _, rest, rfl, hrest⟩

/-- A pattern with one asterisk inside exempts the paths that have its start and its end. -/
theorem fits_inside_iff {first last : List Char} (hfirst : '*' ∉ first) (hlast : '*' ∉ last)
    (hne : last ≠ []) (path : List Char) :
    fits path (first ++ '*' :: last) = true ↔ first <+: path ∧ last <:+ path := by
  have hcut : IsCut (first ++ '*' :: last) first [] last :=
    ⟨by simp, hfirst, by simp, hlast⟩
  rw [hcut.fits_iff hne, and_comm]
  refine and_congr_left fun _ => ?_
  constructor
  · rintro ⟨text, rest, hpath, -⟩
    exact ⟨text, hpath.symm⟩
  · rintro ⟨text, hpath⟩
    exact ⟨text, text, hpath.symm, .nil text⟩

/-- A path that starts with one text and ends with another has them apart from each other, or is
too short for that. -/
theorem exists_gap_or_length_lt {first last path : List Char} (hfirst : first <+: path)
    (hlast : last <:+ path) :
    (∃ gap, path = first ++ gap ++ last) ∨ path.length < first.length + last.length := by
  obtain ⟨text, rfl⟩ := hfirst
  by_cases hlength : last.length ≤ text.length
  · have hsuffix : last <:+ text :=
      List.suffix_of_suffix_length_le hlast (List.suffix_append first text) hlength
    obtain ⟨gap, rfl⟩ := hsuffix
    exact .inl ⟨gap, (List.append_assoc _ _ _).symm⟩
  · right
    rw [List.length_append]
    omega

/-! ## Both compared -/

/-- How the paths that a pattern exempts compare with those that it describes. Where the only
asterisk stands inside the pattern, what is exempted besides are the paths whose start and end
overlap. -/
structure ComparesWithGlob (pattern : String) : Prop where
  closedEnd : (∀ start, pattern ≠ start ++ "*") →
    ∀ path : String, Glob pattern.toList path.toList → covers pattern path = true
  openEnd : ∀ start, pattern = start ++ "*" →
    ∀ path, covers pattern path = true → Glob pattern.toList path.toList
  onlyAtEnd : ∀ start, pattern = start ++ "*" → '*' ∉ start.toList →
    ∀ path, covers pattern path = true ↔ Glob pattern.toList path.toList
  onlyInside : ∀ first last, pattern = first ++ "*" ++ last → last ≠ "" →
    '*' ∉ first.toList → '*' ∉ last.toList →
    ∀ path, covers pattern path = true ↔
      Glob pattern.toList path.toList ∨
        first.toList <+: path.toList ∧ last.toList <:+ path.toList ∧
          path.length < first.length + last.length

theorem toList_append_asterisk (start : String) : (start ++ "*").toList = start.toList ++ ['*'] := by
  rw [String.toList_append]
  rfl

/-- Every pattern exempts no more or no less than it describes, depending on how it ends. -/
theorem comparesWithGlob (pattern : String) : ComparesWithGlob pattern where
  closedEnd hend path hglob := by
    rw [covers]
    by_cases hasterisk : '*' ∈ pattern.toList
    · obtain ⟨first, middle, last, hcut⟩ := exists_isCut hasterisk
      apply hcut.fits_of_glob _ hglob
      rintro rfl
      -- With nothing behind its last asterisk the pattern would end with it.
      apply hend (String.ofList (first ++ middle.flatMap ('*' :: ·)))
      rw [← String.toList_inj, toList_append_asterisk, String.toList_ofList]
      exact hcut.pattern_eq
    · rw [fits_iff_of_free hasterisk]
      exact (Glob.iff_eq_of_free hasterisk).mp hglob
  openEnd start hpattern path hcovers := by
    rw [covers, hpattern, toList_append_asterisk, fits_append_asterisk_iff] at hcovers
    rw [hpattern, toList_append_asterisk, Glob.append_asterisk_iff]
    exact ⟨start.toList, hcovers, .refl _⟩
  onlyAtEnd start hpattern hstart path := by
    rw [covers, hpattern, toList_append_asterisk, fits_append_asterisk_iff,
      Glob.append_asterisk_iff]
    simp only [Glob.iff_eq_of_free hstart, exists_eq_right]
  onlyInside first last hpattern hlast hfirstFree hlastFree path := by
    have htoList : pattern.toList = first.toList ++ '*' :: last.toList := by
      rw [hpattern, String.toList_append, toList_append_asterisk, List.append_assoc]
      rfl
    have hlastList : last.toList ≠ [] := by simpa using hlast
    rw [covers, htoList, fits_inside_iff hfirstFree hlastFree hlastList,
      Glob.inside_iff hfirstFree hlastFree]
    constructor
    · rintro ⟨hfirst, hend⟩
      rcases exists_gap_or_length_lt hfirst hend with hgap | hlength
      · exact .inl hgap
      · exact .inr ⟨hfirst, hend, by simpa only [String.length_toList] using hlength⟩
    · rintro (⟨gap, hpath⟩ | ⟨hfirst, hend, -⟩)
      · rw [hpath]
        exact ⟨⟨gap ++ last.toList, by simp⟩, List.suffix_append _ _⟩
      · exact ⟨hfirst, hend⟩

-- Neither way round do both agree: more is exempted with a closed end, less with an open one.
example : covers "/a*b*b" "/ab" = true ∧ ¬Glob "/a*b*b".toList "/ab".toList := by decide

example : covers "/a*b*" "/axb" = false ∧ Glob "/a*b*".toList "/axb".toList := by decide

end BearerAuth.SkipPath
