import BearerAuth.Settings.Environment
import Mathlib.Data.List.TakeWhile

/-! What the items of a list with commas are. Cutting at commas and trimming both undo a concatenation,
so an item can be told by where it stands in the list: between two neighbouring commas, with nothing
but blanks beside it. -/

namespace BearerAuth

/-! ## Trimming -/

namespace Text

/-- A text that neither starts nor ends with a blank. -/
structure IsTrimmed (cs : List Char) : Prop where
  head : ∀ c ∈ cs.head?, isBlank c = false
  last : ∀ c ∈ cs.getLast?, isBlank c = false

theorem exists_blanks_append_trimLeft (cs : List Char) :
    ∃ before, cs = before ++ trimLeft cs ∧ ∀ c ∈ before, isBlank c = true :=
  ⟨cs.takeWhile isBlank, List.takeWhile_append_dropWhile.symm,
    fun _ hc => List.mem_takeWhile_imp hc⟩

theorem exists_trimBlanks_append_blanks (cs : List Char) :
    ∃ behind, trimLeft cs = trimBlanks cs ++ behind ∧ ∀ c ∈ behind, isBlank c = true := by
  obtain ⟨behind, hbehind, hblanks⟩ := exists_blanks_append_trimLeft (trimLeft cs).reverse
  refine ⟨behind.reverse, ?_, by simpa using hblanks⟩
  rw [trimBlanks, ← List.reverse_append, ← hbehind, List.reverse_reverse]

theorem trimLeft_blanks_append {before : List Char} (h : ∀ c ∈ before, isBlank c = true)
    (cs : List Char) : trimLeft (before ++ cs) = trimLeft cs :=
  List.dropWhile_append_of_pos h

theorem trimLeft_eq_self {cs : List Char} (h : ∀ c ∈ cs.head?, isBlank c = false) :
    trimLeft cs = cs := by
  cases cs with
  | nil => rfl
  | cons c cs => simp [trimLeft, h c rfl]

theorem isTrimmed_trimBlanks (cs : List Char) : IsTrimmed (trimBlanks cs) := by
  constructor
  case head =>
    intro c hc
    obtain ⟨behind, hleft, -⟩ := exists_trimBlanks_append_blanks cs
    -- The trimmed text starts where the text without its first blanks does.
    have hhead : (trimLeft cs).head? = some c := by
      rw [hleft, List.head?_append, Option.mem_def.mp hc]
      rfl
    exact trimLeft_head cs c hhead
  case last =>
    intro c hc
    rw [trimBlanks, List.getLast?_reverse] at hc
    exact trimLeft_head _ c hc

theorem trimBlanks_eq_of_isTrimmed {before item behind : List Char}
    (hbefore : ∀ c ∈ before, isBlank c = true) (hitem : IsTrimmed item)
    (hbehind : ∀ c ∈ behind, isBlank c = true) :
    trimBlanks (before ++ item ++ behind) = item := by
  have hreverse : ∀ c ∈ behind.reverse, isBlank c = true := by simpa using hbehind
  rw [trimBlanks, List.append_assoc, trimLeft_blanks_append hbefore]
  cases item with
  | nil =>
      have hnone : trimLeft behind = [] := List.dropWhile_eq_nil_iff.mpr hbehind
      rw [List.nil_append, hnone]
      rfl
  | cons c item =>
      have hstart : trimLeft (c :: item ++ behind) = c :: item ++ behind :=
        trimLeft_eq_self hitem.head
      have hend : trimLeft (c :: item).reverse = (c :: item).reverse := by
        apply trimLeft_eq_self
        rw [List.head?_reverse]
        exact hitem.last
      rw [hstart, List.reverse_append, trimLeft_blanks_append hreverse, hend, List.reverse_reverse]

/-- Trimming takes the blanks off both ends of a text, and nothing else. -/
theorem trimBlanks_eq_iff {cs item : List Char} :
    trimBlanks cs = item ↔ IsTrimmed item ∧ ∃ before behind, cs = before ++ item ++ behind ∧
      (∀ c ∈ before, isBlank c = true) ∧ ∀ c ∈ behind, isBlank c = true := by
  constructor
  · rintro rfl
    obtain ⟨before, hcs, hbefore⟩ := exists_blanks_append_trimLeft cs
    obtain ⟨behind, hleft, hbehind⟩ := exists_trimBlanks_append_blanks cs
    exact ⟨isTrimmed_trimBlanks cs, before, behind,
      by rw [List.append_assoc, ← hleft, ← hcs], hbefore, hbehind⟩
  · rintro ⟨hitem, before, behind, rfl, hbefore, hbehind⟩
    exact trimBlanks_eq_of_isTrimmed hbefore hitem hbehind

theorem trimBlanks_eq_nil_iff {cs : List Char} :
    trimBlanks cs = [] ↔ ∀ c ∈ cs, isBlank c = true := by
  rw [trimBlanks_eq_iff]
  constructor
  · rintro ⟨-, before, behind, rfl, hbefore, hbehind⟩ c hc
    simp only [List.append_nil, List.mem_append] at hc
    exact hc.elim (hbefore c) (hbehind c)
  · intro h
    exact ⟨⟨by simp, by simp⟩, cs, [], by simp, h, by simp⟩

end Text

/-! ## Items -/

namespace Settings

open Text

/-- A text is an item of a list if it stands there between two neighbouring commas with nothing but
blanks beside it. It holds no comma, neither starts nor ends with a blank and is not empty. The ends
of the list count as commas. -/
structure IsItem (value item : String) : Prop where
  ne_empty : item ≠ ""
  comma_free : ',' ∉ item.toList
  trimmed : IsTrimmed item.toList
  placed : ∃ front before behind rest,
    ',' :: (value.toList ++ [',']) =
        front ++ ',' :: (before ++ item.toList ++ behind ++ ',' :: rest) ∧
      (∀ c ∈ before, isBlank c = true) ∧ ∀ c ∈ behind, isBlank c = true

theorem comma_not_mem_of_blank {cs : List Char} (h : ∀ c ∈ cs, isBlank c = true) : ',' ∉ cs :=
  fun hmem => absurd (h ',' hmem) (by decide)

/-- The list that is read of a text holds its items. -/
theorem mem_splitList_iff {value item : String} : item ∈ splitList value ↔ IsItem value item := by
  have hcomma (c : Char) : (c == ',') = true ↔ c = ',' := beq_iff_eq
  have hread : item ∈ splitList value ↔ item ≠ "" ∧
      ∃ piece ∈ allPiecesBy (· == ',') value.toList, trimBlanks piece = item.toList := by
    simp only [splitList, List.mem_map, List.mem_filter]
    constructor
    · rintro ⟨_, ⟨⟨piece, hpiece, rfl⟩, hfilled⟩, rfl⟩
      exact ⟨by simpa using hfilled, piece, hpiece, String.toList_ofList.symm⟩
    · rintro ⟨hne, piece, hpiece, htrim⟩
      exact ⟨item.toList, ⟨⟨piece, hpiece, htrim⟩, by simpa using hne⟩, String.ofList_toList⟩
  rw [hread]
  simp only [mem_allPiecesBy_iff hcomma, trimBlanks_eq_iff]
  constructor
  · rintro ⟨hne, _, ⟨hfree, front, rest, hvalue⟩, htrimmed, before, behind, rfl, hbefore, hbehind⟩
    have hitem : ',' ∉ item.toList := fun hmem => hfree (by simp [hmem])
    exact ⟨hne, hitem, htrimmed, front, before, behind, rest, hvalue, hbefore, hbehind⟩
  · rintro ⟨hne, hitem, htrimmed, front, before, behind, rest, hvalue, hbefore, hbehind⟩
    have hfree : ',' ∉ before ++ item.toList ++ behind := by
      simp [hitem, comma_not_mem_of_blank hbefore, comma_not_mem_of_blank hbehind]
    exact ⟨hne, _, ⟨hfree, front, rest, hvalue⟩, htrimmed, before, behind, rfl, hbefore, hbehind⟩

end Settings

end BearerAuth
