import BearerAuth.Proofs.ListedItems

/-! How lists with commas are spelled. A comma between two texts keeps their items apart, so the items
of a joined text are those of its pieces in a row. A piece with an item and blanks around it gives this
item, a blank piece gives none, and every list is joined of such pieces. -/

namespace BearerAuth.Settings

open Text

/-! ## Pieces of a list -/

/-- A text that can stand in a list: not empty, without commas, and without blanks at its ends. -/
structure CanBeItem (item : String) : Prop where
  ne_empty : item ≠ ""
  comma_free : ',' ∉ item.toList
  trimmed : IsTrimmed item.toList

/-- Pieces of a list: each item in its turn with blanks around it, and blank pieces anywhere. -/
inductive Padded : List String → List String → Prop where
  | nil : Padded [] []
  | blank {items pieces} (piece : String) (hpiece : ∀ c ∈ piece.toList, isBlank c = true)
      (h : Padded items pieces) : Padded items (piece :: pieces)
  | item {items pieces} (before item behind : String) (hitem : CanBeItem item)
      (hbefore : ∀ c ∈ before.toList, isBlank c = true)
      (hbehind : ∀ c ∈ behind.toList, isBlank c = true) (h : Padded items pieces) :
      Padded (item :: items) ((before ++ item ++ behind) :: pieces)

theorem IsItem.canBeItem {value item : String} (h : IsItem value item) : CanBeItem item :=
  ⟨h.ne_empty, h.comma_free, h.trimmed⟩

theorem canBeItem_of_mem {value item : String} (h : item ∈ splitList value) : CanBeItem item :=
  (mem_splitList_iff.mp h).canBeItem

/-- Items without blanks around them are pieces already. -/
theorem padded_self {items : List String} (h : ∀ item ∈ items, CanBeItem item) :
    Padded items items := by
  induction items with
  | nil => exact .nil
  | cons item items ih =>
      obtain ⟨hitem, hitems⟩ := List.forall_mem_cons.mp h
      simpa using Padded.item "" item "" hitem (by simp) (by simp) (ih hitems)

/-! ## Reading pieces -/

theorem splitList_append_comma (value other : String) :
    splitList (value ++ "," ++ other) = splitList value ++ splitList other := by
  have htoList : (value ++ "," ++ other).toList = value.toList ++ ',' :: other.toList := by simp
  rw [splitList, htoList, allPiecesBy_append_separator (by decide)]
  simp [splitList]

theorem splitList_intercalate (pieces : List String) :
    splitList (",".intercalate pieces) = pieces.flatMap splitList := by
  induction pieces with
  | nil => rfl
  | cons piece pieces ih =>
      by_cases hpieces : pieces = []
      · subst hpieces
        simp
      · rw [String.intercalate_cons_of_ne_nil hpieces, splitList_append_comma, ih,
          List.flatMap_cons]

/-- A text without commas has at most one item, which is the text without the blanks around it. -/
theorem splitList_of_comma_free {value : String} (h : ',' ∉ value.toList) :
    splitList value = ([trimBlanks value.toList].filter (!·.isEmpty)).map String.ofList := by
  have hfree : ∀ c ∈ value.toList, (c == ',') = false := by
    intro c hc
    rw [beq_eq_false_iff_ne]
    rintro rfl
    exact h hc
  rw [splitList, allPiecesBy, piecesBy_of_free hfree, List.map_singleton]

theorem splitList_blank {value : String} (h : ∀ c ∈ value.toList, isBlank c = true) :
    splitList value = [] := by
  rw [splitList_of_comma_free (comma_not_mem_of_blank h), trimBlanks_eq_nil_iff.mpr h]
  rfl

theorem splitList_item {before item behind : String} (hitem : CanBeItem item)
    (hbefore : ∀ c ∈ before.toList, isBlank c = true)
    (hbehind : ∀ c ∈ behind.toList, isBlank c = true) :
    splitList (before ++ item ++ behind) = [item] := by
  have hfree : ',' ∉ (before ++ item ++ behind).toList := by
    simp [hitem.comma_free, comma_not_mem_of_blank hbefore, comma_not_mem_of_blank hbehind]
  have htrim : trimBlanks (before ++ item ++ behind).toList = item.toList := by
    simpa using trimBlanks_eq_of_isTrimmed hbefore hitem.trimmed hbehind
  rw [splitList_of_comma_free hfree, htrim]
  simp [hitem.ne_empty]

/-- What is read of joined pieces are their items. -/
theorem splitList_padded {items pieces : List String} (h : Padded items pieces) :
    splitList (",".intercalate pieces) = items := by
  rw [splitList_intercalate]
  induction h with
  | nil => rfl
  | blank piece hpiece _ ih => rw [List.flatMap_cons, splitList_blank hpiece, ih, List.nil_append]
  | item before item behind hitem hbefore hbehind _ ih =>
      rw [List.flatMap_cons, splitList_item hitem hbefore hbehind, ih, List.singleton_append]

/-! ## Spelling lists -/

/-- A piece without commas pads its item, if it has one. -/
theorem Padded.cons_of_comma_free {items pieces : List String} (h : Padded items pieces)
    {piece : String} (hpiece : ',' ∉ piece.toList) :
    Padded (splitList piece ++ items) (piece :: pieces) := by
  by_cases hblank : trimBlanks piece.toList = []
  · have hpad := trimBlanks_eq_nil_iff.mp hblank
    rw [splitList_blank hpad, List.nil_append]
    exact .blank piece hpad h
  · let item := String.ofList (trimBlanks piece.toList)
    have hitems : splitList piece = [item] := by
      rw [splitList_of_comma_free hpiece]
      simp [item, hblank]
    have hitem : CanBeItem item := by
      apply canBeItem_of_mem
      rw [hitems]
      exact List.mem_singleton_self item
    obtain ⟨-, before, behind, hcut, hbefore, hbehind⟩ :=
      trimBlanks_eq_iff.mp (Eq.refl (trimBlanks piece.toList))
    have hpad : piece = String.ofList before ++ item ++ String.ofList behind := by
      rw [← String.toList_inj, hcut]
      simp [item]
    rw [hitems, List.singleton_append, hpad]
    exact .item _ item _ hitem (by simpa using hbefore) (by simpa using hbehind) h

theorem intercalate_eq_append_flatMap (separator : Char) (first : List Char)
    (others : List (List Char)) :
    [separator].intercalate (first :: others) = first ++ others.flatMap (separator :: ·) := by
  induction others generalizing first with
  | nil => simp
  | cons piece others ih => simp [List.intercalate_cons_cons, ih]

theorem padded_flatMap {pieces : List String} (h : ∀ piece ∈ pieces, ',' ∉ piece.toList) :
    Padded (pieces.flatMap splitList) pieces := by
  induction pieces with
  | nil => exact .nil
  | cons piece pieces ih =>
      obtain ⟨hpiece, hpieces⟩ := List.forall_mem_cons.mp h
      exact (ih hpieces).cons_of_comma_free hpiece

theorem exists_intercalate (value : String) :
    ∃ pieces, value = ",".intercalate pieces ∧ ∀ piece ∈ pieces, ',' ∉ piece.toList := by
  have hcomma (c : Char) : (c == ',') = true ↔ c = ',' := beq_iff_eq
  refine ⟨(allPiecesBy (· == ',') value.toList).map String.ofList, ?_, ?_⟩
  · rw [← String.toList_inj, String.toList_intercalate, List.map_map]
    have hlists : String.toList ∘ String.ofList = id := funext fun _ => String.toList_ofList
    rw [hlists, List.map_id, allPiecesBy]
    exact (join_piecesBy hcomma value.toList).symm.trans
      (intercalate_eq_append_flatMap ',' _ _).symm
  · simp only [List.forall_mem_map, String.toList_ofList]
    exact fun piece hpiece => ((mem_allPiecesBy_iff hcomma).mp hpiece).1

/-- Every text is joined of pieces that pad the items read of it. -/
theorem exists_padded (value : String) :
    ∃ pieces, Padded (splitList value) pieces ∧ value = ",".intercalate pieces := by
  obtain ⟨pieces, rfl, hpieces⟩ := exists_intercalate value
  refine ⟨pieces, ?_, rfl⟩
  rw [splitList_intercalate]
  exact padded_flatMap hpieces

/-- A list is read as it is spelled: of a text exactly the items are read that the pieces it is joined
of pad, in their order and as often as they stand there. All of them can be items, and joined again
they are read as the same list. -/
structure ReadsAsSpelled (value : String) : Prop where
  reads : ∀ {items}, splitList value = items ↔
    ∃ pieces, Padded items pieces ∧ value = ",".intercalate pieces
  canBeItem : ∀ item ∈ splitList value, CanBeItem item
  rejoined : splitList (",".intercalate (splitList value)) = splitList value

/-- Every text is read as it is spelled. -/
theorem readsAsSpelled (value : String) : ReadsAsSpelled value where
  reads {items} := by
    constructor
    · rintro rfl
      exact exists_padded value
    · rintro ⟨pieces, hpadded, rfl⟩
      exact splitList_padded hpadded
  canBeItem _ := canBeItem_of_mem
  rejoined := splitList_padded (padded_self fun _ => canBeItem_of_mem)

-- The items stay in their order, with repetitions, whatever blanks are beside them.
example : splitList ",\u3000/b ,, /a\u00a0,\t,/b" = ["/b", "/a", "/b"] := by decide

end BearerAuth.Settings
