import BearerAuth.Proofs.SkipPath
import BearerAuth.Text.Utf8
import Mathlib.Data.List.Infix
import Mathlib.Order.Bounds.Basic

/-! The scan of a path by offsets in its octets. Each turn cuts the path at the offset, looks for the
octets of the next piece in what follows and moves the offset behind them. Octets of a piece are found
only where the piece itself stands, so the offset goes with the cursor of the scan by characters: it
never lies behind the path or inside a character, and no other choice of occurrences ends before it. -/

namespace BearerAuth.SkipPath

open BearerAuth.Text

/-! ## Octets among octets -/

/-- Octets stand among others with so many octets before them. -/
def OccursAt (piece bytes : List UInt8) (index : Nat) : Prop :=
  ∃ gap rest, bytes = gap ++ piece ++ rest ∧ gap.length = index

/-- The number of octets before the first place where a piece stands among them. -/
def firstIndex? (piece bytes : List UInt8) : Option Nat :=
  bytes.tails.findIdx? fun rest => piece.isPrefixOf rest

theorem occursAt_iff {piece bytes : List UInt8} {index : Nat} :
    OccursAt piece bytes index ↔ index ≤ bytes.length ∧ piece <+: bytes.drop index := by
  constructor
  · rintro ⟨gap, rest, rfl, rfl⟩
    simp
  · rintro ⟨hindex, rest, hrest⟩
    refine ⟨bytes.take index, rest, ?_, by simpa using hindex⟩
    rw [List.append_assoc, hrest, List.take_append_drop]

theorem firstIndex?_eq_some_iff {piece bytes : List UInt8} {index : Nat} :
    firstIndex? piece bytes = some index ↔ IsLeast {i | OccursAt piece bytes i} index := by
  simp only [firstIndex?, List.findIdx?_eq_some_iff_getElem, List.getElem_tails,
    List.length_tails, List.isPrefixOf_iff_prefix, IsLeast, lowerBounds, Set.mem_ofPred_eq,
    occursAt_iff]
  constructor
  · rintro ⟨hindex, hstands, hleast⟩
    refine ⟨⟨by omega, hstands⟩, fun i hi => ?_⟩
    by_contra hlt
    exact hleast i (by omega) hi.2
  · rintro ⟨⟨hindex, hstands⟩, hleast⟩
    refine ⟨by omega, hstands, fun i hlt hi => ?_⟩
    have hle := hleast ⟨by omega, hi⟩
    omega

theorem firstIndex?_eq_none_iff {piece bytes : List UInt8} :
    firstIndex? piece bytes = none ↔ ∀ index, ¬OccursAt piece bytes index := by
  simp only [firstIndex?, List.findIdx?_eq_none_iff, List.mem_tails, occursAt_iff]
  constructor
  · rintro hnone index ⟨-, hstands⟩
    have hfalse := hnone _ (List.drop_suffix index bytes)
    simp [List.isPrefixOf_iff_prefix.mpr hstands] at hfalse
  · rintro hnone _ ⟨gap, rfl⟩
    rw [← Bool.not_eq_true, List.isPrefixOf_iff_prefix]
    intro hstands
    exact hnone gap.length ⟨by simp, by simpa using hstands⟩

/-! ## Turns -/

/-- The octets of a text from an offset on, unless the offset lies behind the text or inside a
character. -/
def octetsFrom? (text : String) (pos : Nat) : Option (List UInt8) :=
  if String.Pos.Raw.IsValid text ⟨pos⟩ then some ((octets text).drop pos) else none

/-- What a scan by offsets comes to: it stands behind all its pieces, misses one of them, or has left
the path. -/
inductive Scan where
  | standing (pos : Nat)
  | missing
  | outside
deriving DecidableEq

/-- The scan for pieces from an offset on, a turn for each piece. -/
def scan (path : String) (pos : Nat) : List String → Scan
  | [] => .standing pos
  | piece :: pieces =>
      match octetsFrom? path pos with
      | none => .outside
      | some rest =>
          match firstIndex? (octets piece) rest with
          | none => .missing
          | some index => scan path (pos + index + (octets piece).length) pieces

/-- A scan for more pieces goes on where the scan for the first ones stands. -/
theorem scan_append {path : String} {pos next : Nat} {found : List String}
    (h : scan path pos found = .standing next) (left : List String) :
    scan path pos (found ++ left) = scan path next left := by
  induction found generalizing pos with
  | nil =>
      cases h
      rfl
  | cons piece found ih =>
      simp only [List.cons_append, scan] at h ⊢
      cases hrest : octetsFrom? path pos with
      | none => simp [hrest] at h
      | some rest =>
          cases hindex : firstIndex? (octets piece) rest with
          | none => simp [hrest, hindex] at h
          | some index =>
              simp only [hrest, hindex] at h ⊢
              exact ih h

/-! ## Offsets of cursors -/

/-- What a scan by offsets comes to where a scan by characters ends with a cursor, or with none. -/
def Scan.ofCursor? : Option Cursor → Scan
  | some cursor => .standing cursor.offset
  | none => .missing

theorem Scan.ofCursor?_eq_standing_iff {cursor? : Option Cursor} {pos : Nat} :
    Scan.ofCursor? cursor? = .standing pos ↔ ∃ cursor, cursor? = some cursor ∧ cursor.offset = pos := by
  cases cursor? <;> simp [Scan.ofCursor?]

namespace Cursor

variable {cursor : Cursor} {path : String}

theorem offset_eq (cursor : Cursor) :
    cursor.offset = (octets (String.ofList cursor.before)).length := by
  rw [offset]
  induction cursor.before with
  | nil => rfl
  | cons c before ih =>
      rw [List.foldr_cons, ih, String.ofList_cons, octets_append, List.length_append,
        length_octets (String.singleton c), String.utf8ByteSize_singleton]

theorem eq_append_of_path (h : cursor.path = path.toList) :
    path = String.ofList cursor.before ++ String.ofList cursor.after := by
  rw [← String.toList_inj, ← h, Cursor.path]
  simp

theorem isValid_offset (h : cursor.path = path.toList) :
    String.Pos.Raw.IsValid path ⟨cursor.offset⟩ :=
  isValid_iff_exists_append.mpr ⟨_, _, eq_append_of_path h, cursor.offset_eq.symm⟩

theorem octetsFrom?_offset (h : cursor.path = path.toList) :
    octetsFrom? path cursor.offset = some (octets (String.ofList cursor.after)) := by
  rw [octetsFrom?, if_pos (isValid_offset h), offset_eq, eq_append_of_path h, octets_append,
    List.drop_left]

theorem offset_add_length (h : cursor.path = path.toList) :
    cursor.offset + (octets (String.ofList cursor.after)).length = (octets path).length := by
  rw [offset_eq, eq_append_of_path h, octets_append, List.length_append]

end Cursor

/-- The octets of a piece first stand where the piece first stands. -/
theorem firstIndex?_of_behindFirst? {piece : String} {text : List Char}
    {cut : List Char × List Char} (hpiece : piece ≠ "")
    (h : behindFirst? piece.toList text = some cut) :
    ∃ index, firstIndex? (octets piece) (octets (String.ofList text)) = some index ∧
      index + (octets piece).length = (octets (String.ofList cut.1)).length := by
  obtain ⟨gap, hgap⟩ := exists_gap_of_behindFirst? h
  have htext : gap ++ piece.toList ++ cut.2 = text := by
    rw [← hgap, behindFirst?_append h]
  have hoctets : octets (String.ofList text) =
      octets (String.ofList gap) ++ octets piece ++ octets (String.ofList cut.2) := by
    simp [← htext, String.ofList_append, octets_append]
  refine ⟨(octets (String.ofList gap)).length, ?_, ?_⟩
  · rw [firstIndex?_eq_some_iff]
    refine ⟨⟨_, _, hoctets, rfl⟩, ?_⟩
    rintro _ ⟨front, rest, hrest, rfl⟩
    obtain ⟨before, behind, hbefore, rfl, rfl⟩ := exists_occurrence_of_octets hpiece hrest
    -- The first occurrence leaves no less of the text than this one.
    obtain ⟨other, hother, hsuffix⟩ :=
      behindFirst?_of_occurrence before.toList piece.toList behind.toList
    rw [← String.toList_append, ← String.toList_append, ← hbefore, String.toList_ofList, h] at hother
    cases hother
    have hle := length_octets_le_of_suffix hsuffix
    have hlength := congrArg List.length (hoctets.symm.trans hrest)
    simp only [List.length_append, String.ofList_toList] at hle hlength
    omega
  · simp [hgap, String.ofList_append, octets_append]

theorem firstIndex?_eq_none {piece : String} {text : List Char} (hpiece : piece ≠ "")
    (h : behindFirst? piece.toList text = none) :
    firstIndex? (octets piece) (octets (String.ofList text)) = none := by
  rw [firstIndex?_eq_none_iff]
  rintro _ ⟨gap, rest, hrest, -⟩
  obtain ⟨before, behind, hbefore, -, -⟩ := exists_occurrence_of_octets hpiece hrest
  obtain ⟨cut, hcut, -⟩ := behindFirst?_of_occurrence before.toList piece.toList behind.toList
  rw [← String.toList_append, ← String.toList_append, ← hbefore, String.toList_ofList, h] at hcut
  contradiction

/-- A turn moves the offset as the cursor moves, or misses the piece where the cursor does. -/
theorem scan_cons_offset {path piece : String} {cursor : Cursor}
    (hpath : cursor.path = path.toList) (hpiece : piece ≠ "") (pieces : List String) :
    scan path cursor.offset (piece :: pieces) =
      (cursor.advance? piece.toList).elim .missing fun next => scan path next.offset pieces := by
  rw [scan, Cursor.octetsFrom?_offset hpath, Cursor.advance?]
  cases hcut : behindFirst? piece.toList cursor.after with
  | none => simp [firstIndex?_eq_none hpiece hcut]
  | some cut =>
      obtain ⟨index, hindex, hlength⟩ := firstIndex?_of_behindFirst? hpiece hcut
      have hoffset : cursor.offset + index + (octets piece).length =
          Cursor.offset ⟨cursor.before ++ cut.1, cut.2⟩ := by
        simp only [Cursor.offset_eq, String.ofList_append, octets_append, List.length_append]
        omega
      simp [hindex, hoffset]

/-- The scan by offsets comes to where the scan by characters does. -/
theorem scan_offset {path : String} {cursor : Cursor} (hpath : cursor.path = path.toList)
    {pieces : List String} (hpieces : ∀ piece ∈ pieces, piece ≠ "") :
    scan path cursor.offset pieces =
      .ofCursor? (cursor.advanceAll? (pieces.map String.toList)) := by
  induction pieces generalizing cursor with
  | nil => rfl
  | cons piece pieces ih =>
      obtain ⟨hpiece, hpieces⟩ := List.forall_mem_cons.mp hpieces
      rw [List.map_cons, Cursor.advanceAll?_cons, scan_cons_offset hpath hpiece]
      cases hmove : cursor.advance? piece.toList with
      | none => rfl
      | some next => exact ih ((Cursor.path_advance? hmove).trans hpath) hpieces

/-! ## Pieces placed among octets -/

/-- Octets are made of pieces one behind the other, with any octets in the gap before each of them. -/
inductive Spaced : List String → List UInt8 → Prop where
  | nil : Spaced [] []
  | cons (gap piece) {pieces behind} (h : Spaced pieces behind) :
      Spaced (piece :: pieces) (gap ++ octets piece ++ behind)

/-- A path begins with a start and has pieces placed behind it, the last of which ends at the offset.
The gaps may be any octets, whether they make up characters or not. -/
def EndsAt (path start : String) (pieces : List String) (pos : Nat) : Prop :=
  ∃ placed rest, Spaced pieces placed ∧ octets path = octets start ++ placed ++ rest ∧
    (octets start ++ placed).length = pos

theorem Spaced.placed {pieces : List String} {bytes rest : List UInt8} (h : Spaced pieces bytes)
    (hpieces : ∀ piece ∈ pieces, piece ≠ "") {text : String} (htext : octets text = bytes ++ rest) :
    ∃ behind : String, octets behind = rest ∧
      Placed (pieces.map String.toList) text.toList behind.toList := by
  induction h generalizing text with
  | nil => exact ⟨text, htext, .nil _⟩
  | @cons gap piece pieces bytes _ ih =>
      obtain ⟨hpiece, hpieces⟩ := List.forall_mem_cons.mp hpieces
      rw [List.append_assoc] at htext
      -- The gap makes up characters, since the piece behind it starts with one.
      obtain ⟨before, tail, rfl, -, htail⟩ := exists_occurrence_of_octets hpiece htext
      obtain ⟨behind, hbehind, hplaced⟩ := ih hpieces htail
      refine ⟨behind, hbehind, ?_⟩
      simpa using Placed.cons before.toList piece.toList hplaced

theorem exists_spaced_of_placed {pieces : List String} {text rest : List Char}
    (h : Placed (pieces.map String.toList) text rest) :
    ∃ bytes, Spaced pieces bytes ∧
      octets (String.ofList text) = bytes ++ octets (String.ofList rest) := by
  induction pieces generalizing text with
  | nil =>
      cases h
      exact ⟨[], .nil, rfl⟩
  | cons piece pieces ih =>
      cases h with
      | cons gap _ h =>
          obtain ⟨bytes, hbytes, hafter⟩ := ih h
          refine ⟨_, .cons (octets (String.ofList gap)) piece hbytes, ?_⟩
          simp [String.ofList_append, octets_append, hafter]

theorem endsAt_iff {path start : String} {pieces : List String}
    (hpieces : ∀ piece ∈ pieces, piece ≠ "") {pos : Nat} :
    EndsAt path start pieces pos ↔ ∃ text rest, path.toList = start.toList ++ text ∧
      Placed (pieces.map String.toList) text rest ∧
        pos + (octets (String.ofList rest)).length = (octets path).length := by
  constructor
  · rintro ⟨bytes, rest, hspaced, hpath, rfl⟩
    rw [List.append_assoc] at hpath
    obtain ⟨text, rfl, htext⟩ := exists_append_of_octets hpath
    obtain ⟨behind, rfl, hplaced⟩ := hspaced.placed hpieces htext
    refine ⟨text.toList, behind.toList, by simp, hplaced, ?_⟩
    simp [octets_append, htext, Nat.add_assoc]
  · rintro ⟨text, rest, hpath, hplaced, hlength⟩
    obtain ⟨bytes, hspaced, htext⟩ := exists_spaced_of_placed hplaced
    have hoctets : octets path = octets start ++ bytes ++ octets (String.ofList rest) := by
      have heq : path = start ++ String.ofList text := by
        rw [← String.toList_inj, hpath]
        simp
      rw [heq, octets_append, htext, List.append_assoc]
    refine ⟨bytes, _, hspaced, hoctets, ?_⟩
    have htotal := congrArg List.length hoctets
    simp only [List.length_append] at htotal ⊢
    omega

/-! ## Scans from the start of a path -/

/-- The scan for pieces behind a start of the path. -/
def scanFrom (path start : String) (pieces : List String) : Scan :=
  if octets start <+: octets path then scan path (octets start).length pieces else .missing

variable {path start : String} {pieces : List String}

namespace Cursor

theorem behindStart?_append (start text : List Char) :
    behindStart? (start ++ text) start = some ⟨start, text⟩ := by
  simp [behindStart?, List.isPrefixOf_iff_prefix]

theorem path_advanceAll? {cursor next : Cursor} {pieces : List (List Char)}
    (h : cursor.advanceAll? pieces = some next) : next.path = cursor.path := by
  induction pieces generalizing cursor with
  | nil =>
      cases h
      rfl
  | cons piece pieces ih =>
      rw [advanceAll?_cons, Option.bind_eq_some_iff] at h
      obtain ⟨found, hfound, h⟩ := h
      exact (ih h).trans (path_advance? hfound)

end Cursor

/-- The cursor of a scan by characters behind a start of the path and pieces that follow it. -/
def cursorBehind? (path start : String) (pieces : List String) : Option Cursor :=
  (Cursor.behindStart? path.toList start.toList).bind fun cursor =>
    cursor.advanceAll? (pieces.map String.toList)

theorem path_cursorBehind? {cursor : Cursor} (h : cursorBehind? path start pieces = some cursor) :
    cursor.path = path.toList := by
  obtain ⟨first, hfirst, h⟩ := Option.bind_eq_some_iff.mp h
  exact (Cursor.path_advanceAll? h).trans (Cursor.path_behindStart? hfirst)

theorem cursorBehind?_append (start text : String) (pieces : List String) :
    cursorBehind? (start ++ text) start pieces =
      Cursor.advanceAll? ⟨start.toList, text.toList⟩ (pieces.map String.toList) := by
  rw [cursorBehind?, String.toList_append, Cursor.behindStart?_append, Option.bind_some]

theorem cursorBehind?_eq_none (h : ¬start.toList <+: path.toList) :
    cursorBehind? path start pieces = none := by
  simp [cursorBehind?, Cursor.behindStart?, List.isPrefixOf_iff_prefix, h]

theorem cursorBehind?_eq_some_iff {cursor : Cursor} :
    cursorBehind? path start pieces = some cursor ↔ ∃ text : String, path = start ++ text ∧
      Cursor.advanceAll? ⟨start.toList, text.toList⟩ (pieces.map String.toList) = some cursor := by
  by_cases hstart : start.toList <+: path.toList
  · obtain ⟨text, rfl⟩ := exists_append_of_prefix hstart
    simp [cursorBehind?_append]
  · rw [cursorBehind?_eq_none hstart]
    refine iff_of_false (by simp) ?_
    rintro ⟨text, rfl, -⟩
    simp at hstart

theorem scanFrom_eq_ofCursor? (hpieces : ∀ piece ∈ pieces, piece ≠ "") :
    scanFrom path start pieces = .ofCursor? (cursorBehind? path start pieces) := by
  by_cases hstart : start.toList <+: path.toList
  · obtain ⟨text, rfl⟩ := exists_append_of_prefix hstart
    have hoffset := Cursor.offset_eq ⟨start.toList, text.toList⟩
    rw [String.ofList_toList] at hoffset
    have hpath : Cursor.path ⟨start.toList, text.toList⟩ = (start ++ text).toList := by
      simp [Cursor.path]
    rw [scanFrom, if_pos (octets_prefix_iff.mpr hstart), ← hoffset, scan_offset hpath hpieces,
      cursorBehind?_append]
  · rw [scanFrom, if_neg fun h => hstart (octets_prefix_iff.mp h), cursorBehind?_eq_none hstart]
    rfl

theorem exists_cursorBehind?_iff :
    (∃ cursor, cursorBehind? path start pieces = some cursor) ↔
      ∃ text rest, path.toList = start.toList ++ text ∧
        Placed (pieces.map String.toList) text rest := by
  constructor
  · rintro ⟨cursor, h⟩
    obtain ⟨text, rfl, hmoved⟩ := cursorBehind?_eq_some_iff.mp h
    exact ⟨text.toList, cursor.after, by simp, Cursor.placed_of_advanceAll? hmoved⟩
  · rintro ⟨text, rest, hpath, hplaced⟩
    have hahead : text <:+ (Cursor.mk start.toList text).after := List.suffix_rfl
    obtain ⟨cursor, hmoved, -⟩ := Cursor.advanceAll?_of_placed hplaced hahead
    refine ⟨cursor, ?_⟩
    rw [cursorBehind?, hpath, Cursor.behindStart?_append, Option.bind_some, hmoved]

/-- A cursor behind a start and pieces stands at the least offset at which these can end. -/
theorem isLeast_offset (hpieces : ∀ piece ∈ pieces, piece ≠ "") {cursor : Cursor}
    (h : cursorBehind? path start pieces = some cursor) :
    IsLeast {e | EndsAt path start pieces e} cursor.offset := by
  have hrest := Cursor.offset_add_length (path_cursorBehind? h)
  obtain ⟨text, rfl, hmoved⟩ := cursorBehind?_eq_some_iff.mp h
  constructor
  case left =>
    exact (endsAt_iff hpieces).mpr ⟨text.toList, cursor.after, by simp,
      Cursor.placed_of_advanceAll? hmoved, hrest⟩
  case right =>
    intro e he
    obtain ⟨other, rest, hother, hplaced, hlength⟩ := (endsAt_iff hpieces).mp he
    rw [String.toList_append, List.append_cancel_left_eq] at hother
    subst hother
    -- The cursor leaves no less of the path than pieces that are placed anywhere.
    have hahead : text.toList <:+ (Cursor.mk start.toList text.toList).after := List.suffix_rfl
    obtain ⟨next, hnext, hsuffix⟩ := Cursor.advanceAll?_of_placed hplaced hahead
    rw [hmoved] at hnext
    cases hnext
    have hle := length_octets_le_of_suffix hsuffix
    omega

theorem scanFrom_eq_standing_iff (hpieces : ∀ piece ∈ pieces, piece ≠ "") {pos : Nat} :
    scanFrom path start pieces = .standing pos ↔ IsLeast {e | EndsAt path start pieces e} pos := by
  rw [scanFrom_eq_ofCursor? hpieces, Scan.ofCursor?_eq_standing_iff]
  constructor
  · rintro ⟨cursor, hcursor, rfl⟩
    exact isLeast_offset hpieces hcursor
  · intro hleast
    obtain ⟨text, rest, hpath, hplaced, -⟩ := (endsAt_iff hpieces).mp hleast.1
    obtain ⟨cursor, hcursor⟩ := exists_cursorBehind?_iff.mpr ⟨text, rest, hpath, hplaced⟩
    exact ⟨cursor, hcursor, (isLeast_offset hpieces hcursor).unique hleast⟩

/-- The scan finds all the pieces if they are placed anywhere behind the start. -/
theorem exists_standing_iff (hpieces : ∀ piece ∈ pieces, piece ≠ "") :
    (∃ pos, scanFrom path start pieces = .standing pos) ↔
      ∃ text rest, path.toList = start.toList ++ text ∧
        Placed (pieces.map String.toList) text rest := by
  rw [scanFrom_eq_ofCursor? hpieces, ← exists_cursorBehind?_iff]
  simp [Scan.ofCursor?_eq_standing_iff]

/-- The state of a scan between two turns, told by the pieces found so far: the offset goes with the
cursor, can cut the path, is the least at which these pieces can end, and is all that the turns for
the pieces left depend on. -/
structure TurnsInside (path start : String) (found : List String) : Prop where
  follows : scanFrom path start found = .ofCursor? (cursorBehind? path start found)
  neverOutside : scanFrom path start found ≠ .outside
  inside : ∀ {pos}, scanFrom path start found = .standing pos →
    pos ≤ path.utf8ByteSize ∧ String.Pos.Raw.IsValid path ⟨pos⟩
  least : ∀ {pos}, scanFrom path start found = .standing pos ↔
    IsLeast {e | EndsAt path start found e} pos
  goesOn : ∀ {pos}, scanFrom path start found = .standing pos →
    ∀ left, scanFrom path start (found ++ left) = scan path pos left

/-- A scan for pieces that are not empty stays inside the path. -/
theorem turnsInside (hpieces : ∀ piece ∈ pieces, piece ≠ "") : TurnsInside path start pieces where
  follows := scanFrom_eq_ofCursor? hpieces
  neverOutside := by
    rw [scanFrom_eq_ofCursor? hpieces]
    cases cursorBehind? path start pieces <;> simp [Scan.ofCursor?]
  inside {pos} h := by
    rw [scanFrom_eq_ofCursor? hpieces, Scan.ofCursor?_eq_standing_iff] at h
    obtain ⟨cursor, hcursor, rfl⟩ := h
    have hvalid := Cursor.isValid_offset (path_cursorBehind? hcursor)
    exact ⟨hvalid.le_utf8ByteSize, hvalid⟩
  least := scanFrom_eq_standing_iff hpieces
  goesOn {pos} h left := by
    by_cases hstart : octets start <+: octets path
    · rw [scanFrom, if_pos hstart] at h ⊢
      exact scan_append h left
    · rw [scanFrom, if_neg hstart] at h
      contradiction

/-! ## Scans for a pattern -/

/-- The text before the first asterisk of a pattern. -/
def firstPiece (pattern : String) : String := String.ofList (piecesBy isAsterisk pattern.toList).1

/-- The texts between the first asterisk of a pattern and the last one, without the empty ones. -/
def middlePieces (pattern : String) : List String :=
  ((piecesBy isAsterisk pattern.toList).2.dropLast.filter (!·.isEmpty)).map String.ofList

theorem ne_empty_of_mem_middlePieces {pattern piece : String} (h : piece ∈ middlePieces pattern) :
    piece ≠ "" := by
  simp only [middlePieces, List.mem_map, List.mem_filter] at h
  obtain ⟨cs, ⟨-, hcs⟩, rfl⟩ := h
  simpa using hcs

/-- How the scan of a path for a pattern goes, whatever the pieces found so far, and what it decides. -/
structure ScansInside (pattern path : String) : Prop where
  turns : ∀ found, found <+: middlePieces pattern → TurnsInside path (firstPiece pattern) found
  decides : ∀ {first middle last}, IsCut pattern.toList first middle last → last ≠ [] →
    (covers pattern path = true ↔ last <:+ path.toList ∧
      ∃ pos, scanFrom path (firstPiece pattern) (middlePieces pattern) = .standing pos)

/-- The scan of any path for any pattern stays inside the path, and decides what the pattern does. -/
theorem scansInside (pattern path : String) : ScansInside pattern path where
  turns found hfound := by
    apply turnsInside
    intro piece hpiece
    exact ne_empty_of_mem_middlePieces (hfound.subset hpiece)
  decides {first middle last} hcut hlast := by
    have hpieces : ∀ piece ∈ middlePieces pattern, piece ≠ "" :=
      fun _ => ne_empty_of_mem_middlePieces
    have hfirst : (firstPiece pattern).toList = first := by
      rw [firstPiece, hcut.piecesBy_eq, String.toList_ofList]
    have hmiddle : (middlePieces pattern).map String.toList = middle.filter (!·.isEmpty) := by
      simp [middlePieces, hcut.piecesBy_eq, Function.comp_def]
    rw [covers, hcut.fits_iff hlast, exists_standing_iff hpieces, hfirst, hmiddle]

-- The scan may stand at the end of the path; from inside a character it would leave the path.
example : middlePieces "/*日*日" = ["日"] ∧ scanFrom "/日" (firstPiece "/*日*日") ["日"] = .standing 4 ∧
    scan "/日" 2 ["日"] = .outside := by decide

end BearerAuth.SkipPath
