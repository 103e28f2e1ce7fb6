/-! Texts as octets. A text is stored as its UTF-8 octets, and only well-formed octets
are read back, so each text has exactly one octet form. A character begins with an octet that
no character has inside, so a text is found by its octets only where it stands. -/

namespace BearerAuth.Text

def octets (text : String) : List UInt8 := text.toUTF8.data.toList

/-- The text with these UTF-8 octets, if there is one. -/
def ofOctets? (bytes : List UInt8) : Option String := String.fromUTF8? ⟨bytes.toArray⟩

/-- The text whose characters have these octets as their numbers. -/
def ofAscii (bytes : List UInt8) : String :=
  String.ofList (bytes.map fun b => Char.ofNat b.toNat)

theorem ofOctets?_octets (text : String) : ofOctets? (octets text) = some text := by
  have h : (⟨text.toUTF8.data.toList.toArray⟩ : ByteArray) = text.toByteArray := rfl
  simp only [ofOctets?, octets, h, String.fromUTF8?, text.isValidUTF8, dif_pos]
  rfl

theorem octets_of_ofOctets? {bytes : List UInt8} {text : String}
    (h : ofOctets? bytes = some text) : octets text = bytes := by
  unfold ofOctets? String.fromUTF8? at h
  split at h
  · injection h with h
    subst h
    rfl
  · contradiction

/-- Octets read as a text exactly when they are its octets. -/
theorem ofOctets?_eq_some_iff {bytes : List UInt8} {text : String} :
    ofOctets? bytes = some text ↔ octets text = bytes :=
  ⟨octets_of_ofOctets?, fun h => h ▸ ofOctets?_octets text⟩

/-- Different texts have different octets. -/
theorem octets_inj {text other : String} (h : octets text = octets other) : text = other := by
  have hread := ofOctets?_octets text
  rw [h, ofOctets?_octets] at hread
  exact (Option.some.inj hread).symm

theorem utf8EncodeChar_ofNat {b : UInt8} (h : b.toNat < 128) :
    String.utf8EncodeChar (Char.ofNat b.toNat) = [b] := by
  have hall : ∀ n < 128, String.utf8EncodeChar (Char.ofNat n) = [UInt8.ofNat n] := by
    decide +kernel
  rw [hall b.toNat h, UInt8.ofNat_toNat]

/-- A text of characters below 128 has their numbers as its octets. -/
theorem octets_ofAscii {bytes : List UInt8} (h : ∀ b ∈ bytes, b.toNat < 128) :
    octets (ofAscii bytes) = bytes := by
  have hencode : (bytes.map fun b => Char.ofNat b.toNat).utf8Encode = bytes.toByteArray := by
    induction bytes with
    | nil => rfl
    | cons b bytes ih =>
        have hrest := ih fun c hc => h c (by simp [hc])
        rw [List.map_cons, List.utf8Encode_cons, List.utf8Encode_singleton,
          utf8EncodeChar_ofNat (h b (by simp)), hrest, ← List.toByteArray_append]
        rfl
  rw [octets, ofAscii, String.toUTF8, String.toByteArray_ofList, hencode,
    List.toList_data_toByteArray]

theorem ofAscii_append (bytes others : List UInt8) :
    ofAscii (bytes ++ others) = ofAscii bytes ++ ofAscii others := by
  simp [ofAscii, String.ofList_append]

/-- The octets of two texts in a row. -/
theorem octets_append (a b : String) : octets (a ++ b) = octets a ++ octets b := by
  simp [octets, String.toUTF8]

/-! ## Cutting octets -/

theorem length_octets (text : String) : (octets text).length = text.utf8ByteSize := by
  simp [octets, String.toUTF8, ← String.size_toByteArray]

theorem length_octets_le_of_suffix {cs ds : List Char} (h : cs <:+ ds) :
    (octets (String.ofList cs)).length ≤ (octets (String.ofList ds)).length := by
  obtain ⟨front, rfl⟩ := h
  simp [String.ofList_append, octets_append]

theorem exists_append_of_prefix {text front : String} (h : front.toList <+: text.toList) :
    ∃ behind, text = front ++ behind := by
  obtain ⟨behind, hbehind⟩ := h
  refine ⟨String.ofList behind, ?_⟩
  rw [← String.toList_inj, ← hbehind]
  simp

/-- If the octets of a text go on from those of another text, the text goes on from the other one. -/
theorem exists_append_of_octets {text front : String} {rest : List UInt8}
    (h : octets text = octets front ++ rest) :
    ∃ behind, text = front ++ behind ∧ octets behind = rest := by
  have hbytes : front.toList.utf8Encode ++ rest.toByteArray = text.toList.utf8Encode := by
    apply ByteArray.ext
    apply Array.toList_inj.mp
    simpa [octets, String.toUTF8] using h.symm
  have hprefix := List.isPrefix_of_utf8Encode_append_eq_utf8Encode _ hbytes
  obtain ⟨behind, rfl⟩ := exists_append_of_prefix hprefix
  rw [octets_append] at h
  exact ⟨behind, rfl, List.append_cancel_left h⟩

theorem octets_prefix_iff {front text : String} :
    octets front <+: octets text ↔ front.toList <+: text.toList := by
  constructor
  · rintro ⟨rest, hrest⟩
    obtain ⟨behind, rfl, -⟩ := exists_append_of_octets hrest.symm
    simp
  · intro h
    obtain ⟨behind, rfl⟩ := exists_append_of_prefix h
    simp [octets_append]

/-- A text can be cut at an offset if a first part of it has this many octets. -/
theorem isValid_iff_exists_append {text : String} {pos : Nat} :
    String.Pos.Raw.IsValid text ⟨pos⟩ ↔
      ∃ front behind, text = front ++ behind ∧ (octets front).length = pos := by
  rw [String.Pos.Raw.isValid_iff_exists_append]
  simp [length_octets, String.Pos.Raw.ext_iff, eq_comm]

/-- A text can be cut where the octets of another one begin, for the first octet of a character never
stands inside another character. -/
theorem isValid_of_octets {text piece : String} {gap rest : List UInt8} (hpiece : piece ≠ "")
    (h : octets text = gap ++ octets piece ++ rest) :
    String.Pos.Raw.IsValid text ⟨gap.length⟩ := by
  have hfilled : 0 < (octets piece).length := by
    rw [length_octets]
    exact Nat.pos_of_ne_zero fun hzero => hpiece (by simpa using hzero)
  have hbound : gap.length < (octets text).length := by
    simp only [h, List.length_append]
    omega
  have hfirst : (octets piece)[0].IsUTF8FirstByte :=
    String.isUTF8FirstByte_getUTF8Byte_zero (b := piece)
  have hstart : (octets text)[gap.length] = (octets piece)[0] := by simp [h, hfilled]
  rw [String.Pos.Raw.isValid_iff_isUTF8FirstByte]
  rw [← hstart] at hfirst
  exact .inr ⟨by simpa [length_octets, String.Pos.Raw.lt_iff] using hbound, hfirst⟩

/-- The octets of a text that is not empty stand among those of another text only where the text itself
does. -/
theorem exists_occurrence_of_octets {text piece : String} {gap rest : List UInt8}
    (hpiece : piece ≠ "") (h : octets text = gap ++ octets piece ++ rest) :
    ∃ before behind, text = before ++ piece ++ behind ∧ octets before = gap ∧
      octets behind = rest := by
  obtain ⟨before, tail, rfl, hlength⟩ := isValid_iff_exists_append.mp (isValid_of_octets hpiece h)
  rw [octets_append, List.append_assoc] at h
  obtain ⟨hbefore, htail⟩ := List.append_inj h hlength
  obtain ⟨behind, rfl, hbehind⟩ := exists_append_of_octets htail
  exact ⟨before, behind, (String.append_assoc ..).symm, hbefore, hbehind⟩

end BearerAuth.Text
