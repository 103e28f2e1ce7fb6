import BearerAuth.Token.Compact
import Mathlib.Data.List.Basic

/-! Cutting a token at its first two dots and at its last two. Either cut gives the octets
back when its segments are joined; each leaves further dots in one segment only, so the cuts
agree exactly on the tokens that have two dots. -/

namespace BearerAuth.Token

/-! ## One cut -/

theorem cutFirst?_append {before : List UInt8} (h : dot ∉ before) (behind : List UInt8) :
    cutFirst? (before ++ dot :: behind) = some (before, behind) := by
  induction before with
  | nil => rfl
  | cons b before ih =>
      rw [List.mem_cons, not_or] at h
      rw [List.cons_append, cutFirst?, if_neg (Ne.symm h.1), ih h.2]
      rfl

theorem cutFirst?_eq_none {bytes : List UInt8} : cutFirst? bytes = none ↔ dot ∉ bytes := by
  induction bytes with
  | nil => simp [cutFirst?]
  | cons b bs ih =>
      by_cases hb : b = dot
      · simp [cutFirst?, hb]
      · simp [cutFirst?, hb, ih, Ne.symm hb]

theorem cutLast?_append {behind : List UInt8} (h : dot ∉ behind) (before : List UInt8) :
    cutLast? (before ++ dot :: behind) = some (before, behind) := by
  induction before with
  | nil => simp [cutLast?, cutLast?_eq_none.mpr h]
  | cons b before ih => rw [List.cons_append, cutLast?, ih]

/-! ## Three segments -/

namespace Compact

/-- A cut at the first two dots leaves no dot in front of them. -/
theorem ofFirstDots_eq_ok_iff {bytes : List UInt8} {token : Compact} :
    ofFirstDots bytes = .ok token ↔
      bytes = token.bytes ∧ dot ∉ token.header ∧ dot ∉ token.claims := by
  constructor
  · intro h
    unfold ofFirstDots at h
    split at h
    · contradiction
    · rename_i header rest hheader
      split at h
      · contradiction
      · rename_i claims signature hclaims
        cases h
        obtain ⟨hbytes, hheader⟩ := cutFirst?_spec hheader
        obtain ⟨hrest, hclaims⟩ := cutFirst?_spec hclaims
        exact ⟨by simp [hbytes, hrest, Compact.bytes, message], hheader, hclaims⟩
  · rintro ⟨rfl, hheader, hclaims⟩
    simp only [ofFirstDots, Compact.bytes, message, List.append_assoc, List.cons_append,
      cutFirst?_append hheader, cutFirst?_append hclaims]

/-- A cut at the last two dots leaves no dot behind the first of them. -/
theorem ofLastDots?_eq_some_iff {bytes : List UInt8} {token : Compact} :
    ofLastDots? bytes = some token ↔
      bytes = token.bytes ∧ dot ∉ token.claims ∧ dot ∉ token.signature := by
  constructor
  · intro h
    simp only [ofLastDots?, Option.bind_eq_bind, Option.bind_eq_some_iff] at h
    obtain ⟨⟨message, signature⟩, hsignature, ⟨header, claims⟩, hclaims, h⟩ := h
    cases h
    obtain ⟨hbytes, hsignature⟩ := cutLast?_spec hsignature
    obtain ⟨hmessage, hclaims⟩ := cutLast?_spec hclaims
    dsimp only at hmessage
    exact ⟨by rw [hbytes, hmessage]; rfl, hclaims, hsignature⟩
  · rintro ⟨rfl, hclaims, hsignature⟩
    simp only [ofLastDots?, Compact.bytes, message, cutLast?_append hsignature,
      cutLast?_append hclaims, Option.bind_eq_bind, Option.bind_some]
    rfl

theorem count_dot_bytes (token : Compact) :
    token.bytes.count dot =
      token.header.count dot + token.claims.count dot + token.signature.count dot + 2 := by
  simp [Compact.bytes, message, List.count_append]
  omega

theorem exists_ofFirstDots_iff {bytes : List UInt8} :
    (∃ token, ofFirstDots bytes = .ok token) ↔ 2 ≤ bytes.count dot := by
  constructor
  · rintro ⟨token, htoken⟩
    rw [(ofFirstDots_eq_ok_iff.mp htoken).1, count_dot_bytes]
    omega
  · intro h
    unfold ofFirstDots
    cases hheader : cutFirst? bytes with
    | none =>
        rw [List.count_eq_zero.mpr (cutFirst?_eq_none.mp hheader)] at h
        omega
    | some first =>
        cases hclaims : cutFirst? first.2 with
        | none =>
            obtain ⟨hbytes, hfirst⟩ := cutFirst?_spec hheader
            rw [hbytes, List.count_append, List.count_eq_zero.mpr hfirst, List.count_cons_self,
              List.count_eq_zero.mpr (cutFirst?_eq_none.mp hclaims)] at h
            omega
        | some second => exact ⟨_, by simp only [hclaims]; rfl⟩

theorem count_dot_eq_two {token : Compact} (hheader : dot ∉ token.header)
    (hclaims : dot ∉ token.claims) (hsignature : dot ∉ token.signature) :
    token.bytes.count dot = 2 := by
  rw [count_dot_bytes, List.count_eq_zero.mpr hheader, List.count_eq_zero.mpr hclaims,
    List.count_eq_zero.mpr hsignature]

theorem bytes_inj {token cut : Compact} (h : token.bytes = cut.bytes)
    (hcount : cut.bytes.count dot = 2) : token = cut := by
  have hnone (other : Compact) (hother : other.bytes = cut.bytes) :
      dot ∉ other.header ∧ dot ∉ other.claims := by
    have hdots := count_dot_bytes other
    rw [hother, hcount] at hdots
    exact ⟨List.count_eq_zero.mp (by omega), List.count_eq_zero.mp (by omega)⟩
  have htoken := ofFirstDots_eq_ok_iff.mpr ⟨rfl, hnone token h⟩
  have hcut := ofFirstDots_eq_ok_iff.mpr ⟨rfl, hnone cut rfl⟩
  rw [h, hcut] at htoken
  exact (Except.ok.inj htoken).symm

/-- Further dots end up in the header of a cut at the last two dots. -/
theorem dot_mem_header_of_ofLastDots? {token cut : Compact}
    (h : ofLastDots? token.bytes = some cut) (hdot : dot ∈ token.signature) :
    dot ∈ cut.header := by
  obtain ⟨hbytes, hclaims, hsignature⟩ := ofLastDots?_eq_some_iff.mp h
  have hcount := congrArg (List.count dot) hbytes
  rw [count_dot_bytes, count_dot_bytes, List.count_eq_zero.mpr hclaims,
    List.count_eq_zero.mpr hsignature] at hcount
  have hpos := List.count_pos_iff.mpr hdot
  exact List.count_pos_iff.mp (by omega)

end Compact

/-! ## Dots in a text -/

/-- Only the dot is written with the octet of a dot. Longer characters have octets above 127. -/
theorem count_dot_utf8EncodeChar (c : Char) :
    (String.utf8EncodeChar c).count dot = if c = '.' then 1 else 0 := by
  have hdot (n : Nat) (hn : n < 256) : UInt8.ofNat n = dot ↔ n = 46 := by
    rw [← UInt8.toNat_inj, UInt8.toNat_ofNat', Nat.mod_eq_of_lt hn]
    rfl
  have hc : c = '.' ↔ c.val.toNat = 46 := by
    rw [Char.ext_iff, ← UInt32.toNat_inj]
    rfl
  unfold String.utf8EncodeChar
  simp only [hc]
  split_ifs <;> simp only [List.count_cons, List.count_nil, beq_iff_eq] <;>
    simp (disch := omega) only [hdot] <;> split_ifs <;> omega

theorem count_dot_octets (token : String) :
    (Text.octets token).count dot = token.toList.count '.' := by
  have hoctets : Text.octets token = token.toList.flatMap String.utf8EncodeChar := by
    rw [Text.octets, String.toUTF8, ← String.utf8Encode_toList, List.utf8Encode,
      List.toList_data_toByteArray]
  rw [hoctets, List.count_flatMap]
  induction token.toList with
  | nil => rfl
  | cons c text ih =>
      rw [List.map_cons, List.sum_cons, ih, List.count_cons, Function.comp_apply,
        count_dot_utf8EncodeChar, Nat.add_comm]
      simp

end BearerAuth.Token
