import BearerAuth.Base64Url
import BearerAuth.Proofs.Outcome

/-! Reading and writing base64url text are inverse to each other. A list of octets has one
written form, so whatever is read successfully is already canonical. -/

namespace BearerAuth.Base64Url

/-! ## Symbols -/

theorem value?_symbol : ∀ n < 64, value? (symbol n) = some n := by decide

theorem value?_eq_some {b : UInt8} {n : Nat} (h : value? b = some n) : n < 64 ∧ symbol n = b := by
  have hall : ∀ m < 256, ∀ n ∈ value? (UInt8.ofNat m), n < 64 ∧ symbol n = UInt8.ofNat m := by
    decide +kernel
  have hb := hall b.toNat b.toNat_lt n
  rw [UInt8.ofNat_toNat] at hb
  exact hb h

theorem valueAt_eq_ok {offset n : Nat} {b : UInt8} (h : valueAt offset b = .ok n) :
    n < 64 ∧ symbol n = b := by
  unfold valueAt at h
  split at h
  · rename_i m hm
    cases h
    exact value?_eq_some hm
  · contradiction

theorem valueAt_symbol (offset : Nat) {n : Nat} (h : n < 64) :
    valueAt offset (symbol n) = .ok n := by
  rw [valueAt, value?_symbol n h]

theorem symbol_ne_padding {n : Nat} (h : n < 64) : symbol n ≠ padding := by
  intro hp
  have hv := value?_symbol n h
  rw [hp] at hv
  contradiction

theorem symbols_encode (bytes : List UInt8) : ∀ b ∈ encode bytes, ∃ n < 64, symbol n = b := by
  fun_induction encode bytes with
  | case1 => simp
  | case2 x =>
      have hx := x.toNat_lt
      simp only [List.mem_cons, List.not_mem_nil, or_false]
      rintro b (rfl | rfl)
      · exact ⟨_, by omega, rfl⟩
      · exact ⟨_, by omega, rfl⟩
  | case3 x y =>
      have hx := x.toNat_lt
      have hy := y.toNat_lt
      simp only [List.mem_cons, List.not_mem_nil, or_false]
      rintro b (rfl | rfl | rfl)
      · exact ⟨_, by omega, rfl⟩
      · exact ⟨_, by omega, rfl⟩
      · exact ⟨_, by omega, rfl⟩
  | case4 x y z rest ih =>
      have hx := x.toNat_lt
      have hy := y.toNat_lt
      have hz := z.toNat_lt
      simp only [List.mem_cons]
      rintro b (rfl | rfl | rfl | rfl | hb)
      · exact ⟨_, by omega, rfl⟩
      · exact ⟨_, by omega, rfl⟩
      · exact ⟨_, by omega, rfl⟩
      · exact ⟨_, by omega, rfl⟩
      · exact ih b hb

theorem not_mem_encode {b : UInt8} (h : value? b = none) (bytes : List UInt8) :
    b ∉ encode bytes := by
  intro hb
  obtain ⟨n, hn, rfl⟩ := symbols_encode bytes b hb
  rw [value?_symbol n hn] at h
  contradiction

theorem encode_visible (bytes : List UInt8) :
    ∀ b ∈ encode bytes, 33 ≤ b.toNat ∧ b.toNat < 127 := by
  intro b hb
  obtain ⟨n, hn, rfl⟩ := symbols_encode bytes b hb
  have hall : ∀ n < 64, 33 ≤ (symbol n).toNat ∧ (symbol n).toNat < 127 := by decide
  exact hall n hn

theorem encode_lt (bytes : List UInt8) : ∀ b ∈ encode bytes, b.toNat < 128 := fun b hb =>
  Nat.lt_succ_of_lt (encode_visible bytes b hb).2

/-! ## The last group -/

theorem lastValues_symbols (start place : Nat) (values : List Nat) (h : ∀ n ∈ values, n < 64) :
    lastValues start place none (values.map symbol) = .ok (values, none) := by
  induction values generalizing place with
  | nil => rfl
  | cons n values ih =>
      have hn : n < 64 := h n (by simp)
      have hrest := ih (place + 1) (fun m hm => h m (by simp [hm]))
      simp only [List.map_cons, lastValues, if_neg (symbol_ne_padding hn), valueAt_symbol _ hn,
        hrest]
      rfl

theorem lastValues_eq_ok {start place : Nat} {pad : Option Nat} {group : List UInt8}
    {values : List Nat} (h : lastValues start place pad group = .ok (values, none)) :
    pad = none ∧ group = values.map symbol ∧ ∀ n ∈ values, n < 64 := by
  induction group generalizing place pad values with
  | nil =>
      simp only [lastValues, Except.ok.injEq, Prod.mk.injEq] at h
      obtain ⟨rfl, rfl⟩ := h
      simp
  | cons b rest ih =>
      simp only [lastValues] at h
      split at h
      · split at h
        · contradiction
        · obtain ⟨hpad, -, -⟩ := ih h
          cases pad <;> simp at hpad
      · cases pad with
        | some offset => contradiction
        | none =>
            obtain ⟨n, hb, h⟩ := bind_eq_ok.mp h
            obtain ⟨⟨others, found⟩, hrest, h⟩ := bind_eq_ok.mp h
            cases h
            obtain ⟨-, hgroup, hlt⟩ := ih hrest
            obtain ⟨hn, rfl⟩ := valueAt_eq_ok hb
            refine ⟨rfl, by rw [hgroup]; rfl, ?_⟩
            intro m hm
            rcases List.mem_cons.mp hm with rfl | hm
            · exact hn
            · exact hlt m hm

theorem decodeLast_symbols (start : Nat) (values : List Nat) (h : ∀ n ∈ values, n < 64)
    (hlength : 2 ≤ values.length) :
    decodeLast start (values.map symbol) = lastOctets start (values.map symbol) values := by
  have hshort : ¬ values.length < 2 := by omega
  simp only [decodeLast, lastValues_symbols start 0 values h, ok_bind, if_neg hshort,
    Option.isSome_none, Bool.false_eq_true, if_false]

theorem decodeLast_eq_ok {start : Nat} {group bytes : List UInt8}
    (h : decodeLast start group = .ok bytes) :
    ∃ values, group = values.map symbol ∧ (∀ n ∈ values, n < 64) ∧
      lastOctets start group values = .ok bytes := by
  unfold decodeLast at h
  obtain ⟨⟨values, pad⟩, hv, h⟩ := bind_eq_ok.mp h
  dsimp only at h
  split at h
  · contradiction
  · cases pad with
    | some offset => simp at h
    | none =>
        obtain ⟨-, hgroup, hlt⟩ := lastValues_eq_ok hv
        exact ⟨values, hgroup, hlt, by simpa using h⟩

/-! ## Whole texts -/

theorem ofNat_eq {n : Nat} {x : UInt8} (h : n = x.toNat) : UInt8.ofNat n = x := by
  rw [h, UInt8.ofNat_toNat]

theorem toNat_ofNat {n : Nat} (h : n < 256) : (UInt8.ofNat n).toNat = n :=
  UInt8.toNat_ofNat_of_lt' h

theorem encode_eq_nil {bytes : List UInt8} : encode bytes = [] ↔ bytes = [] := by
  fun_cases encode bytes <;> simp

theorem decodeFrom_symbols (start : Nat) (values : List Nat) (h : ∀ n ∈ values, n < 64)
    (hlow : 2 ≤ values.length) (hhigh : values.length ≤ 4) :
    decodeFrom start (values.map symbol) = lastOctets start (values.map symbol) values := by
  rw [decodeFrom, decodeLast_symbols start values h hlow]
  · intro hnil
    have hlength := congrArg List.length hnil
    rw [List.length_map, List.length_nil] at hlength
    omega
  · intro a b c d e rest hlong
    have hlength := congrArg List.length hlong
    simp only [List.length_map, List.length_cons] at hlength
    omega

theorem decodeFrom_encode (start : Nat) (bytes : List UInt8) :
    decodeFrom start (encode bytes) = .ok bytes := by
  fun_induction encode bytes generalizing start with
  | case1 => rfl
  | case2 x =>
      have hx := x.toNat_lt
      have hlast := decodeFrom_symbols start [x.toNat / 4, x.toNat % 4 * 16]
        (by simp; omega) (by simp) (by simp)
      simp only [List.map_cons, List.map_nil, lastOctets] at hlast
      rw [hlast, if_pos (by omega), ofNat_eq (x := x) (by omega)]
  | case3 x y =>
      have hx := x.toNat_lt
      have hy := y.toNat_lt
      have hlast := decodeFrom_symbols start
        [x.toNat / 4, x.toNat % 4 * 16 + y.toNat / 16, y.toNat % 16 * 4]
        (by simp; omega) (by simp) (by simp)
      simp only [List.map_cons, List.map_nil, lastOctets] at hlast
      rw [hlast, if_pos (by omega), ofNat_eq (x := x) (by omega), ofNat_eq (x := y) (by omega)]
  | case4 x y z rest ih =>
      have hx := x.toNat_lt
      have hy := y.toNat_lt
      have hz := z.toNat_lt
      have hx' : x.toNat / 4 * 4 + (x.toNat % 4 * 16 + y.toNat / 16) / 16 = x.toNat := by omega
      have hy' : (x.toNat % 4 * 16 + y.toNat / 16) % 16 * 16 +
          (y.toNat % 16 * 4 + z.toNat / 64) / 4 = y.toNat := by omega
      have hz' : (y.toNat % 16 * 4 + z.toNat / 64) % 4 * 64 + z.toNat % 64 = z.toNat := by omega
      cases hrest : encode rest with
      | nil =>
          obtain rfl := encode_eq_nil.mp hrest
          have hlast := decodeFrom_symbols start
            [x.toNat / 4, x.toNat % 4 * 16 + y.toNat / 16, y.toNat % 16 * 4 + z.toNat / 64,
              z.toNat % 64]
            (by simp; omega) (by simp) (by simp)
          simp only [List.map_cons, List.map_nil, lastOctets] at hlast
          rw [hlast, ofNat_eq hx', ofNat_eq hy', ofNat_eq hz']
      | cons e others =>
          have hothers := ih (start + 4)
          rw [hrest] at hothers
          simp only [decodeFrom, hothers, ok_bind, pure, Except.pure,
            valueAt_symbol start (n := x.toNat / 4) (by omega),
            valueAt_symbol (start + 1) (n := x.toNat % 4 * 16 + y.toNat / 16) (by omega),
            valueAt_symbol (start + 2) (n := y.toNat % 16 * 4 + z.toNat / 64) (by omega),
            valueAt_symbol (start + 3) (n := z.toNat % 64) (by omega)]
          rw [ofNat_eq hx', ofNat_eq hy', ofNat_eq hz']

/-- Four symbols are the written form of the three octets that they stand for. -/
theorem encode_group {a b c d : Nat} (ha : a < 64) (hb : b < 64) (hc : c < 64) (hd : d < 64)
    (rest : List UInt8) :
    encode (UInt8.ofNat (a * 4 + b / 16) :: UInt8.ofNat (b % 16 * 16 + c / 4) ::
        UInt8.ofNat (c % 4 * 64 + d) :: rest) =
      symbol a :: symbol b :: symbol c :: symbol d :: encode rest := by
  simp only [encode, toNat_ofNat (n := a * 4 + b / 16) (by omega),
    toNat_ofNat (n := b % 16 * 16 + c / 4) (by omega), toNat_ofNat (n := c % 4 * 64 + d) (by omega)]
  have ha' : (a * 4 + b / 16) / 4 = a := by omega
  have hb' : (a * 4 + b / 16) % 4 * 16 + (b % 16 * 16 + c / 4) / 16 = b := by omega
  have hc' : (b % 16 * 16 + c / 4) % 16 * 4 + (c % 4 * 64 + d) / 64 = c := by omega
  have hd' : (c % 4 * 64 + d) % 64 = d := by omega
  rw [ha', hb', hc', hd']

/-- A last group that can be read is the written form of its octets. -/
theorem encode_of_lastOctets {start : Nat} {group bytes : List UInt8} {values : List Nat}
    (hlt : ∀ n ∈ values, n < 64) (h : lastOctets start group values = .ok bytes) :
    encode bytes = values.map symbol := by
  unfold lastOctets at h
  split at h
  · rename_i a b
    simp only [List.mem_cons, List.not_mem_nil, or_false, forall_eq_or_imp, forall_eq] at hlt
    split at h
    · cases h
      have ha : (a * 4 + b / 16) / 4 = a := by omega
      have hb : (a * 4 + b / 16) % 4 * 16 = b := by omega
      rw [encode, toNat_ofNat (by omega), ha, hb]
      rfl
    · contradiction
  · rename_i a b c
    simp only [List.mem_cons, List.not_mem_nil, or_false, forall_eq_or_imp, forall_eq] at hlt
    split at h
    · cases h
      have ha : (a * 4 + b / 16) / 4 = a := by omega
      have hb : (a * 4 + b / 16) % 4 * 16 + (b % 16 * 16 + c / 4) / 16 = b := by omega
      have hc : (b % 16 * 16 + c / 4) % 16 * 4 = c := by omega
      rw [encode, toNat_ofNat (by omega), toNat_ofNat (by omega), ha, hb, hc]
      rfl
    · contradiction
  · rename_i a b c d
    simp only [List.mem_cons, List.not_mem_nil, or_false, forall_eq_or_imp, forall_eq] at hlt
    cases h
    obtain ⟨ha, hb, hc, hd⟩ := hlt
    rw [encode_group ha hb hc hd]
    rfl
  · contradiction

theorem encode_of_decodeFrom {start : Nat} {text bytes : List UInt8}
    (h : decodeFrom start text = .ok bytes) : text = encode bytes := by
  fun_induction decodeFrom start text generalizing bytes with
  | case1 =>
      cases h
      rfl
  | case2 start a b c d e rest ih =>
      simp only [bind_eq_ok] at h
      obtain ⟨a', ha, b', hb, c', hc, d', hd, others, ho, h⟩ := h
      obtain ⟨ha64, rfl⟩ := valueAt_eq_ok ha
      obtain ⟨hb64, rfl⟩ := valueAt_eq_ok hb
      obtain ⟨hc64, rfl⟩ := valueAt_eq_ok hc
      obtain ⟨hd64, rfl⟩ := valueAt_eq_ok hd
      cases h
      rw [encode_group ha64 hb64 hc64 hd64, ← ih ho]
  | case3 start group _ _ =>
      obtain ⟨values, hgroup, hlt, hlast⟩ := decodeLast_eq_ok h
      rw [hgroup, encode_of_lastOctets hlt hlast]

theorem strayLast?_encode (bytes : List UInt8) : strayLast? (encode bytes) = none := by
  unfold strayLast?
  split
  · rw [Option.filter_eq_none_iff]
    intro b hb
    obtain ⟨n, hn, rfl⟩ := symbols_encode bytes b (List.mem_of_getLast? hb)
    simp [value?_symbol n hn]
  · rfl

/-- What has been written is read back. -/
theorem decode_encode (bytes : List UInt8) : decode (encode bytes) = .ok bytes := by
  rw [decode, strayLast?_encode]
  exact decodeFrom_encode 0 bytes

/-- Only the written form of octets is read as these octets. -/
theorem encode_of_decode {text bytes : List UInt8} (h : decode text = .ok bytes) :
    text = encode bytes := by
  unfold decode at h
  split at h
  · contradiction
  · exact encode_of_decodeFrom h

theorem decode_eq_ok_iff {text bytes : List UInt8} :
    decode text = .ok bytes ↔ text = encode bytes :=
  ⟨encode_of_decode, fun h => h ▸ decode_encode bytes⟩

theorem encode_inj {bytes others : List UInt8} (h : encode bytes = encode others) :
    bytes = others := by
  have hd := decode_encode bytes
  rw [h, decode_encode] at hd
  exact (Except.ok.inj hd).symm

theorem decode_eq_error {text : List UInt8} {b : UInt8} (hb : b ∈ text) (h : value? b = none) :
    ∃ error, decode text = .error error := by
  cases hd : decode text with
  | error error => exact ⟨error, rfl⟩
  | ok bytes =>
      rw [encode_of_decode hd] at hb
      exact absurd hb (not_mem_encode h bytes)

end BearerAuth.Base64Url
