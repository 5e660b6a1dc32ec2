import Mathlib.Algebra.Ring.Nat
import Mathlib.Tactic.IntervalCases

/-!
# Base64

Three bytes are written as four symbols of six bits. The last group may be shorter: one byte is
written as two symbols and two bytes as three, with or without `=` to fill the group. Decoding here
is strict: the padding has to be there exactly when the encoding writes it, and the bits of the last
symbol that belong to no byte have to be zero. So a byte string has one text, and a text that
decodes is the text of what it decodes to.

Code that uses an encoding needs less: `Base64Engine` is what it relies on, and the two encodings
that are in use are such.

## Main definitions

* `Base64Engine`: an encoding that can be decoded, into texts without a dot
* `Base64`: an alphabet, and whether groups are filled up
* `Base64.standard`, `Base64.urlSafeNoPad`: the two encodings in use
* `encode`, `decode`

## Main results

* `decode_eq_some_iff`: decoding is the inverse of encoding
-/

namespace Termd

/-- An encoding of byte strings into texts without a dot. -/
structure Base64Engine where
  encode : List UInt8 → List UInt8
  decode : List UInt8 → Option (List UInt8)
  encode_nil : encode [] = []
  decode_encode : ∀ bytes, decode (encode bytes) = some bytes
  dot_notMem_encode : ∀ bytes, (0x2e : UInt8) ∉ encode bytes

theorem Base64Engine.decode_nil (engine : Base64Engine) : engine.decode [] = some [] := by
  have hnil := engine.decode_encode []
  rwa [engine.encode_nil] at hnil

/-- An alphabet of 64 symbols other than `=`. -/
structure Base64 where
  symbol : ℕ → UInt8
  value : UInt8 → Option ℕ
  padded : Bool
  value_symbol : ∀ n < 64, value (symbol n) = some n
  symbol_value : ∀ byte n, value byte = some n → n < 64 ∧ symbol n = byte
  symbol_ne : ∀ n < 64, symbol n ≠ 0x3d

namespace Base64

/-! ### The two alphabets -/

/-- Letters and digits, and the last two symbols. -/
def symbolWith (plus slash : UInt8) (n : ℕ) : UInt8 :=
  if n < 26 then UInt8.ofNat (0x41 + n)
  else if n < 52 then UInt8.ofNat (0x61 + (n - 26))
  else if n < 62 then UInt8.ofNat (0x30 + (n - 52))
  else if n = 62 then plus
  else slash

def valueWith (plus slash : UInt8) (byte : UInt8) : Option ℕ :=
  if 0x41 ≤ byte ∧ byte ≤ 0x5a then some (byte.toNat - 0x41)
  else if 0x61 ≤ byte ∧ byte ≤ 0x7a then some (byte.toNat - 0x61 + 26)
  else if 0x30 ≤ byte ∧ byte ≤ 0x39 then some (byte.toNat - 0x30 + 52)
  else if byte = plus then some 62
  else if byte = slash then some 63
  else none

/-- RFC 4648 with padding. -/
def standard : Base64 where
  symbol := symbolWith 0x2b 0x2f
  value := valueWith 0x2b 0x2f
  padded := true
  value_symbol := by decide +kernel
  symbol_value := by
    have hall : ∀ i : Fin 256, ∀ n ∈ valueWith 0x2b 0x2f (UInt8.ofNat i.val),
        n < 64 ∧ symbolWith 0x2b 0x2f n = UInt8.ofNat i.val := by decide +kernel
    intro byte n h
    have hbyte := hall ⟨byte.toNat, byte.toNat_lt⟩ n
    rw [UInt8.ofNat_toNat] at hbyte
    exact hbyte h
  symbol_ne := by decide +kernel

/-- The URL-safe alphabet without padding. -/
def urlSafeNoPad : Base64 where
  symbol := symbolWith 0x2d 0x5f
  value := valueWith 0x2d 0x5f
  padded := false
  value_symbol := by decide +kernel
  symbol_value := by
    have hall : ∀ i : Fin 256, ∀ n ∈ valueWith 0x2d 0x5f (UInt8.ofNat i.val),
        n < 64 ∧ symbolWith 0x2d 0x5f n = UInt8.ofNat i.val := by decide +kernel
    intro byte n h
    have hbyte := hall ⟨byte.toNat, byte.toNat_lt⟩ n
    rw [UInt8.ofNat_toNat] at hbyte
    exact hbyte h
  symbol_ne := by decide +kernel

/-! ### Encoding and decoding -/

variable (e : Base64)

/-- What fills up the last group. -/
def padding (count : ℕ) : List UInt8 := if e.padded then List.replicate count 0x3d else []

def encode : List UInt8 → List UInt8
  | [] => []
  | [a] => [e.symbol (a.toNat / 4), e.symbol (a.toNat % 4 * 16)] ++ e.padding 2
  | [a, b] =>
    [e.symbol (a.toNat / 4), e.symbol (a.toNat % 4 * 16 + b.toNat / 16),
      e.symbol (b.toNat % 16 * 4)] ++ e.padding 1
  | a :: b :: c :: rest =>
    e.symbol (a.toNat / 4) :: e.symbol (a.toNat % 4 * 16 + b.toNat / 16) ::
      e.symbol (b.toNat % 16 * 4 + c.toNat / 64) :: e.symbol (c.toNat % 64) :: encode rest

/-- A last group of two symbols; the last four bits are zero. -/
def decodeOne (w x : UInt8) : Option (List UInt8) :=
  match e.value w, e.value x with
  | some w, some x => if x % 16 = 0 then some [UInt8.ofNat (w * 4 + x / 16)] else none
  | _, _ => none

/-- A last group of three symbols; the last two bits are zero. -/
def decodeTwo (w x y : UInt8) : Option (List UInt8) :=
  match e.value w, e.value x, e.value y with
  | some w, some x, some y =>
    if y % 4 = 0 then
      some [UInt8.ofNat (w * 4 + x / 16), UInt8.ofNat (x % 16 * 16 + y / 4)]
    else none
  | _, _, _ => none

def decodeGroup (w x y z : UInt8) : Option (List UInt8) :=
  match e.value w, e.value x, e.value y, e.value z with
  | some w, some x, some y, some z =>
    some [UInt8.ofNat (w * 4 + x / 16), UInt8.ofNat (x % 16 * 16 + y / 4),
      UInt8.ofNat (y % 4 * 64 + z)]
  | _, _, _, _ => none

def decode : List UInt8 → Option (List UInt8)
  | [] => some []
  | [_] => none
  | [w, x] => if e.padded then none else e.decodeOne w x
  | [w, x, y] => if e.padded then none else e.decodeTwo w x y
  | w :: x :: y :: z :: rest =>
    if e.padded = true ∧ rest = [] ∧ z = 0x3d then
      if y = 0x3d then e.decodeOne w x else e.decodeTwo w x y
    else
      match e.decodeGroup w x y z, decode rest with
      | some bytes, some decoded => some (bytes ++ decoded)
      | _, _ => none

variable {e}

theorem toNat_ofNat {n : ℕ} (h : n < 256) : (UInt8.ofNat n).toNat = n := UInt8.toNat_ofNat_of_lt' h

theorem decodeOne_eq_some {w x : UInt8} {bytes : List UInt8} :
    e.decodeOne w x = some bytes ↔
      ∃ a, bytes = [a] ∧ w = e.symbol (a.toNat / 4) ∧ x = e.symbol (a.toNat % 4 * 16) := by
  constructor
  · intro h
    rw [decodeOne] at h
    split at h
    · rename_i m n hm hn
      obtain ⟨hmlt, rfl⟩ := e.symbol_value w m hm
      obtain ⟨hnlt, rfl⟩ := e.symbol_value x n hn
      split at h
      · cases h
        refine ⟨_, rfl, ?_, ?_⟩ <;> rw [toNat_ofNat (by omega)] <;> congr 1 <;> omega
      · cases h
    · cases h
  · rintro ⟨a, rfl, rfl, rfl⟩
    have ha := a.toNat_lt
    rw [decodeOne, e.value_symbol _ (by omega), e.value_symbol _ (by omega)]
    dsimp only
    rw [if_pos (by omega), show a.toNat / 4 * 4 + a.toNat % 4 * 16 / 16 = a.toNat by omega,
      UInt8.ofNat_toNat]

theorem decodeTwo_eq_some {w x y : UInt8} {bytes : List UInt8} :
    e.decodeTwo w x y = some bytes ↔
      ∃ a b, bytes = [a, b] ∧ w = e.symbol (a.toNat / 4) ∧
        x = e.symbol (a.toNat % 4 * 16 + b.toNat / 16) ∧ y = e.symbol (b.toNat % 16 * 4) := by
  constructor
  · intro h
    rw [decodeTwo] at h
    split at h
    · rename_i m n k hm hn hk
      obtain ⟨hmlt, rfl⟩ := e.symbol_value w m hm
      obtain ⟨hnlt, rfl⟩ := e.symbol_value x n hn
      obtain ⟨hklt, rfl⟩ := e.symbol_value y k hk
      split at h
      · cases h
        have ha := toNat_ofNat (n := m * 4 + n / 16) (by omega)
        have hb := toNat_ofNat (n := n % 16 * 16 + k / 4) (by omega)
        refine ⟨_, _, rfl, ?_, ?_, ?_⟩ <;> congr 1 <;> omega
      · cases h
    · cases h
  · rintro ⟨a, b, rfl, rfl, rfl, rfl⟩
    have ha := a.toNat_lt
    have hb := b.toNat_lt
    rw [decodeTwo, e.value_symbol _ (by omega), e.value_symbol _ (by omega),
      e.value_symbol _ (by omega)]
    dsimp only
    rw [if_pos (by omega),
      show a.toNat / 4 * 4 + (a.toNat % 4 * 16 + b.toNat / 16) / 16 = a.toNat by omega,
      show (a.toNat % 4 * 16 + b.toNat / 16) % 16 * 16 + b.toNat % 16 * 4 / 4 = b.toNat by omega,
      UInt8.ofNat_toNat, UInt8.ofNat_toNat]

theorem decodeGroup_eq_some {w x y z : UInt8} {bytes : List UInt8} :
    e.decodeGroup w x y z = some bytes ↔
      ∃ a b c, bytes = [a, b, c] ∧ w = e.symbol (a.toNat / 4) ∧
        x = e.symbol (a.toNat % 4 * 16 + b.toNat / 16) ∧
        y = e.symbol (b.toNat % 16 * 4 + c.toNat / 64) ∧ z = e.symbol (c.toNat % 64) := by
  constructor
  · intro h
    rw [decodeGroup] at h
    split at h
    · rename_i m n k l hm hn hk hl
      obtain ⟨hmlt, rfl⟩ := e.symbol_value w m hm
      obtain ⟨hnlt, rfl⟩ := e.symbol_value x n hn
      obtain ⟨hklt, rfl⟩ := e.symbol_value y k hk
      obtain ⟨hllt, rfl⟩ := e.symbol_value z l hl
      cases h
      have ha := toNat_ofNat (n := m * 4 + n / 16) (by omega)
      have hb := toNat_ofNat (n := n % 16 * 16 + k / 4) (by omega)
      have hc := toNat_ofNat (n := k % 4 * 64 + l) (by omega)
      refine ⟨_, _, _, rfl, ?_, ?_, ?_, ?_⟩ <;> congr 1 <;> omega
    · cases h
  · rintro ⟨a, b, c, rfl, rfl, rfl, rfl, rfl⟩
    have ha := a.toNat_lt
    have hb := b.toNat_lt
    have hc := c.toNat_lt
    rw [decodeGroup, e.value_symbol _ (by omega), e.value_symbol _ (by omega),
      e.value_symbol _ (by omega), e.value_symbol _ (by omega)]
    dsimp only
    rw [show a.toNat / 4 * 4 + (a.toNat % 4 * 16 + b.toNat / 16) / 16 = a.toNat by omega,
      show (a.toNat % 4 * 16 + b.toNat / 16) % 16 * 16 + (b.toNat % 16 * 4 + c.toNat / 64) / 4 =
        b.toNat by omega,
      show (b.toNat % 16 * 4 + c.toNat / 64) % 4 * 64 + c.toNat % 64 = c.toNat by omega,
      UInt8.ofNat_toNat, UInt8.ofNat_toNat, UInt8.ofNat_toNat]

theorem padding_of_padded (h : e.padded = true) (count : ℕ) :
    e.padding count = List.replicate count 0x3d := if_pos h

theorem padding_of_not_padded (h : e.padded = false) (count : ℕ) : e.padding count = [] :=
  if_neg (by rw [h]; exact Bool.false_ne_true)

/-- A text has no other bytes than symbols and padding. -/
theorem mem_encode {bytes : List UInt8} {byte : UInt8} (h : byte ∈ e.encode bytes) :
    (∃ n < 64, byte = e.symbol n) ∨ byte = 0x3d := by
  have hpadding (count : ℕ) : ∀ byte ∈ e.padding count, byte = 0x3d := by
    intro byte hmem
    unfold padding at hmem
    split_ifs at hmem
    · exact List.eq_of_mem_replicate hmem
    · cases hmem
  induction bytes using encode.induct with
  | case1 => cases h
  | case2 a =>
    have ha := a.toNat_lt
    rw [encode, List.mem_append] at h
    simp only [List.mem_cons, List.not_mem_nil, or_false] at h
    rcases h with (rfl | rfl) | h
    · exact .inl ⟨_, by omega, rfl⟩
    · exact .inl ⟨_, by omega, rfl⟩
    · exact .inr (hpadding _ _ h)
  | case3 a b =>
    have ha := a.toNat_lt
    have hb := b.toNat_lt
    rw [encode, List.mem_append] at h
    simp only [List.mem_cons, List.not_mem_nil, or_false] at h
    rcases h with (rfl | rfl | rfl) | h
    · exact .inl ⟨_, by omega, rfl⟩
    · exact .inl ⟨_, by omega, rfl⟩
    · exact .inl ⟨_, by omega, rfl⟩
    · exact .inr (hpadding _ _ h)
  | case4 a b c rest ih =>
    have ha := a.toNat_lt
    have hb := b.toNat_lt
    have hc := c.toNat_lt
    rw [encode] at h
    simp only [List.mem_cons] at h
    rcases h with rfl | rfl | rfl | rfl | h
    · exact .inl ⟨_, by omega, rfl⟩
    · exact .inl ⟨_, by omega, rfl⟩
    · exact .inl ⟨_, by omega, rfl⟩
    · exact .inl ⟨_, by omega, rfl⟩
    · exact ih h

/-- A dot separates texts. -/
theorem dot_notMem_encode (hsymbols : ∀ n < 64, (0x2e : UInt8) ≠ e.symbol n)
    (bytes : List UInt8) : (0x2e : UInt8) ∉ e.encode bytes := by
  intro hmem
  rcases mem_encode hmem with ⟨n, hn, hbyte⟩ | hbyte
  · exact hsymbols n hn hbyte
  · exact absurd hbyte (by decide)

/-- Decoding reads back what was encoded. -/
theorem decode_encode (bytes : List UInt8) : e.decode (e.encode bytes) = some bytes := by
  induction bytes using encode.induct with
  | case1 => rfl
  | case2 a =>
    have hgroup := decodeOne_eq_some (e := e).mpr ⟨a, rfl, rfl, rfl⟩
    rcases hpad : e.padded with _ | _
    · rw [encode, padding_of_not_padded hpad, List.append_nil, decode, if_neg (by rw [hpad]; simp),
        hgroup]
    · rw [encode, padding_of_padded hpad]
      change decode e [_, _, 0x3d, 0x3d] = _
      rw [decode, if_pos ⟨hpad, rfl, rfl⟩, if_pos rfl, hgroup]
  | case3 a b =>
    have hgroup := decodeTwo_eq_some (e := e).mpr ⟨a, b, rfl, rfl, rfl, rfl⟩
    rcases hpad : e.padded with _ | _
    · rw [encode, padding_of_not_padded hpad, List.append_nil, decode, if_neg (by rw [hpad]; simp),
        hgroup]
    · have hb := b.toNat_lt
      rw [encode, padding_of_padded hpad]
      change decode e [_, _, _, 0x3d] = _
      rw [decode, if_pos ⟨hpad, rfl, rfl⟩, if_neg (e.symbol_ne _ (by omega)), hgroup]
  | case4 a b c rest ih =>
    have hgroup := decodeGroup_eq_some (e := e).mpr ⟨a, b, c, rfl, rfl, rfl, rfl, rfl⟩
    rw [encode, decode, if_neg fun h => e.symbol_ne _ (Nat.mod_lt _ (by decide)) h.2.2, hgroup, ih]
    rfl

/-- What decodes is what the bytes are encoded as. -/
theorem encode_of_decode {text bytes : List UInt8} (h : e.decode text = some bytes) :
    e.encode bytes = text := by
  induction text using decode.induct e generalizing bytes with
  | case1 => cases h; rfl
  | case2 => cases h
  | case3 w x hpad => rw [decode, if_pos hpad] at h; cases h
  | case4 w x hpad =>
    rw [decode, if_neg hpad] at h
    obtain ⟨a, rfl, rfl, rfl⟩ := decodeOne_eq_some.mp h
    rw [encode, padding_of_not_padded (Bool.not_eq_true _ ▸ hpad), List.append_nil]
  | case5 w x y hpad => rw [decode, if_pos hpad] at h; cases h
  | case6 w x y hpad =>
    rw [decode, if_neg hpad] at h
    obtain ⟨a, b, rfl, rfl, rfl, rfl⟩ := decodeTwo_eq_some.mp h
    rw [encode, padding_of_not_padded (Bool.not_eq_true _ ▸ hpad), List.append_nil]
  | case7 w x z rest hlast =>
    rw [decode, if_pos hlast, if_pos rfl] at h
    obtain ⟨a, rfl, rfl, rfl⟩ := decodeOne_eq_some.mp h
    rw [encode, padding_of_padded hlast.1, hlast.2.1, hlast.2.2]
    rfl
  | case8 w x y z rest hlast hy =>
    rw [decode, if_pos hlast, if_neg hy] at h
    obtain ⟨a, b, rfl, rfl, rfl, rfl⟩ := decodeTwo_eq_some.mp h
    rw [encode, padding_of_padded hlast.1, hlast.2.1, hlast.2.2]
    rfl
  | case9 w x y z rest hlast group decoded hdecoded hgroup ih =>
    rw [decode, if_neg hlast, hgroup, hdecoded] at h
    cases h
    obtain ⟨a, b, c, rfl, rfl, rfl, rfl, rfl⟩ := decodeGroup_eq_some.mp hgroup
    rw [List.cons_append, List.cons_append, List.cons_append, List.nil_append, encode, ih hdecoded]
  | case10 w x y z rest hlast hnone ih =>
    rw [decode, if_neg hlast] at h
    split at h
    · rename_i group decoded hgroup hdecoded
      exact absurd hdecoded (hnone group decoded hgroup)
    · cases h

/-- **Decoding is the inverse of encoding.** -/
theorem decode_eq_some_iff {text bytes : List UInt8} :
    e.decode text = some bytes ↔ e.encode bytes = text :=
  ⟨encode_of_decode, fun h => h ▸ decode_encode bytes⟩

def engine (e : Base64) (hsymbols : ∀ n < 64, (0x2e : UInt8) ≠ e.symbol n) : Base64Engine where
  encode := e.encode
  decode := e.decode
  encode_nil := rfl
  decode_encode := decode_encode
  dot_notMem_encode := dot_notMem_encode hsymbols

def standardEngine : Base64Engine := standard.engine (by decide +kernel)

def urlSafeNoPadEngine : Base64Engine := urlSafeNoPad.engine (by decide +kernel)

end Base64

end Termd
