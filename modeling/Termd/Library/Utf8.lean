import Mathlib.Data.UInt

/-!
# Incremental UTF-8

A decoder that is fed byte by byte has to tell an encoding that is not finished from one that
can no longer be finished. `fromUtf8` follows the table of well-formed byte sequences: the second
byte of a three or four byte sequence is restricted by the first, which excludes overlong forms,
surrogates and values beyond U+10FFFF.

## Main definitions

* `fromUtf8 bytes`: the characters, or whether the input ends early or is invalid
* `encodeUtf8 c`: the encoding of a character
* `Waiting bytes`: an encoding that has begun and can still be finished

## Main results

* `exists_encodeUtf8_eq`: a decoder that is fed an encoding waits until the last byte and then
  returns the character
* `le_toNat_of_fromUtf8`: bytes beyond ASCII decode to characters beyond ASCII
-/

namespace Termd

/-- What a validating decoder says about its input. -/
inductive Utf8Result
  | ok (chars : List Char)
  | incomplete
  | invalid
deriving DecidableEq

/-- A character in front of what follows it. -/
def Utf8Result.cons (code : ℕ) : Utf8Result → Utf8Result
  | .ok chars => .ok (Char.ofNat code :: chars)
  | .incomplete => .incomplete
  | .invalid => .invalid

/-- A byte of the range `lo ..= hi`. -/
def inRange (lo hi byte : UInt8) : Bool := lo ≤ byte && byte ≤ hi

theorem inRange_iff {lo hi byte : UInt8} :
    inRange lo hi byte = true ↔ lo.toNat ≤ byte.toNat ∧ byte.toNat ≤ hi.toNat := by
  simp [inRange, UInt8.le_iff_toNat_le]

/-- A continuation byte. -/
def isContinuation (byte : UInt8) : Bool := inRange 0x80 0xbf byte

/-- The second bytes allowed after the first byte of a three byte sequence. -/
def isSecondOfThree (first second : UInt8) : Bool :=
  (first == 0xe0 && inRange 0xa0 0xbf second) ||
  (inRange 0xe1 0xec first && inRange 0x80 0xbf second) ||
  (first == 0xed && inRange 0x80 0x9f second) ||
  (inRange 0xee 0xef first && inRange 0x80 0xbf second)

/-- The second bytes allowed after the first byte of a four byte sequence. -/
def isSecondOfFour (first second : UInt8) : Bool :=
  (first == 0xf0 && inRange 0x90 0xbf second) ||
  (inRange 0xf1 0xf3 first && inRange 0x80 0xbf second) ||
  (first == 0xf4 && inRange 0x80 0x8f second)

/-- The payload of a continuation byte. -/
def low6 (byte : UInt8) : ℕ := byte.toNat % 64

/-- Validation and decoding of a byte string. -/
def fromUtf8 : List UInt8 → Utf8Result
  | [] => .ok []
  | b0 :: rest =>
    if b0 < 0x80 then (fromUtf8 rest).cons b0.toNat
    else if inRange 0xc2 0xdf b0 then
      match rest with
      | [] => .incomplete
      | b1 :: rest =>
        if isContinuation b1 then (fromUtf8 rest).cons (b0.toNat % 32 * 64 + low6 b1)
        else .invalid
    else if inRange 0xe0 0xef b0 then
      match rest with
      | [] => .incomplete
      | b1 :: rest =>
        if isSecondOfThree b0 b1 then
          match rest with
          | [] => .incomplete
          | b2 :: rest =>
            if isContinuation b2 then
              (fromUtf8 rest).cons ((b0.toNat % 16 * 64 + low6 b1) * 64 + low6 b2)
            else .invalid
        else .invalid
    else if inRange 0xf0 0xf4 b0 then
      match rest with
      | [] => .incomplete
      | b1 :: rest =>
        if isSecondOfFour b0 b1 then
          match rest with
          | [] => .incomplete
          | b2 :: rest =>
            if isContinuation b2 then
              match rest with
              | [] => .incomplete
              | b3 :: rest =>
                if isContinuation b3 then
                  (fromUtf8 rest).cons
                    (((b0.toNat % 8 * 64 + low6 b1) * 64 + low6 b2) * 64 + low6 b3)
                else .invalid
            else .invalid
        else .invalid
    else .invalid

/-- The encoding of a character. -/
def encodeUtf8 (c : Char) : List UInt8 :=
  let n := c.toNat
  if n < 0x80 then [UInt8.ofNat n]
  else if n < 0x800 then [UInt8.ofNat (0xc0 + n / 64), UInt8.ofNat (0x80 + n % 64)]
  else if n < 0x10000 then
    [UInt8.ofNat (0xe0 + n / 4096), UInt8.ofNat (0x80 + n / 64 % 64), UInt8.ofNat (0x80 + n % 64)]
  else
    [UInt8.ofNat (0xf0 + n / 262144), UInt8.ofNat (0x80 + n / 4096 % 64),
      UInt8.ofNat (0x80 + n / 64 % 64), UInt8.ofNat (0x80 + n % 64)]

section RoundTrip

variable {c : Char}

theorem toNat_lt_of_char (c : Char) :
    c.toNat < 0x110000 ∧ ¬(0xd800 ≤ c.toNat ∧ c.toNat < 0xe000) := by
  have h := c.valid
  change c.toNat < 0xd800 ∨ 0xdfff < c.toNat ∧ c.toNat < 0x110000 at h
  omega

theorem toNat_ofNat_byte {n : ℕ} (h : n < 256) : (UInt8.ofNat n).toNat = n :=
  UInt8.toNat_ofNat_of_lt' h

theorem inRange_ofNat {lo hi : UInt8} {n : ℕ} (h : n < 256) :
    inRange lo hi (UInt8.ofNat n) = decide (lo.toNat ≤ n ∧ n ≤ hi.toNat) := by
  rw [Bool.eq_iff_iff, inRange_iff, toNat_ofNat_byte h, decide_eq_true_iff]

theorem not_ofNat_lt_ascii {n : ℕ} (h : n < 256) (h' : 0x80 ≤ n) : ¬UInt8.ofNat n < 0x80 := by
  rw [UInt8.lt_iff_toNat_lt, toNat_ofNat_byte h]
  exact Nat.not_lt.mpr h'

theorem isContinuation_ofNat (n : ℕ) : isContinuation (UInt8.ofNat (0x80 + n % 64)) = true := by
  rw [isContinuation, inRange_ofNat (by omega), decide_eq_true_iff]
  exact ⟨Nat.le_add_right .., by change _ ≤ 0xbf; omega⟩

theorem low6_ofNat (n : ℕ) : low6 (UInt8.ofNat (0x80 + n % 64)) = n % 64 := by
  rw [low6, toNat_ofNat_byte (by omega)]
  omega

theorem isSecondOfThree_ofNat {a n : ℕ} (ha : a < 16) (hlow : a = 0 → 32 ≤ n % 64)
    (hsurrogate : a = 13 → n % 64 < 32) :
    isSecondOfThree (UInt8.ofNat (0xe0 + a)) (UInt8.ofNat (0x80 + n % 64)) = true := by
  simp only [isSecondOfThree, Bool.and_eq_true, Bool.or_eq_true, beq_iff_eq, ← UInt8.toNat_inj,
    inRange_iff]
  rw [toNat_ofNat_byte (by omega), toNat_ofNat_byte (by omega)]
  simp
  omega

theorem isSecondOfFour_ofNat {a n : ℕ} (ha : a < 5) (hlow : a = 0 → 16 ≤ n % 64)
    (hhigh : a = 4 → n % 64 < 16) :
    isSecondOfFour (UInt8.ofNat (0xf0 + a)) (UInt8.ofNat (0x80 + n % 64)) = true := by
  simp only [isSecondOfFour, Bool.and_eq_true, Bool.or_eq_true, beq_iff_eq, ← UInt8.toNat_inj,
    inRange_iff]
  rw [toNat_ofNat_byte (by omega), toNat_ofNat_byte (by omega)]
  simp
  omega

theorem fromUtf8_two (h : 0x80 ≤ c.toNat) (h' : c.toNat < 0x800) :
    ∃ b0 b1, encodeUtf8 c = [b0, b1] ∧ fromUtf8 [b0] = .incomplete ∧
      fromUtf8 [b0, b1] = .ok [c] := by
  have hb : 0xc0 + c.toNat / 64 < 256 := by omega
  have hascii := not_ofNat_lt_ascii hb (by omega)
  have htwo : inRange 0xc2 0xdf (UInt8.ofNat (0xc0 + c.toNat / 64)) = true := by
    rw [inRange_ofNat hb, decide_eq_true_iff]
    simp
    omega
  refine ⟨_, _, by simp only [encodeUtf8]; rw [if_neg (by omega), if_pos h'], ?_, ?_⟩
  · simp only [fromUtf8, if_neg hascii, htwo, if_true]
  · simp only [fromUtf8, if_neg hascii, htwo, isContinuation_ofNat, if_true, toNat_ofNat_byte hb,
      low6_ofNat, Utf8Result.cons]
    rw [show (0xc0 + c.toNat / 64) % 32 * 64 + c.toNat % 64 = c.toNat by omega, Char.ofNat_toNat]

theorem fromUtf8_three (h : 0x800 ≤ c.toNat) (h' : c.toNat < 0x10000) :
    ∃ b0 b1 b2, encodeUtf8 c = [b0, b1, b2] ∧ fromUtf8 [b0] = .incomplete ∧
      fromUtf8 [b0, b1] = .incomplete ∧ fromUtf8 [b0, b1, b2] = .ok [c] := by
  have hc := toNat_lt_of_char c
  have hb : 0xe0 + c.toNat / 4096 < 256 := by omega
  have hascii := not_ofNat_lt_ascii hb (by omega)
  have htwo : inRange 0xc2 0xdf (UInt8.ofNat (0xe0 + c.toNat / 4096)) = false := by
    rw [inRange_ofNat hb, decide_eq_false_iff_not]
    simp
    omega
  have hthree : inRange 0xe0 0xef (UInt8.ofNat (0xe0 + c.toNat / 4096)) = true := by
    rw [inRange_ofNat hb, decide_eq_true_iff]
    simp
    omega
  have hsecond := isSecondOfThree_ofNat (a := c.toNat / 4096) (n := c.toNat / 64) (by omega)
    (by omega) (by omega)
  refine ⟨_, _, _, by simp only [encodeUtf8]; rw [if_neg (by omega), if_neg (by omega), if_pos h'],
    ?_, ?_, ?_⟩
  · simp only [fromUtf8, if_neg hascii, htwo, hthree, if_true, Bool.false_eq_true, if_false]
  · simp only [fromUtf8, if_neg hascii, htwo, hthree, hsecond, if_true, Bool.false_eq_true,
      if_false]
  · simp only [fromUtf8, if_neg hascii, htwo, hthree, hsecond, isContinuation_ofNat, if_true,
      Bool.false_eq_true, if_false, toNat_ofNat_byte hb, low6_ofNat, Utf8Result.cons]
    rw [show ((0xe0 + c.toNat / 4096) % 16 * 64 + c.toNat / 64 % 64) * 64 + c.toNat % 64 = c.toNat
      by omega, Char.ofNat_toNat]

theorem fromUtf8_four (h : 0x10000 ≤ c.toNat) :
    ∃ b0 b1 b2 b3, encodeUtf8 c = [b0, b1, b2, b3] ∧ fromUtf8 [b0] = .incomplete ∧
      fromUtf8 [b0, b1] = .incomplete ∧ fromUtf8 [b0, b1, b2] = .incomplete ∧
      fromUtf8 [b0, b1, b2, b3] = .ok [c] := by
  have hc := toNat_lt_of_char c
  have hb : 0xf0 + c.toNat / 262144 < 256 := by omega
  have hascii := not_ofNat_lt_ascii hb (by omega)
  have htwo : inRange 0xc2 0xdf (UInt8.ofNat (0xf0 + c.toNat / 262144)) = false := by
    rw [inRange_ofNat hb, decide_eq_false_iff_not]
    simp
    omega
  have hthree : inRange 0xe0 0xef (UInt8.ofNat (0xf0 + c.toNat / 262144)) = false := by
    rw [inRange_ofNat hb, decide_eq_false_iff_not]
    simp
    omega
  have hfour : inRange 0xf0 0xf4 (UInt8.ofNat (0xf0 + c.toNat / 262144)) = true := by
    rw [inRange_ofNat hb, decide_eq_true_iff]
    simp
    omega
  have hsecond := isSecondOfFour_ofNat (a := c.toNat / 262144) (n := c.toNat / 4096) (by omega)
    (by omega) (by omega)
  refine ⟨_, _, _, _, by
    simp only [encodeUtf8]; rw [if_neg (by omega), if_neg (by omega), if_neg (by omega)],
    ?_, ?_, ?_, ?_⟩
  · simp only [fromUtf8, if_neg hascii, htwo, hthree, hfour, if_true, Bool.false_eq_true, if_false]
  · simp only [fromUtf8, if_neg hascii, htwo, hthree, hfour, hsecond, if_true, Bool.false_eq_true,
      if_false]
  · simp only [fromUtf8, if_neg hascii, htwo, hthree, hfour, hsecond, isContinuation_ofNat,
      if_true, Bool.false_eq_true, if_false]
  · simp only [fromUtf8, if_neg hascii, htwo, hthree, hfour, hsecond, isContinuation_ofNat,
      if_true, Bool.false_eq_true, if_false, toNat_ofNat_byte hb, low6_ofNat, Utf8Result.cons]
    rw [show (((0xf0 + c.toNat / 262144) % 8 * 64 + c.toNat / 4096 % 64) * 64 +
      c.toNat / 64 % 64) * 64 + c.toNat % 64 = c.toNat by omega, Char.ofNat_toNat]

end RoundTrip

/-- An encoding that has begun: every part of it is unfinished. -/
def Waiting (bytes : List UInt8) : Prop :=
  ∀ k, 0 < k → k ≤ bytes.length → fromUtf8 (bytes.take k) = .incomplete

theorem waiting_nil : Waiting [] := by
  intro k hk hk'
  rw [List.length_nil] at hk'
  omega

theorem Waiting.snoc {bytes : List UInt8} {byte : UInt8} (h : Waiting bytes)
    (hbyte : fromUtf8 (bytes ++ [byte]) = .incomplete) : Waiting (bytes ++ [byte]) := by
  intro k hk hk'
  rw [List.length_append, List.length_singleton] at hk'
  by_cases hlast : k = bytes.length + 1
  · rwa [List.take_of_length_le (by simp; omega)]
  · rw [List.take_append_of_le_length (by omega)]
    exact h k hk (by omega)

theorem waiting_singleton {b0 : UInt8} (h : fromUtf8 [b0] = .incomplete) : Waiting [b0] :=
  waiting_nil.snoc h

theorem le_toNat_ofNat_byte {n : ℕ} (h : 0x80 ≤ n) (h' : n < 256) : 0x80 ≤ (UInt8.ofNat n).toNat := by
  rwa [toNat_ofNat_byte h']

/-- **A character beyond ASCII**, fed byte by byte: the decoder waits until the last byte. -/
theorem exists_encodeUtf8_eq {c : Char} (h : 0x80 ≤ c.toNat) :
    ∃ bytes last, encodeUtf8 c = bytes ++ [last] ∧ bytes.length ≤ 4 ∧ Waiting bytes ∧
      fromUtf8 (bytes ++ [last]) = .ok [c] := by
  rcases Nat.lt_or_ge c.toNat 0x800 with h2 | h2
  · obtain ⟨b0, b1, heq, h0, hok⟩ := fromUtf8_two h h2
    exact ⟨[b0], b1, heq, by simp, waiting_singleton h0, hok⟩
  rcases Nat.lt_or_ge c.toNat 0x10000 with h3 | h3
  · obtain ⟨b0, b1, b2, heq, h0, h1, hok⟩ := fromUtf8_three h2 h3
    exact ⟨[b0, b1], b2, heq, by simp, (waiting_singleton h0).snoc h1, hok⟩
  · obtain ⟨b0, b1, b2, b3, heq, h0, h1, h2, hok⟩ := fromUtf8_four h3
    exact ⟨[b0, b1, b2], b3, heq, by simp, ((waiting_singleton h0).snoc h1).snoc h2, hok⟩

theorem high_of_mem_encodeUtf8 {c : Char} (h : 0x80 ≤ c.toNat) {byte : UInt8}
    (hb : byte ∈ encodeUtf8 c) : 0x80 ≤ byte.toNat := by
  have hc := (toNat_lt_of_char c).1
  simp only [encodeUtf8] at hb
  rw [if_neg (by omega)] at hb
  split_ifs at hb
  all_goals simp only [List.mem_cons, List.not_mem_nil, or_false] at hb
  · rcases hb with rfl | rfl <;> exact le_toNat_ofNat_byte (by omega) (by omega)
  · rcases hb with rfl | rfl | rfl <;> exact le_toNat_ofNat_byte (by omega) (by omega)
  · rcases hb with rfl | rfl | rfl | rfl <;> exact le_toNat_ofNat_byte (by omega) (by omega)

section NonAscii

theorem le_toNat_ofNat_char {n : ℕ} (h : 0x80 ≤ n)
    (hv : n < 0xd800 ∨ 0xdfff < n ∧ n < 0x110000) : 0x80 ≤ (Char.ofNat n).toNat := by
  rw [Char.ofNat, dif_pos hv]
  exact h

theorem low6_lt (byte : UInt8) : low6 byte < 64 := Nat.mod_lt _ (by omega)

theorem isSecondOfThree_spec {first second : UInt8} (h : isSecondOfThree first second = true) :
    0x80 ≤ second.toNat ∧ second.toNat < 0xc0 ∧
      (first.toNat = 0xe0 → 0xa0 ≤ second.toNat) ∧
      (first.toNat = 0xed → second.toNat < 0xa0) := by
  simp only [isSecondOfThree, Bool.and_eq_true, Bool.or_eq_true, beq_iff_eq, ← UInt8.toNat_inj,
    inRange_iff] at h
  simp at h
  omega

theorem isSecondOfFour_spec {first second : UInt8} (h : isSecondOfFour first second = true) :
    0x80 ≤ second.toNat ∧ second.toNat < 0xc0 ∧
      (first.toNat = 0xf0 → 0x90 ≤ second.toNat) ∧
      (first.toNat = 0xf4 → second.toNat < 0x90) := by
  simp only [isSecondOfFour, Bool.and_eq_true, Bool.or_eq_true, beq_iff_eq, ← UInt8.toNat_inj,
    inRange_iff] at h
  simp at h
  omega

theorem mem_of_cons_eq_ok {r : Utf8Result} {code : ℕ} {cs : List Char} {P : Char → Prop}
    (h : r.cons code = .ok cs) (hcode : P (Char.ofNat code))
    (hr : ∀ cs', r = .ok cs' → ∀ c ∈ cs', P c) : ∀ c ∈ cs, P c := by
  cases r with
  | ok cs' =>
    obtain rfl := Utf8Result.ok.inj h
    intro c hc
    rcases List.mem_cons.mp hc with rfl | hc
    · exact hcode
    · exact hr cs' rfl c hc
  | incomplete => cases h
  | invalid => cases h

/-- **Bytes beyond ASCII decode to characters beyond ASCII.** -/
theorem le_toNat_of_fromUtf8 {bytes : List UInt8} {cs : List Char} (h : fromUtf8 bytes = .ok cs)
    (hb : ∀ b ∈ bytes, 0x80 ≤ b.toNat) : ∀ c ∈ cs, 0x80 ≤ c.toNat := by
  fun_induction fromUtf8 bytes generalizing cs with
  | case1 => cases h; simp
  | case2 b0 rest hascii ih =>
    have := hb b0 (by simp)
    exact absurd (UInt8.lt_iff_toNat_lt.mp hascii) (Nat.not_lt.mpr this)
  | case4 b0 _ hr b1 rest hc ih =>
    refine mem_of_cons_eq_ok h ?_ fun cs' h' => ih h' (by simp_all)
    have hr := inRange_iff.mp hr
    have h1 := low6_lt b1
    simp at hr
    exact le_toNat_ofNat_char (by omega) (by omega)
  | case8 b0 _ _ hr b1 hs b2 rest hc ih =>
    refine mem_of_cons_eq_ok h ?_ fun cs' h' => ih h' (by simp_all)
    have hr := inRange_iff.mp hr
    have hs := isSecondOfThree_spec hs
    have h1 : low6 b1 = b1.toNat % 64 := rfl
    have h2 := low6_lt b2
    simp at hr
    exact le_toNat_ofNat_char (by omega) (by omega)
  | case14 b0 _ _ _ hr b1 hs b2 hc2 b3 rest hc3 ih =>
    refine mem_of_cons_eq_ok h ?_ fun cs' h' => ih h' (by simp_all)
    have hr := inRange_iff.mp hr
    have hs := isSecondOfFour_spec hs
    have h1 : low6 b1 = b1.toNat % 64 := rfl
    have h2 := low6_lt b2
    have h3 := low6_lt b3
    simp at hr
    exact le_toNat_ofNat_char (by omega) (by omega)
  | _ => cases h

end NonAscii

end Termd
