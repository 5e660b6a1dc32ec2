import Mathlib.Algebra.Ring.Nat
import Mathlib.Data.List.Induction
import Termd.Library.Utf8

/-!
# Lossy UTF-8

A byte string that is not UTF-8 throughout is cut into pieces: the characters that are well formed,
and between them the bytes that belong to none. An encoding that breaks off is one piece up to the
byte that it cannot be continued with, and that byte is looked at again. Any other byte that begins
no character is a piece of its own. `String::from_utf8_lossy` writes U+FFFD for each of these pieces.

A decoder may cut differently. Pieces have positions here, so that two ways to cut can be compared.

## Main definitions

* `Utf8Piece`: a character, or bytes that are replaced
* `fromUtf8Lossy bytes`: the pieces of a byte string
* `Utf8Piece.characters`, `Utf8Piece.Replaces`: the characters and the replaced bytes, with positions

## Main results

* `Opens.next`: what a byte does to an encoding that has begun
-/

namespace Termd

/-- A character, or bytes for which U+FFFD is written. -/
inductive Utf8Piece
  | character (c : Char)
  | replacement (bytes : List UInt8)

namespace Utf8Piece

def bytes : Utf8Piece → List UInt8
  | character c => encodeUtf8 c
  | replacement bytes => bytes

/-- What is written. -/
def toChar : Utf8Piece → Char
  | character c => c
  | replacement _ => '\ufffd'

/-- An encoding that breaks off. -/
def isTruncated : Utf8Piece → Bool
  | character _ => false
  | replacement bytes => fromUtf8 bytes = .incomplete

/-- The pieces with their positions. -/
def placed (start : ℕ) : List Utf8Piece → List (ℕ × Utf8Piece)
  | [] => []
  | piece :: rest => (start, piece) :: placed (start + piece.bytes.length) rest

def placedCharacter : ℕ × Utf8Piece → Option (ℕ × Char)
  | (start, character c) => some (start, c)
  | (_, replacement _) => none

/-- The characters with their positions. -/
def characters (start : ℕ) (pieces : List Utf8Piece) : List (ℕ × Char) :=
  (placed start pieces).filterMap placedCharacter

/-- The byte at position `i` is replaced. -/
def Replaces (start : ℕ) (pieces : List Utf8Piece) (i : ℕ) : Prop :=
  ∃ position bytes, (position, replacement bytes) ∈ placed start pieces ∧
    position ≤ i ∧ i < position + bytes.length

variable {start : ℕ} {pieces : List Utf8Piece}

@[simp] theorem characters_nil : characters start [] = [] := rfl

@[simp] theorem characters_character (c : Char) :
    characters start (character c :: pieces) =
      (start, c) :: characters (start + (encodeUtf8 c).length) pieces := rfl

@[simp] theorem characters_replacement (bytes : List UInt8) :
    characters start (replacement bytes :: pieces) = characters (start + bytes.length) pieces := rfl

theorem not_replaces_nil {i : ℕ} : ¬ Replaces start [] i := by
  rintro ⟨_, _, hmem, -⟩
  cases hmem

theorem replaces_character {c : Char} {i : ℕ} :
    Replaces start (character c :: pieces) i ↔
      Replaces (start + (encodeUtf8 c).length) pieces i := by
  simp [Replaces, placed, bytes]

theorem replaces_replacement {bytes : List UInt8} {i : ℕ} :
    Replaces start (replacement bytes :: pieces) i ↔
      start ≤ i ∧ i < start + bytes.length ∨ Replaces (start + bytes.length) pieces i := by
  constructor
  · rintro ⟨position, found, hmem, hi⟩
    rw [placed, List.mem_cons] at hmem
    rcases hmem with heq | hmem
    · obtain ⟨rfl, hpiece⟩ := Prod.mk.inj heq
      obtain rfl := replacement.inj hpiece
      exact .inl hi
    · exact .inr ⟨position, found, hmem, hi⟩
  · rintro (hi | ⟨position, found, hmem, hi⟩)
    · exact ⟨start, bytes, List.mem_cons_self, hi⟩
    · exact ⟨position, found, List.mem_cons_of_mem _ hmem, hi⟩

end Utf8Piece

/-! ### Encodings that have begun -/

theorem exists_cons_encodeUtf8 (c : Char) : ∃ byte rest, encodeUtf8 c = byte :: rest := by
  simp only [encodeUtf8]
  split_ifs <;> exact ⟨_, _, rfl⟩

/-- The proper beginnings of encodings. -/
inductive Opens : List UInt8 → Prop
  | two {b0 : UInt8} : inRange 0xc2 0xdf b0 = true → Opens [b0]
  | three {b0 : UInt8} : inRange 0xe0 0xef b0 = true → Opens [b0]
  | three_second {b0 b1 : UInt8} : inRange 0xe0 0xef b0 = true → isSecondOfThree b0 b1 = true →
    Opens [b0, b1]
  | four {b0 : UInt8} : inRange 0xf0 0xf4 b0 = true → Opens [b0]
  | four_second {b0 b1 : UInt8} : inRange 0xf0 0xf4 b0 = true → isSecondOfFour b0 b1 = true →
    Opens [b0, b1]
  | four_third {b0 b1 b2 : UInt8} : inRange 0xf0 0xf4 b0 = true → isSecondOfFour b0 b1 = true →
    isContinuation b2 = true → Opens [b0, b1, b2]

theorem Opens.ne_nil {pending : List UInt8} (h : Opens pending) : pending ≠ [] := by
  cases h <;> exact List.cons_ne_nil _ _

theorem Opens.length_le {pending : List UInt8} (h : Opens pending) : pending.length ≤ 3 := by
  cases h <;> simp

section Encode

variable {b0 b1 b2 b3 : UInt8} {n : ℕ}

theorem toNat_ofNat_char (h : n < 0xd800 ∨ 0xdfff < n ∧ n < 0x110000) :
    (Char.ofNat n).toNat = n := by
  rw [Char.ofNat, dif_pos h]
  rfl

/-- An encoding from its bytes. -/
theorem encodeUtf8_ofNat_two (hn : 0x80 ≤ n ∧ n < 0x800) (h0 : b0.toNat = 0xc0 + n / 64)
    (h1 : b1.toNat = 0x80 + n % 64) : encodeUtf8 (Char.ofNat n) = [b0, b1] := by
  simp only [encodeUtf8, toNat_ofNat_char (n := n) (by omega)]
  rw [if_neg (by omega), if_pos hn.2, ← h0, ← h1, UInt8.ofNat_toNat, UInt8.ofNat_toNat]

theorem encodeUtf8_ofNat_three (hn : 0x800 ≤ n ∧ n < 0x10000)
    (hv : n < 0xd800 ∨ 0xdfff < n ∧ n < 0x110000) (h0 : b0.toNat = 0xe0 + n / 4096)
    (h1 : b1.toNat = 0x80 + n / 64 % 64) (h2 : b2.toNat = 0x80 + n % 64) :
    encodeUtf8 (Char.ofNat n) = [b0, b1, b2] := by
  simp only [encodeUtf8, toNat_ofNat_char hv]
  rw [if_neg (by omega), if_neg (by omega), if_pos hn.2, ← h0, ← h1, ← h2, UInt8.ofNat_toNat,
    UInt8.ofNat_toNat, UInt8.ofNat_toNat]

theorem encodeUtf8_ofNat_four (hn : 0x10000 ≤ n ∧ n < 0x110000) (h0 : b0.toNat = 0xf0 + n / 262144)
    (h1 : b1.toNat = 0x80 + n / 4096 % 64) (h2 : b2.toNat = 0x80 + n / 64 % 64)
    (h3 : b3.toNat = 0x80 + n % 64) : encodeUtf8 (Char.ofNat n) = [b0, b1, b2, b3] := by
  simp only [encodeUtf8, toNat_ofNat_char (n := n) (by omega)]
  rw [if_neg (by omega), if_neg (by omega), if_neg (by omega), ← h0, ← h1, ← h2, ← h3,
    UInt8.ofNat_toNat, UInt8.ofNat_toNat, UInt8.ofNat_toNat, UInt8.ofNat_toNat]

theorem low6_of_continuation (h : isContinuation b1 = true) :
    b1.toNat = 0x80 + low6 b1 ∧ low6 b1 < 64 := by
  have h := inRange_iff.mp h
  have hlow : low6 b1 = b1.toNat % 64 := rfl
  simp at h
  omega

theorem isContinuation_of_isSecondOfThree (h : isSecondOfThree b0 b1 = true) :
    isContinuation b1 = true := by
  have h := isSecondOfThree_spec h
  rw [isContinuation, inRange_iff]
  simp
  omega

theorem isContinuation_of_isSecondOfFour (h : isSecondOfFour b0 b1 = true) :
    isContinuation b1 = true := by
  have h := isSecondOfFour_spec h
  rw [isContinuation, inRange_iff]
  simp
  omega

end Encode

/-- A continuation byte begins nothing. -/
theorem fromUtf8_continuation {byte : UInt8} (h : isContinuation byte = true) :
    fromUtf8 [byte] = .invalid := by
  have h := inRange_iff.mp h
  simp at h
  have hrange (lo hi : UInt8) (hlo : 0xc0 ≤ lo.toNat) : ¬ inRange lo hi byte = true := by
    rw [inRange_iff]
    omega
  have hascii : ¬ byte < 0x80 := by
    rw [UInt8.lt_iff_toNat_lt]
    simpa using h.1
  rw [fromUtf8, if_neg hascii, if_neg (hrange _ _ (by decide)), if_neg (hrange _ _ (by decide)),
    if_neg (hrange _ _ (by decide))]

section Leads

variable {b0 : UInt8}

theorem lead_two (h : inRange 0xc2 0xdf b0 = true) : ¬ b0 < 0x80 := by
  have h := inRange_iff.mp h
  rw [UInt8.lt_iff_toNat_lt]
  simp at h ⊢
  omega

theorem lead_three (h : inRange 0xe0 0xef b0 = true) :
    ¬ b0 < 0x80 ∧ inRange 0xc2 0xdf b0 = false := by
  have h := inRange_iff.mp h
  rw [UInt8.lt_iff_toNat_lt, Bool.eq_false_iff, ne_eq, inRange_iff]
  simp at h ⊢
  omega

theorem lead_four (h : inRange 0xf0 0xf4 b0 = true) :
    ¬ b0 < 0x80 ∧ inRange 0xc2 0xdf b0 = false ∧ inRange 0xe0 0xef b0 = false := by
  have h := inRange_iff.mp h
  rw [UInt8.lt_iff_toNat_lt, Bool.eq_false_iff, Bool.eq_false_iff, ne_eq, ne_eq, inRange_iff,
    inRange_iff]
  simp at h ⊢
  omega

end Leads

/-- What has begun can still be finished. -/
theorem Opens.fromUtf8_eq {pending : List UInt8} (h : Opens pending) :
    fromUtf8 pending = .incomplete := by
  cases h with
  | two h0 => simp only [fromUtf8, if_neg (lead_two h0), h0, if_true]
  | three h0 =>
    obtain ⟨hascii, htwo⟩ := lead_three h0
    simp only [fromUtf8, if_neg hascii, htwo, h0, if_true, Bool.false_eq_true, if_false]
  | three_second h0 h1 =>
    obtain ⟨hascii, htwo⟩ := lead_three h0
    simp only [fromUtf8, if_neg hascii, htwo, h0, h1, if_true, Bool.false_eq_true, if_false]
  | four h0 =>
    obtain ⟨hascii, htwo, hthree⟩ := lead_four h0
    simp only [fromUtf8, if_neg hascii, htwo, hthree, h0, if_true, Bool.false_eq_true, if_false]
  | four_second h0 h1 =>
    obtain ⟨hascii, htwo, hthree⟩ := lead_four h0
    simp only [fromUtf8, if_neg hascii, htwo, hthree, h0, h1, if_true, Bool.false_eq_true, if_false]
  | four_third h0 h1 h2 =>
    obtain ⟨hascii, htwo, hthree⟩ := lead_four h0
    simp only [fromUtf8, if_neg hascii, htwo, hthree, h0, h1, h2, if_true, Bool.false_eq_true,
      if_false]

/-- **One byte more**: it cannot follow, or it is a continuation byte and the encoding goes on or
ends. -/
theorem Opens.next {pending : List UInt8} (h : Opens pending) (byte : UInt8) :
    fromUtf8 (pending ++ [byte]) = .invalid ∨ isContinuation byte = true ∧
      (Opens (pending ++ [byte]) ∧ fromUtf8 (pending ++ [byte]) = .incomplete ∨
        ∃ c, encodeUtf8 c = pending ++ [byte] ∧ fromUtf8 (pending ++ [byte]) = .ok [c]) := by
  cases h with
  | @two b0 h0 =>
    have hascii := lead_two h0
    by_cases h1 : isContinuation byte = true
    · refine .inr ⟨h1, .inr ⟨Char.ofNat (b0.toNat % 32 * 64 + low6 byte), ?_, ?_⟩⟩
      · have hlow := low6_of_continuation h1
        have h0 := inRange_iff.mp h0
        simp at h0
        exact encodeUtf8_ofNat_two (by omega) (by omega) (by omega)
      · simp only [List.cons_append, List.nil_append, fromUtf8, if_neg hascii, h0, h1, if_true,
          Utf8Result.cons]
    · refine .inl ?_
      simp only [List.cons_append, List.nil_append, fromUtf8, if_neg hascii, h0, h1, if_true,
        Bool.false_eq_true, if_false]
  | @three b0 h0 =>
    obtain ⟨hascii, htwo⟩ := lead_three h0
    by_cases h1 : isSecondOfThree b0 byte = true
    · refine .inr ⟨isContinuation_of_isSecondOfThree h1, .inl ⟨.three_second h0 h1, ?_⟩⟩
      simp only [List.cons_append, List.nil_append, fromUtf8, if_neg hascii, htwo, h0, h1, if_true,
        Bool.false_eq_true, if_false]
    · refine .inl ?_
      simp only [List.cons_append, List.nil_append, fromUtf8, if_neg hascii, htwo, h0, h1, if_true,
        Bool.false_eq_true, if_false]
  | @three_second b0 b1 h0 h1 =>
    obtain ⟨hascii, htwo⟩ := lead_three h0
    by_cases h2 : isContinuation byte = true
    · refine .inr ⟨h2, .inr ⟨Char.ofNat ((b0.toNat % 16 * 64 + low6 b1) * 64 + low6 byte), ?_, ?_⟩⟩
      · have hlow1 := low6_of_continuation (isContinuation_of_isSecondOfThree h1)
        have hlow2 := low6_of_continuation h2
        have hsecond := isSecondOfThree_spec h1
        have h0 := inRange_iff.mp h0
        simp at h0
        exact encodeUtf8_ofNat_three (by omega) (by omega) (by omega) (by omega) (by omega)
      · simp only [List.cons_append, List.nil_append, fromUtf8, if_neg hascii, htwo, h0, h1, h2,
          if_true, Bool.false_eq_true, if_false, Utf8Result.cons]
    · refine .inl ?_
      simp only [List.cons_append, List.nil_append, fromUtf8, if_neg hascii, htwo, h0, h1, h2,
        if_true, Bool.false_eq_true, if_false]
  | @four b0 h0 =>
    obtain ⟨hascii, htwo, hthree⟩ := lead_four h0
    by_cases h1 : isSecondOfFour b0 byte = true
    · refine .inr ⟨isContinuation_of_isSecondOfFour h1, .inl ⟨.four_second h0 h1, ?_⟩⟩
      simp only [List.cons_append, List.nil_append, fromUtf8, if_neg hascii, htwo, hthree, h0, h1,
        if_true, Bool.false_eq_true, if_false]
    · refine .inl ?_
      simp only [List.cons_append, List.nil_append, fromUtf8, if_neg hascii, htwo, hthree, h0, h1,
        if_true, Bool.false_eq_true, if_false]
  | @four_second b0 b1 h0 h1 =>
    obtain ⟨hascii, htwo, hthree⟩ := lead_four h0
    by_cases h2 : isContinuation byte = true
    · refine .inr ⟨h2, .inl ⟨.four_third h0 h1 h2, ?_⟩⟩
      simp only [List.cons_append, List.nil_append, fromUtf8, if_neg hascii, htwo, hthree, h0, h1,
        h2, if_true, Bool.false_eq_true, if_false]
    · refine .inl ?_
      simp only [List.cons_append, List.nil_append, fromUtf8, if_neg hascii, htwo, hthree, h0, h1,
        h2, if_true, Bool.false_eq_true, if_false]
  | @four_third b0 b1 b2 h0 h1 h2 =>
    obtain ⟨hascii, htwo, hthree⟩ := lead_four h0
    by_cases h3 : isContinuation byte = true
    · refine .inr ⟨h3, .inr ⟨Char.ofNat
        (((b0.toNat % 8 * 64 + low6 b1) * 64 + low6 b2) * 64 + low6 byte), ?_, ?_⟩⟩
      · have hlow1 := low6_of_continuation (isContinuation_of_isSecondOfFour h1)
        have hlow2 := low6_of_continuation h2
        have hlow3 := low6_of_continuation h3
        have hsecond := isSecondOfFour_spec h1
        have h0 := inRange_iff.mp h0
        simp at h0
        exact encodeUtf8_ofNat_four (by omega) (by omega) (by omega) (by omega) (by omega)
      · simp only [List.cons_append, List.nil_append, fromUtf8, if_neg hascii, htwo, hthree, h0, h1,
          h2, h3, if_true, Bool.false_eq_true, if_false, Utf8Result.cons]
    · refine .inl ?_
      simp only [List.cons_append, List.nil_append, fromUtf8, if_neg hascii, htwo, hthree, h0, h1,
        h2, h3, if_true, Bool.false_eq_true, if_false]

/-- **The first byte** of a piece. -/
theorem fromUtf8_singleton (byte : UInt8) :
    fromUtf8 [byte] = .invalid ∨ Opens [byte] ∧ fromUtf8 [byte] = .incomplete ∨
      ∃ c, encodeUtf8 c = [byte] ∧ fromUtf8 [byte] = .ok [c] := by
  by_cases hascii : byte < 0x80
  · have hlt := UInt8.lt_iff_toNat_lt.mp hascii
    refine .inr (.inr ⟨Char.ofNat byte.toNat, ?_, ?_⟩)
    · simp at hlt
      simp only [encodeUtf8, toNat_ofNat_char (n := byte.toNat) (by omega)]
      rw [if_pos hlt, UInt8.ofNat_toNat]
    · simp only [fromUtf8, if_pos hascii, Utf8Result.cons]
  by_cases htwo : inRange 0xc2 0xdf byte = true
  · refine .inr (.inl ⟨.two htwo, ?_⟩)
    simp only [fromUtf8, if_neg hascii, htwo, if_true]
  by_cases hthree : inRange 0xe0 0xef byte = true
  · refine .inr (.inl ⟨.three hthree, ?_⟩)
    simp only [fromUtf8, if_neg hascii, htwo, hthree, if_true, Bool.false_eq_true, if_false]
  by_cases hfour : inRange 0xf0 0xf4 byte = true
  · refine .inr (.inl ⟨.four hfour, ?_⟩)
    simp only [fromUtf8, if_neg hascii, htwo, hthree, hfour, if_true, Bool.false_eq_true, if_false]
  · refine .inl ?_
    simp only [fromUtf8, if_neg hascii, htwo, hthree, hfour, Bool.false_eq_true, if_false]

theorem Waiting.part {pending : List UInt8} {byte : UInt8} (h : Waiting (pending ++ [byte])) :
    Waiting pending ∧ fromUtf8 (pending ++ [byte]) = .incomplete := by
  refine ⟨fun k hk hk' => ?_, ?_⟩
  · have hpart := h k hk (by simp; omega)
    rwa [List.take_append_of_le_length hk'] at hpart
  · have hlast := h (pending.length + 1) (by omega) (by simp)
    rwa [List.take_of_length_le (by simp)] at hlast

theorem Waiting.eq_nil_or_opens {pending : List UInt8} (h : Waiting pending) :
    pending = [] ∨ Opens pending := by
  induction pending using List.reverseRecOn with
  | nil => exact .inl rfl
  | append_singleton pending byte ih =>
    refine .inr ?_
    obtain ⟨hpart, hlast⟩ := h.part
    rcases ih hpart with rfl | hopens
    · rcases fromUtf8_singleton byte with hbyte | ⟨hopens, -⟩ | ⟨c, -, hbyte⟩
      · exact Utf8Result.noConfusion (hlast.symm.trans hbyte)
      · exact hopens
      · exact Utf8Result.noConfusion (hlast.symm.trans hbyte)
    · rcases hopens.next byte with hbyte | ⟨-, ⟨hopens', -⟩ | ⟨c, -, hbyte⟩⟩
      · exact Utf8Result.noConfusion (hlast.symm.trans hbyte)
      · exact hopens'
      · exact Utf8Result.noConfusion (hlast.symm.trans hbyte)

/-! ### The decoder -/

/-- A byte that begins a piece: the bytes that wait now, and the pieces that end. -/
def lossyFirst (byte : UInt8) : List UInt8 × List Utf8Piece :=
  match fromUtf8 [byte] with
  | .ok chars => ([], chars.map .character)
  | .incomplete => ([byte], [])
  | .invalid => ([], [.replacement [byte]])

/-- A byte that comes after the bytes that wait. -/
def lossyNext (pending : List UInt8) (byte : UInt8) : List UInt8 × List Utf8Piece :=
  match fromUtf8 (pending ++ [byte]) with
  | .ok chars => ([], chars.map .character)
  | .incomplete => (pending ++ [byte], [])
  | .invalid => ((lossyFirst byte).1, .replacement pending :: (lossyFirst byte).2)

def lossyByte (pending : List UInt8) (byte : UInt8) : List UInt8 × List Utf8Piece :=
  if pending = [] then lossyFirst byte else lossyNext pending byte

/-- The pieces of what follows the bytes that wait; what still waits at the end breaks off. -/
def lossyFrom : List UInt8 → List UInt8 → List Utf8Piece
  | pending, [] => if pending = [] then [] else [.replacement pending]
  | pending, byte :: bytes =>
    (lossyByte pending byte).2 ++ lossyFrom (lossyByte pending byte).1 bytes

def fromUtf8Lossy (bytes : List UInt8) : List Utf8Piece := lossyFrom [] bytes

section Lossy

variable {pending bytes : List UInt8} {byte : UInt8} {c : Char}

@[simp] theorem lossyFrom_nil_nil : lossyFrom [] [] = [] := rfl

theorem lossyFrom_nil (h : pending ≠ []) : lossyFrom pending [] = [.replacement pending] := if_neg h

theorem lossyFrom_first_ok (h : fromUtf8 [byte] = .ok [c]) :
    lossyFrom [] (byte :: bytes) = .character c :: lossyFrom [] bytes := by
  simp only [lossyFrom, lossyByte, if_true, lossyFirst, h, List.map_cons, List.map_nil,
    List.singleton_append]

theorem lossyFrom_first_incomplete (h : fromUtf8 [byte] = .incomplete) :
    lossyFrom [] (byte :: bytes) = lossyFrom [byte] bytes := by
  simp only [lossyFrom, lossyByte, if_true, lossyFirst, h, List.nil_append]

theorem lossyFrom_first_invalid (h : fromUtf8 [byte] = .invalid) :
    lossyFrom [] (byte :: bytes) = .replacement [byte] :: lossyFrom [] bytes := by
  simp only [lossyFrom, lossyByte, if_true, lossyFirst, h, List.singleton_append]

theorem lossyFrom_ok (hpending : pending ≠ []) (h : fromUtf8 (pending ++ [byte]) = .ok [c]) :
    lossyFrom pending (byte :: bytes) = .character c :: lossyFrom [] bytes := by
  simp only [lossyFrom, lossyByte, if_neg hpending, lossyNext, h, List.map_cons, List.map_nil,
    List.singleton_append]

theorem lossyFrom_incomplete (hpending : pending ≠ [])
    (h : fromUtf8 (pending ++ [byte]) = .incomplete) :
    lossyFrom pending (byte :: bytes) = lossyFrom (pending ++ [byte]) bytes := by
  simp only [lossyFrom, lossyByte, if_neg hpending, lossyNext, h, List.nil_append]

/-- The byte that an encoding cannot be continued with is looked at again. -/
theorem lossyFrom_invalid (hpending : pending ≠ [])
    (h : fromUtf8 (pending ++ [byte]) = .invalid) :
    lossyFrom pending (byte :: bytes) = .replacement pending :: lossyFrom [] (byte :: bytes) := by
  simp only [lossyFrom, lossyByte, if_neg hpending, lossyNext, h, if_true, List.cons_append]

/-- The first piece begins with the bytes that wait. -/
theorem exists_lossyFrom_eq_cons (h : Opens pending) (bytes : List UInt8) :
    ∃ piece rest, lossyFrom pending bytes = piece :: rest ∧ pending <+: piece.bytes := by
  induction bytes generalizing pending with
  | nil => exact ⟨_, _, lossyFrom_nil h.ne_nil, List.prefix_rfl⟩
  | cons byte bytes ih =>
    rcases h.next byte with hbyte | ⟨-, ⟨hopens, hbyte⟩ | ⟨c, hc, hbyte⟩⟩
    · exact ⟨_, _, lossyFrom_invalid h.ne_nil hbyte, List.prefix_rfl⟩
    · obtain ⟨piece, rest, heq, hfront⟩ := ih hopens
      exact ⟨piece, rest, (lossyFrom_incomplete h.ne_nil hbyte).trans heq,
        (List.prefix_append _ _).trans hfront⟩
    · refine ⟨_, _, lossyFrom_ok h.ne_nil hbyte, ?_⟩
      rw [Utf8Piece.bytes, hc]
      exact List.prefix_append _ _

/-! ### Encoded characters -/

theorem lossyFrom_waiting (h : Waiting pending) (bytes : List UInt8) :
    lossyFrom [] (pending ++ bytes) = lossyFrom pending bytes := by
  induction pending using List.reverseRecOn generalizing bytes with
  | nil => rfl
  | append_singleton pending byte ih =>
    obtain ⟨hpart, hlast⟩ := h.part
    rw [List.append_assoc, List.singleton_append, ih hpart]
    by_cases hpending : pending = []
    · subst hpending
      exact lossyFrom_first_incomplete hlast
    · exact lossyFrom_incomplete hpending hlast

theorem lossyFrom_encodeUtf8 (c : Char) (bytes : List UInt8) :
    lossyFrom [] (encodeUtf8 c ++ bytes) = .character c :: lossyFrom [] bytes := by
  by_cases hascii : c.toNat < 0x80
  · have hencode : encodeUtf8 c = [UInt8.ofNat c.toNat] := by simp only [encodeUtf8, if_pos hascii]
    rw [hencode]
    refine lossyFrom_first_ok ?_
    have hlt : UInt8.ofNat c.toNat < 0x80 := by
      rw [UInt8.lt_iff_toNat_lt, toNat_ofNat_byte (by omega)]
      exact hascii
    rw [fromUtf8, if_pos hlt, toNat_ofNat_byte (by omega), fromUtf8, Utf8Result.cons,
      Char.ofNat_toNat]
  · obtain ⟨pending, last, hencode, -, hwaiting, hok⟩ := exists_encodeUtf8_eq (Nat.not_lt.mp hascii)
    rw [hencode, List.append_assoc, lossyFrom_waiting hwaiting]
    by_cases hpending : pending = []
    · subst hpending
      exact lossyFrom_first_ok hok
    · exact lossyFrom_ok hpending hok

/-- An encoding does not begin with a continuation byte. -/
theorem not_isContinuation_of_encodeUtf8 {rest : List UInt8} (h : encodeUtf8 c = byte :: rest) :
    ¬ isContinuation byte = true := by
  have hc := (toNat_lt_of_char c).1
  have hlead {n : ℕ} (hn : n < 0x80 ∨ 0xc0 ≤ n ∧ n < 256) :
      ¬ isContinuation (UInt8.ofNat n) = true := by
    rw [isContinuation, inRange_iff, toNat_ofNat_byte (by omega)]
    simp
    omega
  simp only [encodeUtf8] at h
  split_ifs at h <;> obtain ⟨rfl, -⟩ := List.cons.inj h
  all_goals exact hlead (by omega)

end Lossy

end Termd
