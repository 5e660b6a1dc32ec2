import Mathlib.Algebra.Ring.Nat
import Mathlib.Data.List.Induction

/-!
# Numbers as bytes

A number of a fixed width is written most significant byte first, or least significant byte first.

## Main definitions

* `bigEndian width n`: the last `width` bytes of a number
* `ofBigEndian bytes`: the number of some bytes
* `littleEndian width n`, `ofLittleEndian bytes`: the same in the other order

## Main results

* `ofBigEndian_bigEndian`, `bigEndian_ofBigEndian`: reading and writing are inverse
* `ofLittleEndian_littleEndian`: and in the other order
-/

namespace Termd

def bigEndian : ℕ → ℕ → List UInt8
  | 0, _ => []
  | width + 1, n => bigEndian width (n / 256) ++ [UInt8.ofNat (n % 256)]

def ofBigEndian (bytes : List UInt8) : ℕ :=
  bytes.foldl (fun n byte => 256 * n + byte.toNat) 0

@[simp] theorem length_bigEndian (width n : ℕ) : (bigEndian width n).length = width := by
  induction width generalizing n with
  | zero => rfl
  | succ width ih => rw [bigEndian, List.length_append, ih, List.length_singleton]

theorem ofBigEndian_concat (bytes : List UInt8) (byte : UInt8) :
    ofBigEndian (bytes ++ [byte]) = 256 * ofBigEndian bytes + byte.toNat := by
  rw [ofBigEndian, List.foldl_append, ← ofBigEndian]
  rfl

theorem ofBigEndian_bigEndian_mod (width n : ℕ) :
    ofBigEndian (bigEndian width n) = n % 256 ^ width := by
  induction width generalizing n with
  | zero => rw [Nat.pow_zero, Nat.mod_one]; rfl
  | succ width ih =>
    have hbyte : (UInt8.ofNat (n % 256)).toNat = n % 256 :=
      UInt8.toNat_ofNat_of_lt' (Nat.mod_lt n (by decide))
    rw [bigEndian, ofBigEndian_concat, ih, hbyte, Nat.pow_succ', Nat.mod_mul]
    omega

/-- **Reading a number back.** -/
theorem ofBigEndian_bigEndian {width n : ℕ} (h : n < 256 ^ width) :
    ofBigEndian (bigEndian width n) = n := by
  rw [ofBigEndian_bigEndian_mod, Nat.mod_eq_of_lt h]

theorem ofBigEndian_lt (bytes : List UInt8) : ofBigEndian bytes < 256 ^ bytes.length := by
  induction bytes using List.reverseRecOn with
  | nil => decide
  | append_singleton bytes byte ih =>
    have hbyte := byte.toNat_lt
    rw [ofBigEndian_concat, List.length_append, List.length_singleton, Nat.pow_succ']
    omega

/-- **Writing a number back.** -/
theorem bigEndian_ofBigEndian (bytes : List UInt8) :
    bigEndian bytes.length (ofBigEndian bytes) = bytes := by
  induction bytes using List.reverseRecOn with
  | nil => rfl
  | append_singleton bytes byte ih =>
    have hbyte := byte.toNat_lt
    have hdiv : (256 * ofBigEndian bytes + byte.toNat) / 256 = ofBigEndian bytes := by omega
    have hmod : (256 * ofBigEndian bytes + byte.toNat) % 256 = byte.toNat := by omega
    rw [ofBigEndian_concat, List.length_append, List.length_singleton, bigEndian, hdiv, hmod, ih,
      UInt8.ofNat_toNat]

/-! ### Least significant byte first -/

def littleEndian (width n : ℕ) : List UInt8 := (bigEndian width n).reverse

def ofLittleEndian (bytes : List UInt8) : ℕ := ofBigEndian bytes.reverse

@[simp] theorem length_littleEndian (width n : ℕ) : (littleEndian width n).length = width := by
  rw [littleEndian, List.length_reverse, length_bigEndian]

theorem ofLittleEndian_littleEndian {width n : ℕ} (h : n < 256 ^ width) :
    ofLittleEndian (littleEndian width n) = n := by
  rw [ofLittleEndian, littleEndian, List.reverse_reverse, ofBigEndian_bigEndian h]

end Termd
