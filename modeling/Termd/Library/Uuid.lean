import Mathlib.Algebra.Ring.Nat
import Mathlib.Data.Nat.Log
import Termd.Library.Decimal

/-!
# UUIDs as text

A UUID is displayed as five groups of hexadecimal digits with hyphens between them. The number of
digits of a group is fixed, so the groups and with them the UUID are read back from the text. Here a
number of any size is displayed: one that does not fit into 128 bits has a longer first group.

## Main definitions

* `hexDigits width n`: the last digits of `n`
* `uuidHyphenated n`: the text of a UUID

## Main results

* `uuidHyphenated_injective`: reading a UUID back
-/

namespace Termd

/-- A hexadecimal digit in lower case. -/
def hexDigit (n : ℕ) : UInt8 := if n < 10 then UInt8.ofNat (0x30 + n) else UInt8.ofNat (0x57 + n)

def hexValue (byte : UInt8) : ℕ :=
  if byte.toNat < 0x40 then byte.toNat - 0x30 else byte.toNat - 0x57

/-- The last `width` digits of a number, most significant first. -/
def hexDigits : ℕ → ℕ → List UInt8
  | 0, _ => []
  | width + 1, n => hexDigits width (n / 16) ++ [hexDigit (n % 16)]

/-- All digits of a number, and at least `width` of them. -/
def hexAtLeast (width n : ℕ) : List UInt8 := hexDigits (max width (Nat.log 16 n + 1)) n

def uuidHyphenated (n : ℕ) : List UInt8 :=
  hexAtLeast 8 (n / 2 ^ 96) ++ 0x2d :: (hexDigits 4 (n / 2 ^ 80) ++ 0x2d ::
    (hexDigits 4 (n / 2 ^ 64) ++ 0x2d :: (hexDigits 4 (n / 2 ^ 48) ++ 0x2d :: hexDigits 12 n)))

theorem hexValue_hexDigit {n : ℕ} (h : n < 16) : hexValue (hexDigit n) = n := by
  interval_cases n <;> rfl

theorem hexDigit_ne {n : ℕ} (h : n < 16) : hexDigit n ≠ 0x2d ∧ hexDigit n ≠ 0x0a := by
  interval_cases n <;> decide

/-- Digits are read back by a fold. -/
theorem foldl_hexDigits (width n : ℕ) :
    (hexDigits width n).foldl (fun m byte => 16 * m + hexValue byte) 0 = n % 16 ^ width := by
  induction width generalizing n with
  | zero => rw [Nat.pow_zero, Nat.mod_one]; rfl
  | succ width ih =>
    rw [hexDigits, List.foldl_append, ih, List.foldl_cons, List.foldl_nil,
      hexValue_hexDigit (Nat.mod_lt n (by decide)), Nat.pow_succ', Nat.mod_mul]
    omega

theorem hexDigits_inj {width m n : ℕ} (h : hexDigits width m = hexDigits width n) :
    m % 16 ^ width = n % 16 ^ width := by
  rw [← foldl_hexDigits width m, h, foldl_hexDigits width n]

theorem hexAtLeast_inj {width m n : ℕ} (h : hexAtLeast width m = hexAtLeast width n) : m = n := by
  have hread (n : ℕ) :
      (hexAtLeast width n).foldl (fun m byte => 16 * m + hexValue byte) 0 = n := by
    rw [hexAtLeast, foldl_hexDigits]
    refine Nat.mod_eq_of_lt ((Nat.lt_pow_succ_log_self (b := 16) (by decide) n).trans_le ?_)
    exact Nat.pow_le_pow_right (by decide) (le_max_right _ _)
  rw [← hread m, h, hread n]

theorem ne_of_mem_hexDigits {width n : ℕ} {byte : UInt8} (h : byte ∈ hexDigits width n) :
    byte ≠ 0x2d ∧ byte ≠ 0x0a := by
  induction width generalizing n with
  | zero => cases h
  | succ width ih =>
    rw [hexDigits, List.mem_append, List.mem_singleton] at h
    rcases h with h | rfl
    · exact ih h
    · exact hexDigit_ne (Nat.mod_lt n (by decide))

/-- **Reading a UUID back.** -/
theorem uuidHyphenated_injective : Function.Injective uuidHyphenated := by
  have hhyphen (width n : ℕ) : (0x2d : UInt8) ∉ hexDigits width n := fun hmem =>
    (ne_of_mem_hexDigits hmem).1 rfl
  intro m n h
  obtain ⟨hfirst, h⟩ := append_separator_inj (hhyphen _ _) (hhyphen _ _) h
  obtain ⟨hsecond, h⟩ := append_separator_inj (hhyphen _ _) (hhyphen _ _) h
  obtain ⟨hthird, h⟩ := append_separator_inj (hhyphen _ _) (hhyphen _ _) h
  obtain ⟨hfourth, hlast⟩ := append_separator_inj (hhyphen _ _) (hhyphen _ _) h
  have hfirst := hexAtLeast_inj hfirst
  have hsecond := hexDigits_inj hsecond
  have hthird := hexDigits_inj hthird
  have hfourth := hexDigits_inj hfourth
  have hlast := hexDigits_inj hlast
  norm_num at hfirst hsecond hthird hfourth hlast
  omega

theorem newline_notMem_uuidHyphenated {n : ℕ} : (0x0a : UInt8) ∉ uuidHyphenated n := by
  have hdigit (width n : ℕ) : (0x0a : UInt8) ∉ hexDigits width n := fun hmem =>
    (ne_of_mem_hexDigits hmem).2 rfl
  simp [uuidHyphenated, hexAtLeast, hdigit]

end Termd
