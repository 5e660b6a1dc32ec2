import Mathlib.Tactic.IntervalCases

/-!
# Decimal numerals as bytes

A numeral is read back by a fold over its digits. It has no other bytes, so a text that begins with a
numeral and a separator determines both; fields that are written with their length in front can be
put one after another without a doubt where one ends.

## Main definitions

* `decimal n`: the digits of `n` in ASCII, most significant first
* `lengthField name value`: a named field with the length of its value in front

## Main results

* `foldl_decimal`: reading a numeral back
* `lengthField_append_inj`: fields with the same name can be told apart
-/

namespace Termd

/-- An ASCII digit. -/
def isDigit (byte : UInt8) : Bool := 0x30 ≤ byte && byte ≤ 0x39

/-- The value of an ASCII digit. -/
def digitValue (byte : UInt8) : ℕ := byte.toNat - 0x30

/-- The decimal numeral of a number. -/
def decimal (n : ℕ) : List UInt8 := (Nat.toDigits 10 n).map fun c => UInt8.ofNat c.toNat

theorem decimal_of_lt {n : ℕ} (h : n < 10) : decimal n = [UInt8.ofNat (0x30 + n)] := by
  interval_cases n <;> rfl

/-- The last digit of a numeral stands for the remainder. -/
theorem decimal_of_ge {n : ℕ} (h : 10 ≤ n) :
    decimal n = decimal (n / 10) ++ [UInt8.ofNat (0x30 + n % 10)] := by
  rw [decimal, Nat.toDigits_of_base_le (by omega) h, List.map_append, ← decimal]
  congr 1
  have hlt : n % 10 < 10 := Nat.mod_lt _ (by omega)
  interval_cases n % 10 <;> rfl

theorem isDigit_ofNat {d : ℕ} (h : d < 10) : isDigit (UInt8.ofNat (0x30 + d)) = true := by
  interval_cases d <;> rfl

theorem digitValue_ofNat {d : ℕ} (h : d < 10) : digitValue (UInt8.ofNat (0x30 + d)) = d := by
  interval_cases d <;> rfl

/-- **Reading a numeral back**, with any reader that is exact on numbers up to `n`. -/
theorem foldl_decimal {α : Type*} (f : α → UInt8 → α) (value : ℕ → α) (start : α) {n : ℕ}
    (hstart : ∀ d < 10, f start (UInt8.ofNat (0x30 + d)) = value d)
    (hstep : ∀ m d, d < 10 → 10 * m + d ≤ n →
      f (value m) (UInt8.ofNat (0x30 + d)) = value (10 * m + d)) :
    (decimal n).foldl f start = value n := by
  induction n using Nat.strong_induction_on with
  | _ n ih =>
    rcases Nat.lt_or_ge n 10 with hn | hn
    · rw [decimal_of_lt hn]
      exact hstart n hn
    · have hdiv : 10 * (n / 10) + n % 10 = n := Nat.div_add_mod n 10
      rw [decimal_of_ge hn, List.foldl_append,
        ih (n / 10) (by omega) fun m d hd hm => hstep m d hd (by omega)]
      exact (hstep _ _ (Nat.mod_lt _ (by omega)) hdiv.le).trans (by rw [hdiv])

theorem decimal_injective : Function.Injective decimal := by
  have hread (n : ℕ) : (decimal n).foldl (fun m byte => 10 * m + digitValue byte) 0 = n := by
    refine foldl_decimal _ id 0 (fun d hd => ?_) fun m d hd _ => ?_
    · rw [digitValue_ofNat hd, Nat.mul_zero, Nat.zero_add]
      rfl
    · rw [digitValue_ofNat hd]
      rfl
  intro m n h
  rw [← hread m, h, hread n]

theorem isDigit_of_mem_decimal {n : ℕ} {byte : UInt8} (h : byte ∈ decimal n) :
    isDigit byte = true := by
  induction n using Nat.strong_induction_on with
  | _ n ih =>
    rcases Nat.lt_or_ge n 10 with hn | hn
    · rw [decimal_of_lt hn, List.mem_singleton] at h
      rw [h]
      exact isDigit_ofNat hn
    · rw [decimal_of_ge hn, List.mem_append, List.mem_singleton] at h
      rcases h with h | rfl
      · exact ih (n / 10) (by omega) h
      · exact isDigit_ofNat (Nat.mod_lt _ (by omega))

/-! ### Fields with their length in front -/

/-- The first separator ends the same part on both sides. -/
theorem append_separator_inj {α : Type*} {separator : α} {a b x y : List α} (ha : separator ∉ a)
    (hb : separator ∉ b) (h : a ++ separator :: x = b ++ separator :: y) : a = b ∧ x = y := by
  induction a generalizing b with
  | nil =>
    cases b with
    | nil => exact ⟨rfl, (List.cons.inj h).2⟩
    | cons c b => exact absurd ((List.cons.inj h).1 ▸ List.mem_cons_self) hb
  | cons c a ih =>
    cases b with
    | nil => exact absurd ((List.cons.inj h).1 ▸ List.mem_cons_self) ha
    | cons d b =>
      obtain ⟨rfl, htail⟩ := List.cons.inj h
      obtain ⟨rfl, rfl⟩ := ih (fun hmem => ha (List.mem_cons_of_mem _ hmem))
        (fun hmem => hb (List.mem_cons_of_mem _ hmem)) htail
      exact ⟨rfl, rfl⟩

/-- The last separator begins the same part on both sides. -/
theorem separator_append_inj {α : Type*} {separator : α} {a b x y : List α} (ha : separator ∉ a)
    (hb : separator ∉ b) (h : x ++ separator :: a = y ++ separator :: b) : x = y ∧ a = b := by
  have hreverse : a.reverse ++ separator :: x.reverse = b.reverse ++ separator :: y.reverse := by
    simpa using congrArg List.reverse h
  obtain ⟨hlast, hfront⟩ :=
    append_separator_inj (List.mem_reverse.not.mpr ha) (List.mem_reverse.not.mpr hb) hreverse
  exact ⟨List.reverse_inj.mp hfront, List.reverse_inj.mp hlast⟩

/-- `name:length:value\n` -/
def lengthField (name value : List UInt8) : List UInt8 :=
  name ++ 0x3a :: (decimal value.length ++ 0x3a :: (value ++ [0x0a]))

/-- **Fields can be told apart**: the length says where the value ends. -/
theorem lengthField_append_inj {name value value' rest rest' : List UInt8}
    (h : lengthField name value ++ rest = lengthField name value' ++ rest') :
    value = value' ∧ rest = rest' := by
  have hcolon (n : ℕ) : (0x3a : UInt8) ∉ decimal n := by
    intro hmem
    exact absurd (isDigit_of_mem_decimal hmem) (by decide)
  simp only [lengthField, List.append_assoc, List.cons_append, List.append_cancel_left_eq,
    List.cons.injEq, true_and] at h
  obtain ⟨hlength, hvalues⟩ := append_separator_inj (hcolon _) (hcolon _) h
  obtain ⟨hvalue, hrests⟩ := List.append_inj hvalues (decimal_injective hlength)
  exact ⟨hvalue, (List.cons.inj hrests).2⟩

end Termd
