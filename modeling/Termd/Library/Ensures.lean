import Mathlib.Data.Nat.Basic

/-!
# Code that may panic

The result of code that may panic is an option: `none` is the panic. `Ensures r P` is the total
correctness judgement for such code, and the rules below follow the way the code is put together.

## Main definitions

* `Ensures r P`: the code `r` does not panic, and `P` holds of its result
* `iterM n f`: a loop of `n` rounds

## Main results

* `Ensures.bind`: the rule of sequential composition
* `Ensures.iterM`: the rule of loops, with an invariant that counts the rounds
-/

namespace Termd

variable {α β : Type*}

/-- The code does not panic and `P` holds of its result. -/
def Ensures (r : Option α) (P : α → Prop) : Prop := ∃ a, r = some a ∧ P a

theorem Ensures.some {a : α} {P : α → Prop} (h : P a) : Ensures (some a) P := ⟨a, rfl, h⟩

theorem Ensures.mono {r : Option α} {P Q : α → Prop} (h : Ensures r P) (hPQ : ∀ a, P a → Q a) :
    Ensures r Q := by
  obtain ⟨a, hr, ha⟩ := h
  exact ⟨a, hr, hPQ a ha⟩

theorem Ensures.bind {r : Option α} {f : α → Option β} {P : α → Prop} {Q : β → Prop}
    (h : Ensures r P) (hf : ∀ a, P a → Ensures (f a) Q) : Ensures (r.bind f) Q := by
  obtain ⟨a, rfl, ha⟩ := h
  exact hf a ha

theorem Ensures.ite {c : Prop} [Decidable c] {r r' : Option α} {P : α → Prop}
    (h : c → Ensures r P) (h' : ¬c → Ensures r' P) : Ensures (if c then r else r') P := by
  by_cases hc : c
  · rw [if_pos hc]
    exact h hc
  · rw [if_neg hc]
    exact h' hc

/-- A loop of `n` rounds. -/
def iterM (f : α → Option α) : ℕ → α → Option α
  | 0, a => some a
  | n + 1, a => (f a).bind (iterM f n)

/-- **The rule of loops**: an invariant of the rounds left holds at the end with none left. -/
theorem Ensures.iterM {f : α → Option α} {I : ℕ → α → Prop}
    (hf : ∀ n a, I (n + 1) a → Ensures (f a) (I n)) {n : ℕ} {a : α} (ha : I n a) :
    Ensures (iterM f n a) (I 0) := by
  induction n generalizing a with
  | zero => exact .some ha
  | succ n ih => exact (hf n a ha).bind fun b hb => ih hb

end Termd
