import Mathlib.Data.Finmap
import Mathlib.Algebra.GroupWithZero.Nat
import Mathlib.Algebra.BigOperators.Group.Multiset.Basic
import Mathlib.Algebra.Order.BigOperators.Group.Multiset

/-!
# Totals over finite maps

A finite map from keys to values, with the sum of a weight over its values. A total is
maintained under insertion and erasure: the sum splits at every key.

## Main definitions

* `FiniteMap K V`: finite maps
* `FiniteMap.total f m`: the sum of the weight `f` over the values of `m`
* `FiniteMap.count p m`: the number of values with the property `p`

## Main results

* `FiniteMap.total_eq_add_erase`: a total splits at a present key
* `FiniteMap.total_insert`, `FiniteMap.total_erase`: the total after an insertion or an erasure
-/

namespace Termd

/-- Finite maps from keys to values. -/
abbrev FiniteMap (K V : Type*) := Finmap fun _ : K => V

namespace FiniteMap

variable {K V : Type*}

/-- The sum of a weight over the values of a map. -/
def total (f : V → ℕ) (m : FiniteMap K V) : ℕ :=
  (m.entries.map fun e => f e.2).sum

/-- The number of values with a property. -/
def count (p : V → Bool) (m : FiniteMap K V) : ℕ :=
  total (fun v => if p v then 1 else 0) m

@[simp] theorem total_empty (f : V → ℕ) : total f (∅ : FiniteMap K V) = 0 := rfl

@[simp] theorem count_empty (p : V → Bool) : count p (∅ : FiniteMap K V) = 0 := rfl

variable [DecidableEq K]

theorem insert_erase_self (m : FiniteMap K V) (k : K) (v : V) :
    (m.erase k).insert k v = m.insert k v := by
  refine Finmap.ext_lookup fun k' => ?_
  by_cases hk : k' = k
  · subst hk; simp
  · simp [hk]

theorem erase_insert_self (m : FiniteMap K V) (k : K) (v : V) :
    (m.insert k v).erase k = m.erase k := by
  refine Finmap.ext_lookup fun k' => ?_
  by_cases hk : k' = k
  · subst hk; simp
  · simp [hk]

theorem insert_of_lookup {m : FiniteMap K V} {k : K} {v : V} (h : m.lookup k = some v) :
    m.insert k v = m := by
  refine Finmap.ext_lookup fun k' => ?_
  by_cases hk : k' = k
  · subst hk; simp [h]
  · simp [hk]

theorem erase_of_lookup_none {m : FiniteMap K V} {k : K} (h : m.lookup k = none) :
    m.erase k = m := by
  refine Finmap.ext_lookup fun k' => ?_
  by_cases hk : k' = k
  · subst hk; simp [h]
  · simp [hk]

theorem eq_empty_of_lookup {m : FiniteMap K V} (h : ∀ k, m.lookup k = none) : m = ∅ :=
  Finmap.ext_lookup fun k => by rw [h k, Finmap.lookup_empty]

theorem lookup_erase_eq_some {m : FiniteMap K V} {k k' : K} {v : V} :
    (m.erase k').lookup k = some v ↔ k ≠ k' ∧ m.lookup k = some v := by
  by_cases hk : k = k'
  · subst hk; simp
  · simp [hk]

theorem lookup_insert_eq_some {m : FiniteMap K V} {k k' : K} {v w : V} :
    (m.insert k' w).lookup k = some v ↔ (k = k' ∧ v = w) ∨ (k ≠ k' ∧ m.lookup k = some v) := by
  by_cases hk : k = k'
  · subst hk; simp [eq_comm]
  · simp [hk]

theorem total_insert_of_lookup_none (f : V → ℕ) {m : FiniteMap K V} {k : K} {v : V}
    (h : m.lookup k = none) : total f (m.insert k v) = f v + total f m := by
  rw [total, Finmap.entries_insert_of_notMem (Finmap.lookup_eq_none.mp h)]
  simp [total]

/-- The total after an insertion: the new value replaces what its key held. -/
theorem total_insert (f : V → ℕ) (m : FiniteMap K V) (k : K) (v : V) :
    total f (m.insert k v) = f v + total f (m.erase k) := by
  rw [← insert_erase_self, total_insert_of_lookup_none f (Finmap.lookup_erase k m)]

/-- **A total splits** at a present key. -/
theorem total_eq_add_erase (f : V → ℕ) {m : FiniteMap K V} {k : K} {v : V}
    (h : m.lookup k = some v) : total f m = f v + total f (m.erase k) := by
  rw [← total_insert, insert_of_lookup h]

/-- The total after an erasure. -/
theorem total_erase (f : V → ℕ) {m : FiniteMap K V} {k : K} {v : V} (h : m.lookup k = some v) :
    total f (m.erase k) = total f m - f v := by
  rw [total_eq_add_erase f h, Nat.add_sub_cancel_left]

theorem le_total (f : V → ℕ) {m : FiniteMap K V} {k : K} {v : V} (h : m.lookup k = some v) :
    f v ≤ total f m := by
  rw [total_eq_add_erase f h]
  exact Nat.le_add_right _ _

theorem total_erase_le (f : V → ℕ) (m : FiniteMap K V) (k : K) :
    total f (m.erase k) ≤ total f m := by
  cases h : m.lookup k with
  | none => rw [erase_of_lookup_none h]
  | some v => rw [total_eq_add_erase f h]; exact Nat.le_add_left _ _

end FiniteMap

end Termd
