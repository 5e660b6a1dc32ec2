import Mathlib.Data.List.Chain

/-!
# The values that differ from the one before

A sequence of values is observed, and a value is reported where it differs from the one before, up
to a key. Between two reports the value may not move at all; then the reports say everything.

## Main definitions

* `changes key a values`: the reports, the value before being `a`
* `SteadyFrom key a values`: a value with the key of the one before is that value

## Main results

* `changes_append`: the reports of two observations, one after the other
* `changes_chain`: every report differs from the one before
* `SteadyFrom.getLastD_changes`: the last report is the last value
-/

namespace Termd

variable {α κ : Type} [DecidableEq κ] {key : α → κ} {a b : α} {values values' : List α}

def changes (key : α → κ) : α → List α → List α
  | _, [] => []
  | a, b :: values => if key a = key b then changes key b values else b :: changes key b values

/-- The value does not move where the key does not. -/
def SteadyFrom (key : α → κ) : α → List α → Prop
  | _, [] => True
  | a, b :: values => (key a = key b → a = b) ∧ SteadyFrom key b values

@[simp] theorem changes_nil : changes key a [] = [] := rfl

theorem changes_cons_of_eq (h : key a = key b) :
    changes key a (b :: values) = changes key b values :=
  if_pos h

theorem changes_cons_of_ne (h : key a ≠ key b) :
    changes key a (b :: values) = b :: changes key b values :=
  if_neg h

theorem getLastD_append {values values' : List α} {a : α} :
    (values ++ values').getLastD a = values'.getLastD (values.getLastD a) := by
  induction values generalizing a with
  | nil => rfl
  | cons b values ih => rw [List.cons_append, List.getLastD_cons, List.getLastD_cons, ih]

/-- **The reports of two observations**, the second of which begins where the first has ended. -/
theorem changes_append : changes key a (values ++ values') =
    changes key a values ++ changes key (values.getLastD a) values' := by
  induction values generalizing a with
  | nil => rfl
  | cons b values ih =>
    rw [List.cons_append, List.getLastD_cons]
    by_cases h : key a = key b
    · rw [changes_cons_of_eq h, changes_cons_of_eq h, ih]
    · rw [changes_cons_of_ne h, changes_cons_of_ne h, ih, List.cons_append]

theorem changes_cons : changes key a (b :: values) = changes key a [b] ++ changes key b values :=
  @changes_append _ _ _ _ _ [b] _

/-- Nothing is said about the value that a report begins with: only its key counts. -/
theorem changes_congr (h : key a = key b) : changes key a values = changes key b values := by
  cases values with
  | nil => rfl
  | cons c values => rw [changes, changes, h]

/-- **Every report differs** from the one before. -/
theorem changes_chain : (a :: changes key a values).IsChain fun b c => key b ≠ key c := by
  induction values generalizing a with
  | nil => exact List.isChain_singleton a
  | cons b values ih =>
    by_cases h : key a = key b
    · rw [changes_cons_of_eq h, ← changes_congr h]
      exact ih
    · rw [changes_cons_of_ne h]
      exact List.isChain_cons_cons.mpr ⟨h, ih⟩

/-- **The last report is the last value**, and without a report the value has not moved. -/
theorem SteadyFrom.getLastD_changes (h : SteadyFrom key a values) :
    (changes key a values).getLastD a = values.getLastD a := by
  induction values generalizing a with
  | nil => rfl
  | cons b values ih =>
    rw [List.getLastD_cons]
    by_cases heq : key a = key b
    · rw [changes_cons_of_eq heq, h.1 heq]
      exact ih h.2
    · rw [changes_cons_of_ne heq, List.getLastD_cons]
      exact ih h.2

end Termd
