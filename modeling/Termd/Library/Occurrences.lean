import Mathlib.Data.List.Infix
import Mathlib.Algebra.Ring.Nat

/-!
# Occurrences in a list

The leftmost occurrences of a list in another one that do not overlap: the first occurrence, then the
first one behind its end, and so on.

## Main definitions

* `Leftmost needle hay start positions`: the positions from `start` on

## Main results

* `Leftmost.prefix_drop`: there is an occurrence at each position
* `Leftmost.mem_of_singleton`: a single element occurs at all its positions
-/

namespace Termd

variable {α : Type} {needle hay : List α}

/-- The leftmost occurrences of `needle` from `start` on, without overlap. -/
inductive Leftmost (needle hay : List α) : ℕ → List ℕ → Prop
  | done {start : ℕ} (hnone : ∀ q, start ≤ q → ¬ needle <+: hay.drop q) :
    Leftmost needle hay start []
  | next {start p : ℕ} {positions : List ℕ} (hstart : start ≤ p) (hfound : needle <+: hay.drop p)
    (hfirst : ∀ q, start ≤ q → q < p → ¬ needle <+: hay.drop q)
    (hrest : Leftmost needle hay (p + needle.length) positions) :
    Leftmost needle hay start (p :: positions)

namespace Leftmost

variable {start : ℕ} {positions : List ℕ}

theorem prefix_drop (h : Leftmost needle hay start positions) :
    ∀ p ∈ positions, needle <+: hay.drop p := by
  induction h with
  | done => exact fun p hp => absurd hp List.not_mem_nil
  | next _ hfound _ _ ih => exact List.forall_mem_cons.mpr ⟨hfound, ih⟩

/-- The occurrences are determined. -/
theorem unique {positions' : List ℕ} (h : Leftmost needle hay start positions)
    (h' : Leftmost needle hay start positions') : positions = positions' := by
  induction h generalizing positions' with
  | done hnone =>
    cases h' with
    | done => rfl
    | next hstart hfound => exact absurd hfound (hnone _ hstart)
  | @next start p positions hstart hfound hfirst hrest ih =>
    cases h' with
    | done hnone => exact absurd hfound (hnone _ hstart)
    | @next _ p' positions' hstart' hfound' hfirst' hrest' =>
      have hp : p = p' := by
        rcases Nat.lt_trichotomy p p' with hlt | heq | hlt
        · exact absurd hfound (hfirst' p hstart hlt)
        · exact heq
        · exact absurd hfound' (hfirst p' hstart' hlt)
      subst hp
      rw [ih hrest']

/-- A single element occurs at all its positions. -/
theorem mem_of_singleton {a : α} (h : Leftmost [a] hay start positions) {p : ℕ}
    (hstart : start ≤ p) (hfound : [a] <+: hay.drop p) : p ∈ positions := by
  induction h with
  | done hnone => exact absurd hfound (hnone p hstart)
  | @next start p' positions hstart' _ hfirst _ ih =>
    rcases Nat.lt_trichotomy p p' with hlt | rfl | hlt
    · exact absurd hfound (hfirst p hstart hlt)
    · exact List.mem_cons_self
    · exact List.mem_cons_of_mem _ (ih hlt)

theorem length_le_count [DecidableEq α] {a : α} (h : Leftmost [a] hay start positions) :
    positions.length ≤ (hay.drop start).count a := by
  induction h with
  | done => exact Nat.zero_le _
  | @next start p positions hstart hfound _ _ ih =>
    obtain ⟨rest, hrest⟩ := hfound
    have hdrop : hay.drop (p + 1) = rest := by
      rw [← List.drop_drop, ← hrest]
      rfl
    have hcount : (hay.drop p).count a ≤ (hay.drop start).count a := by
      obtain ⟨k, rfl⟩ := Nat.exists_eq_add_of_le hstart
      rw [← List.drop_drop]
      exact (List.drop_sublist _ _).count_le a
    rw [List.length_singleton, hdrop] at ih
    rw [← hrest, List.singleton_append, List.count_cons_self] at hcount
    rw [List.length_cons]
    omega

end Leftmost

end Termd
