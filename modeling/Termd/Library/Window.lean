import Mathlib.Data.List.InsertIdx

/-!
# Positions and windows in a list

A queue of which only the end can be seen: the window is its last `rows` elements. Editing,
inserting and removing behind the start of the window are the same operations on the window, and
what falls off at the front of the queue is not seen.

## Main definitions

* `rposition p l`: the index of the last element with `p`
* `window rows l`: the last `rows` elements

## Main results

* `rposition_eq_some`, `rposition_eq_none_iff`: what the index says about the list
* `window_drop`: trimming at the front does not change the window
* `window_set`, `window_insertIdx`, `window_eraseIdx_insertIdx`: the window after an edit, after
  an insertion that pushes the first visible element out, and after a removal and an insertion
-/

namespace Termd

variable {α : Type*} {p : α → Bool} {l : List α}

/-- The index of the last element with `p`. -/
def rposition (p : α → Bool) : List α → Option ℕ
  | [] => none
  | x :: xs =>
    match rposition p xs with
    | some i => some (i + 1)
    | none => if p x then some 0 else none

theorem rposition_eq_none_iff : rposition p l = none ↔ ∀ x ∈ l, p x = false := by
  induction l with
  | nil => simp [rposition]
  | cons x xs ih =>
    cases h : rposition p xs <;> simp_all [rposition]

/-- The element at the last position has `p`, and nothing beyond it has. -/
theorem rposition_eq_some {i : ℕ} (h : rposition p l = some i) :
    ∃ x, l[i]? = some x ∧ p x = true ∧ ∀ y ∈ l.drop (i + 1), p y = false := by
  induction l generalizing i with
  | nil => simp [rposition] at h
  | cons x xs ih =>
    rw [rposition] at h
    cases hxs : rposition p xs with
    | some j =>
      simp only [hxs, Option.some.injEq] at h
      subst h
      exact ih hxs
    | none =>
      simp only [hxs] at h
      split at h
      · obtain rfl : 0 = i := Option.some.inj h
        exact ⟨x, rfl, ‹_›, rposition_eq_none_iff.mp hxs⟩
      · cases h

/-- The first position is not behind the last. -/
theorem exists_rposition_of_findIdx? {i : ℕ} (h : l.findIdx? p = some i) :
    ∃ j, rposition p l = some j ∧ i ≤ j ∧ j < l.length := by
  obtain ⟨hlt, hp, -⟩ := List.findIdx?_eq_some_iff_getElem.mp h
  cases hj : rposition p l with
  | none => simp [rposition_eq_none_iff.mp hj _ (List.getElem_mem hlt)] at hp
  | some j =>
    obtain ⟨x, hx, -, hrest⟩ := rposition_eq_some hj
    refine ⟨j, rfl, ?_, (List.getElem?_eq_some_iff.mp hx).1⟩
    by_contra hji
    have hmem : l[i] ∈ l.drop (j + 1) := List.mem_drop_iff_getElem.mpr ⟨i - (j + 1), by omega, by
      congr 1
      omega⟩
    simp [hrest _ hmem] at hp

section Window

variable {rows : ℕ}

/-- The last `rows` elements. -/
def window (rows : ℕ) (l : List α) : List α := l.drop (l.length - rows)

theorem length_window (h : rows ≤ l.length) : (window rows l).length = rows := by
  rw [window, List.length_drop]
  omega

/-- A list is what lies before the window followed by the window. -/
theorem exists_append_window (h : rows ≤ l.length) :
    ∃ pre, l = pre ++ window rows l ∧ pre.length = l.length - rows := by
  refine ⟨l.take (l.length - rows), (List.take_append_drop _ _).symm, ?_⟩
  rw [List.length_take]
  omega

theorem window_append {pre vis : List α} (h : vis.length = rows) : window rows (pre ++ vis) = vis := by
  rw [window, List.drop_left' (by rw [List.length_append]; omega)]

theorem window_drop {k : ℕ} (h : rows + k ≤ l.length) : window rows (l.drop k) = window rows l := by
  rw [window, window, List.drop_drop, List.length_drop]
  congr 1
  omega

theorem window_of_length (h : l.length = rows) : window rows l = l := by
  rw [window, h, Nat.sub_self, List.drop_zero]

theorem mem_of_mem_window {x : α} (h : x ∈ window rows l) : x ∈ l := List.mem_of_mem_drop h

theorem window_set {i : ℕ} {x : α} (h : rows ≤ l.length) :
    window rows (l.set (l.length - rows + i) x) = (window rows l).set i x := by
  obtain ⟨pre, hl, hpre⟩ := exists_append_window h
  rw [window, List.length_set, List.drop_set, if_neg (by omega), Nat.add_sub_cancel_left]
  rfl

theorem insertIdx_append_right {pre vis : List α} {i : ℕ} {x : α} :
    (pre ++ vis).insertIdx (pre.length + i) x = pre ++ vis.insertIdx i x := by
  induction pre with
  | nil => simp
  | cons y pre ih =>
    rw [List.length_cons, Nat.add_right_comm, List.cons_append, List.insertIdx_succ_cons, ih]
    rfl

/-- An insertion into the window pushes its first element out. -/
theorem window_insertIdx {i : ℕ} {x : α} (h : rows ≤ l.length) (hi : 0 < i) (hi' : i ≤ rows) :
    window rows (l.insertIdx (l.length - rows + i) x) =
      ((window rows l).eraseIdx 0).insertIdx (i - 1) x := by
  obtain ⟨pre, hl, hpre⟩ := exists_append_window h
  have hlen := length_window h
  rw [← hpre]
  generalize window rows l = vis at *
  subst hl
  rw [insertIdx_append_right]
  obtain ⟨y, vis, rfl⟩ := List.exists_cons_of_length_pos (l := vis) (by omega)
  obtain ⟨i, rfl⟩ := Nat.exists_eq_add_of_lt hi
  rw [Nat.zero_add, List.insertIdx_succ_cons, List.append_cons, Nat.add_sub_cancel]
  refine window_append ?_
  rw [List.length_cons] at hlen
  rw [List.length_insertIdx_of_le_length (by omega)]
  exact hlen

/-- An element is removed from the window and one inserted into it. -/
theorem window_eraseIdx_insertIdx {i j : ℕ} {x : α} (h : rows ≤ l.length) (hi : i < rows)
    (hj : j < rows) :
    window rows ((l.eraseIdx (l.length - rows + i)).insertIdx (l.length - rows + j) x) =
      ((window rows l).eraseIdx i).insertIdx j x := by
  obtain ⟨pre, hl, hpre⟩ := exists_append_window h
  have hlen := length_window h
  rw [← hpre]
  generalize window rows l = vis at *
  subst hl
  rw [List.eraseIdx_append_of_length_le (by omega), Nat.add_sub_cancel_left,
    insertIdx_append_right]
  have hlen' : (vis.eraseIdx i).length = rows - 1 := by
    rw [List.length_eraseIdx_of_lt (by omega), hlen]
  refine window_append ?_
  rw [List.length_insertIdx_of_le_length (by omega)]
  omega

/-- Replacing an element and then mapping is editing what was mapped. -/
theorem map_set_eq_modify {β : Type*} {g : α → β} {f : β → β} {i : ℕ} {x y : α}
    (hx : l[i]? = some x) (h : g y = f (g x)) : (l.set i y).map g = (l.map g).modify i f := by
  apply List.ext_getElem?
  intro j
  rw [List.getElem?_modify, List.getElem?_map, List.getElem?_map, List.getElem?_set]
  by_cases hij : i = j
  · subst hij
    obtain ⟨hlt, rfl⟩ := List.getElem?_eq_some_iff.mp hx
    simp [hlt, h]
  · simp [hij]

end Window

end Termd
