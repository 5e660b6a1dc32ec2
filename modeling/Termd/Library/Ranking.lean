import Mathlib.Data.List.Sort
import Mathlib.Order.Basic

/-!
# Lists in the order of a rank

Of the items of a type some are shown, each has a rank, and a list is ranked if it has the items that
are shown in the order of their ranks. There is at most one such list, so that what happens to the
ranks determines what happens to the list: an item below all others comes first, one above them comes
last, and the items whose ranks stay as they are keep their order.

## Main definitions

* `Ranked shown rank l`: the list shows the items in order

## Main results

* `Ranked.unique`: there is one such list
* `Ranked.cons`, `Ranked.concat`: a new item at an end
* `Ranked.common`: items that keep their ranks
* `ranked_renumbered`: ranks that are given out along a list
-/

namespace Termd

/-- The list has the items that are shown, in the order of their ranks. -/
structure Ranked {K A : Type*} [LinearOrder A] (shown : K → Prop) (rank : K → A) (l : List K) :
    Prop where
  mem_iff : ∀ k, k ∈ l ↔ shown k
  sorted : l.Pairwise fun a b => rank a < rank b

section Ranked

variable {K A : Type*} [LinearOrder A] {shown shown' : K → Prop} {rank rank' : K → A}
  {l l' : List K} {k : K}

theorem Ranked.nodup (h : Ranked shown rank l) : l.Nodup :=
  h.sorted.imp fun hlt heq => (heq ▸ hlt).false

/-- **There is one such list.** -/
theorem Ranked.unique (h : Ranked shown rank l) (h' : Ranked shown rank l') : l = l' := by
  have hperm : l.Perm l' := (List.perm_ext_iff_of_nodup h.nodup h'.nodup).mpr fun k => by
    rw [h.mem_iff, h'.mem_iff]
  exact hperm.eq_of_pairwise (fun a b _ _ hab hba => (hab.asymm hba).elim) h.sorted h'.sorted

theorem Ranked.congr (h : Ranked shown rank l) (hshown : ∀ k, shown' k ↔ shown k)
    (hrank : ∀ k, shown k → rank' k = rank k) : Ranked shown' rank' l where
  mem_iff k := (h.mem_iff k).trans (hshown k).symm
  sorted := h.sorted.imp_of_mem fun ha hb hlt => by
    rwa [hrank _ ((h.mem_iff _).mp ha), hrank _ ((h.mem_iff _).mp hb)]

theorem Ranked.filter (h : Ranked shown rank l) (p : K → Bool) :
    Ranked (fun k => shown k ∧ p k = true) rank (l.filter p) where
  mem_iff k := by rw [List.mem_filter, h.mem_iff]
  sorted := h.sorted.filter p

/-- An item below all others comes first. -/
theorem Ranked.cons (h : Ranked shown rank l) (hrank : ∀ j, shown j → rank' j = rank j)
    (hfirst : ∀ j, shown j → rank' k < rank j) :
    Ranked (fun j => j = k ∨ shown j) rank' (k :: l) where
  mem_iff j := by rw [List.mem_cons, h.mem_iff]
  sorted := by
    have hl := h.congr (fun _ => Iff.rfl) hrank
    refine List.pairwise_cons.mpr ⟨fun j hj => ?_, hl.sorted⟩
    have hshown := (h.mem_iff j).mp hj
    rw [hrank j hshown]
    exact hfirst j hshown

/-- An item above all others comes last. -/
theorem Ranked.concat (h : Ranked shown rank l) (hrank : ∀ j, shown j → rank' j = rank j)
    (hlast : ∀ j, shown j → rank j < rank' k) :
    Ranked (fun j => j = k ∨ shown j) rank' (l ++ [k]) where
  mem_iff j := by rw [List.mem_append, List.mem_singleton, h.mem_iff, or_comm]
  sorted := by
    have hl := h.congr (fun _ => Iff.rfl) hrank
    refine List.pairwise_append.mpr ⟨hl.sorted, List.pairwise_singleton _ k, fun j hj k' hk => ?_⟩
    obtain rfl := List.mem_singleton.mp hk
    have hshown := (h.mem_iff j).mp hj
    rw [hrank j hshown]
    exact hlast j hshown

/-- **Items that keep their ranks** are in both lists in the same order. -/
theorem Ranked.common [DecidableEq K] (h : Ranked shown rank l) (h' : Ranked shown' rank' l')
    (hrank : ∀ k, shown k → shown' k → rank' k = rank k) :
    l'.filter (· ∈ l) = l.filter (· ∈ l') := by
  refine (h'.filter (· ∈ l)).unique ((h.filter (· ∈ l')).congr (fun k => ?_) fun k hk => ?_)
  · rw [decide_eq_true_eq, decide_eq_true_eq, h.mem_iff, h'.mem_iff, and_comm]
  · rw [decide_eq_true_eq, h'.mem_iff] at hk
    exact hrank k hk.1 hk.2

/-- Ranks that are given out along a list. -/
theorem ranked_renumbered (hshown : ∀ k, k ∈ l ↔ shown k)
    (hrank : ∀ i j (hi : i < l.length) (hj : j < l.length), i < j → rank l[i] < rank l[j]) :
    Ranked shown rank l :=
  ⟨hshown, List.pairwise_iff_getElem.mpr hrank⟩

end Ranked

end Termd
