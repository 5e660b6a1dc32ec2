import Mathlib.Data.List.Forall2

/-!
# Reading a list item by item

A list is read by a function that may fail on an item, and then it fails as a whole. What is read is
related to the list item by item.

## Main results

* `exists_mapM_eq`, `forall₂_of_mapM`: when a list is read, and what is read then
* `forall₂_map_eq`, `mem_of_forall₂`, `mem_of_forall₂_left`: the items
-/

namespace Termd

section Traverse

variable {α β : Type}

theorem exists_mapM_eq {f : α → Option β} {l : List α} (h : ∀ a ∈ l, (f a).isSome) :
    ∃ ys, l.mapM f = some ys ∧ List.Forall₂ (fun a y => f a = some y) l ys := by
  induction l with
  | nil => exact ⟨[], rfl, .nil⟩
  | cons a l ih =>
    obtain ⟨ha, hl⟩ := List.forall_mem_cons.mp h
    obtain ⟨y, hy⟩ := Option.isSome_iff_exists.mp ha
    obtain ⟨ys, hys, hforall⟩ := ih hl
    refine ⟨y :: ys, ?_, .cons hy hforall⟩
    rw [List.mapM_cons, hy, hys]
    rfl

theorem forall₂_of_mapM {f : α → Option β} {l : List α} {ys : List β} (h : l.mapM f = some ys) :
    List.Forall₂ (fun a y => f a = some y) l ys := by
  induction l generalizing ys with
  | nil =>
    obtain rfl := Option.some.inj h
    exact .nil
  | cons a l ih =>
    rw [List.mapM_cons] at h
    obtain ⟨y, hy, h⟩ := Option.bind_eq_some_iff.mp h
    obtain ⟨ys, hys, h⟩ := Option.bind_eq_some_iff.mp h
    obtain rfl := Option.some.inj h
    exact .cons hy (ih hys)

theorem forall₂_map_eq {R : α → β → Prop} {γ : Type} {g : α → γ} {k : β → γ} {l : List α}
    {ys : List β} (h : List.Forall₂ R l ys) (hkey : ∀ a y, R a y → k y = g a) :
    ys.map k = l.map g := by
  induction h with
  | nil => rfl
  | cons hay _ ih => rw [List.map_cons, List.map_cons, hkey _ _ hay, ih]

theorem mem_of_forall₂ {R : α → β → Prop} {l : List α} {ys : List β} (h : List.Forall₂ R l ys)
    {y : β} (hy : y ∈ ys) : ∃ a ∈ l, R a y := by
  induction h with
  | nil => cases hy
  | cons hay _ ih =>
    rcases List.mem_cons.mp hy with rfl | hy
    · exact ⟨_, List.mem_cons_self, hay⟩
    · obtain ⟨a, ha, hR⟩ := ih hy
      exact ⟨a, List.mem_cons_of_mem _ ha, hR⟩

theorem mem_of_forall₂_left {R : α → β → Prop} {l : List α} {ys : List β}
    (h : List.Forall₂ R l ys) {a : α} (ha : a ∈ l) : ∃ y ∈ ys, R a y := by
  obtain ⟨y, hy, hR⟩ := mem_of_forall₂ h.flip ha
  exact ⟨y, hy, hR⟩

end Traverse

end Termd
