import Mathlib.Algebra.Ring.Nat
import Mathlib.Order.Nat
import Termd.Library.OrderedMap

/-!
# Byte ranges of an upload

The daemon keeps the parts of a file that it has received, and those that a request is writing, as
maps from the start of a range to its length. The queries look only at the ranges next to an
offset: that they answer for all ranges needs that the ranges do not overlap.

## Main definitions

* `Ranges`: ranges by their start, `Ranges.Covers`: the offsets inside of them
* `rangeIsFullyCovered`, `rangeOverlaps`: the queries
* `Ranges.Within m size`: the ranges are non-empty, disjoint and end by `size`

## Main results

* `covers_of_rangeIsFullyCovered`, `not_covers_of_rangeOverlaps`: what the queries say
* `Ranges.Within.insert`: disjoint ranges stay disjoint
* `Ranges.Within.sum_le`: their lengths add up to at most `size`
-/

namespace Termd.Files

/-- `u64::checked_add` -/
def checkedAdd (a b : ℕ) : Option ℕ := if a + b < 2 ^ 64 then some (a + b) else none

theorem checkedAdd_eq_some {a b c : ℕ} : checkedAdd a b = some c ↔ a + b < 2 ^ 64 ∧ c = a + b := by
  rw [checkedAdd]
  split_ifs with h
  · exact ⟨fun hsum => ⟨h, (Option.some.inj hsum).symm⟩, fun hsum => congrArg some hsum.2.symm⟩
  · constructor
    · intro hsum
      cases hsum
    · exact fun hsum => absurd hsum.1 h

theorem checkedAdd_of_lt {a b : ℕ} (h : a + b < 2 ^ 64) : checkedAdd a b = some (a + b) := if_pos h

/-- A checked sum is the sum. -/
theorem foldlM_checkedAdd_eq_some {α : Type*} {f : α → ℕ} {l : List α} {acc sum : ℕ}
    (h : l.foldlM (fun acc a => checkedAdd acc (f a)) acc = some sum) :
    sum = acc + (l.map f).sum := by
  induction l generalizing acc with
  | nil =>
    cases h
    rfl
  | cons a l ih =>
    rw [List.foldlM_cons, Option.bind_eq_bind, Option.bind_eq_some_iff] at h
    obtain ⟨next, hadd, h⟩ := h
    obtain ⟨-, rfl⟩ := checkedAdd_eq_some.mp hadd
    rw [ih h, List.map_cons, List.sum_cons, Nat.add_assoc]

theorem foldlM_checkedAdd_of_lt {α : Type*} {f : α → ℕ} {l : List α} {acc : ℕ}
    (h : acc + (l.map f).sum < 2 ^ 64) :
    l.foldlM (fun acc a => checkedAdd acc (f a)) acc = some (acc + (l.map f).sum) := by
  induction l generalizing acc with
  | nil => rfl
  | cons a l ih =>
    rw [List.map_cons, List.sum_cons] at h ⊢
    rw [List.foldlM_cons, checkedAdd_of_lt (by omega), Option.bind_eq_bind, Option.bind_some,
      ih (by omega), Nat.add_assoc]

/-- The lengths of ranges by their start. -/
abbrev Ranges := OrderedMap ℕ ℕ

/-- The loop of `rangeIsFullyCovered`. Each round moves the cursor, so that `stop - cursor` rounds
are enough. -/
def coveredFrom (ranges : Ranges) (stop : ℕ) : ℕ → ℕ → Bool
  | 0, cursor => !decide (cursor < stop)
  | rounds + 1, cursor =>
    if cursor < stop then
      match ranges.floor cursor with
      | none => false
      | some (rangeStart, len) =>
        match checkedAdd rangeStart len with
        | none => false
        | some rangeEnd =>
          if rangeStart > cursor ∨ rangeEnd ≤ cursor then false
          else coveredFrom ranges stop rounds rangeEnd
    else true

def rangeIsFullyCovered (ranges : Ranges) (start stop : ℕ) : Bool :=
  if start = stop then true else coveredFrom ranges stop (stop - start) start

def rangeOverlaps (ranges : Ranges) (start stop : ℕ) : Bool :=
  if start = stop then false
  else if ((ranges.floor start).bind fun range => checkedAdd range.1 range.2).any (start < ·) then
    true
  else (ranges.ceiling start).any (·.1 < stop)

namespace Ranges

variable {m : Ranges} {size start stop len i : ℕ}

/-- The offset `i` is inside of a range. -/
def Covers (m : Ranges) (i : ℕ) : Prop := ∃ range ∈ m, range.1 ≤ i ∧ i < range.1 + range.2

/-- The ranges are non-empty, end by `size` and do not overlap. -/
structure Within (m : Ranges) (size : ℕ) : Prop where
  pos : ∀ range ∈ m, 0 < range.2
  le : ∀ range ∈ m, range.1 + range.2 ≤ size
  disjoint : ∀ range ∈ m, ∀ other ∈ m, range.1 < other.1 → range.1 + range.2 ≤ other.1

@[simp] theorem not_covers_empty : ¬(∅ : Ranges).Covers i := by
  rintro ⟨range, hmem, -⟩
  exact OrderedMap.notMem_empty hmem

theorem within_empty (size : ℕ) : (∅ : Ranges).Within size :=
  ⟨fun _ h => absurd h OrderedMap.notMem_empty, fun _ h => absurd h OrderedMap.notMem_empty,
    fun _ h => absurd h OrderedMap.notMem_empty⟩

/-- What is covered after a range was added at a free place. -/
theorem covers_insert_iff (h : m.Within size) (hlen : 0 < len)
    (hfree : ∀ i, start ≤ i → i < start + len → ¬m.Covers i) :
    Ranges.Covers (m.insert start len) i ↔ m.Covers i ∨ start ≤ i ∧ i < start + len := by
  constructor
  · rintro ⟨range, hmem, hi⟩
    rcases OrderedMap.mem_insert.mp hmem with rfl | ⟨hmem, -⟩
    · exact .inr hi
    · exact .inl ⟨range, hmem, hi⟩
  · rintro (⟨range, hmem, hi⟩ | hi)
    · refine ⟨range, OrderedMap.mem_insert.mpr (.inr ⟨hmem, ?_⟩), hi⟩
      -- a range with the same start would be replaced, but it covers its start
      rintro rfl
      have hpos := h.pos range hmem
      exact hfree range.1 le_rfl (by omega) ⟨range, hmem, le_rfl, by omega⟩
    · exact ⟨(start, len), OrderedMap.mem_insert.mpr (.inl rfl), hi⟩

/-- **A range that covers nothing of what is covered** can be added. -/
theorem Within.insert (h : m.Within size) (hlen : 0 < len) (hle : start + len ≤ size)
    (hfree : ∀ i, start ≤ i → i < start + len → ¬m.Covers i) :
    Ranges.Within (m.insert start len) size where
  pos := by
    intro range hmem
    rcases OrderedMap.mem_insert.mp hmem with rfl | ⟨hmem, -⟩
    · exact hlen
    · exact h.pos range hmem
  le := by
    intro range hmem
    rcases OrderedMap.mem_insert.mp hmem with rfl | ⟨hmem, -⟩
    · exact hle
    · exact h.le range hmem
  disjoint := by
    intro range hmem other hother hlt
    rcases OrderedMap.mem_insert.mp hmem with rfl | ⟨hmem, -⟩ <;>
      rcases OrderedMap.mem_insert.mp hother with rfl | ⟨hother, -⟩
    · exact absurd hlt (lt_irrefl _)
    · -- the start of the later range would be inside of the new one
      by_contra hover
      have hpos := h.pos other hother
      exact hfree other.1 hlt.le (not_le.mp hover) ⟨other, hother, le_rfl, by omega⟩
    · -- the start of the new range would be inside of the earlier one
      by_contra hover
      exact hfree start le_rfl (by omega) ⟨range, hmem, hlt.le, not_le.mp hover⟩
    · exact h.disjoint range hmem other hother hlt

/-- The lengths of disjoint ranges add up to at most the size. -/
theorem Within.sum_le (h : m.Within size) : (m.entries.map Prod.snd).sum ≤ size := by
  -- the ranges from an offset on fit between that offset and the size
  have hfit : ∀ (entries : List (ℕ × ℕ)) (offset : ℕ), offset ≤ size →
      entries.Pairwise (fun range other => range.1 + range.2 ≤ other.1) →
      (∀ range ∈ entries, offset ≤ range.1 ∧ range.1 + range.2 ≤ size) →
      offset + (entries.map Prod.snd).sum ≤ size := by
    intro entries
    induction entries with
    | nil => exact fun offset hoffset _ _ => hoffset
    | cons range entries ih =>
      intro offset hoffset hpair hin
      obtain ⟨hfirst, hpair⟩ := List.pairwise_cons.mp hpair
      obtain ⟨hstart, hend⟩ := hin range (by simp)
      have hrest := ih (range.1 + range.2) hend hpair fun other hother =>
        ⟨hfirst other hother, (hin other (by simp [hother])).2⟩
      simp only [List.map_cons, List.sum_cons]
      omega
  have hpair : m.entries.Pairwise fun range other => range.1 + range.2 ≤ other.1 :=
    m.sorted.imp_of_mem fun hmem hother hlt => h.disjoint _ hmem _ hother hlt
  have hsum := hfit m.entries 0 (Nat.zero_le _) hpair fun range hmem =>
    ⟨Nat.zero_le _, h.le range hmem⟩
  omega

end Ranges

open Ranges

variable {ranges : Ranges} {size start stop i : ℕ}

theorem covers_of_coveredFrom {rounds cursor : ℕ}
    (h : coveredFrom ranges stop rounds cursor = true) (hcursor : cursor ≤ i) (hi : i < stop) :
    ranges.Covers i := by
  induction rounds generalizing cursor with
  | zero =>
    have hstop : stop ≤ cursor := by simpa [coveredFrom] using h
    omega
  | succ rounds ih =>
    rw [coveredFrom, if_pos (by omega)] at h
    split at h
    · cases h
    rename_i rangeStart len hfloor
    split at h
    · cases h
    rename_i rangeEnd hadd
    split at h
    · cases h
    rename_i hnext
    obtain ⟨-, rfl⟩ := checkedAdd_eq_some.mp hadd
    -- the range at the cursor covers the offsets up to its end, the later rounds the others
    by_cases hrange : i < rangeStart + len
    · exact ⟨(rangeStart, len), (OrderedMap.floor_eq_some hfloor).1, by omega, hrange⟩
    · exact ih h (not_lt.mp hrange)

/-- **A range that is fully covered** is covered offset by offset. -/
theorem covers_of_rangeIsFullyCovered (h : rangeIsFullyCovered ranges start stop = true)
    (hstart : start ≤ i) (hi : i < stop) : ranges.Covers i := by
  rw [rangeIsFullyCovered, if_neg (by omega)] at h
  exact covers_of_coveredFrom h hstart hi

/-- **A range that does not overlap** has no covered offset. -/
theorem not_covers_of_rangeOverlaps (hwithin : ranges.Within size) (hsize : size < 2 ^ 64)
    (h : rangeOverlaps ranges start stop = false) (hstart : start ≤ i) (hi : i < stop) :
    ¬ranges.Covers i := by
  rw [rangeOverlaps, if_neg (by omega)] at h
  split at h
  · cases h
  rename_i hfloor
  rintro ⟨range, hmem, hle, hlt⟩
  rcases Nat.lt_or_ge start range.1 with hafter | hbefore
  · -- a range that starts after `start` is not before the first of them
    cases hceiling : ranges.ceiling start with
    | none =>
      have := OrderedMap.ceiling_eq_none hceiling hmem
      omega
    | some next =>
      obtain ⟨-, -, hnext⟩ := OrderedMap.ceiling_eq_some hceiling
      have := hnext range hmem hafter.le
      simp only [hceiling, Option.any_some, decide_eq_false_iff_not, not_lt] at h
      omega
  · -- one that starts before it ends before the last of them starts, or is that one
    cases hlast : ranges.floor start with
    | none =>
      have := OrderedMap.floor_eq_none hlast hmem
      omega
    | some previous =>
      obtain ⟨hprevious, -, hmax⟩ := OrderedMap.floor_eq_some hlast
      have hend := hwithin.le previous hprevious
      rw [hlast, Option.bind_some, checkedAdd_of_lt (by omega)] at hfloor
      simp only [Option.any_some, decide_eq_true_eq, not_lt] at hfloor
      rcases Nat.lt_or_eq_of_le (hmax range hmem hbefore) with hearlier | heq
      · have := hwithin.disjoint range hmem previous hprevious hearlier
        have := hwithin.pos previous hprevious
        omega
      · obtain rfl := OrderedMap.eq_of_mem hmem hprevious heq
        omega

end Termd.Files
