import Mathlib.Data.List.Nodup
import Mathlib.Order.Lattice

/-!
# Maps that keep their keys in order

The entries are listed by increasing key. Besides the entry of a key, such a map gives the last
entry at or before a key and the first one at or after it.

## Main definitions

* `OrderedMap K V`: the maps
* `OrderedMap.floor`, `OrderedMap.ceiling`: the entries next to a key

## Main results

* `OrderedMap.mem_insert`, `OrderedMap.mem_erase`: the entries after an operation
* `OrderedMap.floor_eq_some`, `OrderedMap.ceiling_eq_some`: what the entries next to a key are
-/

namespace Termd

/-- Lists of entries with increasing keys. -/
structure OrderedMap (K V : Type*) [LinearOrder K] where
  entries : List (K × V)
  sorted : entries.Pairwise fun a b => a.1 < b.1
deriving DecidableEq

namespace OrderedMap

variable {K V : Type*} [LinearOrder K] {m : OrderedMap K V} {k : K} {v : V} {p q : K × V}

instance : Membership (K × V) (OrderedMap K V) := ⟨fun m p => p ∈ m.entries⟩

theorem mem_def : p ∈ m ↔ p ∈ m.entries := Iff.rfl

def empty : OrderedMap K V := ⟨[], .nil⟩

instance : EmptyCollection (OrderedMap K V) := ⟨empty⟩

@[simp] theorem notMem_empty : p ∉ (∅ : OrderedMap K V) := List.not_mem_nil

/-- The value of a key, which replaces an earlier one. -/
def insert (m : OrderedMap K V) (k : K) (v : V) : OrderedMap K V where
  entries := m.entries.filter (·.1 < k) ++ (k, v) :: m.entries.filter (k < ·.1)
  sorted := by
    refine List.pairwise_append.mpr ⟨m.sorted.filter _, ?_, ?_⟩
    · refine List.pairwise_cons.mpr ⟨fun q hq => ?_, m.sorted.filter _⟩
      exact of_decide_eq_true (List.mem_filter.mp hq).2
    · intro p hp q hq
      have hpk : p.1 < k := of_decide_eq_true (List.mem_filter.mp hp).2
      rcases List.mem_cons.mp hq with rfl | hq
      · exact hpk
      · exact hpk.trans (of_decide_eq_true (List.mem_filter.mp hq).2)

def erase (m : OrderedMap K V) (k : K) : OrderedMap K V where
  entries := m.entries.filter (·.1 ≠ k)
  sorted := m.sorted.filter _

def lookup (m : OrderedMap K V) (k : K) : Option V :=
  (m.entries.find? (·.1 = k)).map (·.2)

/-- The last entry whose key is at most `k`. -/
def floor (m : OrderedMap K V) (k : K) : Option (K × V) :=
  (m.entries.filter (·.1 ≤ k)).getLast?

/-- The first entry whose key is at least `k`. -/
def ceiling (m : OrderedMap K V) (k : K) : Option (K × V) :=
  m.entries.find? (k ≤ ·.1)

theorem mem_insert : p ∈ m.insert k v ↔ p = (k, v) ∨ p ∈ m ∧ p.1 ≠ k := by
  simp only [mem_def, insert, List.mem_append, List.mem_cons, List.mem_filter, decide_eq_true_eq]
  constructor
  · rintro (⟨hp, hlt⟩ | rfl | ⟨hp, hlt⟩)
    · exact .inr ⟨hp, hlt.ne⟩
    · exact .inl rfl
    · exact .inr ⟨hp, hlt.ne'⟩
  · rintro (rfl | ⟨hp, hne⟩)
    · exact .inr (.inl rfl)
    · rcases lt_or_gt_of_ne hne with hlt | hlt
      · exact .inl ⟨hp, hlt⟩
      · exact .inr (.inr ⟨hp, hlt⟩)

theorem mem_erase : p ∈ m.erase k ↔ p ∈ m ∧ p.1 ≠ k := by
  simp [mem_def, erase]

theorem erase_insert_empty (k : K) (v : V) : ((∅ : OrderedMap K V).insert k v).erase k = ∅ := by
  have hentries : (((∅ : OrderedMap K V).insert k v).erase k).entries = [] := by
    have hempty : (∅ : OrderedMap K V).entries = [] := rfl
    simp [erase, insert, hempty]
  generalize ((∅ : OrderedMap K V).insert k v).erase k = m at hentries
  cases m
  cases hentries
  rfl

/-- A key has one value. -/
theorem eq_of_mem (hp : p ∈ m) (hq : q ∈ m) (h : p.1 = q.1) : p = q := by
  have hkeys : (m.entries.map Prod.fst).Nodup :=
    List.pairwise_map.mpr (m.sorted.imp fun hlt => hlt.ne)
  exact List.inj_on_of_nodup_map hkeys hp hq h

theorem lookup_eq_some : m.lookup k = some v ↔ (k, v) ∈ m := by
  rw [lookup, Option.map_eq_some_iff]
  constructor
  · rintro ⟨p, hp, rfl⟩
    have hk : p.1 = k := by simpa using List.find?_some hp
    exact hk ▸ List.mem_of_find?_eq_some hp
  · intro h
    cases hfind : m.entries.find? (·.1 = k) with
    | none => exact absurd (List.find?_eq_none.mp hfind _ h) (by simp)
    | some p =>
      have hk : p.1 = k := by simpa using List.find?_some hfind
      have hp : p = (k, v) := eq_of_mem (List.mem_of_find?_eq_some hfind) h hk
      exact ⟨p, rfl, congrArg Prod.snd hp⟩

/-- The floor of `k` is an entry at or before `k`, and no other entry there is after it. -/
theorem floor_eq_some (h : m.floor k = some p) :
    p ∈ m ∧ p.1 ≤ k ∧ ∀ q ∈ m, q.1 ≤ k → q.1 ≤ p.1 := by
  obtain ⟨before, hbefore⟩ := List.getLast?_eq_some_iff.mp h
  have hmem : ∀ q, q ∈ m ∧ q.1 ≤ k ↔ q ∈ before ∨ q = p := by
    intro q
    have hq : q ∈ m.entries.filter (·.1 ≤ k) ↔ q ∈ before ++ [p] := by rw [hbefore]
    simpa [mem_def] using hq
  obtain ⟨hp, hle⟩ := (hmem p).mpr (.inr rfl)
  refine ⟨hp, hle, fun q hq hqk => ?_⟩
  rcases (hmem q).mp ⟨hq, hqk⟩ with hq | rfl
  · have hsorted : (before ++ [p]).Pairwise fun a b => a.1 < b.1 := hbefore ▸ m.sorted.filter _
    exact ((List.pairwise_append.mp hsorted).2.2 q hq p (by simp)).le
  · exact le_rfl

theorem floor_eq_none (h : m.floor k = none) (hq : q ∈ m) : k < q.1 := by
  have hnil : m.entries.filter (·.1 ≤ k) = [] := List.getLast?_eq_none_iff.mp h
  by_contra hle
  have hmem : q ∈ m.entries.filter (·.1 ≤ k) :=
    List.mem_filter.mpr ⟨hq, decide_eq_true (not_lt.mp hle)⟩
  rw [hnil] at hmem
  cases hmem

/-- The ceiling of `k` is an entry at or after `k`, and no other entry there is before it. -/
theorem ceiling_eq_some (h : m.ceiling k = some p) :
    p ∈ m ∧ k ≤ p.1 ∧ ∀ q ∈ m, k ≤ q.1 → p.1 ≤ q.1 := by
  obtain ⟨hk, before, after, heq, hbefore⟩ := List.find?_eq_some_iff_append.mp h
  refine ⟨List.mem_of_find?_eq_some h, of_decide_eq_true hk, fun q hq hkq => ?_⟩
  rw [mem_def, heq, List.mem_append, List.mem_cons] at hq
  rcases hq with hq | rfl | hq
  · exact absurd hkq (by simpa using hbefore q hq)
  · exact le_rfl
  · have hsorted := m.sorted
    rw [heq] at hsorted
    exact ((List.pairwise_cons.mp (List.pairwise_append.mp hsorted).2.1).1 q hq).le

theorem ceiling_eq_none (h : m.ceiling k = none) (hq : q ∈ m) : q.1 < k := by
  simpa using List.find?_eq_none.mp h q hq

end OrderedMap

end Termd
