import Mathlib.Data.List.AList
import Mathlib.Data.List.Nodup

/-!
# Tables with a primary key, and transactions

A table is a finite list of rows, of which no two have the same key. The statements below work on
the row of one key; a query goes through all rows. A transaction runs its statements on a working
copy of the database and throws it away when one of them fails.

## Main definitions

* `Table K V`: tables
* `Table.insertNew`, `Table.updateWhere`, `Table.deleteWhere`, `Table.select`: the statements
* `Table.retain`: a pass over all rows that changes or drops them
* `transaction fault body d`: the database after a transaction, and how the transaction ended

## Main results

* `Table.lookup_updateWhere`, `Table.lookup_deleteWhere`, `Table.lookup_retain`: the row of a key
  after a statement
* `Table.Pruned.countWhere_le`: dropping rows drops counts
* `Table.mem_select`: what a query returns
* `Table.countWhere_eq_add_erase`, `Table.countWhere_insert`: a count splits at the row of a key
* `transaction_cases`: a transaction has all of its effects or none
* `transaction_of_not_hits`: it has all of them when no fault hits it and its statements succeed
-/

namespace Termd

/-- Tables with a primary key. -/
abbrev Table (K V : Type*) := AList fun _ : K => V

namespace Table

variable {K V α : Type*} [DecidableEq K] {t : Table K V} {k k' : K} {v : V}

/-- `INSERT`, which fails when there is a row with the key. -/
def insertNew (t : Table K V) (k : K) (v : V) : Option (Table K V) :=
  if (t.lookup k).isSome then none else some (t.insert k v)

/-- `UPDATE … WHERE key = k AND p` -/
def updateWhere (t : Table K V) (k : K) (p : V → Bool) (f : V → V) : Table K V :=
  match t.lookup k with
  | some v => if p v then t.insert k (f v) else t
  | none => t

/-- `DELETE … WHERE key = k AND p` -/
def deleteWhere (t : Table K V) (k : K) (p : V → Bool) : Table K V :=
  if (t.lookup k).any p then t.erase k else t

/-- `SELECT … WHERE` over all rows. -/
def select (t : Table K V) (f : K → V → Option α) : List α :=
  t.entries.filterMap fun entry => f entry.1 entry.2

/-- The rows kept by `f`, each with the value `f` leaves in it. -/
def retain (t : Table K V) (f : K → V → Option V) : Table K V where
  entries := t.entries.filterMap fun entry => (f entry.1 entry.2).map (Sigma.mk entry.1)
  nodupKeys := by
    refine List.Sublist.nodup ?_ t.nodupKeys
    induction t.entries with
    | nil => exact .slnil
    | cons entry entries ih =>
      cases hf : f entry.1 entry.2 with
      | none =>
        simp only [List.filterMap_cons, hf, Option.map_none]
        exact ih.cons _
      | some v =>
        simp only [List.filterMap_cons, hf, Option.map_some]
        exact ih.cons_cons _

theorem insertNew_eq_some {t' : Table K V} :
    t.insertNew k v = some t' ↔ t.lookup k = none ∧ t' = t.insert k v := by
  rw [insertNew]
  cases h : t.lookup k <;> simp [eq_comm]

/-- The row of a key after an update. -/
theorem lookup_updateWhere (t : Table K V) (k k' : K) (p : V → Bool) (f : V → V) :
    (t.updateWhere k p f).lookup k' =
      if k' = k then (t.lookup k).map fun v => if p v then f v else v else t.lookup k' := by
  rw [updateWhere]
  by_cases hk : k' = k
  · subst hk
    cases h : t.lookup k' with
    | none => simp [h]
    | some v => by_cases hv : p v <;> simp [hv, h]
  · cases h : t.lookup k with
    | none => simp [hk]
    | some v => by_cases hv : p v <;> simp [hv, hk, AList.lookup_insert_ne]

/-- The row of a key after a deletion. -/
theorem lookup_deleteWhere (t : Table K V) (k k' : K) (p : V → Bool) :
    (t.deleteWhere k p).lookup k' =
      if k' = k then (t.lookup k).filter fun v => !p v else t.lookup k' := by
  rw [deleteWhere]
  by_cases hk : k' = k
  · subst hk
    cases h : t.lookup k' with
    | none => simp [h]
    | some v => by_cases hv : p v <;> simp [hv, h, Option.filter_some]
  · rw [if_neg hk]
    split_ifs
    · rw [AList.lookup_erase_ne hk]
    · rfl

/-- The row of a key among those that are kept. -/
theorem lookup_retain (t : Table K V) (f : K → V → Option V) (k : K) :
    (t.retain f).lookup k = (t.lookup k).bind (f k) := by
  refine Option.ext fun v => ?_
  rw [← Option.mem_def, AList.mem_lookup_iff, Option.bind_eq_some_iff]
  simp only [retain, List.mem_filterMap, Option.map_eq_some_iff]
  constructor
  · rintro ⟨⟨k', w⟩, hmem, u, hu, heq⟩
    cases heq
    exact ⟨w, AList.mem_lookup_iff.mpr hmem, hu⟩
  · rintro ⟨w, hw, hv⟩
    exact ⟨⟨k, w⟩, AList.mem_lookup_iff.mp hw, v, hv, rfl⟩

/-- All rows, each with the value `f` makes of its own. -/
def mapValues (t : Table K V) (f : V → V) : Table K V := t.retain fun _ v => some (f v)

theorem lookup_mapValues (t : Table K V) (f : V → V) (k : K) :
    (t.mapValues f).lookup k = (t.lookup k).map f := by
  rw [mapValues, lookup_retain]
  cases t.lookup k <;> rfl

theorem lookup_insert_eq_some {v' : V} :
    AList.lookup k' (t.insert k v) = some v' ↔
      k' = k ∧ v' = v ∨ k' ≠ k ∧ t.lookup k' = some v' := by
  by_cases hk : k' = k
  · subst hk
    simp [AList.lookup_insert, eq_comm]
  · simp [hk, AList.lookup_insert_ne]

theorem lookup_erase_eq_some :
    AList.lookup k' (t.erase k) = some v ↔ k' ≠ k ∧ t.lookup k' = some v := by
  by_cases hk : k' = k
  · subst hk
    simp
  · simp [hk, AList.lookup_erase_ne]

/-- **What a query returns.** -/
theorem mem_select {f : K → V → Option α} {a : α} :
    a ∈ t.select f ↔ ∃ k v, t.lookup k = some v ∧ f k v = some a := by
  rw [select, List.mem_filterMap]
  constructor
  · rintro ⟨⟨k, v⟩, hmem, hf⟩
    exact ⟨k, v, AList.mem_lookup_iff.mpr hmem, hf⟩
  · rintro ⟨k, v, hlookup, hf⟩
    exact ⟨⟨k, v⟩, AList.mem_lookup_iff.mp hlookup, hf⟩

/-! ### Counting rows -/

/-- `SELECT COUNT(*) … WHERE` -/
def countWhere (t : Table K V) (p : K → V → Bool) : ℕ := t.entries.countP fun entry => p entry.1 entry.2

variable {p : K → V → Bool}

omit [DecidableEq K] in
@[simp] theorem countWhere_empty : (∅ : Table K V).countWhere p = 0 := rfl

/-- The row of a key, and the others. -/
theorem countWhere_eq_add_erase (h : t.lookup k = some v) :
    t.countWhere p = (if p k v then 1 else 0) + countWhere (t.erase k) p := by
  have hk : k ∈ t.entries.keys := AList.mem_keys.mp (AList.lookup_isSome.mp (by simp [h]))
  obtain ⟨w, before, after, hbefore, heq, hrest⟩ := List.exists_of_kerase hk
  obtain rfl : w = v := by
    have hmem : (⟨k, w⟩ : Sigma fun _ : K => V) ∈ t.entries := heq ▸ by simp
    exact Option.some.inj ((AList.mem_lookup_iff.mpr hmem).symm.trans h)
  have herase : (t.erase k).entries = t.entries.kerase k := rfl
  rw [countWhere, countWhere, herase, hrest, heq, List.countP_append, List.countP_append, List.countP_cons]
  dsimp only
  omega

theorem countWhere_insert :
    countWhere (t.insert k v) p = (if p k v then 1 else 0) + countWhere (t.erase k) p := by
  have hinsert : (t.insert k v).entries = ⟨k, v⟩ :: (t.erase k).entries := rfl
  rw [countWhere, countWhere, hinsert, List.countP_cons]
  dsimp only
  omega

theorem erase_of_lookup_none (h : t.lookup k = none) : t.erase k = t := by
  refine AList.ext ?_
  refine List.kerase_of_notMem_keys ?_
  exact AList.lookup_eq_none.mp h

/-- There is a row that counts. -/
theorem countWhere_pos : 0 < t.countWhere p ↔ ∃ k v, t.lookup k = some v ∧ p k v := by
  rw [countWhere, List.countP_pos_iff]
  constructor
  · rintro ⟨⟨k, v⟩, hmem, hp⟩
    exact ⟨k, v, AList.mem_lookup_iff.mpr hmem, hp⟩
  · rintro ⟨k, v, hlookup, hp⟩
    exact ⟨⟨k, v⟩, AList.mem_lookup_iff.mp hlookup, hp⟩

theorem isEmpty_iff : t.entries.isEmpty ↔ ∀ k, t.lookup k = none := by
  rw [List.isEmpty_iff]
  constructor
  · intro hnil k
    rw [AList.lookup_eq_none, AList.mem_keys, AList.keys, hnil]
    exact List.not_mem_nil
  · intro hnone
    refine List.eq_nil_iff_forall_not_mem.mpr ?_
    rintro ⟨k, v⟩ hmem
    have hlookup := AList.mem_lookup_iff.mpr hmem
    simp [hnone k] at hlookup

theorem countWhere_erase_le (t : Table K V) (k : K) (p : K → V → Bool) :
    countWhere (t.erase k) p ≤ t.countWhere p :=
  (List.kerase_sublist k t.entries).countP_le

theorem countWhere_insert_le (t : Table K V) (k : K) (v : V) (p : K → V → Bool) :
    countWhere (t.insert k v) p ≤ (if p k v then 1 else 0) + t.countWhere p := by
  rw [countWhere_insert]
  exact Nat.add_le_add_left (countWhere_erase_le t k p) _

/-! ### Dropping rows -/

/-- Rows were dropped, and none changed. -/
def Pruned (t t' : Table K V) : Prop := ∀ k, t'.lookup k = t.lookup k ∨ t'.lookup k = none

theorem Pruned.refl (t : Table K V) : t.Pruned t := fun _ => .inl rfl

theorem Pruned.trans {t₁ t₂ t₃ : Table K V} (h : t₁.Pruned t₂) (h' : t₂.Pruned t₃) :
    t₁.Pruned t₃ := by
  intro k
  rcases h' k with heq | hnone
  · rw [heq]
    exact h k
  · exact .inr hnone

theorem pruned_retain {f : K → V → Option V} (hf : ∀ k v, f k v = some v ∨ f k v = none) :
    t.Pruned (t.retain f) := by
  intro k
  rw [lookup_retain]
  cases t.lookup k with
  | none => exact .inl rfl
  | some v => exact hf k v

theorem pruned_erase (t : Table K V) (k : K) : t.Pruned (t.erase k) := by
  intro k'
  by_cases hk : k' = k
  · subst hk
    exact .inr (AList.lookup_erase ..)
  · exact .inl (AList.lookup_erase_ne hk)

theorem pruned_deleteWhere (t : Table K V) (k : K) (p : V → Bool) : t.Pruned (t.deleteWhere k p) := by
  rw [deleteWhere]
  split_ifs
  · exact pruned_erase t k
  · exact .refl t

theorem Pruned.lookup_eq_some {t' : Table K V} (h : t.Pruned t') (hk : t'.lookup k = some v) :
    t.lookup k = some v := by
  rcases h k with heq | hnone
  · exact heq.symm.trans hk
  · cases hnone.symm.trans hk

theorem Pruned.countWhere_le {t' : Table K V} (h : t.Pruned t') :
    t'.countWhere p ≤ t.countWhere p := by
  refine List.Subperm.countP_le _ (List.subperm_of_subset ?_ fun entry hentry => ?_)
  · exact t'.nodupKeys.nodup
  · exact AList.mem_lookup_iff.mp (h.lookup_eq_some (AList.mem_lookup_iff.mpr hentry))

omit [DecidableEq K] in
/-- A query that returns the keys returns each of them once. -/
theorem nodup_select {f : K → V → Option α} (key : α → K)
    (hkey : ∀ k v a, f k v = some a → key a = k) : ((t.select f).map key).Nodup := by
  have hsub : ∀ entries : List (Sigma fun _ : K => V),
      ((entries.filterMap fun entry => f entry.1 entry.2).map key).Sublist
        (entries.map Sigma.fst) := by
    intro entries
    induction entries with
    | nil => exact .slnil
    | cons entry entries ih =>
      cases hf : f entry.1 entry.2 with
      | none =>
        rw [List.filterMap_cons, hf]
        exact ih.cons _
      | some a =>
        rw [List.filterMap_cons, hf, List.map_cons, List.map_cons, hkey _ _ _ hf]
        exact ih.cons_cons _
  exact (hsub t.entries).nodup t.nodupKeys

end Table

/-! ### Transactions -/

/-- Where a transaction is interrupted. -/
inductive Fault
  | begin
  | statement (n : ℕ)
  | commit
deriving DecidableEq

/-- The fault interrupts a transaction with that many statements. -/
def Fault.hits (count : ℕ) : Fault → Bool
  | begin | commit => true
  | statement n => n < count

/-- How a transaction ended; it is refused when it could not begin or could not commit. -/
inductive Outcome
  | committed
  | rolledBack
  | refused
deriving DecidableEq

variable {D : Type*}

/-- The statements up to the first that fails, with the working copy there. -/
def runBody (fault : Option Fault) : ℕ → List (D → Option D) → D → D × Bool
  | _, [], d => (d, true)
  | n, statement :: body, d =>
    if fault = some (.statement n) then (d, false)
    else match statement d with
      | some d' => runBody fault (n + 1) body d'
      | none => (d, false)

/-- `BEGIN`, the statements, and `COMMIT` or `ROLLBACK`. -/
def transaction (fault : Option Fault) (body : List (D → Option D)) (d : D) : D × Outcome :=
  if fault = some .begin then (d, .refused)
  else match runBody fault 0 body d with
    | (_, false) => (d, .rolledBack)
    | (d', true) => if fault = some .commit then (d, .refused) else (d', .committed)

theorem runBody_eq_true {fault : Option Fault} {n : ℕ} {body : List (D → Option D)} {d d' : D}
    (h : runBody fault n body d = (d', true)) :
    (∀ m, n ≤ m → m < n + body.length → fault ≠ some (.statement m)) ∧
      body.foldlM (fun d statement => statement d) d = some d' := by
  induction body generalizing n d with
  | nil => exact ⟨fun m hle hlt => absurd hlt (by simpa using hle), congrArg some (Prod.mk.inj h).1⟩
  | cons statement body ih =>
    rw [runBody] at h
    split_ifs at h with hfault
    · cases (Prod.mk.inj h).2
    · cases hd : statement d with
      | none =>
        rw [hd] at h
        cases (Prod.mk.inj h).2
      | some e =>
        rw [hd] at h
        obtain ⟨hrest, hbody⟩ := ih h
        refine ⟨fun m hle hlt => ?_, by rw [List.foldlM_cons, hd]; exact hbody⟩
        obtain rfl | hne := eq_or_ne m n
        · exact hfault
        · refine hrest m (by omega) ?_
          rw [List.length_cons] at hlt
          omega

/-- **A transaction has all of its effects or none.** -/
theorem transaction_cases {fault : Option Fault} {body : List (D → Option D)} {d d' : D}
    {outcome : Outcome} (h : transaction fault body d = (d', outcome)) :
    (outcome = .committed ∧ ¬fault.any (Fault.hits body.length) ∧
      body.foldlM (fun d statement => statement d) d = some d') ∨
      (outcome ≠ .committed ∧ d' = d) := by
  rw [transaction] at h
  split at h
  · obtain ⟨rfl, rfl⟩ := Prod.mk.inj h
    exact .inr ⟨nofun, rfl⟩
  · rename_i hbegin
    split at h
    · obtain ⟨rfl, rfl⟩ := Prod.mk.inj h
      exact .inr ⟨nofun, rfl⟩
    · rename_i e hbody
      split at h
      · obtain ⟨rfl, rfl⟩ := Prod.mk.inj h
        exact .inr ⟨nofun, rfl⟩
      · rename_i hcommit
        obtain ⟨rfl, rfl⟩ := Prod.mk.inj h
        obtain ⟨hstatements, hbody⟩ := runBody_eq_true hbody
        refine .inl ⟨rfl, fun hhits => ?_, hbody⟩
        obtain ⟨fault, rfl, hhits⟩ := (Option.any_eq_true ..).mp hhits
        cases fault with
        | begin => exact hbegin rfl
        | statement m =>
          exact hstatements m (Nat.zero_le m) (by simpa [Fault.hits] using hhits) rfl
        | commit => exact hcommit rfl

/-- What holds before a transaction, and after all of its statements, holds after it. -/
theorem transaction_keeps {P : D → Prop} {body : List (D → Option D)} {d : D} (hbefore : P d)
    (hafter : ∀ d', body.foldlM (fun d statement => statement d) d = some d' → P d')
    (fault : Option Fault) : P (transaction fault body d).1 := by
  cases htransaction : transaction fault body d with
  | mk d' outcome =>
    rcases transaction_cases htransaction with ⟨-, -, hbody⟩ | ⟨-, rfl⟩
    · exact hafter d' hbody
    · exact hbefore

theorem runBody_of_not_hits {fault : Option Fault} {n : ℕ} {body : List (D → Option D)} {d d' : D}
    (hfault : ¬fault.any (Fault.hits (n + body.length)))
    (hbody : body.foldlM (fun d statement => statement d) d = some d') :
    runBody fault n body d = (d', true) := by
  induction body generalizing n d with
  | nil =>
    obtain rfl : d = d' := Option.some.inj hbody
    rfl
  | cons statement body ih =>
    rw [List.foldlM_cons, Option.bind_eq_bind, Option.bind_eq_some_iff] at hbody
    obtain ⟨e, he, hbody⟩ := hbody
    have hnot : fault ≠ some (.statement n) := by
      rintro rfl
      simp [Fault.hits] at hfault
    rw [runBody, if_neg hnot, he]
    refine ih ?_ hbody
    rwa [List.length_cons, ← Nat.add_assoc, Nat.add_right_comm] at hfault

theorem transaction_of_not_hits {fault : Option Fault} (body : List (D → Option D)) (d : D) {d' : D}
    (hfault : ¬fault.any (Fault.hits body.length))
    (hbody : body.foldlM (fun d statement => statement d) d = some d') :
    transaction fault body d = (d', .committed) := by
  have hbegin : fault ≠ some .begin := by
    rintro rfl
    exact hfault rfl
  have hcommit : fault ≠ some .commit := by
    rintro rfl
    exact hfault rfl
  rw [transaction, if_neg hbegin, runBody_of_not_hits (by rwa [Nat.zero_add]) hbody]
  exact if_neg hcommit

end Termd
