import Termd.Library.Ranking
import Termd.State.History
import Termd.State.Merge

/-!
# The order of the sessions

The rank of a session is what its row is sorted by, and the sessions that are not closed are listed
in the order of their ranks. Every operation is described by what it does to the ranks: a new row is
below or above all others, also those of closed sessions, a request for an order numbers the sessions
along the list, and every other operation leaves the ranks of the rows that stay as they are.

## Main definitions

* `Visible t`, `rank t`: which sessions are listed, and in which order
* `SameRanks t t'`: rows that stay keep their ranks
* `Displayed t`: what the operations do to the list

## Main results

* `ranked_listSessions`: what is listed
* `sameRanks_apply`, `recordSessionOrder_spec`: the operations
* `display_order`: the list after any operations
-/

namespace Termd.State.History

open Ownership (SessionState)
open Pty (PtySize)

variable {t t' : History} {sessionId id : String} {known : List SessionHistoryRecord}

/-! ### What is listed -/

def Visible (t : History) (id : String) : Prop := ∃ row, t.lookup id = some row ∧ row.state ≠ closedText

/-- What the row of a session is sorted by. -/
def rank (t : History) (id : String) : ℤ ×ₗ ℤ ×ₗ String :=
  match t.lookup id with
  | some row => orderKey ⟨id, row⟩
  | none => toLex (0, toLex (0, id))

def ids (l : List SessionHistoryRecord) : List String := l.map SessionHistoryRecord.sessionId

theorem rank_eq {row : Row} (h : t.lookup id = some row) : rank t id = orderKey ⟨id, row⟩ := by
  rw [rank, h]

theorem mem_visibleInOrder {row : Row} :
    ⟨id, row⟩ ∈ visibleInOrder t ↔ t.lookup id = some row ∧ row.state ≠ closedText := by
  rw [visibleInOrder, List.mem_insertionSort, List.mem_filter, decide_eq_true_eq]
  exact and_congr_left' AList.mem_lookup_iff.symm

theorem ranked_visibleInOrder (t : History) :
    Ranked (Visible t) (rank t) ((visibleInOrder t).map Sigma.fst) where
  mem_iff id := by
    rw [List.mem_map]
    constructor
    · rintro ⟨⟨id, row⟩, hmem, rfl⟩
      exact ⟨row, mem_visibleInOrder.mp hmem⟩
    · rintro ⟨row, hrow⟩
      exact ⟨⟨id, row⟩, mem_visibleInOrder.mpr hrow, rfl⟩
  sorted := by
    have hnodup : ((visibleInOrder t).map Sigma.fst).Nodup := by
      refine (((List.perm_insertionSort _ _).map _).nodup_iff).mpr ?_
      exact List.NodupKeys.sublist List.filter_sublist t.nodupKeys
    have hle : (visibleInOrder t).Pairwise fun a b => orderKey a ≤ orderKey b := by
      have : Std.Total fun a b : Sigma fun _ : String => Row => orderKey a ≤ orderKey b :=
        ⟨fun a b => le_total _ _⟩
      have : IsTrans (Sigma fun _ : String => Row) fun a b => orderKey a ≤ orderKey b :=
        ⟨fun _ _ _ => le_trans⟩
      exact List.pairwise_insertionSort _ _
    rw [List.pairwise_map]
    refine (hle.and (List.pairwise_map.mp hnodup)).imp_of_mem fun {a b} ha hb hab => ?_
    rw [rank_eq (mem_visibleInOrder.mp ha).1, rank_eq (mem_visibleInOrder.mp hb).1]
    refine lt_of_le_of_ne hab.1 fun heq => hab.2 ?_
    exact congrArg (fun key : ℤ ×ₗ ℤ ×ₗ String => (ofLex (ofLex key).2).2) heq

theorem fromRow_columns {row : Row} {r : SessionHistoryRecord}
    (h : sessionHistoryRecordFromRow id row = some r) :
    r.sessionId = id ∧ r.displayOrder = row.displayOrder ∧ (r.createdAtMs : ℤ) = row.createdAtMs := by
  simp only [sessionHistoryRecordFromRow, Option.bind_eq_bind, Option.bind_eq_some_iff] at h
  obtain ⟨_, _, _, _, _, _, _, _, _, _, createdAtMs, hcreated, _, _, h⟩ := h
  obtain rfl := Option.some.inj h
  refine ⟨rfl, rfl, ?_⟩
  rw [integerToTimestamp] at hcreated
  split_ifs at hcreated with hpos
  rw [← Option.some.inj hcreated]
  exact Int.toNat_of_nonneg hpos

/-- **What is listed** are the sessions that are not closed, in the order of their ranks. -/
theorem ranked_listSessions (h : listSessions t = some known) :
    Ranked (Visible t) (rank t) (ids known) := by
  have hids : ids known = (visibleInOrder t).map Sigma.fst :=
    forall₂_map_eq (forall₂_of_mapM h) fun _ _ hrow => (fromRow_columns hrow).1
  rw [hids]
  exact ranked_visibleInOrder t

/-- A record is sorted as its row is. -/
theorem recordKey_le (h : listSessions t = some known) :
    known.Pairwise fun a b => recordKey a ≤ recordKey b := by
  have hkey (r : SessionHistoryRecord) (hr : r ∈ known) :
      rank t r.sessionId = toLex (r.displayOrder, toLex ((r.createdAtMs : ℤ), r.sessionId)) := by
    obtain ⟨entry, hentry, hrow⟩ := mem_of_forall₂ (forall₂_of_mapM h) hr
    obtain ⟨hid, horder, hcreated⟩ := fromRow_columns hrow
    rw [hid, rank_eq (mem_visibleInOrder.mp hentry).1, orderKey, horder, hcreated]
  have hsorted := (ranked_listSessions h).sorted
  rw [ids, List.pairwise_map] at hsorted
  refine hsorted.imp_of_mem fun {a b} ha hb hlt => ?_
  rw [hkey a ha, hkey b hb, Prod.Lex.toLex_lt_toLex, Prod.Lex.toLex_lt_toLex] at hlt
  rw [recordKey, recordKey, Prod.Lex.toLex_le_toLex, Prod.Lex.toLex_le_toLex]
  refine hlt.imp_right (And.imp_right fun hrest => ?_)
  exact hrest.imp Int.ofNat_lt.mp fun heq => ⟨Int.ofNat_inj.mp heq.1, le_of_lt heq.2⟩

/-! ### Rows that keep their ranks -/

/-- The rows that are in both tables have the same places in them. -/
def SameRanks (t t' : History) : Prop :=
  ∀ id row row', t.lookup id = some row → t'.lookup id = some row' →
    row'.displayOrder = row.displayOrder ∧ row'.createdAtMs = row.createdAtMs

theorem SameRanks.refl (t : History) : SameRanks t t := fun id row row' hrow hrow' => by
  obtain rfl := Option.some.inj (hrow.symm.trans hrow')
  exact ⟨rfl, rfl⟩

theorem SameRanks.rank_eq (h : SameRanks t t') (hid : Visible t id) (hid' : Visible t' id) :
    rank t' id = rank t id := by
  obtain ⟨row, hrow, -⟩ := hid
  obtain ⟨row', hrow', -⟩ := hid'
  obtain ⟨horder, hcreated⟩ := h id row row' hrow hrow'
  rw [History.rank_eq hrow, History.rank_eq hrow', orderKey, orderKey, horder, hcreated]

theorem sameRanks_update (p : Row → Bool) {f : Row → Row}
    (hf : ∀ row, (f row).displayOrder = row.displayOrder ∧ (f row).createdAtMs = row.createdAtMs) :
    SameRanks t (t.updateWhere sessionId p f) := by
  intro id row row' hrow hrow'
  rw [Table.lookup_updateWhere] at hrow'
  split_ifs at hrow' with hid
  · subst hid
    rw [hrow, Option.map_some] at hrow'
    obtain rfl := Option.some.inj hrow'
    split_ifs
    · exact hf row
    · exact ⟨rfl, rfl⟩
  · obtain rfl := Option.some.inj (hrow.symm.trans hrow')
    exact ⟨rfl, rfl⟩

/-- A row is written for a session. -/
theorem sameRanks_insert {row : Row} (hrow : ∀ old, t.lookup sessionId = some old →
    row.displayOrder = old.displayOrder ∧ row.createdAtMs = old.createdAtMs) :
    SameRanks t (t.insert sessionId row) := by
  intro id old new hold hnew
  by_cases hid : id = sessionId
  · subst hid
    rw [AList.lookup_insert] at hnew
    obtain rfl := Option.some.inj hnew
    exact hrow old hold
  · rw [AList.lookup_insert_ne hid, hold] at hnew
    obtain rfl := Option.some.inj hnew
    exact ⟨rfl, rfl⟩

theorem sameRanks_of_pruned (h : t.Pruned t') : SameRanks t t' := fun id row row' hrow hrow' => by
  obtain rfl := Option.some.inj (hrow.symm.trans (h.lookup_eq_some hrow'))
  exact ⟨rfl, rfl⟩

theorem pruned_deleteClosed (ids : List String) {t'' : History}
    (h : (ids.map deleteClosed).foldlM (fun t statement => statement t) t = some t'') :
    t.Pruned t'' := by
  induction ids generalizing t with
  | nil =>
    obtain rfl := Option.some.inj h
    exact .refl t
  | cons id ids ih =>
    rw [List.map_cons, List.foldlM_cons] at h
    obtain ⟨t₁, ht₁, hrest⟩ := Option.bind_eq_some_iff.mp h
    obtain rfl := Option.some.inj ht₁
    exact Table.Pruned.trans (Table.pruned_deleteWhere t id _) (ih hrest)

/-- A request for an order gives out the ranks anew. -/
def Op.reorders : Op → Bool
  | order .. => true
  | _ => false

theorem sameRanks_statement (fault : Option Fault) {statement : History → Option History}
    (h : ∀ t', statement t = some t' → SameRanks t t') :
    SameRanks t (transaction fault [statement] t).1 := by
  refine transaction_keeps (P := SameRanks t) (.refl t) (fun t' hbody => ?_) fault
  rw [List.foldlM_cons] at hbody
  obtain ⟨t₁, ht₁, hnil⟩ := Option.bind_eq_some_iff.mp hbody
  obtain rfl := Option.some.inj hnil
  exact h t₁ ht₁

theorem sameRanks_updateSession (fault : Option Fault) (p : Row → Bool) {f : Row → Row}
    (hf : ∀ row, (f row).displayOrder = row.displayOrder ∧ (f row).createdAtMs = row.createdAtMs) :
    SameRanks t (updateSession fault sessionId p f t).1 :=
  sameRanks_statement fault fun _ ht' => Option.some.inj ht' ▸ sameRanks_update p hf

theorem sameRanks_deleteClosed (fault : Option Fault) (ids : List String) :
    SameRanks t (transaction fault (ids.map deleteClosed) t).1 :=
  transaction_keeps (P := SameRanks t) (.refl t)
    (fun _ hbody => sameRanks_of_pruned (pruned_deleteClosed ids hbody)) fault

theorem fst_recordSessionRestored (fault : Option Fault) (state : SessionState) (size : PtySize)
    (rootPath defaultName filesPath : String) (createdAtMs updatedAtMs : ℕ) (t : History) :
    (recordSessionRestored fault sessionId state size rootPath defaultName filesPath createdAtMs
      updatedAtMs t).1 = (transaction fault [insertRestored sessionId state size rootPath
        defaultName filesPath createdAtMs updatedAtMs] t).1 := by
  rw [recordSessionRestored]
  split
  next h => rw [h]
  next h => rw [h]

theorem fst_pruneClosedSession (fault : Option Fault) (t : History) :
    (pruneClosedSession fault sessionId t).1 =
      (transaction fault ([sessionId].map deleteClosed) t).1 := by
  rw [pruneClosedSession, List.map_singleton]
  split
  next h => rw [h]
  next h => rw [h]

theorem fst_pruneClosedSessionsExcept (fault : Option Fault) (protected_ : List String)
    (t : History) : (pruneClosedSessionsExcept fault protected_ t).1 =
      (transaction fault ((deletableSessions protected_ t).map deleteClosed) t).1 := by
  rw [pruneClosedSessionsExcept]
  split
  next h => rw [h]
  next h => rw [h]

/-- **Every other operation** leaves the ranks of the rows that stay. -/
theorem sameRanks_apply {op : Op} (h : op.reorders = false) : SameRanks t (op.apply t) := by
  cases op with
  | created fault sessionId state size name rootPath nowMs =>
    refine sameRanks_statement fault fun t' ht' => ?_
    obtain rfl := Option.some.inj ht'
    refine sameRanks_insert fun old hold => ?_
    rw [hold]
    exact ⟨rfl, rfl⟩
  | restored fault sessionId state size rootPath defaultName path createdAtMs updatedAtMs =>
    rw [Op.apply, fst_recordSessionRestored]
    refine sameRanks_statement fault fun t' ht' => ?_
    obtain rfl := Option.some.inj ht'
    refine sameRanks_insert fun old hold => ?_
    rw [hold]
    exact ⟨rfl, rfl⟩
  | runtimeState => exact sameRanks_updateSession _ _ fun _ => ⟨rfl, rfl⟩
  | resized => exact sameRanks_updateSession _ _ fun _ => ⟨rfl, rfl⟩
  | renamed => exact sameRanks_updateSession _ _ fun _ => ⟨rfl, rfl⟩
  | filesPath => exact sameRanks_updateSession _ _ fun _ => ⟨rfl, rfl⟩
  | closed => exact sameRanks_updateSession _ _ fun _ => ⟨rfl, rfl⟩
  | prune fault sessionId =>
    rw [Op.apply, fst_pruneClosedSession]
    exact sameRanks_deleteClosed fault _
  | pruneExcept fault protected_ =>
    rw [Op.apply, fst_pruneClosedSessionsExcept]
    exact sameRanks_deleteClosed fault _
  | order => cases h

/-! ### New rows -/

/-- A row for a session that has none. -/
theorem visible_insert (row : Row) (hnew : t.lookup sessionId = none) (j : String) :
    Visible (t.insert sessionId row) j ↔
      (j = sessionId ∧ row.state ≠ closedText) ∨ Visible t j := by
  by_cases hj : j = sessionId
  · subst hj
    simp [Visible, AList.lookup_insert, hnew]
  · simp [Visible, AList.lookup_insert_ne hj, hj]

theorem rank_insert_ne {row : Row} {j : String} (hnew : t.lookup sessionId = none)
    (hj : Visible t j) : rank (t.insert sessionId row) j = rank t j := by
  have hne : j ≠ sessionId := by
    rintro rfl
    obtain ⟨old, hold, -⟩ := hj
    cases hnew.symm.trans hold
  rw [rank, rank, AList.lookup_insert_ne hne]

theorem mem_displayOrders {row : Row} (h : t.lookup id = some row) :
    row.displayOrder ∈ displayOrders t :=
  List.mem_map_of_mem (f := fun entry : Sigma fun _ : String => Row => entry.2.displayOrder)
    (AList.mem_lookup_iff.mp h)

theorem firstOrder_lt {row : Row} (h : t.lookup id = some row) : firstOrder t < row.displayOrder := by
  have hmem := mem_displayOrders h
  rw [firstOrder]
  cases hmin : (displayOrders t).min? with
  | none => rw [List.min?_eq_none_iff.mp hmin] at hmem; cases hmem
  | some m =>
    have hle := (List.min?_eq_some_iff.mp hmin).2 _ hmem
    rw [Option.map_some, Option.getD_some]
    omega

theorem lt_lastOrder {row : Row} (h : t.lookup id = some row) : row.displayOrder < lastOrder t := by
  have hmem := mem_displayOrders h
  rw [lastOrder]
  cases hmax : (displayOrders t).max? with
  | none => rw [List.max?_eq_none_iff.mp hmax] at hmem; cases hmem
  | some m =>
    have hle := (List.max?_eq_some_iff.mp hmax).2 _ hmem
    rw [Option.map_some, Option.getD_some]
    omega

theorem rank_lt {row : Row} {n : ℤ} (h : t.lookup id = some row) :
    (n < row.displayOrder → ∀ x, toLex (n, x) < rank t id) ∧
      (row.displayOrder < n → ∀ x, rank t id < toLex (n, x)) := by
  rw [rank_eq h, orderKey]
  exact ⟨fun hlt x => Prod.Lex.toLex_lt_toLex.mpr (.inl hlt),
    fun hlt x => Prod.Lex.toLex_lt_toLex.mpr (.inl hlt)⟩

/-- What a new row does to a list: the session is shown, if it is not closed, at the end to which its
rank takes it. -/
theorem ranked_insert (row : Row) (hnew : t.lookup sessionId = none) {l : List String}
    (h : Ranked (Visible t) (rank t) l) :
    (row.state = closedText →
      Ranked (Visible (t.insert sessionId row)) (rank (t.insert sessionId row)) l) ∧
    (row.state ≠ closedText → row.displayOrder = firstOrder t →
      Ranked (Visible (t.insert sessionId row)) (rank (t.insert sessionId row)) (sessionId :: l)) ∧
    (row.state ≠ closedText → row.displayOrder = lastOrder t →
      Ranked (Visible (t.insert sessionId row)) (rank (t.insert sessionId row))
        (l ++ [sessionId])) := by
  have hvisible := visible_insert row hnew
  have hranks (j : String) (hj : Visible t j) : rank (t.insert sessionId row) j = rank t j :=
    rank_insert_ne hnew hj
  have hself : rank (t.insert sessionId row) sessionId = orderKey ⟨sessionId, row⟩ :=
    rank_eq (AList.lookup_insert _)
  refine ⟨fun hclosed => h.congr (fun j => ?_) hranks, fun hopen hfirst => ?_, fun hopen hlast => ?_⟩
  · rw [hvisible]
    simp [hclosed]
  · refine (h.cons hranks fun j hj => ?_).congr (fun j => by simp [hvisible, hopen]) fun _ _ => rfl
    obtain ⟨old, hold, -⟩ := hj
    rw [hself, orderKey, hfirst]
    exact (rank_lt hold).1 (firstOrder_lt hold) _
  · refine (h.concat hranks fun j hj => ?_).congr (fun j => by simp [hvisible, hopen]) fun _ _ => rfl
    obtain ⟨old, hold, -⟩ := hj
    rw [hself, orderKey, hlast]
    exact (rank_lt hold).2 (lt_lastOrder hold) _

/-! ### A request for an order -/

theorem requestedOrder_eq (known seen ids : List String) :
    requestedOrder known seen ids =
      (ids.filter fun id => id ∈ known ∧ id ∉ seen).eraseDups := by
  induction ids generalizing seen with
  | nil => rfl
  | cons id ids ih =>
    rw [requestedOrder]
    split_ifs with hskip
    · have hdrop : ¬ (id ∈ known ∧ id ∉ seen) := by tauto
      rw [List.filter_cons_of_neg (by simpa using hdrop), ih]
    · have hkeep : id ∈ known ∧ id ∉ seen := by tauto
      rw [List.filter_cons_of_pos (by simpa using hkeep), List.eraseDups_cons, ih, List.filter_filter]
      congr 2
      refine List.filter_congr fun j _ => ?_
      by_cases hj : j = id <;> simp [hj]

/-- What an order is requested for: the requested sessions that are known, each at its first place,
and after them the others in the order that they have. -/
def reordered (sessionIds listed : List String) : List String :=
  (sessionIds.filter (· ∈ listed)).eraseDups ++ listed.filter (· ∉ sessionIds)

theorem orderedSessions_eq (h : listSessions t = some known) (sessionIds : List String) :
    orderedSessions sessionIds known = reordered sessionIds (ids known) := by
  have hrequested : requestedOrder (ids known) [] sessionIds =
      (sessionIds.filter (· ∈ ids known)).eraseDups := by
    rw [requestedOrder_eq]
    simp
  have hsorted : (known.filter fun r => r.sessionId ∉ requestedOrder (ids known) [] sessionIds).Pairwise
      fun a b => recordKey a ≤ recordKey b := (recordKey_le h).filter _
  rw [orderedSessions, reordered]
  simp only [← ids.eq_1]
  rw [List.Pairwise.insertionSort_eq hsorted, hrequested]
  refine congrArg ((sessionIds.filter (· ∈ ids known)).eraseDups ++ ·) ?_
  rw [ids, ids, List.filter_map]
  refine congrArg (List.map _) (List.filter_congr fun r hr => ?_)
  have hmem : r.sessionId ∈ known.map SessionHistoryRecord.sessionId := List.mem_map_of_mem hr
  simp only [List.mem_eraseDups, List.mem_filter, hmem, decide_true, and_true, Function.comp]

theorem nodup_eraseDups (l : List String) : l.eraseDups.Nodup := by
  induction hn : l.length using Nat.strong_induction_on generalizing l with
  | _ n ih =>
    cases l with
    | nil => exact List.nodup_nil
    | cons id l =>
      rw [List.eraseDups_cons, List.nodup_cons, List.mem_eraseDups, List.mem_filter]
      have hlen : (l.filter fun j => !j == id).length < n := by
        have hle := List.length_filter_le (fun j => !j == id) l
        rw [List.length_cons] at hn
        omega
      exact ⟨by simp, ih _ hlen _ rfl⟩

theorem reordered_nodup {listed : List String} (h : listed.Nodup) (sessionIds : List String) :
    (reordered sessionIds listed).Nodup := by
  refine List.nodup_append.mpr ⟨nodup_eraseDups _, h.filter _, fun a ha b hb heq => ?_⟩
  rw [List.mem_eraseDups, List.mem_filter] at ha
  rw [List.mem_filter, decide_eq_true_eq] at hb
  exact hb.2 (heq ▸ ha.1)

theorem mem_reordered {sessionIds listed : List String} {j : String} :
    j ∈ reordered sessionIds listed ↔ j ∈ listed := by
  rw [reordered, List.mem_append, List.mem_eraseDups, List.mem_filter, List.mem_filter]
  by_cases hj : j ∈ sessionIds <;> simp [hj]

/-- The numbers that are written along a list. -/
theorem foldlM_setDisplayOrder {l : List String} (hnodup : l.Nodup) (nowMs n : ℕ) (t : History) :
    ∃ t', ((l.zipIdx n).map (setDisplayOrder nowMs)).foldlM (fun t statement => statement t) t =
        some t' ∧
      (∀ j ∉ l, t'.lookup j = t.lookup j) ∧
      ∀ i (hi : i < l.length), t'.lookup l[i] = (t.lookup l[i]).map fun row =>
        { row with displayOrder := (n + i : ℕ), updatedAtMs := toI64 nowMs } := by
  induction l generalizing n t with
  | nil => exact ⟨t, rfl, fun _ _ => rfl, fun i hi => absurd hi (Nat.not_lt_zero i)⟩
  | cons id l ih =>
    obtain ⟨hnot, hl⟩ := List.nodup_cons.mp hnodup
    let t₁ : History := t.updateWhere id (fun _ => true) fun row =>
      { row with displayOrder := n, updatedAtMs := toI64 nowMs }
    have ht₁ (j : String) (hj : j ≠ id) : t₁.lookup j = t.lookup j :=
      (Table.lookup_updateWhere ..).trans (if_neg hj)
    have hself : t₁.lookup id = (t.lookup id).map fun row =>
        { row with displayOrder := n, updatedAtMs := toI64 nowMs } :=
      (Table.lookup_updateWhere ..).trans (if_pos rfl)
    obtain ⟨t', hrest, hothers, hnumbers⟩ := ih hl (n + 1) t₁
    refine ⟨t', ?_, fun j hj => ?_, fun i hi => ?_⟩
    · rw [List.zipIdx_cons, List.map_cons, List.foldlM_cons]
      exact hrest
    · obtain ⟨hne, hj⟩ := List.ne_and_not_mem_of_not_mem_cons hj
      rw [hothers j hj, ht₁ j hne]
    · cases i with
      | zero => rw [List.getElem_cons_zero, hothers id hnot, hself]; rfl
      | succ i =>
        have hi' : i < l.length := Nat.lt_of_succ_lt_succ hi
        have hne : l[i] ≠ id := fun heq => hnot (heq ▸ List.getElem_mem hi')
        rw [List.getElem_cons_succ, hnumbers i hi', ht₁ _ hne, Nat.add_right_comm, Nat.add_assoc]

/-- Numbers that are given out along a list are the ranks of its sessions. -/
theorem ranked_of_numbered {l : List String} {f : Row → Row} (hvisible : ∀ j, j ∈ l ↔ Visible t j)
    (hothers : ∀ j ∉ l, t'.lookup j = t.lookup j)
    (hf : ∀ row, (f row).state = row.state)
    (hnumbers : ∀ i (hi : i < l.length),
      t'.lookup l[i] = (t.lookup l[i]).map fun row => { f row with displayOrder := (i : ℤ) }) :
    Ranked (Visible t') (rank t') l := by
  have hrows (i : ℕ) (hi : i < l.length) : ∃ row, t'.lookup l[i] = some row ∧
      row.state ≠ closedText ∧ row.displayOrder = i := by
    obtain ⟨row, hrow, hopen⟩ := (hvisible l[i]).mp (List.getElem_mem hi)
    refine ⟨{ f row with displayOrder := (i : ℤ) }, ?_, (hf row).trans_ne hopen, rfl⟩
    rw [hnumbers i hi, hrow, Option.map_some]
  refine ranked_renumbered (fun j => ⟨fun hj => ?_, fun hj => ?_⟩) fun i k hi hk hlt => ?_
  · obtain ⟨i, hi, rfl⟩ := List.mem_iff_getElem.mp hj
    obtain ⟨row, hrow, hopen, -⟩ := hrows i hi
    exact ⟨row, hrow, hopen⟩
  · by_contra hnot
    obtain ⟨row, hrow, hopen⟩ := hj
    rw [hothers j hnot] at hrow
    exact hnot ((hvisible j).mpr ⟨row, hrow, hopen⟩)
  · obtain ⟨row, hrow, -, hi⟩ := hrows i hi
    obtain ⟨row', hrow', -, hk⟩ := hrows k hk
    rw [rank_eq hrow, rank_eq hrow', orderKey, orderKey, hi, hk]
    exact Prod.Lex.toLex_lt_toLex.mpr (.inl (Int.ofNat_lt.mpr hlt))

/-- **A request for an order** returns it, and the sessions are in it afterwards. -/
theorem recordSessionOrder_cases (fault : Option Fault) (sessionIds : List String) (nowMs : ℕ)
    {result : Option (List String)}
    (h : recordSessionOrder fault sessionIds nowMs t = (t', result)) :
    (∃ before, listSessions t = some before ∧ result = some (reordered sessionIds (ids before)) ∧
      Ranked (Visible t') (rank t') (reordered sessionIds (ids before))) ∨
    (result = none ∧ t' = t) := by
  rw [recordSessionOrder] at h
  cases hlist : listSessions t with
  | none =>
    rw [hlist] at h
    obtain ⟨rfl, rfl⟩ := Prod.mk.inj h
    exact .inr ⟨rfl, rfl⟩
  | some before =>
    rw [hlist] at h
    simp only [orderedSessions_eq hlist] at h
    have hbefore := ranked_listSessions hlist
    obtain ⟨t₁, hbody, hothers, hnumbers⟩ :=
      foldlM_setDisplayOrder (reordered_nodup hbefore.nodup sessionIds) nowMs 0 t
    split at h
    next htransaction =>
      obtain ⟨rfl, rfl⟩ := Prod.mk.inj h
      obtain ⟨-, -, hdone⟩ := (transaction_cases htransaction).resolve_right fun hfailed =>
        hfailed.1 rfl
      obtain rfl := Option.some.inj (hbody.symm.trans hdone)
      refine .inl ⟨before, rfl, rfl, ranked_of_numbered (t := t)
        (f := fun row => { row with updatedAtMs := toI64 nowMs })
        (fun j => by rw [mem_reordered, hbefore.mem_iff]) hothers (fun _ => rfl) fun i hi => ?_⟩
      rw [hnumbers i hi, Nat.zero_add]
    next hnot htransaction =>
      obtain ⟨rfl, rfl⟩ := Prod.mk.inj h
      exact .inr ⟨rfl, ((transaction_cases htransaction).resolve_left fun hdone =>
        hnot hdone.1).2⟩

/-! ### The rows can be read -/

structure Row.Readable (row : Row) : Prop where
  state : (parseSessionState row.state).isSome
  size : ∃ size : PtySize, row.rows = size.rows.toNat ∧ row.cols = size.cols.toNat ∧
    row.pixelWidth = size.pixelWidth.toNat ∧ row.pixelHeight = size.pixelHeight.toNat
  createdAtMs : 0 ≤ row.createdAtMs
  updatedAtMs : 0 ≤ row.updatedAtMs

def Readable (t : History) : Prop := ∀ id row, t.lookup id = some row → row.Readable

/-- The times of an operation fit into the columns. -/
def Op.Timely : Op → Prop
  | created _ _ _ _ _ _ nowMs => nowMs < 2 ^ 63
  | restored _ _ _ _ _ _ _ createdAtMs updatedAtMs => createdAtMs < 2 ^ 63 ∧ updatedAtMs < 2 ^ 63
  | runtimeState _ _ _ _ nowMs => nowMs < 2 ^ 63
  | resized _ _ _ nowMs => nowMs < 2 ^ 63
  | renamed _ _ _ nowMs => nowMs < 2 ^ 63
  | filesPath _ _ _ nowMs => nowMs < 2 ^ 63
  | closed _ _ nowMs => nowMs < 2 ^ 63
  | order _ _ nowMs => nowMs < 2 ^ 63
  | prune .. => True
  | pruneExcept .. => True

theorem toI64_nonneg {n : ℕ} (h : n < 2 ^ 63) : 0 ≤ toI64 n := by
  rw [toI64_of_lt h]
  exact Int.natCast_nonneg n

theorem isSome_parseSessionState (state : SessionState) :
    (parseSessionState (sessionStateText state)).isSome := by
  rw [parseSessionState_text]
  rfl

theorem isSome_integerToTimestamp {n : ℤ} (h : 0 ≤ n) : (integerToTimestamp n).isSome := by
  rw [integerToTimestamp, if_pos h]
  rfl

theorem Row.Readable.isSome {row : Row} (h : row.Readable) (id : String) :
    (sessionHistoryRecordFromRow id row).isSome := by
  obtain ⟨state, hstate⟩ := Option.isSome_iff_exists.mp h.state
  obtain ⟨createdAtMs, hcreated⟩ :=
    Option.isSome_iff_exists.mp (isSome_integerToTimestamp h.createdAtMs)
  obtain ⟨updatedAtMs, hupdated⟩ :=
    Option.isSome_iff_exists.mp (isSome_integerToTimestamp h.updatedAtMs)
  obtain ⟨size, hrows, hcols, hwidth, hheight⟩ := h.size
  rw [sessionHistoryRecordFromRow, hstate, hcreated, hupdated, hrows, hcols, hwidth, hheight]
  simp only [integerToU16_toNat, Option.bind_eq_bind, Option.bind_some]
  rfl

theorem Readable.isSome_listSessions (h : Readable t) : (listSessions t).isSome := by
  obtain ⟨known, hknown, -⟩ := exists_mapM_eq (l := visibleInOrder t)
    (f := fun entry => sessionHistoryRecordFromRow entry.1 entry.2) fun entry hentry =>
      (h _ _ (mem_visibleInOrder.mp hentry).1).isSome entry.1
  rw [listSessions, hknown]
  rfl

theorem Readable.insert (h : Readable t) {row : Row} (hrow : row.Readable) :
    Readable (t.insert sessionId row) := by
  intro id new hnew
  by_cases hid : id = sessionId
  · subst hid
    rw [AList.lookup_insert] at hnew
    exact Option.some.inj hnew ▸ hrow
  · rw [AList.lookup_insert_ne hid] at hnew
    exact h id new hnew

theorem Readable.update (h : Readable t) (p : Row → Bool) {f : Row → Row}
    (hf : ∀ row : Row, row.Readable → (f row).Readable) :
    Readable (t.updateWhere sessionId p f) := by
  intro id new hnew
  rw [Table.lookup_updateWhere] at hnew
  split_ifs at hnew
  · obtain ⟨row, hrow, rfl⟩ := Option.map_eq_some_iff.mp hnew
    have hreadable := h sessionId row hrow
    split_ifs
    · exact hf row hreadable
    · exact hreadable
  · exact h id new hnew

theorem Readable.transaction (h : Readable t) (fault : Option Fault)
    {statement : History → Option History} (hstatement : ∀ t', statement t = some t' → Readable t') :
    Readable (transaction fault [statement] t).1 := by
  refine transaction_keeps (P := Readable) h (fun t' hbody => ?_) fault
  rw [List.foldlM_cons] at hbody
  obtain ⟨t₁, ht₁, hnil⟩ := Option.bind_eq_some_iff.mp hbody
  obtain rfl := Option.some.inj hnil
  exact hstatement t₁ ht₁

theorem Readable.updateSession (h : Readable t) (fault : Option Fault) (p : Row → Bool)
    {f : Row → Row} (hf : ∀ row : Row, row.Readable → (f row).Readable) :
    Readable (updateSession fault sessionId p f t).1 :=
  h.transaction fault fun _ ht' => Option.some.inj ht' ▸ h.update p hf

theorem Readable.deleteClosed (h : Readable t) (fault : Option Fault) (ids : List String) :
    Readable (Termd.transaction fault (ids.map deleteClosed) t).1 :=
  transaction_keeps (P := Readable) h
    (fun _ hbody id row hrow => h id row ((pruned_deleteClosed ids hbody).lookup_eq_some hrow)) fault

theorem Readable.setDisplayOrder (h : Readable t) {nowMs : ℕ} (hnow : nowMs < 2 ^ 63)
    (entries : List (String × ℕ))
    (hbody : (entries.map (History.setDisplayOrder nowMs)).foldlM
      (fun t statement => statement t) t = some t') : Readable t' := by
  induction entries generalizing t with
  | nil =>
    obtain rfl := Option.some.inj hbody
    exact h
  | cons entry entries ih =>
    rw [List.map_cons, List.foldlM_cons] at hbody
    obtain ⟨t₁, ht₁, hrest⟩ := Option.bind_eq_some_iff.mp hbody
    obtain rfl := Option.some.inj ht₁
    have h₁ : Readable (t.updateWhere entry.1 (fun _ => true) fun row =>
        { row with displayOrder := entry.2, updatedAtMs := toI64 nowMs }) :=
      h.update _ fun row hrow => { hrow with updatedAtMs := toI64_nonneg hnow }
    exact ih h₁ hrest

/-- Rows with times that fit can be read after every operation. -/
theorem Readable.apply (h : Readable t) {op : Op} (hop : op.Timely) : Readable (op.apply t) := by
  cases op with
  | created fault sessionId state size name rootPath nowMs =>
    refine h.transaction fault fun t' ht' => ?_
    obtain rfl := Option.some.inj ht'
    refine h.insert ?_
    have htime := toI64_nonneg (show nowMs < 2 ^ 63 from hop)
    cases hlookup : t.lookup sessionId with
    | none => exact ⟨isSome_parseSessionState state, ⟨size, rfl, rfl, rfl, rfl⟩, htime, htime⟩
    | some row =>
      exact ⟨isSome_parseSessionState state, ⟨size, rfl, rfl, rfl, rfl⟩, (h sessionId row hlookup).createdAtMs, htime⟩
  | restored fault sessionId state size rootPath defaultName path createdAtMs updatedAtMs =>
    rw [Op.apply, fst_recordSessionRestored]
    refine h.transaction fault fun t' ht' => ?_
    obtain rfl := Option.some.inj ht'
    refine h.insert ?_
    cases hlookup : t.lookup sessionId with
    | none =>
      exact ⟨isSome_parseSessionState state, ⟨size, rfl, rfl, rfl, rfl⟩, toI64_nonneg hop.1, toI64_nonneg hop.2⟩
    | some row =>
      exact ⟨isSome_parseSessionState state, ⟨size, rfl, rfl, rfl, rfl⟩, (h sessionId row hlookup).createdAtMs,
        toI64_nonneg hop.2⟩
  | runtimeState fault sessionId state size nowMs =>
    exact h.updateSession fault _ fun row hrow =>
      ⟨isSome_parseSessionState state, ⟨size, rfl, rfl, rfl, rfl⟩, hrow.createdAtMs, toI64_nonneg hop⟩
  | resized fault sessionId size nowMs =>
    exact h.updateSession fault _ fun row hrow =>
      { hrow with size := ⟨size, rfl, rfl, rfl, rfl⟩, updatedAtMs := toI64_nonneg hop }
  | renamed fault sessionId name nowMs =>
    exact h.updateSession fault _ fun row hrow =>
      { hrow with updatedAtMs := toI64_nonneg hop }
  | filesPath fault sessionId path nowMs =>
    exact h.updateSession fault _ fun row hrow =>
      { hrow with updatedAtMs := toI64_nonneg hop }
  | closed fault sessionId nowMs =>
    exact h.updateSession fault _ fun row hrow =>
      { hrow with state := isSome_parseSessionState .closed, updatedAtMs := toI64_nonneg hop }
  | prune fault sessionId =>
    rw [Op.apply, fst_pruneClosedSession]
    exact h.deleteClosed fault _
  | pruneExcept fault protected_ =>
    rw [Op.apply, fst_pruneClosedSessionsExcept]
    exact h.deleteClosed fault _
  | order fault sessionIds nowMs =>
    rw [Op.apply, recordSessionOrder]
    cases listSessions t with
    | none => exact h
    | some known =>
      have hkept := transaction_keeps (P := Readable) h
        (fun _ hbody => h.setDisplayOrder hop (orderedSessions sessionIds known).zipIdx hbody) fault
      dsimp only
      split
      next htransaction => rwa [htransaction] at hkept
      next htransaction => rwa [htransaction] at hkept

theorem readable_run (ops : List Op) (hops : ∀ op ∈ ops, op.Timely) : Readable (run ops) := by
  have hfrom (ops : List Op) (hops : ∀ op ∈ ops, op.Timely) {t : History} (h : Readable t) :
      Readable (ops.foldl Op.apply t) := by
    induction ops generalizing t with
    | nil => exact h
    | cons op ops ih =>
      obtain ⟨hop, hrest⟩ := List.forall_mem_cons.mp hops
      exact ih hrest (h.apply hop)
  exact hfrom ops hops fun id row hrow => by cases hrow

/-! ### The list -/

/-- What the operations do to the list of the sessions. -/
structure Displayed (t : History) : Prop where
  /-- A request for an order returns it, and then the sessions are listed in it. -/
  order : ∀ fault sessionIds nowMs t' ordered,
    recordSessionOrder fault sessionIds nowMs t = (t', some ordered) → ∃ before,
      listSessions t = some before ∧ ordered = reordered sessionIds (ids before) ∧
        ∀ after, listSessions t' = some after → ids after = ordered
  order_failed : ∀ fault sessionIds nowMs t',
    recordSessionOrder fault sessionIds nowMs t = (t', none) → t' = t
  order_answered : ∀ sessionIds nowMs before, listSessions t = some before →
    ∃ t', recordSessionOrder none sessionIds nowMs t =
      (t', some (reordered sessionIds (ids before)))
  /-- A session that is created comes first. -/
  created : ∀ fault sessionId state size name rootPath nowMs t' before after,
    t.lookup sessionId = none →
    recordSessionCreated fault sessionId state size name rootPath nowMs t = (t', .committed) →
    listSessions t = some before → listSessions t' = some after →
    ids after = if state = .closed then ids before else sessionId :: ids before
  /-- A session that is inserted when it is restored comes last. -/
  restored : ∀ fault sessionId state size rootPath defaultName filesPath createdAtMs updatedAtMs t'
      record before after, t.lookup sessionId = none →
    recordSessionRestored fault sessionId state size rootPath defaultName filesPath createdAtMs
      updatedAtMs t = (t', .committed, record) →
    listSessions t = some before → listSessions t' = some after →
    ids after = if state = .closed then ids before else ids before ++ [sessionId]
  /-- Every other operation keeps the order of the sessions that stay. -/
  kept : ∀ (op : Op) before after, op.reorders = false →
    listSessions t = some before → listSessions (op.apply t) = some after →
    (ids after).filter (· ∈ ids before) = (ids before).filter (· ∈ ids after)

theorem insertCreated_eq {state : SessionState} {size : PtySize} {name : Option String}
    {rootPath : String} {nowMs : ℕ} (hnew : t.lookup sessionId = none) : ∃ row,
      insertCreated sessionId state size name rootPath nowMs t = some (t.insert sessionId row) ∧
        row.state = sessionStateText state ∧ row.displayOrder = firstOrder t := by
  rw [insertCreated, hnew]
  exact ⟨_, rfl, rfl, rfl⟩

theorem insertRestored_eq {state : SessionState} {size : PtySize}
    {rootPath defaultName filesPath : String} {createdAtMs updatedAtMs : ℕ}
    (hnew : t.lookup sessionId = none) : ∃ row,
      insertRestored sessionId state size rootPath defaultName filesPath createdAtMs updatedAtMs t =
          some (t.insert sessionId row) ∧
        row.state = sessionStateText state ∧ row.displayOrder = lastOrder t := by
  rw [insertRestored, hnew]
  exact ⟨_, rfl, rfl, rfl⟩

/-- A transaction of one statement that is committed. -/
theorem statement_of_committed {fault : Option Fault} {statement : History → Option History}
    (h : transaction fault [statement] t = (t', .committed)) : statement t = some t' := by
  obtain ⟨-, -, hbody⟩ := (transaction_cases h).resolve_right fun hfailed => hfailed.1 rfl
  rw [List.foldlM_cons] at hbody
  obtain ⟨t₁, ht₁, hnil⟩ := Option.bind_eq_some_iff.mp hbody
  obtain rfl := Option.some.inj hnil
  exact ht₁

theorem displayed (t : History) : Displayed t where
  order fault sessionIds nowMs t' ordered h := by
    rcases recordSessionOrder_cases fault sessionIds nowMs h with
      ⟨before, hbefore, hresult, hranked⟩ | ⟨hnone, -⟩
    · obtain rfl := Option.some.inj hresult
      exact ⟨before, hbefore, rfl, fun after hafter => (ranked_listSessions hafter).unique hranked⟩
    · cases hnone
  order_failed fault sessionIds nowMs t' h := by
    rcases recordSessionOrder_cases fault sessionIds nowMs h with ⟨_, -, hresult, -⟩ | ⟨-, hsame⟩
    · cases hresult
    · exact hsame
  order_answered sessionIds nowMs before hbefore := by
    obtain ⟨t', hbody, -, -⟩ := foldlM_setDisplayOrder
      (reordered_nodup (ranked_listSessions hbefore).nodup sessionIds) nowMs 0 t
    have hdone : transaction none _ t = (t', .committed) :=
      transaction_of_not_hits _ t Bool.false_ne_true hbody
    refine ⟨t', ?_⟩
    rw [recordSessionOrder, hbefore]
    simp only [orderedSessions_eq hbefore, hdone]
  created fault sessionId state size name rootPath nowMs t' before after hnew h hbefore hafter := by
    obtain ⟨row, hinsert, hstate, horder⟩ := insertCreated_eq hnew
    obtain rfl := Option.some.inj (hinsert.symm.trans (statement_of_committed h))
    obtain ⟨hclosed, hfirst, -⟩ := ranked_insert row hnew (ranked_listSessions hbefore)
    rw [hstate, sessionStateText_eq_closed] at hclosed
    rw [hstate, ne_eq, sessionStateText_eq_closed] at hfirst
    split_ifs with hstate
    · exact (ranked_listSessions hafter).unique (hclosed hstate)
    · exact (ranked_listSessions hafter).unique (hfirst hstate horder)
  restored fault sessionId state size rootPath defaultName filesPath createdAtMs updatedAtMs t'
      record before after hnew h hbefore hafter := by
    obtain ⟨row, hinsert, hstate, horder⟩ := insertRestored_eq hnew
    have hdone : transaction fault [insertRestored sessionId state size rootPath defaultName
        filesPath createdAtMs updatedAtMs] t = (t', .committed) := by
      rw [recordSessionRestored] at h
      split at h
      next htransaction =>
        obtain ⟨rfl, -⟩ := Prod.mk.inj h
        exact htransaction
      next hnot _ =>
        obtain ⟨rfl, houtcome⟩ := Prod.mk.inj h
        exact absurd (Prod.mk.inj houtcome).1 hnot
    obtain rfl := Option.some.inj (hinsert.symm.trans (statement_of_committed hdone))
    obtain ⟨hclosed, -, hlast⟩ := ranked_insert row hnew (ranked_listSessions hbefore)
    rw [hstate, sessionStateText_eq_closed] at hclosed
    rw [hstate, ne_eq, sessionStateText_eq_closed] at hlast
    split_ifs with hstate
    · exact (ranked_listSessions hafter).unique (hclosed hstate)
    · exact (ranked_listSessions hafter).unique (hlast hstate horder)
  kept op before after hop hbefore hafter :=
    (ranked_listSessions hbefore).common (ranked_listSessions hafter) fun _ hid hid' =>
      (sameRanks_apply hop).rank_eq hid hid'

/-- **The order of the sessions.** After any operations, a request for an order returns the requested
sessions and after them the others, and the sessions are listed so; a session that is created comes
first, one that is inserted when it is restored comes last, and every other operation keeps the order
of the sessions that stay. As long as the times fit into the columns the sessions can be listed. -/
theorem display_order (ops : List Op) :
    Displayed (run ops) ∧ ((∀ op ∈ ops, op.Timely) → (listSessions (run ops)).isSome) :=
  ⟨displayed (run ops), fun hops => (readable_run ops hops).isSome_listSessions⟩

end Termd.State.History
