import Termd.Ownership.Phases
import Termd.Ownership.Recovery

/-!
# The installer clears the sessions

When the supervisor is updated, the installer terminates all supervisors and clears the tables of
the sessions, but not the ownership ledger. The daemon that is started then recovers what it loads,
and its reconciler goes over the ledger until nothing changes. No supervisor answers any more;
whether the process id of one is still there, and its socket, is left open.

Here the statements of `recover`, and those of `reconcile_once`, are executed one after another.

## Main definitions

* `clearRuntimeState`, `clearAllSessionState`: what the installer does
* `recover`, `reconcileOnce`: what the daemon does, with the answers of the backend
* `LeavesNoOrphans`: once nothing changes, only quarantined rows are left
* `OwnershipRow.Forgotten`: the rows that do not stay

## Main results

* `leavesNoOrphans_iff`: when a clearing leaves no orphans
* `active_stays`: an active row for a session that was cleared
-/

namespace Termd.Ownership

/-! ### The installer -/

/-- The tables that the installer knows, and the ledger. -/
structure StateDatabase where
  tables : Tables
  daemonSessions : Table String SessionState := ∅
  /-- The rows of `daemon_client_attached_sessions` -/
  attachedSessions : List (String × String) := []

/-- `clear_runtime_state`. The flags say whether the tables have the columns that are to be set. -/
def clearRuntimeState (daemonColumns runtimeColumns : Bool) (d : StateDatabase) :
    StateDatabase where
  tables := { d.tables with
    runtimeSessions :=
      if runtimeColumns then d.tables.runtimeSessions.mapValues fun row =>
        { row with state := .closed, restoreInfo := none }
      else ∅ }
  daemonSessions :=
    if daemonColumns then d.daemonSessions.mapValues fun _ => .closed else d.daemonSessions
  attachedSessions := []

def clearAllSessionState (d : StateDatabase) : StateDatabase where
  tables := { d.tables with runtimeSessions := ∅ }

/-- `pending_ownership_count` -/
def pendingOwnershipCount (d : StateDatabase) : ℕ :=
  d.tables.ownership.countWhere fun _ row => row.phase = .preparing || row.phase = .cleaning

/-! ### The daemon that is started next -/

/-- The answers of the backend, the sockets that are there, and the numbers that are drawn. -/
structure Backend where
  naturalExit : CleanupRow → Bool
  /-- The cleanup is confirmed, or the supervisor's process id is not there. -/
  cleanup : CleanupRow → Bool
  reconnects : SessionStateRecord → Bool
  installs : SessionStateRecord → List UInt8 → Option Bool
  socketExists : String → Bool
  proposed : String → ℕ
  drawn : String → List UInt8 × List UInt8

/-- A transaction that nothing interrupts. -/
def commit (body : List Statement) (t : Tables) : Tables := (transaction none body t).1

variable (backend : Backend) (generation : List UInt8)

/-- The records that the daemon loads. -/
def Tables.records (t : Tables) : List SessionStateRecord :=
  t.runtimeSessions.select fun sessionId row =>
    some { sessionId, state := row.state, restoreInfo := row.restoreInfo }

/-- One round of `recover`. -/
def recoverRecord (t : Tables) (record : SessionStateRecord) : Tables :=
  let id := record.sessionId
  match t.ownership.lookup id with
  | none => t
  | some row =>
    if row.phase = .active then
      let w : SessionOwnership := { tables := t, generation }
      if w.activeEvidenceMatches record = some true then
        if backend.reconnects record then t
        else commit (quarantine id "owned supervisor could not be authenticated and reconnected") t
      else commit
        (quarantine id "public runtime projection does not match durable ownership evidence") t
    else if row.phase ≠ .prepared ∨ row.diagnostic ≠ some legacyMigration then t
    else match record.restoreInfo with
      | none => commit (quarantine id "legacy runtime row has no restore evidence") t
      | some restoreInfo =>
        match backend.installs record row.capability with
        | none => commit (quarantine id "legacy supervisor authority is unverified") t
        | some installed =>
          let closing := SessionOwnership.isClosing restoreInfo
          let t := t.migrateLegacy id closing installed (backend.proposed id)
          if closing ∨ backend.reconnects record then t
          else commit
            (quarantine id "migrated supervisor could not be authenticated and reconnected") t

def recover (records : List SessionStateRecord) (t : Tables) : Tables :=
  records.foldl (recoverRecord backend generation)
    (commit (backfillLegacyRecords records backend.drawn) t)

def dropAbandoned (t : Tables) (create : String × Option String) : Tables :=
  if create.2.all fun path => !backend.socketExists path then t.dropPreparing create.1 else t

def reconcileInterruptedCreates (t : Tables) : Tables :=
  let t := (t.interruptedCreates generation).foldl (fun t id =>
    t.markCleaningWithStableOperation id (backend.proposed id)) t
  (t.abandonedCreates generation).foldl (dropAbandoned backend) t

/-- One round of the loop of `reconcile_once`. -/
def reconcileRow (t : Tables) (row : CleanupRow) : Tables :=
  let id := row.sessionId
  if row.phase = .active then
    if backend.naturalExit row then t.markCleaningWithStableOperation id (backend.proposed id)
    else t
  else
    let t := if row.operationId.isSome then t
      else t.markCleaningWithStableOperation id (backend.proposed id)
    if backend.cleanup row then commit (finalizeClosed id) t else t

def reconcileOnce (t : Tables) : Tables :=
  let t := reconcileInterruptedCreates backend generation t
  t.cleanupRows.foldl (reconcileRow backend) t

/-! ### Orphans -/

/-- The backend when every supervisor is dead. -/
def Backend.dead (pidAbsent : ℕ → Bool) (socketExists : String → Bool) (proposed : String → ℕ)
    (drawn : String → List UInt8 × List UInt8) : Backend where
  naturalExit _ := false
  cleanup row := pidAbsent row.supervisorPid
  reconnects _ := false
  installs _ _ := none
  socketExists := socketExists
  proposed := proposed
  drawn := drawn

/-- Only rows are left that are quarantined, each with a diagnostic. -/
def Clean (t : Tables) : Prop :=
  ∀ id row, t.ownership.lookup id = some row → row.phase = .quarantined ∧ row.diagnostic.isSome

/-- **A clearing leaves no orphans**: the daemon that is started next has nothing but quarantined
rows once its reconciler changes nothing. -/
def LeavesNoOrphans (d : StateDatabase) : Prop :=
  let t := recover backend generation d.tables.records d.tables
  ∀ n, (∀ id, ((reconcileOnce backend generation)^[n + 1] t).entry id =
    ((reconcileOnce backend generation)^[n] t).entry id) →
      Clean ((reconcileOnce backend generation)^[n] t)

/-- Nothing is left of a row, or a quarantine with a diagnostic. -/
def OwnershipRow.Forgotten (pidAbsent : ℕ → Bool) (socketExists : String → Bool)
    (generation : List UInt8) (loaded : Bool) (row : OwnershipRow) : Prop :=
  match row.phase with
  | .preparing =>
    Tables.ofOther generation row ∧ row.expectedSocket.all fun path => !socketExists path
  | .prepared =>
    loaded ∧ row.diagnostic = some legacyMigration ∨
      row.diagnostic = none ∧ Tables.ofOther generation row ∧
        row.socketPath.isSome ∧ row.supervisorPid.any pidAbsent
  | .active => loaded
  | .cleaning => row.socketPath.isSome ∧ row.supervisorPid.any pidAbsent
  | .quarantined => row.diagnostic.isSome

/-! ### What a round does to a session -/

section Entries

variable {backend generation} {t : Tables} {id k : String}

theorem entry_updateOwnership_eq (t : Tables) (id : String) (p : OwnershipRow → Bool)
    (f : OwnershipRow → OwnershipRow) (k : String) :
    (t.updateOwnership id p f).entry k =
      if k = id then ((t.entry id).1.map fun row => if p row then f row else row, (t.entry id).2)
      else t.entry k := by
  by_cases hk : k = id
  · subst hk
    simp [Tables.entry, Tables.updateOwnership, Table.lookup_updateWhere]
  · simp [Tables.entry, Tables.updateOwnership, Table.lookup_updateWhere, hk]

theorem entry_deleteOwnership_eq (t : Tables) (id : String) (p : OwnershipRow → Bool) (k : String) :
    (t.deleteOwnership id p).entry k =
      if k = id then ((t.entry id).1.filter fun row => !p row, (t.entry id).2) else t.entry k := by
  by_cases hk : k = id
  · subst hk
    simp [Tables.entry, Tables.deleteOwnership, Table.lookup_deleteWhere]
  · simp [Tables.entry, Tables.deleteOwnership, Table.lookup_deleteWhere, hk]

theorem commit_eq {body : List Statement} {t t' : Tables}
    (h : body.foldlM (fun t statement => statement t) t = some t') : commit body t = t' := by
  rw [commit, transaction_of_not_hits body t (by simp) h]

theorem entry_commit_finalizeClosed (t : Tables) (id k : String) :
    (commit (finalizeClosed id) t).entry k =
      if k = id then ((t.entry id).1.filter fun row => row.phase ≠ .cleaning, none)
      else t.entry k := by
  rw [commit_eq (t := t) rfl]
  exact entry_finalizeClosed rfl k

theorem entry_commit_quarantine (t : Tables) (id diagnostic k : String) :
    (commit (quarantine id diagnostic) t).entry k =
      if k = id then ((t.entry id).1.map fun row =>
        { row with phase := .quarantined, diagnostic := some diagnostic }, none)
      else t.entry k := by
  rw [commit_eq (t := t) rfl]
  exact entry_quarantine rfl k

/-- A loop that works on one session at a time leaves the others alone. -/
theorem entry_foldl {α : Type} {g : Tables → α → Tables} (key : α → String)
    (change : α → Entry → Entry) (l : List α)
    (hg : ∀ t, ∀ a ∈ l, ∀ k,
      (g t a).entry k = if k = key a then change a (t.entry k) else t.entry k)
    (hnodup : (l.map key).Nodup) (t : Tables) (k : String) :
    (l.foldl g t).entry k =
      ((l.find? (key · = k)).elim (t.entry k) fun a => change a (t.entry k)) := by
  induction l generalizing t with
  | nil => rfl
  | cons a l ih =>
    rw [List.map_cons, List.nodup_cons] at hnodup
    rw [List.foldl_cons, ih (fun t b hb => hg t b (List.mem_cons_of_mem _ hb)) hnodup.2,
      hg t a List.mem_cons_self, List.find?_cons]
    by_cases hk : k = key a
    · subst hk
      have hnone : l.find? (key · = key a) = none := by
        rw [List.find?_eq_none]
        intro b hb hsame
        exact hnodup.1 (of_decide_eq_true hsame ▸ List.mem_map_of_mem hb)
      simp [hnone]
    · simp [hk, Ne.symm hk]

/-- What `mark_cleaning_with_stable_operation` makes of a row. -/
def marked (proposed : ℕ) (row : OwnershipRow) : OwnershipRow :=
  { row with phase := .cleaning, closeOperationId := row.closeOperationId.or (some proposed) }

/-- What the statement makes of a session. -/
def markedEntry (proposed : ℕ) (entry : Entry) : Entry :=
  (entry.1.map fun row =>
    if row.phase = .prepared ∨ row.phase = .active ∨ row.phase = .cleaning then marked proposed row
    else row, entry.2)

theorem entry_markCleaningWithStableOperation (t : Tables) (id : String) (proposed : ℕ)
    (k : String) :
    (t.markCleaningWithStableOperation id proposed).entry k =
      if k = id then markedEntry proposed (t.entry k) else t.entry k := by
  rw [Tables.markCleaningWithStableOperation, entry_updateOwnership_eq]
  by_cases hk : k = id
  · subst hk
    simp [markedEntry, marked, or_assoc]
  · rw [if_neg hk, if_neg hk]

/-- The first loop of `reconcile_interrupted_creates`, for one session. -/
def interruptedEntry (generation : List UInt8) (proposed : ℕ) (entry : Entry) : Entry :=
  (entry.1.map fun row =>
    if row.phase = .prepared ∧ row.diagnostic = none ∧ Tables.ofOther generation row then
      marked proposed row else row, entry.2)

/-- The second loop. -/
def abandonedEntry (generation : List UInt8) (socketExists : String → Bool) (entry : Entry) :
    Entry :=
  (entry.1.filter fun row => !(row.phase = .preparing ∧ Tables.ofOther generation row ∧
    row.expectedSocket.all fun path => !socketExists path), entry.2)

/-- The loop of `reconcile_once`, where no supervisor answers. -/
def cleanedEntry (pidAbsent : ℕ → Bool) (proposed : ℕ) : Entry → Entry
  | (some row, run) =>
    if row.phase = .cleaning ∧ row.socketPath.isSome ∧ row.supervisorPid.isSome then
      if row.supervisorPid.any pidAbsent then (none, none) else (some (marked proposed row), run)
    else (some row, run)
  | entry => entry

end Entries

section Rounds

variable {pidAbsent : ℕ → Bool} {socketExists : String → Bool} {proposed : String → ℕ}
  {drawn : String → List UInt8 × List UInt8} {generation : List UInt8} {t : Tables}

/-- The key that a loop is at, if it comes to it. -/
theorem find_key {α : Type} {key : α → String} {l : List α} {a : α} {k : String}
    (hnodup : (l.map key).Nodup) (ha : a ∈ l) (hk : key a = k) : l.find? (key · = k) = some a := by
  induction l with
  | nil => cases ha
  | cons b l ih =>
    rw [List.map_cons, List.nodup_cons] at hnodup
    rw [List.find?_cons]
    rcases List.mem_cons.mp ha with rfl | ha
    · simp [hk]
    · have hb : key b ≠ k := fun hb => hnodup.1 (hb ▸ hk ▸ List.mem_map_of_mem ha)
      simp [hb, ih hnodup.2 ha]

theorem find_key_none {α : Type} {key : α → String} {l : List α} {k : String}
    (hk : ∀ a ∈ l, key a ≠ k) : l.find? (key · = k) = none := by
  rw [List.find?_eq_none]
  exact fun a ha hsame => hk a ha (of_decide_eq_true hsame)

theorem entry_interrupted (t : Tables) (k : String) :
    ((t.interruptedCreates generation).foldl (fun t id =>
      t.markCleaningWithStableOperation id (proposed id)) t).entry k =
        interruptedEntry generation (proposed k) (t.entry k) := by
  have hmem : ∀ id, id ∈ t.interruptedCreates generation ↔
      ∃ row, t.ownership.lookup id = some row ∧
        (row.phase = .prepared ∧ row.diagnostic = none ∧ Tables.ofOther generation row) := by
    intro id
    rw [Tables.interruptedCreates, Table.mem_select]
    constructor
    · rintro ⟨k, row, hrow, hselect⟩
      split_ifs at hselect with hcreate
      obtain rfl := Option.some.inj hselect
      exact ⟨row, hrow, hcreate⟩
    · rintro ⟨row, hrow, hcreate⟩
      exact ⟨id, row, hrow, if_pos hcreate⟩
  have hnodup : ((t.interruptedCreates generation).map id).Nodup := by
    refine Table.nodup_select _ fun k row a ha => ?_
    split_ifs at ha
    exact (Option.some.inj ha).symm
  rw [entry_foldl id (fun id => markedEntry (proposed id))
    _ (fun t id _ k => entry_markCleaningWithStableOperation t id (proposed id) k) hnodup]
  cases hrow : t.ownership.lookup k with
  | none =>
    rw [find_key_none]
    · rw [Option.elim_none, Tables.entry, hrow]
      rfl
    · rintro id hid rfl
      obtain ⟨row, hlookup, -⟩ := (hmem id).mp hid
      cases hrow.symm.trans hlookup
  | some row =>
    have hentry : t.entry k = (some row, (t.entry k).2) := Prod.ext hrow rfl
    by_cases hcreate : row.phase = .prepared ∧ row.diagnostic = none ∧ Tables.ofOther generation row
    · rw [find_key (k := k) hnodup ((hmem k).mpr ⟨row, hrow, hcreate⟩) rfl, Option.elim_some,
        hentry]
      simp [markedEntry, interruptedEntry, hcreate]
    · rw [find_key_none, Option.elim_none, hentry, interruptedEntry, Option.map_some,
        if_neg hcreate]
      rintro id hid rfl
      obtain ⟨row', hlookup, hcreate'⟩ := (hmem id).mp hid
      obtain rfl := Option.some.inj (hrow.symm.trans hlookup)
      exact hcreate hcreate'

/-- What the loop over the abandoned creates makes of a session. -/
def droppedEntry (socketExists : String → Bool) (create : String × Option String) (entry : Entry) :
    Entry :=
  if create.2.all fun path => !socketExists path then
    (entry.1.filter fun row => row.phase ≠ .preparing, entry.2)
  else entry

theorem entry_dropAbandoned (backend : Backend) (t : Tables) (create : String × Option String)
    (k : String) : (dropAbandoned backend t create).entry k =
      if k = create.1 then droppedEntry backend.socketExists create (t.entry k) else t.entry k := by
  obtain ⟨id, expectedSocket⟩ := create
  rw [dropAbandoned, droppedEntry]
  dsimp only
  split_ifs with habsent hk hk
  · subst hk
    rw [Tables.dropPreparing, entry_deleteOwnership_eq, if_pos rfl]
    simp
  · rw [Tables.dropPreparing, entry_deleteOwnership_eq, if_neg hk]
  · rfl
  · rfl

theorem entry_abandoned (backend : Backend) (t : Tables) (k : String) :
    ((t.abandonedCreates generation).foldl (dropAbandoned backend) t).entry k =
      abandonedEntry generation backend.socketExists (t.entry k) := by
  have hmem : ∀ create, create ∈ t.abandonedCreates generation ↔
      ∃ row, t.ownership.lookup create.1 = some row ∧
        (row.phase = .preparing ∧ Tables.ofOther generation row) ∧
          create.2 = row.expectedSocket := by
    rintro ⟨id, expectedSocket⟩
    rw [Tables.abandonedCreates, Table.mem_select]
    constructor
    · rintro ⟨k, row, hrow, hselect⟩
      split_ifs at hselect with hcreate
      obtain ⟨rfl, rfl⟩ := Prod.mk.inj (Option.some.inj hselect)
      exact ⟨row, hrow, hcreate, rfl⟩
    · rintro ⟨row, hrow, hcreate, rfl⟩
      exact ⟨id, row, hrow, if_pos hcreate⟩
  have hnodup : ((t.abandonedCreates generation).map Prod.fst).Nodup := by
    refine Table.nodup_select _ fun k row a ha => ?_
    split_ifs at ha
    rw [← Option.some.inj ha]
  rw [entry_foldl Prod.fst (droppedEntry backend.socketExists) _
    (fun t create _ k => entry_dropAbandoned backend t create k) hnodup]
  cases hrow : t.ownership.lookup k with
  | none =>
    rw [find_key_none]
    · rw [Option.elim_none, Tables.entry, hrow]
      rfl
    · rintro create hcreate rfl
      obtain ⟨row, hlookup, -⟩ := (hmem create).mp hcreate
      cases hrow.symm.trans hlookup
  | some row =>
    have hentry : t.entry k = (some row, (t.entry k).2) := Prod.ext hrow rfl
    by_cases hcreate : row.phase = .preparing ∧ Tables.ofOther generation row
    · rw [find_key (a := (k, row.expectedSocket)) hnodup
        ((hmem (k, row.expectedSocket)).mpr ⟨row, hrow, hcreate, rfl⟩) rfl, Option.elim_some,
        hentry]
      rw [droppedEntry, abandonedEntry, Option.filter_some, Option.filter_some]
      cases habsent : row.expectedSocket.all fun path => !backend.socketExists path with
      | true => simp [hcreate]
      | false => simp
    · rw [find_key_none, Option.elim_none, hentry, abandonedEntry, Option.filter_some, if_pos]
      · simp only [← and_assoc, hcreate, false_and, decide_false, Bool.not_false]
      · rintro create hmemCreate rfl
        obtain ⟨row', hlookup, hcreate', -⟩ := (hmem create).mp hmemCreate
        obtain rfl := Option.some.inj (hrow.symm.trans hlookup)
        exact hcreate hcreate'

/-- What a round of the last loop makes of its session, where no supervisor answers. -/
def reconciledEntry (backend : Backend) (row : CleanupRow) (entry : Entry) : Entry :=
  if row.phase = .active then entry
  else
    let entry := if row.operationId.isSome then entry
      else markedEntry (backend.proposed row.sessionId) entry
    if backend.cleanup row then (entry.1.filter fun row => row.phase ≠ .cleaning, none) else entry

theorem entry_reconcileRow {backend : Backend} (hexit : ∀ row, backend.naturalExit row = false)
    (t : Tables) (row : CleanupRow) (k : String) :
    (reconcileRow backend t row).entry k =
      if k = row.sessionId then reconciledEntry backend row (t.entry k) else t.entry k := by
  rw [reconcileRow, reconciledEntry, hexit]
  by_cases hactive : row.phase = .active
  · rw [if_pos hactive, if_pos hactive, if_neg Bool.false_ne_true, ite_self]
  · rw [if_neg hactive, if_neg hactive]
    generalize hmarked : (if row.operationId.isSome then t
      else t.markCleaningWithStableOperation row.sessionId (backend.proposed row.sessionId)) = t'
    have hmark : t'.entry k = if k = row.sessionId then
        if row.operationId.isSome then t.entry k
        else markedEntry (backend.proposed row.sessionId) (t.entry k)
      else t.entry k := by
      rw [← hmarked]
      split_ifs with hoperation hk hk
      · rfl
      · rfl
      · rw [entry_markCleaningWithStableOperation, if_pos hk]
      · rw [entry_markCleaningWithStableOperation, if_neg hk]
    dsimp only
    by_cases hconfirmed : backend.cleanup row
    · rw [if_pos hconfirmed, if_pos hconfirmed, entry_commit_finalizeClosed, hmark]
      by_cases hk : k = row.sessionId
      · subst hk
        rw [if_pos rfl, if_pos rfl, hmark, if_pos rfl]
      · rw [if_neg hk, if_neg hk, if_neg hk]
    · rw [if_neg hconfirmed, if_neg hconfirmed]
      exact hmark

/-- A row that is cleaned up is gone, or it has the number of an operation. -/
theorem reconciledEntry_of_cleaning {backend : Backend} {cleanupRow : CleanupRow}
    {row : OwnershipRow}
    (run : Option RuntimeRow) (hrow : row.phase = .cleaning) (hphase : cleanupRow.phase = .cleaning)
    (hoperation : cleanupRow.operationId = row.closeOperationId) :
    reconciledEntry backend cleanupRow (some row, run) =
      if backend.cleanup cleanupRow then (none, none)
      else (some (marked (backend.proposed cleanupRow.sessionId) row), run) := by
  have hmarked : (if cleanupRow.operationId.isSome then ((some row, run) : Entry)
      else markedEntry (backend.proposed cleanupRow.sessionId) (some row, run)) =
      (some (marked (backend.proposed cleanupRow.sessionId) row), run) := by
    have hmark : markedEntry (backend.proposed cleanupRow.sessionId) (some row, run) =
        (some (marked (backend.proposed cleanupRow.sessionId) row), run) := by
      rw [markedEntry, Option.map_some, if_pos (.inr (.inr hrow))]
    rw [hmark, hoperation]
    split_ifs with hsome
    · obtain ⟨operationId, hoperationId⟩ := Option.isSome_iff_exists.mp hsome
      rw [marked, hoperationId, Option.some_or, ← hoperationId, ← hrow]
    · rfl
  rw [reconciledEntry, if_neg (by simp [hphase]), hmarked]
  rfl

/-- **The last loop** cleans up what has evidence. -/
theorem entry_cleaned (t : Tables) (k : String) :
    (t.cleanupRows.foldl (reconcileRow (.dead pidAbsent socketExists proposed drawn)) t).entry k =
      cleanedEntry pidAbsent (proposed k) (t.entry k) := by
  have hnodup : (t.cleanupRows.map CleanupRow.sessionId).Nodup := by
    refine Table.nodup_select _ fun k row a ha => ?_
    split at ha
    · split_ifs at ha
      rw [← Option.some.inj ha]
    · cases ha
  rw [entry_foldl CleanupRow.sessionId
    (reconciledEntry (.dead pidAbsent socketExists proposed drawn)) _
    (fun t row _ k => entry_reconcileRow (fun _ => rfl) t row k) hnodup]
  cases hrow : t.ownership.lookup k with
  | none =>
    rw [find_key_none]
    · rw [Option.elim_none, Tables.entry, hrow]
      rfl
    · rintro cleanupRow hcleanup rfl
      obtain ⟨row, hlookup, -⟩ := SessionOwnership.mem_cleanupRows.mp hcleanup
      cases hrow.symm.trans hlookup
  | some row =>
    have hentry : t.entry k = (some row, (t.entry k).2) := Prod.ext hrow rfl
    by_cases hlisted : (row.phase = .active ∨ row.phase = .cleaning) ∧
        row.socketPath.isSome ∧ row.supervisorPid.isSome
    · obtain ⟨hphase, hsocket, hpid⟩ := hlisted
      obtain ⟨socketPath, hsocket⟩ := Option.isSome_iff_exists.mp hsocket
      obtain ⟨supervisorPid, hpid⟩ := Option.isSome_iff_exists.mp hpid
      have hmem : (⟨k, row.phase, row.capability, socketPath, supervisorPid, row.closeOperationId,
          row.legacyProtocol⟩ : CleanupRow) ∈ t.cleanupRows :=
        SessionOwnership.mem_cleanupRows.mpr ⟨row, hrow, hphase, hsocket, hpid, rfl, rfl, rfl, rfl⟩
      rw [find_key (k := k) hnodup hmem rfl, Option.elim_some, hentry, cleanedEntry]
      obtain hactive | hcleaning := hphase
      · rw [if_neg (by simp [hactive])]
        exact if_pos hactive
      · rw [reconciledEntry_of_cleaning _ hcleaning hcleaning rfl,
          if_pos (c := row.phase = .cleaning ∧ _) ⟨hcleaning, by simp [hsocket], by simp [hpid]⟩,
          hpid]
        rfl
    · rw [find_key_none, Option.elim_none, hentry, cleanedEntry, if_neg]
      · exact fun h => hlisted ⟨.inr h.1, h.2⟩
      · rintro cleanupRow hcleanup rfl
        obtain ⟨row', hlookup, hphase, hsocket, hpid, -⟩ :=
          SessionOwnership.mem_cleanupRows.mp hcleanup
        obtain rfl := Option.some.inj (hrow.symm.trans hlookup)
        exact hlisted ⟨hphase, by simp [hsocket], by simp [hpid]⟩

/-- What a whole round of the reconciler makes of a session. -/
def roundEntry (generation : List UInt8) (pidAbsent : ℕ → Bool) (socketExists : String → Bool)
    (proposed : ℕ) (entry : Entry) : Entry :=
  cleanedEntry pidAbsent proposed
    (abandonedEntry generation socketExists (interruptedEntry generation proposed entry))

/-- **A round of the reconciler** works on every session by itself. -/
theorem entry_reconcileOnce (t : Tables) (k : String) :
    (reconcileOnce (.dead pidAbsent socketExists proposed drawn) generation t).entry k =
      roundEntry generation pidAbsent socketExists (proposed k) (t.entry k) := by
  rw [reconcileOnce, entry_cleaned, reconcileInterruptedCreates, entry_abandoned]
  exact congrArg (fun entry => cleanedEntry pidAbsent (proposed k)
    (abandonedEntry generation socketExists entry)) (entry_interrupted t k)

/-! ### What is left of a row -/

/-- Nothing is left, or a quarantine with a diagnostic. -/
def CleanEntry (entry : Entry) : Prop :=
  ∀ row ∈ entry.1, row.phase = .quarantined ∧ row.diagnostic.isSome

theorem clean_iff : Clean t ↔ ∀ id, CleanEntry (t.entry id) := Iff.rfl

section Fates

variable {row : OwnershipRow} {run : Option RuntimeRow} {n : ℕ}

/-- A create of before that was prepared. -/
def interrupted (generation : List UInt8) (row : OwnershipRow) : Prop :=
  row.phase = .prepared ∧ row.diagnostic = none ∧ Tables.ofOther generation row

/-- A create of before whose supervisor has not left a socket. -/
def abandoned (generation : List UInt8) (socketExists : String → Bool) (row : OwnershipRow) :
    Prop :=
  row.phase = .preparing ∧ Tables.ofOther generation row ∧
    row.expectedSocket.all fun path => !socketExists path

theorem roundEntry_interrupted (h : interrupted generation row) :
    roundEntry generation pidAbsent socketExists n (some row, run) =
      cleanedEntry pidAbsent n (some (marked n row), run) := by
  have hinterrupted :
      interruptedEntry generation n (some row, run) = (some (marked n row), run) := by
    rw [interruptedEntry, Option.map_some]
    exact congrArg (fun row => (some row, run)) (if_pos h)
  rw [roundEntry, hinterrupted, abandonedEntry, Option.filter_some]
  rfl

theorem interruptedEntry_of_not (h : ¬interrupted generation row) :
    interruptedEntry generation n (some row, run) = (some row, run) := by
  rw [interruptedEntry, Option.map_some]
  exact congrArg (fun row => (some row, run)) (if_neg h)

theorem roundEntry_abandoned (h : abandoned generation socketExists row) :
    roundEntry generation pidAbsent socketExists n (some row, run) = (none, run) := by
  have hnot : ¬interrupted generation row := fun hinterrupted => by
    cases h.1.symm.trans hinterrupted.1
  rw [roundEntry, interruptedEntry_of_not hnot, abandonedEntry, Option.filter_some, if_neg]
  · rfl
  · simpa [abandoned] using h

theorem roundEntry_of_not (hinterrupted : ¬interrupted generation row)
    (habandoned : ¬abandoned generation socketExists row) :
    roundEntry generation pidAbsent socketExists n (some row, run) =
      cleanedEntry pidAbsent n (some row, run) := by
  rw [roundEntry, interruptedEntry_of_not hinterrupted, abandonedEntry, Option.filter_some, if_pos]
  rw [Bool.not_eq_true', decide_eq_false_iff_not]
  exact habandoned

theorem cleanedEntry_of_ne (h : row.phase ≠ .cleaning) :
    cleanedEntry pidAbsent n (some row, run) = (some row, run) :=
  if_neg fun hcleaning => h hcleaning.1

theorem marked_marked (n : ℕ) (row : OwnershipRow) : marked n (marked n row) = marked n row := by
  rw [marked, marked]
  cases row.closeOperationId with
  | none => rfl
  | some operationId => rfl

/-- A row that is cleaned up and still there is left as it is. -/
theorem cleanedEntry_idem (h : row.phase = .cleaning) :
    roundEntry generation pidAbsent socketExists n (cleanedEntry pidAbsent n (some row, run)) =
      cleanedEntry pidAbsent n (some row, run) := by
  have hround : ∀ row' : OwnershipRow, row'.phase = .cleaning →
      roundEntry generation pidAbsent socketExists n (some row', run) =
        cleanedEntry pidAbsent n (some row', run) := fun row' hcleaning =>
    roundEntry_of_not (fun hinterrupted => by cases hcleaning.symm.trans hinterrupted.1)
      (fun habandoned => by cases hcleaning.symm.trans habandoned.1)
  by_cases hevidence : row.phase = .cleaning ∧ row.socketPath.isSome ∧ row.supervisorPid.isSome
  · by_cases habsent : row.supervisorPid.any pidAbsent
    · have hgone : cleanedEntry pidAbsent n (some row, run) = (none, none) :=
        (if_pos hevidence).trans (if_pos habsent)
      rw [hgone]
      rfl
    · have hmarked : cleanedEntry pidAbsent n (some row, run) = (some (marked n row), run) :=
        (if_pos hevidence).trans (if_neg habsent)
      rw [hmarked, hround _ rfl]
      have hagain : cleanedEntry pidAbsent n (some (marked n row), run) =
          (some (marked n (marked n row)), run) :=
        (if_pos ⟨rfl, hevidence.2⟩).trans (if_neg habsent)
      rw [hagain, marked_marked]
  · have hsame : cleanedEntry pidAbsent n (some row, run) = (some row, run) := if_neg hevidence
    rw [hsame, hround row h, hsame]

end Fates

/-- **After one round nothing changes.** -/
theorem roundEntry_roundEntry (n : ℕ) (entry : Entry) :
    roundEntry generation pidAbsent socketExists n
      (roundEntry generation pidAbsent socketExists n entry) =
        roundEntry generation pidAbsent socketExists n entry := by
  obtain ⟨_ | row, run⟩ := entry
  · rfl
  · by_cases hinterrupted : interrupted generation row
    · rw [roundEntry_interrupted hinterrupted]
      exact cleanedEntry_idem rfl
    · by_cases habandoned : abandoned generation socketExists row
      · rw [roundEntry_abandoned habandoned]
        rfl
      · rw [roundEntry_of_not hinterrupted habandoned]
        by_cases hcleaning : row.phase = .cleaning
        · exact cleanedEntry_idem hcleaning
        · rw [cleanedEntry_of_ne hcleaning, roundEntry_of_not hinterrupted habandoned,
            cleanedEntry_of_ne hcleaning]

theorem cleanEntry_cleanedEntry {row : OwnershipRow} {run : Option RuntimeRow} {n : ℕ}
    (h : row.phase = .cleaning) : CleanEntry (cleanedEntry pidAbsent n (some row, run)) ↔
      row.socketPath.isSome ∧ row.supervisorPid.any pidAbsent := by
  by_cases hgone : row.socketPath.isSome ∧ row.supervisorPid.any pidAbsent
  · have hpid : row.supervisorPid.isSome := by
      obtain ⟨pid, hpid, -⟩ := (Option.any_eq_true ..).mp hgone.2
      rw [hpid]
      rfl
    have hnone : cleanedEntry pidAbsent n (some row, run) = (none, none) :=
      (if_pos ⟨h, hgone.1, hpid⟩).trans (if_pos hgone.2)
    rw [hnone]
    exact iff_of_true (fun row' hrow' => by cases hrow') hgone
  · refine iff_of_false (fun hclean => ?_) hgone
    -- the row is still there, in the phase `cleaning`
    obtain ⟨row', hrow', hphase⟩ :
        ∃ row', (cleanedEntry pidAbsent n (some row, run)).1 = some row' ∧
          row'.phase = .cleaning := by
      rw [cleanedEntry]
      split_ifs with hevidence habsent
      · exact absurd ⟨hevidence.2.1, habsent⟩ hgone
      · exact ⟨_, rfl, rfl⟩
      · exact ⟨_, rfl, h⟩
    cases hphase.symm.trans (hclean row' hrow').1

/-- **What is left of a row** after a round is clean, or the row is not forgotten. -/
theorem cleanEntry_roundEntry (n : ℕ) (row : OwnershipRow) (run : Option RuntimeRow) :
    CleanEntry (roundEntry generation pidAbsent socketExists n (some row, run)) ↔
      row.Forgotten pidAbsent socketExists generation false := by
  have hkept : ¬interrupted generation row → ¬abandoned generation socketExists row →
      row.phase ≠ .cleaning →
        (CleanEntry (roundEntry generation pidAbsent socketExists n (some row, run)) ↔
          row.phase = .quarantined ∧ row.diagnostic.isSome) := by
    intro hinterrupted habandoned hcleaning
    rw [roundEntry_of_not hinterrupted habandoned, cleanedEntry_of_ne hcleaning]
    simp [CleanEntry]
  rw [OwnershipRow.Forgotten]
  split
  next hphase =>
    by_cases habandoned : abandoned generation socketExists row
    · rw [roundEntry_abandoned habandoned]
      exact iff_of_true (fun row' hrow' => by cases hrow') habandoned.2
    · rw [hkept (fun hinterrupted => by cases hphase.symm.trans hinterrupted.1) habandoned
        (by simp [hphase])]
      refine iff_of_false (by simp [hphase]) fun hother => habandoned ⟨hphase, hother⟩
  next hphase =>
    by_cases hinterrupted : interrupted generation row
    · rw [roundEntry_interrupted hinterrupted, cleanEntry_cleanedEntry rfl]
      simp [hinterrupted.2, marked]
    · rw [hkept hinterrupted (fun habandoned => by cases hphase.symm.trans habandoned.1)
        (by simp [hphase])]
      refine iff_of_false (by simp [hphase]) ?_
      rintro (⟨hloaded, -⟩ | ⟨hnone, hother, -⟩)
      · cases hloaded
      · exact hinterrupted ⟨hphase, hnone, hother⟩
  next hphase =>
    rw [hkept (fun hinterrupted => by cases hphase.symm.trans hinterrupted.1)
      (fun habandoned => by cases hphase.symm.trans habandoned.1) (by simp [hphase])]
    simp [hphase]
  next hphase =>
    rw [roundEntry_of_not (fun hinterrupted => by cases hphase.symm.trans hinterrupted.1)
      (fun habandoned => by cases hphase.symm.trans habandoned.1)]
    exact cleanEntry_cleanedEntry hphase
  next hphase =>
    rw [hkept (fun hinterrupted => by cases hphase.symm.trans hinterrupted.1)
      (fun habandoned => by cases hphase.symm.trans habandoned.1) (by simp [hphase])]
    simp [hphase]

/-! ### What the daemon loads after a clearing -/

/-- What a round of `recover` makes of its session, where the record has no evidence. -/
def recoveredEntry : Entry → Entry
  | (some row, run) =>
    if row.phase = .active then
      (some { row with
        phase := .quarantined
        diagnostic :=
          some "public runtime projection does not match durable ownership evidence" }, none)
    else if row.phase = .prepared ∧ row.diagnostic = some legacyMigration then
      (some { row with
        phase := .quarantined
        diagnostic := some "legacy runtime row has no restore evidence" }, none)
    else (some row, run)
  | entry => entry

theorem entry_recoverRecord {backend : Backend} {record : SessionStateRecord}
    (hnone : record.restoreInfo = none) (t : Tables) (k : String) :
    (recoverRecord backend generation t record).entry k =
      if k = record.sessionId then recoveredEntry (t.entry k) else t.entry k := by
  rw [recoverRecord]
  cases hrow : t.ownership.lookup record.sessionId with
  | none =>
    dsimp only
    by_cases hk : k = record.sessionId
    · subst hk
      rw [if_pos rfl, Tables.entry, hrow]
      rfl
    · rw [if_neg hk]
  | some row =>
    have hentry : t.entry record.sessionId = (some row, (t.entry record.sessionId).2) :=
      Prod.ext hrow rfl
    have hunmatched : SessionOwnership.activeEvidenceMatches
        { tables := t, generation } record = some false := by
      rw [SessionOwnership.activeEvidenceMatches, hnone]
    dsimp only
    by_cases hactive : row.phase = .active
    · rw [if_pos hactive, hunmatched, if_neg (by decide), entry_commit_quarantine]
      by_cases hk : k = record.sessionId
      · subst hk
        rw [if_pos rfl, if_pos rfl, hentry, recoveredEntry, if_pos hactive]
        rfl
      · rw [if_neg hk, if_neg hk]
    · rw [if_neg hactive, hnone]
      by_cases hlegacy : row.phase = .prepared ∧ row.diagnostic = some legacyMigration
      · rw [if_neg (by simp [hlegacy]), entry_commit_quarantine]
        by_cases hk : k = record.sessionId
        · subst hk
          rw [if_pos rfl, if_pos rfl, hentry, recoveredEntry, if_neg hactive, if_pos hlegacy]
          rfl
        · rw [if_neg hk, if_neg hk]
      · rw [if_pos (not_and_or.mp hlegacy)]
        by_cases hk : k = record.sessionId
        · subst hk
          rw [if_pos rfl, hentry, recoveredEntry, if_neg hactive, if_neg hlegacy]
        · rw [if_neg hk]

/-- What the backfill leaves of a session: a session that has a row keeps it. -/
def Disowned (entry entry' : Entry) : Prop :=
  entry' = entry ∨ entry.1 = none ∧ ∃ row, entry'.1 = some row ∧
    row.phase = .quarantined ∧ row.diagnostic.isSome

theorem backfillLegacyRecord_disowned {record : SessionStateRecord}
    {createOperationId capability : List UInt8} {t' : Tables} (hnone : record.restoreInfo = none)
    (h : backfillLegacyRecord record createOperationId capability t = some t') (k : String) :
    Disowned (t.entry k) (t'.entry k) := by
  have hevidence : record.evidence = none := by
    rw [SessionStateRecord.evidence, hnone]
  rw [backfillLegacyRecord, hevidence] at h
  split_ifs at h
  · exact .inl (congrArg (Tables.entry · k) (Option.some.inj h).symm)
  · simp only [Option.bind_eq_bind, Option.bind_eq_some_iff, Option.pure_def,
      Option.some.injEq] at h
    obtain ⟨u, hu, rfl⟩ := h
    obtain ⟨hfree, hentry⟩ := Tables.entry_insertOwnership hu k
    rw [Disowned, Tables.entry_deleteRuntime]
    by_cases hk : k = record.sessionId
    · subst hk
      rw [if_pos rfl] at hentry ⊢
      rw [hentry]
      exact .inr ⟨hfree, _, rfl, rfl, rfl⟩
    · rw [if_neg hk] at hentry ⊢
      exact .inl hentry

/-- **The backfill** quarantines the sessions whose records have no evidence. -/
theorem commit_backfillLegacyRecords_disowned (drawn : String → List UInt8 × List UInt8)
    {records : List SessionStateRecord}
    (hnone : ∀ record ∈ records, record.restoreInfo = none) (t : Tables) (k : String) :
    Disowned (t.entry k) ((commit (backfillLegacyRecords records drawn) t).entry k) := by
  obtain ⟨t', htransaction⟩ := RecoverRun.transaction_backfill records drawn t
  have hcommit : commit (backfillLegacyRecords records drawn) t = t' := by
    rw [commit, htransaction]
  have hbody : (backfillLegacyRecords records drawn).foldlM (fun t statement => statement t) t =
      some t' := by
    obtain ⟨-, -, hbody⟩ | ⟨hnot, -⟩ := transaction_cases htransaction
    · exact hbody
    · exact absurd rfl hnot
  rw [hcommit]
  clear htransaction hcommit
  induction records generalizing t with
  | nil =>
    obtain rfl := Option.some.inj hbody
    exact .inl rfl
  | cons record records ih =>
    rw [backfillLegacyRecords, List.map_cons, List.foldlM_cons, Option.bind_eq_bind,
      Option.bind_eq_some_iff] at hbody
    obtain ⟨u, hu, hbody⟩ := hbody
    have hround := backfillLegacyRecord_disowned (hnone record List.mem_cons_self) hu k
    have hrest := ih (fun record' hrecord => hnone record' (List.mem_cons_of_mem _ hrecord)) u hbody
    -- a row that a round has inserted is there for the later rounds
    obtain hsame | ⟨hfree, row, hrow, hrow'⟩ := hround
    · rw [← hsame]
      exact hrest
    · obtain hsame | ⟨hnot, -⟩ := hrest
      · rw [hsame]
        exact .inr ⟨hfree, row, hrow, hrow'⟩
      · cases hrow.symm.trans hnot

theorem entry_recover (backend : Backend) (generation : List UInt8) {t : Tables}
    (hnone : ∀ id row, t.runtimeSessions.lookup id = some row → row.restoreInfo = none)
    (k : String) :
    ∃ entry, Disowned (t.entry k) entry ∧
      (recover backend generation t.records t).entry k =
        if (t.runtimeSessions.lookup k).isSome then recoveredEntry entry else entry := by
  have hrecord : ∀ record, record ∈ t.records ↔ ∃ row,
      t.runtimeSessions.lookup record.sessionId = some row ∧
        record = ⟨record.sessionId, row.state, row.restoreInfo⟩ := by
    intro record
    rw [Tables.records, Table.mem_select]
    constructor
    · rintro ⟨id, row, hlookup, hsome⟩
      obtain rfl := Option.some.inj hsome
      exact ⟨row, hlookup, rfl⟩
    · rintro ⟨row, hlookup, heq⟩
      exact ⟨record.sessionId, row, hlookup, congrArg some heq.symm⟩
  have hempty : ∀ record ∈ t.records, record.restoreInfo = none := by
    intro record hmem
    obtain ⟨row, hlookup, heq⟩ := (hrecord record).mp hmem
    rw [heq]
    exact hnone _ _ hlookup
  have hnodup : (t.records.map SessionStateRecord.sessionId).Nodup := by
    refine Table.nodup_select _ fun id row record hsome => ?_
    rw [← Option.some.inj hsome]
  refine ⟨_, commit_backfillLegacyRecords_disowned backend.drawn hempty t k, ?_⟩
  rw [recover, entry_foldl SessionStateRecord.sessionId (fun _ => recoveredEntry) _
    (fun t record hmem k => entry_recoverRecord (hempty record hmem) t k) hnodup]
  cases hrow : t.runtimeSessions.lookup k with
  | none =>
    rw [find_key_none]
    · rfl
    · rintro record hmem rfl
      obtain ⟨row, hlookup, -⟩ := (hrecord record).mp hmem
      cases hrow.symm.trans hlookup
  | some row =>
    rw [find_key (a := ⟨k, row.state, row.restoreInfo⟩) hnodup
      ((hrecord _).mpr ⟨row, hrow, rfl⟩) rfl]
    rfl

/-- **What is left of a row** after `recover` and a round of the reconciler. -/
theorem cleanEntry_recoveredEntry (n : ℕ) (row : OwnershipRow) (run : Option RuntimeRow)
    (loaded : Bool) :
    CleanEntry (roundEntry generation pidAbsent socketExists n
      (if loaded then recoveredEntry (some row, run) else (some row, run))) ↔
        row.Forgotten pidAbsent socketExists generation loaded := by
  cases loaded with
  | false => exact cleanEntry_roundEntry n row run
  | true =>
    rw [if_pos rfl, recoveredEntry]
    split_ifs with hactive hlegacy
    · rw [cleanEntry_roundEntry]
      simp [OwnershipRow.Forgotten, hactive]
    · rw [cleanEntry_roundEntry]
      simp [OwnershipRow.Forgotten, hlegacy]
    · rw [cleanEntry_roundEntry, OwnershipRow.Forgotten, OwnershipRow.Forgotten]
      cases hphase : row.phase with
      | active => exact absurd hphase hactive
      | prepared =>
        have hother : row.diagnostic ≠ some legacyMigration := fun h => hlegacy ⟨hphase, h⟩
        simp [hother]
      | preparing | cleaning | quarantined => rfl

theorem cleanEntry_disowned {entry entry' : Entry} (n : ℕ) (h : Disowned entry entry')
    (loaded : Bool) :
    CleanEntry (roundEntry generation pidAbsent socketExists n
      (if loaded then recoveredEntry entry' else entry')) ↔
        ∀ row, entry.1 = some row → row.Forgotten pidAbsent socketExists generation loaded := by
  obtain rfl | ⟨hfree, row', hrow', hphase, hdiagnostic⟩ := h
  · obtain ⟨_ | row, run⟩ := entry'
    · have hleft : roundEntry generation pidAbsent socketExists n
          (if loaded then recoveredEntry (none, run) else (none, run)) = (none, run) := by
        cases loaded <;> rfl
      rw [hleft]
      exact iff_of_true (fun row hrow => by cases hrow) (fun row hrow => by cases hrow)
    · rw [cleanEntry_recoveredEntry]
      exact ⟨fun h row' hrow' => Option.some.inj hrow' ▸ h, fun h => h row rfl⟩
  · have hentry : entry' = (some row', entry'.2) := Prod.ext hrow' rfl
    rw [hentry, cleanEntry_recoveredEntry, OwnershipRow.Forgotten, hphase]
    refine iff_of_true hdiagnostic fun row hrow => ?_
    cases hfree.symm.trans hrow

/-! ### Rounds until nothing changes -/

theorem entry_reconcileOnce_iterate (drawn : String → List UInt8 × List UInt8) (t : Tables) (n : ℕ)
    (k : String) :
    ((reconcileOnce (.dead pidAbsent socketExists proposed drawn) generation)^[n + 1] t).entry k =
      roundEntry generation pidAbsent socketExists (proposed k) (t.entry k) := by
  induction n with
  | zero => exact entry_reconcileOnce t k
  | succ n ih =>
    rw [Function.iterate_succ_apply', entry_reconcileOnce, ih, roundEntry_roundEntry]

/-- The reconciler has done after one round what it can do. -/
theorem leavesNoOrphans_iff_round {d : StateDatabase} :
    LeavesNoOrphans (.dead pidAbsent socketExists proposed drawn) generation d ↔
      ∀ id, CleanEntry (roundEntry generation pidAbsent socketExists (proposed id)
        ((recover (.dead pidAbsent socketExists proposed drawn) generation d.tables.records
          d.tables).entry id)) := by
  constructor
  · intro h
    have hclean := clean_iff.mp (h 1 fun id => by
      rw [entry_reconcileOnce_iterate, entry_reconcileOnce_iterate])
    intro id
    rw [← entry_reconcileOnce_iterate drawn _ 0]
    exact hclean id
  · intro h n hsame
    refine clean_iff.mpr fun id => ?_
    rw [← hsame id, entry_reconcileOnce_iterate]
    exact h id

end Rounds

/-! ### The clearings -/

/-- The ways in which the installer clears the sessions. -/
inductive Clearing
  | runtimeState (daemonColumns runtimeColumns : Bool)
  | allSessionState

namespace Clearing

def apply : Clearing → StateDatabase → StateDatabase
  | runtimeState daemonColumns runtimeColumns => clearRuntimeState daemonColumns runtimeColumns
  | allSessionState => clearAllSessionState

/-- The rows of the sessions are closed, and not deleted. -/
def keeps : Clearing → Bool
  | runtimeState _ runtimeColumns => runtimeColumns
  | allSessionState => false

variable (clearing : Clearing) (d : StateDatabase)

@[simp] theorem ownership_apply : (clearing.apply d).tables.ownership = d.tables.ownership := by
  cases clearing <;> rfl

theorem lookup_runtimeSessions (id : String) :
    (clearing.apply d).tables.runtimeSessions.lookup id =
      if clearing.keeps then (d.tables.runtimeSessions.lookup id).map fun row =>
        { row with state := .closed, restoreInfo := none }
      else none := by
  cases clearing with
  | runtimeState daemonColumns runtimeColumns =>
    cases runtimeColumns with
    | true =>
      rw [keeps, if_pos rfl]
      exact Table.lookup_mapValues d.tables.runtimeSessions
        (fun row => { row with state := .closed, restoreInfo := none }) id
    | false => rfl
  | allSessionState => rfl

end Clearing

/-- **A clearing leaves no orphans exactly when every row of the ledger is one that the next daemon
forgets**: an active row stays when the row of its session was deleted. -/
theorem leavesNoOrphans_iff (clearing : Clearing) (d : StateDatabase) (pidAbsent : ℕ → Bool)
    (socketExists : String → Bool) (proposed : String → ℕ)
    (drawn : String → List UInt8 × List UInt8) (generation : List UInt8) :
    LeavesNoOrphans (.dead pidAbsent socketExists proposed drawn) generation (clearing.apply d) ↔
      ∀ id row, d.tables.ownership.lookup id = some row →
        row.Forgotten pidAbsent socketExists generation
          (clearing.keeps && (d.tables.runtimeSessions.lookup id).isSome) := by
  have hnone : ∀ id row, (clearing.apply d).tables.runtimeSessions.lookup id = some row →
      row.restoreInfo = none := by
    intro id row hrow
    rw [clearing.lookup_runtimeSessions] at hrow
    split_ifs at hrow
    obtain ⟨row', -, rfl⟩ := Option.map_eq_some_iff.mp hrow
    rfl
  rw [leavesNoOrphans_iff_round]
  refine forall_congr' fun id => ?_
  obtain ⟨entry, hdisowned, hentry⟩ := entry_recover
    (.dead pidAbsent socketExists proposed drawn) generation hnone id
  have hloaded : ((clearing.apply d).tables.runtimeSessions.lookup id).isSome =
      (clearing.keeps && (d.tables.runtimeSessions.lookup id).isSome) := by
    rw [clearing.lookup_runtimeSessions]
    cases clearing.keeps <;> simp
  rw [hentry, hloaded, cleanEntry_disowned _ hdisowned]
  rw [Tables.entry, clearing.ownership_apply]

/-- Nothing is pending once the ledger is clean. -/
theorem Clean.pendingOwnershipCount {d : StateDatabase} (h : Clean d.tables) :
    pendingOwnershipCount d = 0 := by
  rw [Ownership.pendingOwnershipCount, Table.countWhere, List.countP_eq_zero]
  rintro ⟨id, row⟩ hmem
  have hrow : d.tables.ownership.lookup id = some row := AList.mem_lookup_iff.mpr hmem
  rw [(h id row hrow).1]
  decide

/-- A session is active, and `clear_all_session_state` deletes its row. -/
theorem active_stays :
    ¬∀ (runtimeSessions : Table String RuntimeRow) (generation : List UInt8)
      (ops : List OwnershipOp) (w : SessionOwnership),
      exec SessionOwnership.step (SessionOwnership.init runtimeSessions generation) ops = some w →
        ∀ (clearing : Clearing) (pidAbsent : ℕ → Bool) (socketExists : String → Bool)
          (proposed : String → ℕ) (drawn : String → List UInt8 × List UInt8)
          (next : List UInt8),
          LeavesNoOrphans (.dead pidAbsent socketExists proposed drawn) next
            (clearing.apply { tables := w.tables }) := by
  intro h
  let ops : List OwnershipOp := [.create "a" ⟨2, 4, 0, 0⟩ [1] [2] (some "s") none,
    .recordPrepared (.unixSocket "s" 7 .running) false,
    .spawned (some (.unixSocket "s" 7 .running)), .prepare true, .commitActive none]
  have hrun : ((exec SessionOwnership.step (SessionOwnership.init ∅ [0]) ops).any fun w =>
      (w.tables.ownership.lookup "a").any fun row => row.phase = .active) = true := by
    decide +kernel
  obtain ⟨w, hw, hrow⟩ := (Option.any_eq_true ..).mp hrun
  obtain ⟨row, hrow, hphase⟩ := (Option.any_eq_true ..).mp hrow
  have hphase := of_decide_eq_true hphase
  have hclean := leavesNoOrphans_iff_round.mp
    (h ∅ [0] ops w hw .allSessionState (fun _ => true) (fun _ => false) (fun _ => 0)
      (fun _ => ([], [])) [1]) "a"
  -- no record is loaded, so that `recover` does not come to the row
  obtain ⟨entry, hdisowned, hentry⟩ := entry_recover
    (.dead (fun _ => true) (fun _ => false) (fun _ => 0) fun _ => ([], [])) [1]
    (t := (clearAllSessionState { tables := w.tables }).tables)
    (fun id row hrow => by cases hrow) "a"
  obtain rfl | ⟨hfree, -⟩ := hdisowned
  · have hactive : (clearAllSessionState { tables := w.tables }).tables.entry "a" =
        (some row, none) := Prod.ext hrow rfl
    have hforgotten : row.Forgotten (fun _ => true) (fun _ => false) [1] false := by
      rw [← cleanEntry_roundEntry 0 row none, ← hactive]
      exact hentry ▸ hclean
    rw [OwnershipRow.Forgotten, hphase] at hforgotten
    cases hforgotten
  · cases hrow.symm.trans hfree

end Termd.Ownership
