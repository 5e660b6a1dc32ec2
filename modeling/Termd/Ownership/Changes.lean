import Termd.Ownership.Threads

/-!
# What a step does to the ledger

A step changes what the tables say of a session in one of a few ways, and every statement about the
ledger is read off them.

## Main definitions

* `Tables.entry t id`: what the tables say of a session
* `Change w op id entry entry'`: the ways in which a step changes it

## Main results

* `SessionOwnership.step_entry`: a step changes what is said of a session only in these ways
-/

namespace Termd.Ownership

open Pty (PtySize)

/-- What the tables say of a session. -/
abbrev Entry := Option OwnershipRow × Option RuntimeRow

namespace Tables

/-- What the tables say of a session. -/
def entry (t : Tables) (id : String) : Entry := (t.ownership.lookup id, t.runtimeSessions.lookup id)

variable {t t' : Tables} {id : String}

theorem entry_updateOwnership (t : Tables) (id : String) (p : OwnershipRow → Bool)
    (f : OwnershipRow → OwnershipRow) (k : String) :
    (t.updateOwnership id p f).entry k = t.entry k ∨
      ∃ row run, k = id ∧ t.entry k = (some row, run) ∧ p row ∧
        (t.updateOwnership id p f).entry k = (some (f row), run) := by
  rw [entry, entry, updateOwnership, Table.lookup_updateWhere]
  by_cases hk : k = id
  · subst hk
    cases hrow : t.ownership.lookup k with
    | none => exact .inl (by simp)
    | some row =>
      by_cases hp : p row
      · exact .inr ⟨row, _, rfl, rfl, hp, by simp [hp]⟩
      · exact .inl (by simp [hp])
  · rw [if_neg hk]
    exact .inl rfl

theorem entry_deleteOwnership (t : Tables) (id : String) (p : OwnershipRow → Bool) (k : String) :
    (t.deleteOwnership id p).entry k = t.entry k ∨
      ∃ row run, k = id ∧ t.entry k = (some row, run) ∧ p row ∧
        (t.deleteOwnership id p).entry k = (none, run) := by
  rw [entry, entry, deleteOwnership, Table.lookup_deleteWhere]
  by_cases hk : k = id
  · subst hk
    cases hrow : t.ownership.lookup k with
    | none => exact .inl (by simp)
    | some row =>
      by_cases hp : p row
      · exact .inr ⟨row, _, rfl, rfl, hp, by simp [hp, Option.filter_some]⟩
      · exact .inl (by simp [hp, Option.filter_some])
  · rw [if_neg hk]
    exact .inl rfl

/-- Deleting the row of `runtime_sessions` whatever it is. -/
theorem entry_deleteRuntime (t : Tables) (id : String) (k : String) :
    (t.deleteRuntime id fun _ => true).entry k =
      if k = id then ((t.entry id).1, none) else t.entry k := by
  rw [entry, entry, deleteRuntime, Table.lookup_deleteWhere]
  by_cases hk : k = id
  · subst hk
    cases t.runtimeSessions.lookup k <;> simp [Option.filter_some]
  · simp [hk, entry]

theorem entry_insertOwnership {row : OwnershipRow} (h : insertOwnership id row t = some t')
    (k : String) :
    t.ownership.lookup id = none ∧
      t'.entry k = if k = id then (some row, (t.entry id).2) else t.entry k := by
  simp only [insertOwnership, Option.bind_eq_bind, Option.bind_eq_some_iff, Option.pure_def,
    Option.some.injEq] at h
  obtain ⟨ownership, hinsert, rfl⟩ := h
  obtain ⟨hnone, rfl⟩ := Table.insertNew_eq_some.mp hinsert
  refine ⟨hnone, ?_⟩
  rw [entry]
  by_cases hk : k = id
  · subst hk
    simp [entry]
  · simp [hk, entry, AList.lookup_insert_ne]

end Tables

/-- What the backfill makes of a session that has no row of `session_ownership`. -/
inductive Backfilled (run : Option RuntimeRow) : Entry → Prop
  | prepared (createOperationId capability : List UInt8) (socketPath : String)
    (supervisorPid : ℕ) :
    Backfilled run
      (some { phase := .prepared, createOperationId, capability, expectedSocket := some socketPath
              supervisorPid := some supervisorPid, socketPath := some socketPath
              diagnostic := some legacyMigration }, run)
  | quarantined (createOperationId capability : List UInt8) (diagnostic : Option String) :
    Backfilled run
      (some { phase := .quarantined, createOperationId, capability, diagnostic }, none)

theorem Backfilled.isSome {run : Option RuntimeRow} {entry : Entry} (h : Backfilled run entry) :
    entry.1.isSome := by
  cases h <;> rfl

/-- The ways in which a step changes what the tables say of a session. -/
inductive Change (w : SessionOwnership) : OwnershipOp → String → Entry → Entry → Prop
  | create {id size createOperationId capability expectedSocket fault} :
    Change w (.create id size createOperationId capability expectedSocket fault) id (none, none)
      (some (preparingRow createOperationId capability expectedSocket w.generation), none)
  | recordPrepared {id size row run socketPath supervisorPid status} :
    w.daemon = .spawning id size → row.phase = .preparing →
    Change w (.recordPrepared (.unixSocket socketPath supervisorPid status) false) id
      (some row, run)
      (some { row with
        phase := .prepared, supervisorPid := some supervisorPid, socketPath := some socketPath },
        run)
  | commitActive {id size restoreInfo row fault} :
    w.daemon = .committing id size restoreInfo → row.phase = .prepared →
    Change w (.commitActive fault) id (some row, none)
      (some { row with phase := .active }, some ⟨.running, size, some restoreInfo⟩)
  | markCleaning {id again row run} :
    w.daemon = .failing id again → row.phase ≠ .active →
    Change w (.markCleaning false) id (some row, run) (some { row with phase := .cleaning }, run)
  | backfill {id records drawn fault run entry'} : Backfilled run entry' →
    Change w (.recover records drawn fault) id (none, run) entry'
  | quarantine {id diagnostic records fault row run} :
    w.daemon = .quarantining id diagnostic records → ¬fault.any (Fault.hits 2) →
    Change w (.quarantine fault) id (some row, run)
      (some { row with phase := .quarantined, diagnostic := some diagnostic }, none)
  | quarantineNothing {id diagnostic records fault run} :
    w.daemon = .quarantining id diagnostic records →
    Change w (.quarantine fault) id (none, run) (none, none)
  | migrateLegacy {record restoreInfo installed records proposed row run} :
    w.daemon = .migrating record restoreInfo installed records → row.phase = .prepared →
    Change w (.migrateLegacy proposed false) record.sessionId (some row, run)
      (some { row with
        phase := if SessionOwnership.isClosing restoreInfo then .cleaning else .active
        legacyProtocol := !installed
        diagnostic := none
        closeOperationId := if SessionOwnership.isClosing restoreInfo then
            row.closeOperationId.or (some proposed)
          else row.closeOperationId }, run)
  | close {id proposed fault row run} :
    row.phase = .active ∨ row.phase = .cleaning →
    Change w (.close id proposed fault) id (some row, run)
      (some { row with
        phase := .cleaning, closeOperationId := row.closeOperationId.or (some proposed) }, run)
  | markStable {id next proposed row run} :
    w.reconciler = .marking id next →
    row.phase = .prepared ∨ row.phase = .active ∨ row.phase = .cleaning →
    Change w (.markStable proposed false) id (some row, run)
      (some { row with
        phase := .cleaning, closeOperationId := row.closeOperationId.or (some proposed) }, run)
  | dropPreparing {id expectedSocket creates socketExists row run} :
    w.reconciler = .abandoned ((id, expectedSocket) :: creates) → row.phase = .preparing →
    Change w (.dropPreparing socketExists false) id (some row, run) (none, run)
  | finalizeClosed {id rows fault row run} :
    w.reconciler = .finalizing id rows → row.phase = .cleaning →
    Change w (.finalizeClosed fault) id (some row, run) (none, none)
  | finalizeNothing {id rows fault row run} :
    w.reconciler = .finalizing id rows → (∀ r, row = some r → r.phase ≠ .cleaning) →
    Change w (.finalizeClosed fault) id (row, run) (row, none)

/-- How the last transaction ended is not asked. -/
theorem Change.of_outcome {w : SessionOwnership} {outcome : Option Outcome} {op : OwnershipOp}
    {k : String} {entry entry' : Entry} (h : Change { w with outcome } op k entry entry') :
    Change w op k entry entry' := by
  cases h <;> constructor <;> assumption

/-! ### Transactions -/

section Transactions

variable {t t' : Tables} {id : String}

theorem entry_insertPreparing {createOperationId capability : List UInt8}
    {expectedSocket : Option String} {generation : List UInt8}
    (h : (insertPreparing id createOperationId capability expectedSocket generation).foldlM
      (fun t statement => statement t) t = some t') (k : String) :
    t'.entry k = t.entry k ∨ k = id ∧ (t.entry k).1 = none ∧
      t'.entry k = (some (preparingRow createOperationId capability expectedSocket generation),
        (t.entry k).2) := by
  simp only [insertPreparing, List.foldlM_cons, List.foldlM_nil, Option.bind_eq_bind,
    Option.bind_eq_some_iff, Option.pure_def, Option.some.injEq] at h
  obtain ⟨_, hinsert, rfl⟩ := h
  obtain ⟨hnone, hentry⟩ := Tables.entry_insertOwnership hinsert k
  by_cases hk : k = id
  · subst hk
    rw [if_pos rfl] at hentry
    exact .inr ⟨rfl, hnone, hentry⟩
  · rw [if_neg hk] at hentry
    exact .inl hentry

theorem entry_commitActive {size : PtySize} {restoreInfo : PtyRestoreInfo}
    (h : (commitActive id size restoreInfo).foldlM (fun t statement => statement t) t = some t') :
    ∃ row, row.phase = .prepared ∧ t.entry id = (some row, none) ∧ ∀ k, t'.entry k =
      if k = id then (some { row with phase := .active }, some ⟨.running, size, some restoreInfo⟩)
      else t.entry k := by
  simp only [commitActive, List.foldlM_cons, List.foldlM_nil, Option.bind_eq_bind,
    Option.bind_eq_some_iff, Option.pure_def, Option.some.injEq] at h
  obtain ⟨u, hu, _, ⟨runtimeSessions, hinsert, rfl⟩, rfl⟩ := h
  split_ifs at hu with hany
  obtain rfl := Option.some.inj hu
  obtain ⟨hnone, rfl⟩ := Table.insertNew_eq_some.mp hinsert
  obtain ⟨row, hrow, hphase⟩ := (Option.any_eq_true ..).mp hany
  have hphase := of_decide_eq_true hphase
  refine ⟨row, hphase, Prod.ext hrow hnone, fun k => ?_⟩
  by_cases hk : k = id
  · subst hk
    simp [Tables.entry, Tables.updateOwnership, Table.lookup_updateWhere, hrow, hphase]
  · simp [Tables.entry, Tables.updateOwnership, Table.lookup_updateWhere, hk,
      AList.lookup_insert_ne]

/-- One round of the backfill. -/
theorem entry_backfillLegacyRecord {record : SessionStateRecord}
    {createOperationId capability : List UInt8}
    (h : backfillLegacyRecord record createOperationId capability t = some t') :
    (t'.entry record.sessionId).1.isSome ∧ ∀ k, t'.entry k = t.entry k ∨
      (t.entry k).1 = none ∧ Backfilled (t.entry k).2 (t'.entry k) := by
  rw [backfillLegacyRecord] at h
  split_ifs at h with hsome
  · obtain rfl := Option.some.inj h
    exact ⟨hsome, fun k => .inl rfl⟩
  · cases hevidence : record.evidence with
    | some evidence =>
      obtain ⟨socketPath, supervisorPid⟩ := evidence
      rw [hevidence] at h
      have hself := (Tables.entry_insertOwnership h record.sessionId).2
      rw [if_pos rfl] at hself
      refine ⟨by rw [hself]; rfl, fun k => ?_⟩
      obtain ⟨hnone, hentry⟩ := Tables.entry_insertOwnership h k
      by_cases hk : k = record.sessionId
      · subst hk
        rw [hself]
        exact .inr ⟨hnone, .prepared ..⟩
      · rw [if_neg hk] at hentry
        exact .inl hentry
    | none =>
      rw [hevidence] at h
      simp only [Option.bind_eq_bind, Option.bind_eq_some_iff, Option.pure_def,
        Option.some.injEq] at h
      obtain ⟨u, hu, rfl⟩ := h
      have hself := (Tables.entry_insertOwnership hu record.sessionId).2
      rw [if_pos rfl] at hself
      refine ⟨by rw [Tables.entry_deleteRuntime, if_pos rfl, hself]; rfl, fun k => ?_⟩
      obtain ⟨hnone, hentry⟩ := Tables.entry_insertOwnership hu k
      rw [Tables.entry_deleteRuntime]
      by_cases hk : k = record.sessionId
      · subst hk
        rw [if_pos rfl, hself]
        exact .inr ⟨hnone, .quarantined ..⟩
      · rw [if_neg hk] at hentry ⊢
        exact .inl hentry

/-- **The backfill**: a session that has no row gets one, and no other session changes. -/
theorem entry_backfillLegacyRecords {records : List SessionStateRecord}
    {drawn : String → List UInt8 × List UInt8}
    (h : (backfillLegacyRecords records drawn).foldlM (fun t statement => statement t) t = some t') :
    (∀ record ∈ records, (t'.entry record.sessionId).1.isSome) ∧ ∀ k, t'.entry k = t.entry k ∨
      (t.entry k).1 = none ∧ Backfilled (t.entry k).2 (t'.entry k) := by
  induction records generalizing t with
  | nil =>
    obtain rfl := Option.some.inj h
    exact ⟨nofun, fun _ => .inl rfl⟩
  | cons record records ih =>
    rw [backfillLegacyRecords, List.map_cons, List.foldlM_cons, Option.bind_eq_bind,
      Option.bind_eq_some_iff] at h
    obtain ⟨u, hu, h⟩ := h
    obtain ⟨hself, hround⟩ := entry_backfillLegacyRecord hu
    obtain ⟨hrest, hrounds⟩ := ih h
    -- the later rounds leave a session alone that has a row
    have hkeep : ∀ k, (u.entry k).1.isSome → t'.entry k = u.entry k := fun k hk =>
      (hrounds k).resolve_right fun hnone => by simp [hnone.1] at hk
    refine ⟨List.forall_mem_cons.mpr ⟨?_, hrest⟩, fun k => ?_⟩
    · rw [hkeep _ hself]
      exact hself
    · obtain hsame | ⟨hnone, hfilled⟩ := hround k
      · rw [← hsame]
        exact hrounds k
      · rw [hkeep k hfilled.isSome]
        exact .inr ⟨hnone, hfilled⟩

theorem entry_quarantine {diagnostic : String}
    (h : (quarantine id diagnostic).foldlM (fun t statement => statement t) t = some t')
    (k : String) :
    t'.entry k = if k = id then ((t.entry id).1.map fun row =>
      { row with phase := .quarantined, diagnostic := some diagnostic }, none) else t.entry k := by
  simp only [quarantine, List.foldlM_cons, List.foldlM_nil, Option.bind_eq_bind, Option.bind_some,
    Option.pure_def, Option.some.injEq] at h
  subst h
  rw [Tables.entry_deleteRuntime]
  by_cases hk : k = id <;>
    simp [Tables.entry, Tables.updateOwnership, Table.lookup_updateWhere, hk]

theorem entry_close {proposed : ℕ}
    (h : (close id proposed).foldlM (fun t statement => statement t) t = some t') (k : String) :
    t'.entry k = t.entry k ∨ ∃ row run, k = id ∧ t.entry k = (some row, run) ∧
      (row.phase = .active ∨ row.phase = .cleaning) ∧
      t'.entry k = (some { row with
        phase := .cleaning, closeOperationId := row.closeOperationId.or (some proposed) }, run) := by
  simp only [close, List.foldlM_cons, List.foldlM_nil, Option.bind_eq_bind, Option.bind_some,
    Option.bind_eq_some_iff, Option.pure_def, Option.some.injEq] at h
  obtain ⟨u, hu, rfl⟩ := h
  split_ifs at hu
  obtain rfl := Option.some.inj hu
  refine (Tables.entry_updateOwnership ..).imp_right ?_
  rintro ⟨row, run, hk, hentry, hphase, hentry'⟩
  exact ⟨row, run, hk, hentry, by simpa using hphase, hentry'⟩

theorem entry_finalizeClosed
    (h : (finalizeClosed id).foldlM (fun t statement => statement t) t = some t') (k : String) :
    t'.entry k =
      if k = id then ((t.entry id).1.filter fun row => row.phase ≠ .cleaning, none)
      else t.entry k := by
  simp only [finalizeClosed, List.foldlM_cons, List.foldlM_nil, Option.bind_eq_bind,
    Option.bind_some, Option.pure_def, Option.some.injEq] at h
  subst h
  by_cases hk : k = id
  · subst hk
    -- whatever the row of `runtime_sessions` was, it is closed and then deleted
    have hrun : ∀ run : Option RuntimeRow,
        ((run.map fun row => if decide (row.state ≠ .closed) = true then
          ({ row with state := .closed, restoreInfo := none } : RuntimeRow) else row).filter
            fun row => !decide (row.state = .closed)) = none := by
      rintro (_ | row)
      · rfl
      · by_cases hstate : row.state = .closed <;> simp [hstate, Option.filter_some]
    rw [Tables.entry, Tables.entry, Tables.deleteOwnership, Tables.deleteRuntime,
      Table.lookup_deleteWhere, Table.lookup_deleteWhere, Table.lookup_updateWhere, if_pos rfl,
      if_pos rfl, if_pos rfl, if_pos rfl, hrun]
    simp only [ne_eq, decide_not]
  · simp [Tables.entry, Tables.deleteOwnership, Tables.deleteRuntime, Table.lookup_updateWhere,
      Table.lookup_deleteWhere, hk]

end Transactions

/-! ### Steps -/

namespace SessionOwnership

variable {w w' : SessionOwnership} {op : OwnershipOp}

/-- A transaction leaves the tables as they were, or all of its statements were executed. -/
theorem tables_of_transact {fault : Option Fault} {body : List Statement}
    {next : Outcome → SessionOwnership → SessionOwnership} (h : w.transact fault body next = w')
    (hnext : ∀ outcome v, (next outcome v).tables = v.tables) :
    w'.tables = w.tables ∨ ¬fault.any (Fault.hits body.length) ∧
      body.foldlM (fun t statement => statement t) w.tables = some w'.tables := by
  rw [← h, transact]
  cases htransaction : transaction fault body w.tables with
  | mk tables outcome =>
    rw [hnext]
    obtain ⟨-, hfault, hbody⟩ | ⟨-, htables⟩ := transaction_cases htransaction
    · exact .inr ⟨hfault, hbody⟩
    · exact .inl htables

theorem recordPrepared_eq_some {t t' : Tables} {id : String} {restoreInfo : PtyRestoreInfo}
    (h : t.recordPrepared id restoreInfo = some t') :
    ∃ socketPath supervisorPid status, restoreInfo = .unixSocket socketPath supervisorPid status ∧
      t' = t.updateOwnership id (Tables.expects socketPath) fun row => { row with
        phase := .prepared, supervisorPid := some supervisorPid, socketPath := some socketPath } := by
  cases restoreInfo with
  | unixSocket socketPath supervisorPid status =>
    simp only [Tables.recordPrepared] at h
    split_ifs at h
    exact ⟨socketPath, supervisorPid, status, rfl, (Option.some.inj h).symm⟩
  | tmux => cases h

/-- A step of the daemon thread. -/
theorem stepDaemon_entry (hstep : w.stepDaemon op = some w') (k : String) :
    w'.tables.entry k = w.tables.entry k ∨
      Change w op k (w.tables.entry k) (w'.tables.entry k) := by
  cases op with
  | create id size createOperationId capability expectedSocket fault =>
    simp only [stepDaemon] at hstep
    split_ifs at hstep with hidle
    obtain htables | ⟨hfault, hbody⟩ := tables_of_transact (Option.some.inj hstep) fun _ _ => rfl
    · exact .inl (congrArg (Tables.entry · k) htables)
    · refine (entry_insertPreparing hbody k).imp_right ?_
      rintro ⟨rfl, hnone, hentry⟩
      have hrun : w.tables.runtimeSessions.lookup k = none := by simpa using (not_or.mp hidle).2
      have hbefore : w.tables.entry k = (none, none) := Prod.ext hnone hrun
      rw [hentry, hbefore]
      exact .create
  | recordPrepared restoreInfo fault =>
    simp only [stepDaemon] at hstep
    split at hstep
    · rename_i id size hdaemon
      split_ifs at hstep with hfault
      · obtain rfl := Option.some.inj hstep
        exact .inl rfl
      · split at hstep
        · rename_i tables htables
          obtain rfl := Option.some.inj hstep
          obtain ⟨socketPath, supervisorPid, status, rfl, rfl⟩ := recordPrepared_eq_some htables
          refine (Tables.entry_updateOwnership ..).imp_right ?_
          rintro ⟨row, run, rfl, hentry, hexpects, hentry'⟩
          rw [Bool.eq_false_iff.mpr hfault, hentry, hentry']
          rw [Tables.expects, Bool.and_eq_true, decide_eq_true_eq] at hexpects
          exact .recordPrepared hdaemon hexpects.1
        · obtain rfl := Option.some.inj hstep
          exact .inl rfl
    · cases hstep
  | commitActive fault =>
    simp only [stepDaemon] at hstep
    split at hstep
    · rename_i id size restoreInfo hdaemon
      obtain htables | ⟨hfault, hbody⟩ := tables_of_transact (Option.some.inj hstep) fun outcome _ => by
        cases outcome <;> rfl
      · exact .inl (congrArg (Tables.entry · k) htables)
      · obtain ⟨row, hphase, hentry, hafter⟩ := entry_commitActive hbody
        have hentry' := hafter k
        split_ifs at hentry' with hk
        · subst hk
          rw [hentry, hentry']
          exact .inr (.commitActive hdaemon hphase)
        · exact .inl hentry'
    · cases hstep
  | markCleaning fault =>
    simp only [stepDaemon] at hstep
    split at hstep
    · rename_i id again hdaemon
      obtain rfl := Option.some.inj hstep
      cases fault with
      | true => exact .inl rfl
      | false =>
        refine (Tables.entry_updateOwnership ..).imp_right ?_
        rintro ⟨row, run, rfl, hentry, hphase, hentry'⟩
        rw [hentry]
        exact hentry' ▸ .markCleaning hdaemon (by simpa using hphase)
    · cases hstep
  | recover records drawn fault =>
    simp only [stepDaemon] at hstep
    split_ifs at hstep with hidle
    obtain htables | ⟨hfault, hbody⟩ := tables_of_transact (Option.some.inj hstep) fun outcome v => by
      cases outcome <;> rfl
    · exact .inl (congrArg (Tables.entry · k) htables)
    · refine ((entry_backfillLegacyRecords hbody).2 k).imp_right ?_
      rintro ⟨hnone, hfilled⟩
      obtain ⟨run, hentry⟩ : ∃ run, w.tables.entry k = (none, run) := ⟨_, Prod.ext hnone rfl⟩
      rw [hentry] at hfilled ⊢
      exact .backfill hfilled
  | quarantine fault =>
    simp only [stepDaemon] at hstep
    split at hstep
    · rename_i id diagnostic records hdaemon
      obtain htables | ⟨hfault, hbody⟩ := tables_of_transact (Option.some.inj hstep) fun _ _ => rfl
      · exact .inl (congrArg (Tables.entry · k) htables)
      · have hentry' := entry_quarantine hbody k
        split_ifs at hentry' with hk
        · subst hk
          refine .inr ?_
          rw [hentry']
          cases hentry : w.tables.entry k with
          | mk row run =>
            cases row with
            | none => exact .quarantineNothing hdaemon
            | some row => exact .quarantine hdaemon hfault
        · exact .inl hentry'
    · cases hstep
  | migrateLegacy proposed fault =>
    simp only [stepDaemon] at hstep
    split at hstep
    · rename_i record restoreInfo installed records hdaemon
      split at hstep
      · obtain rfl := Option.some.inj hstep
        exact .inl rfl
      · rename_i hfault
        obtain rfl := Option.some.inj hstep
        refine (Tables.entry_updateOwnership ..).imp_right ?_
        rintro ⟨row, run, rfl, hentry, hphase, hentry'⟩
        rw [Bool.eq_false_iff.mpr hfault, hentry]
        exact hentry' ▸ .migrateLegacy hdaemon (by simpa using hphase)
    · cases hstep
  | close id proposed fault =>
    simp only [stepDaemon] at hstep
    split_ifs at hstep with hidle
    obtain htables | ⟨hfault, hbody⟩ := tables_of_transact (Option.some.inj hstep) fun _ _ => rfl
    · exact .inl (congrArg (Tables.entry · k) htables)
    · refine (entry_close hbody k).imp_right ?_
      rintro ⟨row, run, rfl, hentry, hphase, hentry'⟩
      rw [hentry, hentry']
      exact .close hphase
  | spawnFailed | spawned | prepare | readPhase | activeEvidenceMatches | reconnect | install =>
    -- these decide what comes next and write nothing
    refine .inl (congrArg (Tables.entry · k) ?_)
    simp only [stepDaemon] at hstep
    grind
  | _ => cases hstep

/-- A step of the reconciler. -/
theorem stepReconciler_entry (hstep : w.stepReconciler op = some w') (k : String) :
    w'.tables.entry k = w.tables.entry k ∨
      Change w op k (w.tables.entry k) (w'.tables.entry k) := by
  cases op with
  | markStable proposed fault =>
    simp only [stepReconciler] at hstep
    split at hstep
    · rename_i id next hreconciler
      split_ifs at hstep with hfault
      · obtain rfl := Option.some.inj hstep
        exact .inl rfl
      · obtain rfl := Option.some.inj hstep
        refine (Tables.entry_updateOwnership ..).imp_right ?_
        rintro ⟨row, run, rfl, hentry, hphase, hentry'⟩
        rw [Bool.eq_false_iff.mpr hfault, hentry]
        exact hentry' ▸ .markStable hreconciler (by simpa [or_assoc] using hphase)
    · cases hstep
  | dropPreparing socketExists fault =>
    simp only [stepReconciler] at hstep
    split at hstep
    · rename_i id expectedSocket creates hreconciler
      split_ifs at hstep with habsent hfault
      · obtain rfl := Option.some.inj hstep
        exact .inl rfl
      · obtain rfl := Option.some.inj hstep
        refine (Tables.entry_deleteOwnership ..).imp_right ?_
        rintro ⟨row, run, rfl, hentry, hphase, hentry'⟩
        rw [Bool.eq_false_iff.mpr hfault, hentry]
        exact hentry' ▸ .dropPreparing hreconciler (by simpa using hphase)
      · obtain rfl := Option.some.inj hstep
        exact .inl rfl
    · cases hstep
  | finalizeClosed fault =>
    simp only [stepReconciler] at hstep
    split at hstep
    · rename_i id rows hreconciler
      obtain htables | ⟨hfault, hbody⟩ := tables_of_transact (Option.some.inj hstep) fun _ _ => rfl
      · exact .inl (congrArg (Tables.entry · k) htables)
      · have hentry' := entry_finalizeClosed hbody k
        split_ifs at hentry' with hk
        · subst hk
          refine .inr ?_
          rw [hentry']
          cases hentry : w.tables.entry k with
          | mk row run =>
            cases row with
            | none =>
              refine .finalizeNothing hreconciler ?_
              rintro _ ⟨⟩
            | some row =>
              by_cases hphase : row.phase = .cleaning
              · simp only [Option.filter_some, hphase, ne_eq, not_true, decide_false]
                exact .finalizeClosed hreconciler hphase
              · simp only [Option.filter_some, hphase, ne_eq, not_false_eq_true, decide_true]
                refine .finalizeNothing hreconciler ?_
                rintro _ ⟨⟩
                exact hphase
        · exact .inl hentry'
    · cases hstep
  | interruptedCreates | abandonedCreates | cleanupRows | reconcileRow | readStable | cleanup =>
    refine .inl (congrArg (Tables.entry · k) ?_)
    simp only [stepReconciler] at hstep
    grind
  | _ => cases hstep

/-- Which of the two threads a step belongs to. -/
theorem step_cases (hstep : w.step op = some w') :
    (∃ generation, op = .crash generation ∧
      w' = { w with generation, daemon := .idle, reconciler := .idle, outcome := none }) ∨
    (op.byReconciler ∧ stepReconciler { w with outcome := none } op = some w') ∨
    (¬op.byReconciler ∧ stepDaemon { w with outcome := none } op = some w') := by
  rw [step.eq_def] at hstep
  split at hstep
  · exact .inl ⟨_, rfl, (Option.some.inj hstep).symm⟩
  · split_ifs at hstep with hop
    · exact .inr (.inl ⟨hop, hstep⟩)
    · exact .inr (.inr ⟨hop, hstep⟩)

/-- **What a step does** to what the tables say of a session. -/
theorem step_entry (hstep : w.step op = some w') (k : String) :
    w'.tables.entry k = w.tables.entry k ∨
      Change w op k (w.tables.entry k) (w'.tables.entry k) := by
  obtain ⟨generation, rfl, rfl⟩ | ⟨-, hstep⟩ | ⟨-, hstep⟩ := step_cases hstep
  · exact .inl rfl
  · exact (stepReconciler_entry hstep k).imp_right Change.of_outcome
  · exact (stepDaemon_entry hstep k).imp_right Change.of_outcome

/-- The daemon thread leaves the reconciler alone. -/
theorem stepDaemon_frame (hstep : w.stepDaemon op = some w') :
    w'.reconciler = w.reconciler ∧ w'.generation = w.generation := by
  cases op with
  | commitActive fault =>
    simp only [stepDaemon] at hstep
    split at hstep
    · obtain rfl := Option.some.inj hstep
      simp only [transact]
      split <;> exact ⟨rfl, rfl⟩
    · cases hstep
  | recover records drawn fault =>
    simp only [stepDaemon] at hstep
    split_ifs at hstep
    obtain rfl := Option.some.inj hstep
    simp only [transact]
    split_ifs <;> exact ⟨rfl, rfl⟩
  | _ =>
    simp only [stepDaemon, transact] at hstep
    grind

/-- The reconciler leaves the daemon thread alone. -/
theorem stepReconciler_frame (hstep : w.stepReconciler op = some w') :
    w'.generation = w.generation ∧ w'.published = w.published ∧ w'.daemon = w.daemon := by
  cases op <;>
  · simp only [stepReconciler, transact] at hstep
    grind

end SessionOwnership

end Termd.Ownership
