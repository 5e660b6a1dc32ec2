import Termd.Library.Transition
import Termd.Ownership.Ledger

/-!
# The daemon thread and the reconciler

Two threads work on the ledger. The daemon thread creates, recovers and closes sessions; the
reconciler goes over the rows again and again, takes up what a daemon before this one left behind,
and cleans up. Each of them decides on what it read in an earlier statement. Any statement may fail,
the backend may do what it wants, and the daemon may be killed between any two statements; the next
daemon has another generation.

## Main definitions

* `DaemonPhase`, `ReconcilerPhase`: how far the threads are
* `SessionOwnership`: the tables and the threads
* `SessionOwnership.step`: one statement, one transaction or one answer of the backend
-/

namespace Termd.Ownership

open Pty (PtySize)

/-- How far the daemon thread is. -/
inductive DaemonPhase
  | idle
  /-- `create`: the row is inserted, and `spawn_named_gated` has not called back. -/
  | spawning (id : String) (size : PtySize)
  /-- `create`: the evidence is recorded, and `spawn_named_gated` has not returned. -/
  | granted (id : String) (size : PtySize)
  /-- `create`, before `prepare` -/
  | preparing (id : String) (size : PtySize) (restoreInfo : PtyRestoreInfo)
  | committing (id : String) (size : PtySize) (restoreInfo : PtyRestoreInfo)
  /-- Before `mark_cleaning`, which is called twice when `commit_active` was rolled back. -/
  | failing (id : String) (again : Bool)
  /-- `recover`, at the head of its loop -/
  | recovering (records : List SessionStateRecord)
  /-- `recover`, before `active_evidence_matches` -/
  | matching (record : SessionStateRecord) (records : List SessionStateRecord)
  /-- `recover`, before `reconnect_active_with_retry` -/
  | reconnecting (record : SessionStateRecord) (diagnostic : String)
    (records : List SessionStateRecord)
  | quarantining (id diagnostic : String) (records : List SessionStateRecord)
  /-- `recover`, before the capability is read and installed -/
  | installing (record : SessionStateRecord) (restoreInfo : PtyRestoreInfo)
    (records : List SessionStateRecord)
  | migrating (record : SessionStateRecord) (restoreInfo : PtyRestoreInfo) (installed : Bool)
    (records : List SessionStateRecord)
deriving DecidableEq

/-- How far the reconciler is. -/
inductive ReconcilerPhase
  | idle
  /-- `reconcile_interrupted_creates`, with the result of its first query -/
  | interrupted (ids : List String)
  /-- `reconcile_interrupted_creates`, with the result of its second query -/
  | abandoned (creates : List (String × Option String))
  /-- `reconcile_once`, with the result of its query -/
  | reconciling (rows : List CleanupRow)
  /-- `mark_cleaning_with_stable_operation`, before its first statement -/
  | marking (id : String) (next : ReconcilerPhase)
  /-- `mark_cleaning_with_stable_operation`, before its second statement -/
  | reading (id : String) (next : ReconcilerPhase)
  /-- `reconcile_once`, before the backend is asked to clean up -/
  | cleanup (row : CleanupRow) (rows : List CleanupRow)
  | finalizing (id : String) (rows : List CleanupRow)

/-- The tables and the threads. -/
structure SessionOwnership where
  tables : Tables
  generation : List UInt8
  daemon : DaemonPhase := .idle
  reconciler : ReconcilerPhase := .idle
  /-- The sessions that were in a backfill, or were inserted by `commit_active`. -/
  published : List String := []
  /-- How the transaction of the last step ended, if it had one. -/
  outcome : Option Outcome := none

inductive OwnershipOp
  /-- The first transaction of `create`; the caller has drawn the id. -/
  | create (id : String) (size : PtySize) (createOperationId capability : List UInt8)
    (expectedSocket : Option String) (fault : Option Fault)
  /-- `spawn_named_gated` calls `record_prepared`. -/
  | recordPrepared (restoreInfo : PtyRestoreInfo) (fault : Bool)
  /-- `spawn_named_gated` fails. -/
  | spawnFailed
  /-- `spawn_named_gated` returns a session. -/
  | spawned (restoreInfo : Option PtyRestoreInfo)
  | prepare (ok : Bool)
  | commitActive (fault : Option Fault)
  | markCleaning (fault : Bool)
  /-- `recover`, with its backfill -/
  | recover (records : List SessionStateRecord) (drawn : String → List UInt8 × List UInt8)
    (fault : Option Fault)
  /-- `recover` reads the phase of a record's session. -/
  | readPhase (fault : Bool)
  | activeEvidenceMatches (fault : Bool)
  | reconnect (ok : Bool)
  | quarantine (fault : Option Fault)
  /-- The capability is read, and `install_legacy_cleanup_capability` returns. -/
  | install (fault : Bool) (installed : Option Bool)
  | migrateLegacy (proposed : ℕ) (fault : Bool)
  | close (id : String) (proposed : ℕ) (fault : Option Fault)
  /-- The first query of `reconcile_interrupted_creates`. -/
  | interruptedCreates (fault : Bool)
  /-- Its loop, or its second query. -/
  | abandonedCreates (fault : Bool)
  /-- The loop over the second query; `socketExists` says whether the socket is there. -/
  | dropPreparing (socketExists fault : Bool)
  /-- The query of `reconcile_once`. -/
  | cleanupRows (fault : Bool)
  /-- The loop of `reconcile_once`; the backend says whether the child exited. -/
  | reconcileRow (naturalExit : Bool)
  | markStable (proposed : ℕ) (fault : Bool)
  | readStable (fault : Bool)
  /-- The backend confirms the cleanup, or the supervisor is gone. -/
  | cleanup (confirmed : Bool)
  | finalizeClosed (fault : Option Fault)
  /-- The daemon is killed and started again. -/
  | crash (generation : List UInt8)

namespace OwnershipOp

/-- The steps of the reconciler. -/
def byReconciler : OwnershipOp → Bool
  | interruptedCreates _ | abandonedCreates _ | dropPreparing .. | cleanupRows _ | reconcileRow _
  | markStable .. | readStable _ | cleanup _ | finalizeClosed _ => true
  | _ => false

end OwnershipOp

namespace SessionOwnership

variable (w : SessionOwnership)

/-- The tables before the first daemon that has the ledger. -/
def init (runtimeSessions : Table String RuntimeRow) (generation : List UInt8) :
    SessionOwnership where
  tables := { runtimeSessions }
  generation := generation

/-- A transaction, and what the thread does when it ended. -/
def transact (fault : Option Fault) (body : List Statement)
    (next : Outcome → SessionOwnership → SessionOwnership) : SessionOwnership :=
  let (tables, outcome) := transaction fault body w.tables
  next outcome { w with tables, outcome := some outcome }

/-- What `recover` does with the phase that it read. -/
def recoverPhase (record : SessionStateRecord) (records : List SessionStateRecord) :
    Option OwnershipRow → DaemonPhase
  | none => .recovering records
  | some row =>
    if row.phase = .active then .matching record records
    else if row.phase ≠ .prepared ∨ row.diagnostic ≠ some legacyMigration then .recovering records
    else match record.restoreInfo with
      | none =>
        .quarantining record.sessionId "legacy runtime row has no restore evidence" records
      | some restoreInfo => .installing record restoreInfo records

/-- What `recover` does with the result of `active_evidence_matches`. -/
def matchPhase (record : SessionStateRecord) (records : List SessionStateRecord) :
    Bool → DaemonPhase
  | true =>
    .reconnecting record "owned supervisor could not be authenticated and reconnected" records
  | false =>
    .quarantining record.sessionId
      "public runtime projection does not match durable ownership evidence" records

/-- `active_evidence_matches`; its query has to find an active row. -/
def activeEvidenceMatches (record : SessionStateRecord) : Option Bool :=
  match record.restoreInfo with
  | some (.unixSocket socketPath supervisorPid .running) =>
    match w.tables.ownership.lookup record.sessionId with
    | some row =>
      if row.phase = .active then
        some (row.socketPath = some socketPath && row.supervisorPid = some supervisorPid)
      else none
    | none => none
  | _ => some false

def isClosing : PtyRestoreInfo → Bool
  | .unixSocket _ _ .closing => true
  | _ => false

/-- The steps of the daemon thread. A failed statement ends the request, except in `mark_cleaning`,
whose error is ignored. -/
def stepDaemon (w : SessionOwnership) : OwnershipOp → Option SessionOwnership
  | .create id size createOperationId capability expectedSocket fault =>
    -- the id is a new UUID, so that there is no session with it
    if w.daemon ≠ .idle ∨ (w.tables.runtimeSessions.lookup id).isSome then none
    else
      some (w.transact fault
        (insertPreparing id createOperationId capability expectedSocket w.generation)
        fun outcome w => { w with
          daemon := if outcome = .committed then .spawning id size else .idle })
  | .recordPrepared restoreInfo fault =>
    match w.daemon with
    | .spawning id size =>
      if fault then some { w with daemon := .failing id false }
      else match w.tables.recordPrepared id restoreInfo with
        | some tables => some { w with tables, daemon := .granted id size }
        | none => some { w with daemon := .failing id false }
    | _ => none
  | .spawnFailed =>
    match w.daemon with
    | .spawning id _ | .granted id _ => some { w with daemon := .failing id false }
    | _ => none
  | .spawned restoreInfo =>
    match w.daemon, restoreInfo with
    | .spawning id _, none => some { w with daemon := .failing id false }
    | .granted id _, none => some { w with daemon := .failing id false }
    | .granted id size, some restoreInfo =>
      some { w with daemon := .preparing id size restoreInfo }
    | _, _ => none
  | .prepare ok =>
    match w.daemon with
    | .preparing id size restoreInfo =>
      some { w with daemon := if ok then .committing id size restoreInfo else .failing id false }
    | _ => none
  | .commitActive fault =>
    match w.daemon with
    | .committing id size restoreInfo =>
      some (w.transact fault (Ownership.commitActive id size restoreInfo) fun outcome w =>
        match outcome with
        | .committed => { w with daemon := .idle, published := id :: w.published }
        | .rolledBack => { w with daemon := .failing id true }
        | .refused => { w with daemon := .failing id false })
    | _ => none
  | .markCleaning fault =>
    match w.daemon with
    | .failing id again =>
      let daemon := if again then .failing id false else .idle
      some { w with tables := if fault then w.tables else w.tables.markCleaning id, daemon }
    | _ => none
  | .recover records drawn fault =>
    if w.daemon ≠ .idle then none
    else
      some (w.transact fault (backfillLegacyRecords records drawn) fun outcome w =>
        if outcome = .committed then { w with
          daemon := .recovering records
          published := records.map SessionStateRecord.sessionId ++ w.published }
        else w)
  | .readPhase fault =>
    match w.daemon with
    | .recovering [] => some { w with daemon := .idle }
    | .recovering (record :: records) =>
      if fault then some { w with daemon := .idle }
      else some { w with
        daemon := recoverPhase record records (w.tables.ownership.lookup record.sessionId) }
    | _ => none
  | .activeEvidenceMatches fault =>
    match w.daemon with
    | .matching record records =>
      if fault then some { w with daemon := .idle }
      else match w.activeEvidenceMatches record with
        | some result => some { w with daemon := matchPhase record records result }
        | none => some { w with daemon := .idle }
    | _ => none
  | .reconnect ok =>
    match w.daemon with
    | .reconnecting record diagnostic records => some { w with
        daemon := if ok then .recovering records
          else .quarantining record.sessionId diagnostic records }
    | _ => none
  | .quarantine fault =>
    match w.daemon with
    | .quarantining id diagnostic records =>
      some (w.transact fault (Ownership.quarantine id diagnostic) fun outcome w => { w with
        daemon := if outcome = .committed then .recovering records else .idle })
    | _ => none
  | .install fault installed =>
    match w.daemon with
    | .installing record restoreInfo records =>
      if fault ∨ (w.tables.ownership.lookup record.sessionId).isNone then
        some { w with daemon := .idle }
      else match installed with
        | some installed => some { w with
            daemon := .migrating record restoreInfo installed records }
        | none => some { w with
            daemon := .quarantining record.sessionId "legacy supervisor authority is unverified"
              records }
    | _ => none
  | .migrateLegacy proposed fault =>
    match w.daemon with
    | .migrating record restoreInfo installed records =>
      if fault then some { w with daemon := .idle }
      else
        let closing := isClosing restoreInfo
        some { w with
          tables := w.tables.migrateLegacy record.sessionId closing installed proposed
          daemon := if closing then .recovering records
            else .reconnecting record
              "migrated supervisor could not be authenticated and reconnected" records }
    | _ => none
  | .close id proposed fault =>
    if w.daemon ≠ .idle then none
    else some (w.transact fault (Ownership.close id proposed) fun _ w => w)
  | _ => none

/-- The steps of the reconciler. A failed statement ends the round. -/
def stepReconciler (w : SessionOwnership) : OwnershipOp → Option SessionOwnership
  | .interruptedCreates fault =>
    match w.reconciler with
    | .idle => some { w with
        reconciler := if fault then .idle
          else .interrupted (w.tables.interruptedCreates w.generation) }
    | _ => none
  | .abandonedCreates fault =>
    match w.reconciler with
    | .interrupted (id :: ids) => some { w with reconciler := .marking id (.interrupted ids) }
    | .interrupted [] => some { w with
        reconciler := if fault then .idle
          else .abandoned (w.tables.abandonedCreates w.generation) }
    | _ => none
  | .dropPreparing socketExists fault =>
    match w.reconciler with
    | .abandoned ((id, expectedSocket) :: creates) =>
      let socketAbsent := expectedSocket.isNone || !socketExists
      if socketAbsent then
        if fault then some { w with reconciler := .idle }
        else some { w with
          tables := w.tables.dropPreparing id, reconciler := .abandoned creates }
      else some { w with reconciler := .abandoned creates }
    | _ => none
  | .cleanupRows fault =>
    match w.reconciler with
    | .abandoned [] => some { w with
        reconciler := if fault then .idle else .reconciling w.tables.cleanupRows }
    | _ => none
  | .reconcileRow naturalExit =>
    match w.reconciler with
    | .reconciling [] => some { w with reconciler := .idle }
    | .reconciling (row :: rows) => some { w with
        reconciler :=
          if row.phase = .active then
            if naturalExit then .marking row.sessionId (.reconciling rows) else .reconciling rows
          else match row.operationId with
            | some _ => .cleanup row rows
            | none => .marking row.sessionId (.cleanup row rows) }
    | _ => none
  | .markStable proposed fault =>
    match w.reconciler with
    | .marking id next =>
      if fault then some { w with reconciler := .idle }
      else some { w with
        tables := w.tables.markCleaningWithStableOperation id proposed
        reconciler := .reading id next }
    | _ => none
  | .readStable fault =>
    match w.reconciler with
    | .reading id next =>
      if fault ∨ ¬(w.tables.ownership.lookup id).any fun row => row.closeOperationId.isSome then
        some { w with reconciler := .idle }
      else some { w with reconciler := next }
    | _ => none
  | .cleanup confirmed =>
    match w.reconciler with
    | .cleanup row rows => some { w with
        reconciler := if confirmed then .finalizing row.sessionId rows else .reconciling rows }
    | _ => none
  | .finalizeClosed fault =>
    match w.reconciler with
    | .finalizing id rows =>
      some (w.transact fault (Ownership.finalizeClosed id) fun outcome w => { w with
        reconciler := if outcome = .committed then .reconciling rows else .idle })
    | _ => none
  | _ => none

/-- One step of one thread, or a crash. -/
def step (w : SessionOwnership) (op : OwnershipOp) : Option SessionOwnership :=
  match op with
  | .crash generation =>
    some { w with generation, daemon := .idle, reconciler := .idle, outcome := none }
  | op =>
    if op.byReconciler then stepReconciler { w with outcome := none } op
    else stepDaemon { w with outcome := none } op

end SessionOwnership

end Termd.Ownership
