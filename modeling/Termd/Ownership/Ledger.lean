import Termd.Library.Transaction
import Termd.Pty.Journal

/-!
# The ownership ledger

The daemon keeps two tables of its sessions. A row of `session_ownership` says how far the ownership
of a session is and which supervisor is the evidence for it; a row of `runtime_sessions` is what the
rest of the daemon sees of the session. Every statement names one session, and the statements that
belong together are in one transaction.

## Main definitions

* `OwnershipRow`, `RuntimeRow`, `Tables`: the two tables
* `Tables.recordPrepared`, `Tables.markCleaning`, `Tables.migrateLegacy`,
  `Tables.markCleaningWithStableOperation`, `Tables.dropPreparing`: single statements
* `insertPreparing`, `commitActive`, `backfillLegacyRecords`, `quarantine`, `close`,
  `finalizeClosed`: the statements of the transactions
* `Tables.interruptedCreates`, `Tables.abandonedCreates`, `Tables.cleanupRows`: the queries of the
  reconciler
-/

namespace Termd.Ownership

open Pty (PtySize)

inductive PtySupervisorStatus
  | running
  | closing
  | closed
deriving DecidableEq

inductive PtyRestoreInfo
  | unixSocket (socketPath : String) (supervisorPid : ℕ) (supervisorStatus : PtySupervisorStatus)
  | tmux (socketPath sessionName : String)
deriving DecidableEq

inductive SessionState
  | created
  | running
  | closed
deriving DecidableEq

/-- What the daemon has loaded of a session when it starts. -/
structure SessionStateRecord where
  sessionId : String
  state : SessionState
  restoreInfo : Option PtyRestoreInfo
deriving DecidableEq

/-- The column `phase`. -/
inductive Phase
  | preparing
  | prepared
  | active
  | cleaning
  | quarantined
deriving DecidableEq

structure OwnershipRow where
  phase : Phase
  createOperationId : List UInt8
  closeOperationId : Option ℕ := none
  capability : List UInt8
  expectedSocket : Option String := none
  supervisorPid : Option ℕ := none
  socketPath : Option String := none
  diagnostic : Option String := none
  legacyProtocol : Bool := false
  ownerGeneration : Option (List UInt8) := none
deriving DecidableEq

structure RuntimeRow where
  state : SessionState
  size : PtySize
  restoreInfo : Option PtyRestoreInfo
deriving DecidableEq

structure Tables where
  ownership : Table String OwnershipRow := ∅
  runtimeSessions : Table String RuntimeRow := ∅

/-- The diagnostic of a row that `backfill_legacy_records` made for a supervisor it can reach. -/
def legacyMigration : String := "legacy_migration"

/-- A statement of a transaction. -/
abbrev Statement := Tables → Option Tables

namespace Tables

variable (t : Tables)

def updateOwnership (id : String) (p : OwnershipRow → Bool) (f : OwnershipRow → OwnershipRow) :
    Tables :=
  { t with ownership := t.ownership.updateWhere id p f }

def deleteOwnership (id : String) (p : OwnershipRow → Bool) : Tables :=
  { t with ownership := t.ownership.deleteWhere id p }

def deleteRuntime (id : String) (p : RuntimeRow → Bool) : Tables :=
  { t with runtimeSessions := t.runtimeSessions.deleteWhere id p }

/-! ### Single statements -/

/-- The row that `record_prepared` updates. -/
def expects (socketPath : String) (row : OwnershipRow) : Bool :=
  row.phase = .preparing && row.expectedSocket.all (· = socketPath)

/-- `record_prepared`, which fails when it updates no row. -/
def recordPrepared (id : String) : PtyRestoreInfo → Option Tables
  | .unixSocket socketPath supervisorPid _ =>
    if (t.ownership.lookup id).any (expects socketPath) then
      some (t.updateOwnership id (expects socketPath) fun row => { row with
        phase := .prepared, supervisorPid := some supervisorPid, socketPath := some socketPath })
    else none
  | .tmux .. => none

def markCleaning (id : String) : Tables :=
  t.updateOwnership id (fun row => row.phase ≠ .active) fun row => { row with phase := .cleaning }

/-- The update at the end of a migration in `recover`. -/
def migrateLegacy (id : String) (closing installed : Bool) (proposed : ℕ) : Tables :=
  t.updateOwnership id (fun row => row.phase = .prepared) fun row => { row with
    phase := if closing then .cleaning else .active
    legacyProtocol := !installed
    diagnostic := none
    closeOperationId := if closing then row.closeOperationId.or (some proposed)
      else row.closeOperationId }

/-- The first statement of `mark_cleaning_with_stable_operation`. -/
def markCleaningWithStableOperation (id : String) (proposed : ℕ) : Tables :=
  t.updateOwnership id
    (fun row => row.phase = .prepared || row.phase = .active || row.phase = .cleaning)
    fun row => { row with
      phase := .cleaning, closeOperationId := row.closeOperationId.or (some proposed) }

/-- The deletion in `reconcile_interrupted_creates`. -/
def dropPreparing (id : String) : Tables :=
  t.deleteOwnership id fun row => row.phase = .preparing

/-! ### Queries -/

/-- The daemon with this generation has not created the row. -/
def ofOther (generation : List UInt8) (row : OwnershipRow) : Bool :=
  row.ownerGeneration ≠ some generation

/-- The first query of `reconcile_interrupted_creates`. -/
def interruptedCreates (generation : List UInt8) : List String :=
  t.ownership.select fun id row =>
    if row.phase = .prepared ∧ row.diagnostic = none ∧ ofOther generation row then some id else none

/-- Its second query. -/
def abandonedCreates (generation : List UInt8) : List (String × Option String) :=
  t.ownership.select fun id row =>
    if row.phase = .preparing ∧ ofOther generation row then some (id, row.expectedSocket) else none

end Tables

structure CleanupRow where
  sessionId : String
  phase : Phase
  capability : List UInt8
  socketPath : String
  supervisorPid : ℕ
  operationId : Option ℕ
  legacyProtocol : Bool

/-- The query of `reconcile_once`. -/
def Tables.cleanupRows (t : Tables) : List CleanupRow :=
  t.ownership.select fun id row =>
    match row.socketPath, row.supervisorPid with
    | some socketPath, some supervisorPid =>
      if row.phase = .active ∨ row.phase = .cleaning then
        some ⟨id, row.phase, row.capability, socketPath, supervisorPid, row.closeOperationId,
          row.legacyProtocol⟩
      else none
    | _, _ => none

/-! ### Transactions -/

/-- The row of a session that is to be created. -/
def preparingRow (createOperationId capability : List UInt8) (expectedSocket : Option String)
    (generation : List UInt8) : OwnershipRow where
  phase := .preparing
  createOperationId := createOperationId
  capability := capability
  expectedSocket := expectedSocket
  ownerGeneration := some generation

def insertOwnership (id : String) (row : OwnershipRow) : Statement := fun t => do
  let ownership ← t.ownership.insertNew id row
  return { t with ownership }

/-- The first transaction of `create`. -/
def insertPreparing (id : String) (createOperationId capability : List UInt8)
    (expectedSocket : Option String) (generation : List UInt8) : List Statement :=
  [insertOwnership id (preparingRow createOperationId capability expectedSocket generation)]

/-- `commit_active`, whose update has to find the row. -/
def commitActive (id : String) (size : PtySize) (restoreInfo : PtyRestoreInfo) : List Statement :=
  [fun t =>
    if (t.ownership.lookup id).any fun row => row.phase = .prepared then
      some (t.updateOwnership id (fun row => row.phase = .prepared) fun row =>
        { row with phase := .active })
    else none,
  fun t => do
    let runtimeSessions ← t.runtimeSessions.insertNew id ⟨.running, size, some restoreInfo⟩
    return { t with runtimeSessions }]

/-- The supervisor of a record that can be migrated. -/
def SessionStateRecord.evidence (record : SessionStateRecord) : Option (String × ℕ) :=
  match record.restoreInfo with
  | some (.unixSocket socketPath supervisorPid status) =>
    if record.state = .running ∧ (status = .running ∨ status = .closing) ∧ supervisorPid ≠ 0 ∧
        socketPath ≠ "" then
      some (socketPath, supervisorPid)
    else none
  | _ => none

/-- One round of `backfill_legacy_records`, with the bytes that were drawn for it. -/
def backfillLegacyRecord (record : SessionStateRecord) (createOperationId capability : List UInt8) :
    Statement := fun t =>
  if (t.ownership.lookup record.sessionId).isSome then some t
  else match record.evidence with
    | some (socketPath, supervisorPid) =>
      insertOwnership record.sessionId
        { phase := .prepared, createOperationId, capability, expectedSocket := some socketPath
          supervisorPid := some supervisorPid, socketPath := some socketPath
          diagnostic := some legacyMigration } t
    | none => do
      let t ← insertOwnership record.sessionId
        { phase := .quarantined, createOperationId, capability
          diagnostic := some "legacy runtime evidence is missing or invalid" } t
      return t.deleteRuntime record.sessionId fun _ => true

def backfillLegacyRecords (records : List SessionStateRecord)
    (drawn : String → List UInt8 × List UInt8) : List Statement :=
  records.map fun record =>
    backfillLegacyRecord record (drawn record.sessionId).1 (drawn record.sessionId).2

/-- `quarantine`, whose update asks for no phase. -/
def quarantine (id diagnostic : String) : List Statement :=
  [fun t => some (t.updateOwnership id (fun _ => true) fun row =>
    { row with phase := .quarantined, diagnostic := some diagnostic }),
  fun t => some (t.deleteRuntime id fun _ => true)]

/-- The transaction of `close`, whose query has to find an operation. -/
def close (id : String) (proposed : ℕ) : List Statement :=
  [fun t => some (t.updateOwnership id (fun row => row.phase = .active || row.phase = .cleaning)
    fun row => { row with
      phase := .cleaning, closeOperationId := row.closeOperationId.or (some proposed) }),
  fun t =>
    if (t.ownership.lookup id).any fun row =>
        row.phase = .cleaning && row.closeOperationId.isSome then some t
    else none]

def finalizeClosed (id : String) : List Statement :=
  [fun t => some { t with
    runtimeSessions := t.runtimeSessions.updateWhere id (fun row => row.state ≠ .closed) fun row =>
      { row with state := .closed, restoreInfo := none } },
  fun t => some (t.deleteRuntime id fun row => row.state = .closed),
  fun t => some (t.deleteOwnership id fun row => row.phase = .cleaning)]

end Termd.Ownership
