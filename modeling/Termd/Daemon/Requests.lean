import Termd.Library.Transition
import Termd.Ownership.Phases
import Termd.Daemon.Maps

/-!
# Requests and the reconciler

The daemon thread works on one request at a time, and what it has in memory is changed by that thread
only. The reconciler goes on in the meantime, so that between any two accesses of a request to the
tables the rows may change. A step below is one access to the tables, or one answer of a PTY, together
with what the daemon thread does in memory until its next access.

A daemon starts with nothing in memory. It loads the rows, recovers the sessions it can, and then takes
requests. It may be killed at any time.

## Main definitions

* `Request`: how far the daemon thread is
* `DaemonRun`: the ledger with its two threads, the maps of the daemon, and the sessions that were
  finalized
* `DaemonRun.step`: a step of the daemon thread, a step of the reconciler, or a new start

## Main results

* `DaemonRun.ledgerStep_of_step`: what a step does to the ledger
-/

namespace Termd.Daemon

open Ownership (SessionState PtyRestoreInfo RuntimeRow Tables Statement SessionOwnership OwnershipOp
  DaemonPhase ReconcilerPhase)
open Pty (PtySize)

/-- How far the daemon thread is; the phase of the ledger says the rest. -/
inductive Request
  /-- There is no daemon. -/
  | down
  /-- `from_state`: the rows that were loaded, and the sessions that were reconnected -/
  | starting (loaded : Table String RuntimeRow) (recovered : List (String × RuntimeRow))
  /-- `restore_runtime_sessions`, at the head of its loop -/
  | restoring (sessions : List (String × RuntimeRow))
  | idle
  /-- `create_session_inner`, with the root of the session -/
  | creating (root : String)
  /-- `persist_state`, with the snapshot that is to be saved -/
  | saving (sessions : List (String × RuntimeRow))
  /-- `close`, which waits for the reconciler -/
  | closing (id : String)

/-- The ledger and its threads, the maps of the daemon, and the sessions for which `finalize_closed`
committed. -/
structure DaemonRun where
  ownership : SessionOwnership
  maps : SessionMaps := {}
  request : Request := .down
  finalized : List String := []

inductive DaemonOp
  /-- A step of the reconciler. -/
  | reconciler (op : OwnershipOp)
  /-- The daemon is killed, if there is one, and a new one loads the rows. -/
  | start (generation : List UInt8)
  /-- `recover`, with its backfill -/
  | recover (drawn : String → List UInt8 × List UInt8) (fault : Option Fault)
  /-- The first transaction of a creation; `SessionId::new` has drawn the id. -/
  | create (id : String) (size : PtySize) (root : String) (createOperationId capability : List UInt8)
    (expectedSocket : Option String) (fault : Option Fault)
  /-- A step of `create` or `recover` that the maps have no part in. -/
  | ledger (op : OwnershipOp)
  /-- `spawn_named_gated` returns a session, and it is published. -/
  | spawned (restoreInfo : Option PtyRestoreInfo) (pty : PtySession)
  /-- The session that is created is prepared; `rest` says how the rest of it ends. -/
  | prepare (device attachment : String) (answers : PtyAnswers) (rest : Bool)
  | commitActive (fault : Option Fault)
  /-- `reconnect_active_with_retry`, with what the backend answers in the end -/
  | reconnect (pty : Option PtySession)
  /-- A session of `restore_runtime_sessions`; the root is from the metadata. -/
  | restoreSession (root : String) (fault : Option Fault)
  | attach (id device : String) (answers : PtyAnswers)
  | detach (id device : String) (answers : PtyAnswers)
  | write (id device : String) (answers : PtyAnswers)
  | watch (id attachment : String) (size : PtySize) (answers : PtyAnswers)
  | unwatch (id attachment : String) (answers : PtyAnswers)
  | resize (id : String) (size : PtySize)
  | reconcileClosed (fault : Bool)
  | snapshot (restoreInfo : String → Option PtyRestoreInfo)
  | save (fault : Option Fault)
  /-- The transaction of `close`. -/
  | close (id : String) (proposed : ℕ) (fault : Option Fault)
  /-- `close` asks whether the row is gone. -/
  | poll (fault : Bool)
  /-- `close` has waited for too long. -/
  | timeout

/-- The closure that `create_session_inner` gives to `create`. -/
def prepareSession (r : SessionRuntime) (id device attachment : String) (size : PtySize)
    (answers : PtyAnswers) (rest : Bool) : SessionRuntime × Bool :=
  match r.attach id device answers with
  | (attached, .error _) => (attached, false)
  | (attached, .ok _) =>
    match attached.startWatchedAttachment id attachment size answers with
    | (watched, .error _) => (watched, false)
    | (watched, .ok ()) => (watched, rest)

namespace DaemonRun

variable (w : DaemonRun)

/-- Nothing in memory, and the rows of an earlier daemon. -/
def init (runtimeSessions : Table String RuntimeRow) (generation : List UInt8) : DaemonRun where
  ownership := .init runtimeSessions generation

def tables : Tables := w.ownership.tables

def setRuntime (runtime : SessionRuntime) : DaemonRun := { w with maps := { w.maps with runtime } }

/-- A transaction on `runtime_sessions`. -/
def transact (fault : Option Fault) (body : List Statement) : DaemonRun :=
  { w with ownership := { w.ownership with
    tables := (transaction fault body w.ownership.tables).1 } }

/-- A session that no row, no map and no earlier session has had the id of. -/
def IsNew (id : String) : Prop :=
  w.tables.entry id = (none, none) ∧ w.maps.runtime.slot id = (none, none) ∧
    w.maps.sessionIndex.lookup id = none ∧ id ∉ w.finalized

instance (id : String) : Decidable (w.IsNew id) := by
  unfold IsNew
  infer_instance

/-- The steps of `create` and `recover` that the maps have no part in. -/
def isLedgerOnly : OwnershipOp → Bool
  | .recordPrepared .. | .spawnFailed | .markCleaning _ | .readPhase _ | .activeEvidenceMatches _
  | .quarantine _ | .install .. | .migrateLegacy .. => true
  | _ => false

/-- How a request goes on when the ledger has left the phase `before`. A start that fails leaves no
daemon. -/
def settle (before : DaemonPhase) : DaemonRun :=
  match w.request with
  | .creating _ => if w.ownership.daemon = .idle then { w with request := .idle } else w
  | .starting _ recovered =>
    if w.ownership.daemon = .idle then
      if before = .recovering [] then { w with request := .restoring recovered }
      else { w with maps := {}, request := .down }
    else w
  | _ => w

/-- The session whose transaction `finalize_closed` the reconciler has committed. -/
def finalizes (w : DaemonRun) (op : OwnershipOp) (ownership : SessionOwnership) : List String :=
  match op, w.ownership.reconciler, ownership.outcome with
  | .finalizeClosed _, .finalizing id _, some .committed => [id]
  | _, _, _ => []

/-- A call on the runtime session of a session that is visible. -/
def call (id : String) (f : SessionRuntime → String → SessionRuntime) : Option DaemonRun :=
  match w.request with
  | .idle =>
    match w.maps.sessionIndex.lookup id with
    | some internalId => some (w.setRuntime (f w.maps.runtime internalId))
    | none => some w
  | _ => none

/-- One step. -/
def step (w : DaemonRun) : DaemonOp → Option DaemonRun
  | .reconciler op =>
    match w.request with
    | .down => none
    | _ =>
      if op.byReconciler then do
        let ownership ← w.ownership.step op
        return { w with ownership, finalized := w.finalizes op ownership ++ w.finalized }
      else none
  | .start generation => do
    let ownership ← w.ownership.step (.crash generation)
    return { w with
      ownership, maps := {}, request := .starting w.ownership.tables.runtimeSessions [] }
  | .recover drawn fault =>
    match w.request with
    | .starting loaded [] => do
      let ownership ← w.ownership.step (.recover (sessionRecords loaded) drawn fault)
      return { w with ownership }.settle .idle
    | _ => none
  | .create id size root createOperationId capability expectedSocket fault =>
    match w.request with
    | .idle =>
      if w.IsNew id then do
        let ownership ←
          w.ownership.step (.create id size createOperationId capability expectedSocket fault)
        return { w with ownership, request := .creating root }.settle .idle
      else none
    | _ => none
  | .ledger op =>
    if isLedgerOnly op then do
      let ownership ← w.ownership.step op
      return { w with ownership }.settle w.ownership.daemon
    else none
  | .spawned restoreInfo pty => do
    let ownership ← w.ownership.step (.spawned restoreInfo)
    match ownership.daemon with
    | .preparing id size _ =>
      match w.maps.runtime.publishOwnedSession id pty size with
      | (runtime, true) => return { w with ownership }.setRuntime runtime
      | (runtime, false) =>
        -- the panic ends the request, and the row stays as it is
        return { w with
          ownership := { ownership with daemon := .idle }, request := .idle }.setRuntime runtime
    | .failing id _ => return { w with ownership }.setRuntime (w.maps.runtime.takeForCleanup id).1
    | _ => none
  | .prepare device attachment answers rest =>
    match w.ownership.daemon with
    | .preparing id size _ => do
      let (runtime, ok) := prepareSession w.maps.runtime id device attachment size answers rest
      let ownership ← w.ownership.step (.prepare ok)
      return { w with ownership }.setRuntime (if ok then runtime else (runtime.takeForCleanup id).1)
    | _ => none
  | .commitActive fault =>
    match w.request, w.ownership.daemon with
    | .creating root, .committing id _ _ => do
      let ownership ← w.ownership.step (.commitActive fault)
      if ownership.daemon = .idle then
        return { w with ownership, maps := w.maps.register id root, request := .idle }
      else return { w with ownership }.setRuntime (w.maps.runtime.takeForCleanup id).1
    | _, _ => none
  | .reconnect pty =>
    match w.request, w.ownership.daemon with
    | .starting loaded recovered, .reconnecting record _ _ =>
      match loaded.lookup record.sessionId with
      | some row =>
        match w.maps.runtime.reconnectSession record.sessionId row.state row.size row.restoreInfo
            pty with
        | (runtime, .ok ()) => do
          let ownership ← w.ownership.step (.reconnect true)
          return { w with
            ownership
            request := .starting loaded (recovered ++ [(record.sessionId, row)]) }.setRuntime runtime
        | (runtime, .error _) => do
          let ownership ← w.ownership.step (.reconnect false)
          return { w with ownership }.setRuntime runtime
      | none => none
    | _, _ => none
  | .restoreSession root fault =>
    match w.request with
    | .restoring [] => some { w with request := .idle }
    | .restoring ((id, row) :: sessions) =>
      let w := { w with request := .restoring sessions }
      if isReconnectable row then some { w with maps := w.maps.register id root }
      else some ({ w with maps := w.maps.closeVisibleSessionState id }.transact fault
        (recordRuntimeSessionClosed id))
    | _ => none
  | .attach id device answers => w.call id fun r internalId => (r.attach internalId device answers).1
  | .detach id device answers => w.call id fun r internalId => (r.detach internalId device answers).1
  | .write id device answers =>
    w.call id fun r internalId => (r.writeInput internalId device answers).1
  | .watch id attachment size answers =>
    w.call id fun r internalId => (r.startWatchedAttachment internalId attachment size answers).1
  | .unwatch id attachment answers =>
    w.call id fun r internalId => (r.dropWatchedAttachment internalId attachment answers).1
  | .resize id size =>
    w.call id fun r internalId => (r.recordWatchedAttachmentResize internalId size).1
  | .reconcileClosed fault =>
    match w.request with
    | .idle =>
      if fault then some w
      else some { w with
        maps := w.maps.reconcilePersistedClosedSessions w.ownership.tables.runtimeSessions }
    | _ => none
  | .snapshot restoreInfo =>
    match w.request with
    | .idle => some { w with request := .saving (w.maps.snapshotState restoreInfo) }
    | _ => none
  | .save fault =>
    match w.request with
    | .saving sessions => some ({ w with request := .idle }.transact fault (saveSqliteState sessions))
    | _ => none
  | .close id proposed fault =>
    match w.request with
    | .idle =>
      if (w.maps.sessionIndex.lookup id).isSome then do
        let ownership ← w.ownership.step (.close id proposed fault)
        if ownership.outcome = some .committed then
          return { w with ownership, request := .closing id }.setRuntime
            (w.maps.runtime.takeForCleanup id).1
        else return { w with ownership }
      else none
    | _ => none
  | .poll fault =>
    match w.request with
    | .closing id =>
      if fault then some { w with request := .idle }
      else if (w.ownership.tables.ownership.lookup id).isSome then some w
      else some { w with maps := w.maps.closeVisibleSessionState id, request := .idle }
    | _ => none
  | .timeout =>
    match w.request with
    | .closing _ => some { w with request := .idle }
    | _ => none

variable {w w' : DaemonRun} {op : DaemonOp} {ownership : SessionOwnership}

@[simp] theorem settle_ownership (before : DaemonPhase) :
    (w.settle before).ownership = w.ownership := by
  rw [settle]
  split
  · split_ifs <;> rfl
  · split_ifs <;> rfl
  · rfl

@[simp] theorem settle_finalized (before : DaemonPhase) :
    (w.settle before).finalized = w.finalized := by
  rw [settle]
  split
  · split_ifs <;> rfl
  · split_ifs <;> rfl
  · rfl

theorem not_byReconciler_of_isLedgerOnly {op : OwnershipOp} (h : isLedgerOnly op) :
    ¬op.byReconciler := by
  cases op <;> simp_all [isLedgerOnly, OwnershipOp.byReconciler]

theorem finalizes_of_not_byReconciler {op : OwnershipOp} (h : ¬op.byReconciler) :
    w.finalizes op ownership = [] := by
  cases op with
  | finalizeClosed => exact absurd rfl h
  | _ => rfl

/-- The reconciler leaves the phase of the daemon thread alone. -/
theorem daemon_stepReconciler {o o' : SessionOwnership} {op : OwnershipOp}
    (hstep : o.stepReconciler op = some o') : o'.daemon = o.daemon := by
  cases op <;>
  · simp only [SessionOwnership.stepReconciler, SessionOwnership.transact] at hstep
    grind

/-- **What a step does to the ledger.** The last clause is a request that panics. -/
inductive LedgerStep (w : DaemonRun) (op : DaemonOp) (w' : DaemonRun) : Prop
  | same : w'.ownership = w.ownership → w'.finalized = w.finalized → LedgerStep w op w'
  | ledger {op' : OwnershipOp} : w.ownership.step op' = some w'.ownership →
    (∀ id size createOperationId capability expectedSocket fault,
      op' = .create id size createOperationId capability expectedSocket fault → w.IsNew id) →
    w'.finalized = w.finalizes op' w'.ownership ++ w.finalized → LedgerStep w op w'
  | rows {fault : Option Fault} {body : List Statement} :
    w'.ownership = (w.transact fault body).ownership → w'.finalized = w.finalized →
    (∃ sessions, op = .save fault ∧ w.request = .saving sessions ∧ body = saveSqliteState sessions) ∨
      (∃ id, body = recordRuntimeSessionClosed id) → LedgerStep w op w'
  | panic {restoreInfo : Option PtyRestoreInfo} {ownership : SessionOwnership} :
    w.ownership.step (.spawned restoreInfo) = some ownership →
    w'.ownership = { ownership with daemon := .idle } → w'.finalized = w.finalized →
    LedgerStep w op w'

/-- How the request goes on does not matter for the ledger. -/
theorem LedgerStep.settle {v : DaemonRun} (h : LedgerStep w op v) (before : DaemonPhase) :
    LedgerStep w op (v.settle before) := by
  cases h with
  | same hownership hfinalized => exact .same (by simpa using hownership) (by simpa using hfinalized)
  | ledger hstep hnew hfinalized => exact .ledger (by simpa using hstep) hnew (by simpa using hfinalized)
  | rows hownership hfinalized hbody =>
    exact .rows (by simpa using hownership) (by simpa using hfinalized) hbody
  | panic hstep hownership hfinalized =>
    exact .panic hstep (by simpa using hownership) (by simpa using hfinalized)

theorem ledgerStep_call {id : String} {f : SessionRuntime → String → SessionRuntime}
    (h : w.call id f = some w') : LedgerStep w op w' := by
  rw [call] at h
  split at h
  · split at h <;>
    · obtain rfl := Option.some.inj h
      exact .same rfl rfl
  · cases h

theorem ledgerStep_of_step (h : w.step op = some w') : LedgerStep w op w' := by
  cases op with
  | attach | detach | write | watch | unwatch | resize =>
    simp only [step] at h
    exact ledgerStep_call h
  | reconciler op =>
    simp only [step] at h
    split at h
    · cases h
    · split_ifs at h with hop
      obtain ⟨ownership, hstep, h⟩ := Option.bind_eq_some_iff.mp h
      obtain rfl := Option.some.inj h
      refine .ledger hstep ?_ rfl
      rintro id size createOperationId capability expectedSocket fault rfl
      cases hop
  | start generation =>
    simp only [step] at h
    obtain ⟨ownership, hstep, h⟩ := Option.bind_eq_some_iff.mp h
    obtain rfl := Option.some.inj h
    exact .ledger hstep (by simp) rfl
  | recover drawn fault =>
    simp only [step] at h
    split at h
    · obtain ⟨ownership, hstep, h⟩ := Option.bind_eq_some_iff.mp h
      obtain rfl := Option.some.inj h
      refine LedgerStep.settle ?_ _
      exact .ledger hstep (by simp) rfl
    · cases h
  | create id size root createOperationId capability expectedSocket fault =>
    simp only [step] at h
    split at h
    · split_ifs at h with hnew
      obtain ⟨ownership, hstep, h⟩ := Option.bind_eq_some_iff.mp h
      obtain rfl := Option.some.inj h
      refine LedgerStep.settle ?_ _
      refine .ledger hstep ?_ rfl
      rintro id' size' createOperationId' capability' expectedSocket' fault' hop
      cases hop
      exact hnew
    · cases h
  | ledger op =>
    simp only [step] at h
    split_ifs at h with hop
    obtain ⟨ownership, hstep, h⟩ := Option.bind_eq_some_iff.mp h
    obtain rfl := Option.some.inj h
    refine LedgerStep.settle ?_ _
    refine .ledger hstep ?_ ?_
    · rintro id size createOperationId capability expectedSocket fault rfl
      cases hop
    · rw [finalizes_of_not_byReconciler (not_byReconciler_of_isLedgerOnly hop)]
      rfl
  | spawned restoreInfo pty =>
    simp only [step] at h
    obtain ⟨ownership, hstep, h⟩ := Option.bind_eq_some_iff.mp h
    split at h
    · split at h
      · obtain rfl := Option.some.inj h
        exact .ledger hstep (by simp) rfl
      · obtain rfl := Option.some.inj h
        exact .panic hstep rfl rfl
    · obtain rfl := Option.some.inj h
      exact .ledger hstep (by simp) rfl
    · cases h
  | prepare device attachment answers rest =>
    simp only [step] at h
    split at h
    · obtain ⟨ownership, hstep, h⟩ := Option.bind_eq_some_iff.mp h
      obtain rfl := Option.some.inj h
      exact .ledger hstep (by simp) rfl
    · cases h
  | commitActive fault =>
    simp only [step] at h
    split at h
    · obtain ⟨ownership, hstep, h⟩ := Option.bind_eq_some_iff.mp h
      split_ifs at h <;>
      · obtain rfl := Option.some.inj h
        exact .ledger hstep (by simp) rfl
    · cases h
  | reconnect pty =>
    simp only [step] at h
    split at h
    · split at h
      · split at h <;>
        · obtain ⟨ownership, hstep, h⟩ := Option.bind_eq_some_iff.mp h
          obtain rfl := Option.some.inj h
          exact .ledger hstep (by simp) rfl
      · cases h
    · cases h
  | restoreSession root fault =>
    simp only [step] at h
    split at h
    · obtain rfl := Option.some.inj h
      exact .same rfl rfl
    · split_ifs at h
      · obtain rfl := Option.some.inj h
        exact .same rfl rfl
      · obtain rfl := Option.some.inj h
        exact .rows rfl rfl (.inr ⟨_, rfl⟩)
    · cases h
  | reconcileClosed fault =>
    simp only [step] at h
    split at h
    · split_ifs at h <;>
      · obtain rfl := Option.some.inj h
        exact .same rfl rfl
    · cases h
  | snapshot restoreInfo =>
    simp only [step] at h
    split at h
    · obtain rfl := Option.some.inj h
      exact .same rfl rfl
    · cases h
  | save fault =>
    simp only [step] at h
    split at h
    · rename_i sessions hrequest
      obtain rfl := Option.some.inj h
      exact .rows rfl rfl (.inl ⟨sessions, rfl, hrequest, rfl⟩)
    · cases h
  | close id proposed fault =>
    simp only [step] at h
    split at h
    · split_ifs at h
      obtain ⟨ownership, hstep, h⟩ := Option.bind_eq_some_iff.mp h
      split_ifs at h <;>
      · obtain rfl := Option.some.inj h
        exact .ledger hstep (by simp) rfl
    · cases h
  | poll fault =>
    simp only [step] at h
    split at h
    · split_ifs at h <;>
      · obtain rfl := Option.some.inj h
        exact .same rfl rfl
    · cases h
  | timeout =>
    simp only [step] at h
    split at h
    · obtain rfl := Option.some.inj h
      exact .same rfl rfl
    · cases h

/-! ### A run -/

/-- A daemon starts without rows, and a client creates a session. -/
def creation (id : String) : List DaemonOp :=
  let restoreInfo : PtyRestoreInfo := .unixSocket "s" 7 .running
  [.start [1], .recover (fun _ => ([], [])) none, .ledger (.readPhase false),
    .restoreSession "" none, .create id ⟨2, 4, 0, 0⟩ "/" [1] [2] (some "s") none,
    .ledger (.recordPrepared restoreInfo false), .spawned (some restoreInfo) {},
    .prepare "d" "w" {} true, .commitActive none]

/-- The child of the only session has exited by itself, and the reconciler finds out, cleans up, and
finalizes the session. -/
def naturalExit : List DaemonOp :=
  [.interruptedCreates false, .abandonedCreates false, .cleanupRows false, .reconcileRow true,
    .markStable 5 false, .readStable false, .reconcileRow false, .interruptedCreates false,
    .abandonedCreates false, .cleanupRows false, .reconcileRow false, .cleanup true,
    .finalizeClosed none].map .reconciler

end DaemonRun

end Termd.Daemon
