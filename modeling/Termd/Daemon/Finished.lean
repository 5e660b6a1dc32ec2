import Termd.Daemon.Requests

/-!
# A session that was finalized

When the child of a session has exited by itself, the reconciler finds out, cleans up after it, and
finalizes the session: its rows are deleted. The daemon thread learns of this when it looks at the rows,
before it lists the sessions and before it attaches a client. Until then it has the session in its
index, and a snapshot that it saves in the meantime, after a resize or after a pairing, opens a row for
the session again. The tombstone that a save would respect is deleted in the transaction that makes it.

## Main definitions

* `DaemonRun.creates`: the session whose row is not public yet
* `DaemonRun.Tracked`: the invariant
* `DaemonRun.Forgotten`: what a save must not hold
* `DaemonRun.Finished`: what holds of the sessions that were finalized

## Main results

* `DaemonRun.finished_of_forgotten`: sessions stay finished in the runs in which no save is of a
  session that was finalized
* `DaemonRun.not_finished_of_pairing`: a pairing opens the row of a session that was finalized
-/

namespace Termd.Daemon

open Ownership (SessionState SessionStateRecord PtyRestoreInfo RuntimeRow OwnershipRow Tables Statement SessionOwnership
  OwnershipOp DaemonPhase ReconcilerPhase CleanupRow Change Entry)
open Pty (PtySize)

namespace DaemonRun

variable {w w' : DaemonRun} {o o' : SessionOwnership} {id : String} {finalized : List String}

/-- The session that is being created, until its row is public. -/
def creates : DaemonPhase → Option String
  | .spawning id _ | .granted id _ | .preparing id _ _ | .committing id _ _ => some id
  | _ => none

/-- **The invariant.** The session that is being created is none of those that were finalized, because
the reconciler leaves its row alone. -/
structure Tracked (o : SessionOwnership) (finalized : List String) : Prop where
  reconciles : o.Reconciles o.reconciler
  gone : ∀ id ∈ finalized, ∀ row, o.tables.runtimeSessions.lookup id = some row →
    row.state = .closed
  created : ∀ id, creates o.daemon = some id → id ∉ finalized ∧
    ∃ row, o.tables.ownership.lookup id = some row ∧ SessionOwnership.early row ∧
      row.ownerGeneration = some o.generation

theorem creates_recoverPhase (record : SessionStateRecord) (records : List SessionStateRecord)
    (row : Option OwnershipRow) :
    creates (SessionOwnership.recoverPhase record records row) = none := by
  cases row with
  | none => rfl
  | some row =>
    rw [SessionOwnership.recoverPhase]
    split_ifs
    · rfl
    · rfl
    · split <;> rfl

theorem creates_matchPhase (record : SessionStateRecord) (records : List SessionStateRecord)
    (result : Bool) : creates (SessionOwnership.matchPhase record records result) = none := by
  cases result <;> rfl

/-! ### Steps of the ledger -/

section Ledger

variable {op : OwnershipOp}

/-- A row becomes public only when the session is created. -/
theorem public_of_step (hstep : o.step op = some o') {row : RuntimeRow}
    (hrow : o'.tables.runtimeSessions.lookup id = some row) :
    o.tables.runtimeSessions.lookup id = some row ∨ creates o.daemon = some id := by
  have hentry : (o'.tables.entry id).2 = some row := hrow
  change (o.tables.entry id).2 = some row ∨ _
  obtain hsame | hchange := SessionOwnership.step_entry hstep id
  · rw [← hsame]
    exact .inl hentry
  · generalize o.tables.entry id = entry at hchange
    generalize o'.tables.entry id = entry' at hchange hentry
    cases hchange with
    | commitActive hdaemon =>
      rw [hdaemon]
      exact .inr rfl
    | backfill hfilled =>
      cases hfilled with
      | prepared => exact .inl hentry
      | quarantined => cases hentry
    | recordPrepared | markCleaning | migrateLegacy | close | markStable | dropPreparing =>
      exact .inl hentry
    | create | quarantine | quarantineNothing | finalizeClosed | finalizeNothing => cases hentry

/-- The row of a session that is being created. -/
def Own (o : SessionOwnership) (id : String) : Prop :=
  ∃ row, o.tables.ownership.lookup id = some row ∧ SessionOwnership.early row ∧
    row.ownerGeneration = some o.generation

theorem own_of_create {size : PtySize} {createOperationId capability : List UInt8}
    {expectedSocket : Option String} {fault : Option Fault}
    (hstep : o.stepDaemon (.create id size createOperationId capability expectedSocket fault) =
      some o') : o'.daemon = .idle ∨ creates o'.daemon = some id ∧ Own o' id := by
  simp only [SessionOwnership.stepDaemon] at hstep
  split_ifs at hstep with hidle
  obtain rfl := Option.some.inj hstep
  simp only [SessionOwnership.transact]
  cases htransaction : transaction fault
      (Ownership.insertPreparing id createOperationId capability expectedSocket o.generation)
      o.tables with
  | mk tables outcome =>
    obtain ⟨rfl, -, hbody⟩ | ⟨hfailed, -⟩ := transaction_cases htransaction
    · simp only [Ownership.insertPreparing, List.foldlM_cons, List.foldlM_nil, Option.bind_eq_bind,
        Option.bind_eq_some_iff, Option.pure_def, Option.some.injEq] at hbody
      obtain ⟨t, hinsert, rfl⟩ := hbody
      have hentry := (Tables.entry_insertOwnership hinsert id).2
      rw [if_pos rfl] at hentry
      exact .inr ⟨rfl, _, congrArg Prod.fst hentry, .inl rfl, rfl⟩
    · exact .inl (if_neg hfailed)

/-- The daemon thread goes on creating a session, or begins to. -/
theorem own_of_stepDaemon (hown : ∀ id, creates o.daemon = some id → Own o id)
    (hstep : o.stepDaemon op = some o') (hcreates : creates o'.daemon = some id) :
    Own o' id ∧ (creates o.daemon = some id ∨
      ∃ size createOperationId capability expectedSocket fault,
        op = .create id size createOperationId capability expectedSocket fault) := by
  cases op with
  | create k size createOperationId capability expectedSocket fault =>
    obtain hidle | ⟨hphase, hrow⟩ := own_of_create hstep
    · rw [hidle] at hcreates
      cases hcreates
    · obtain rfl := Option.some.inj (hphase.symm.trans hcreates)
      exact ⟨hrow, .inr ⟨_, _, _, _, _, rfl⟩⟩
  | recordPrepared restoreInfo fault =>
    simp only [SessionOwnership.stepDaemon] at hstep
    split at hstep
    · rename_i k size hdaemon
      split_ifs at hstep
      · obtain rfl := Option.some.inj hstep
        cases hcreates
      · split at hstep
        · rename_i tables hrecord
          obtain rfl := Option.some.inj hstep
          obtain rfl : k = id := Option.some.inj hcreates
          obtain ⟨row, hrow, hearly, hgeneration⟩ := hown k (by rw [hdaemon]; rfl)
          obtain ⟨socketPath, supervisorPid, status, -, rfl⟩ :=
            Ownership.SessionOwnership.recordPrepared_eq_some hrecord
          refine ⟨?_, .inl (by rw [hdaemon]; rfl)⟩
          rw [Own, Tables.updateOwnership, Table.lookup_updateWhere, if_pos rfl, hrow]
          by_cases hexpects : Tables.expects socketPath row
          · exact ⟨_, rfl, by simp [hexpects, SessionOwnership.early], by simpa [hexpects] using hgeneration⟩
          · exact ⟨_, rfl, by simpa [hexpects] using hearly, by simpa [hexpects] using hgeneration⟩
        · obtain rfl := Option.some.inj hstep
          cases hcreates
    · cases hstep
  | spawned restoreInfo =>
    simp only [SessionOwnership.stepDaemon] at hstep
    split at hstep
    · obtain rfl := Option.some.inj hstep
      cases hcreates
    · obtain rfl := Option.some.inj hstep
      cases hcreates
    · rename_i hdaemon
      obtain rfl := Option.some.inj hstep
      have hbefore : creates o.daemon = some id := by
        rw [hdaemon]
        exact hcreates
      have hrow := hown id hbefore
      exact ⟨hrow, .inl hbefore⟩
    · cases hstep
  | prepare ok =>
    simp only [SessionOwnership.stepDaemon] at hstep
    split at hstep
    · rename_i hdaemon
      obtain rfl := Option.some.inj hstep
      cases ok with
      | true =>
        have hbefore : creates o.daemon = some id := by
          rw [hdaemon]
          exact hcreates
        have hrow := hown id hbefore
        exact ⟨hrow, .inl hbefore⟩
      | false => cases hcreates
    · cases hstep
  | _ =>
    simp only [SessionOwnership.stepDaemon, SessionOwnership.transact] at hstep
    grind [creates, creates_recoverPhase, creates_matchPhase]

theorem own_of_step (h : o.Reconciles o.reconciler) (hown : ∀ id, creates o.daemon = some id → Own o id)
    (hstep : o.step op = some o') (hcreates : creates o'.daemon = some id) :
    Own o' id ∧ (creates o.daemon = some id ∨
      ∃ size createOperationId capability expectedSocket fault,
        op = .create id size createOperationId capability expectedSocket fault) := by
  obtain ⟨generation, -, rfl⟩ | ⟨hop, hthread⟩ | ⟨-, hthread⟩ := SessionOwnership.step_cases hstep
  · cases hcreates
  · have hdaemon := daemon_stepReconciler hthread
    have hgeneration := (SessionOwnership.stepReconciler_frame hthread).1
    rw [hdaemon] at hcreates
    obtain ⟨row, hrow, hearly, howner⟩ := hown id hcreates
    refine ⟨⟨row, ?_, hearly, howner.trans (congrArg some hgeneration.symm)⟩, .inl hcreates⟩
    obtain hsame | hchange := SessionOwnership.step_entry hstep id
    · exact (congrArg Prod.fst hsame).trans hrow
    · rw [SessionOwnership.entry_of_lookup hrow] at hchange
      exact SessionOwnership.own_of_change h hchange hop hrow hearly howner
  · have hdaemon := own_of_stepDaemon (o := { o with outcome := none }) hown hthread hcreates
    exact hdaemon

/-- The reconciler does not finalize a session that is being created. -/
theorem not_finalizing_own (h : o.Reconciles o.reconciler) (hown : Own o id) (rows : List CleanupRow) :
    o.reconciler ≠ .finalizing id rows := by
  intro hreconciler
  rw [hreconciler] at h
  obtain ⟨row, hrow, hearly, hgeneration⟩ := hown
  obtain ⟨row', hrow', hother⟩ := h.head
  obtain rfl : row = row' := Option.some.inj (hrow.symm.trans hrow')
  exact hother hearly hgeneration

/-- The rows of a session are gone when its transaction has committed. -/
theorem gone_of_finalizes (hstep : w.ownership.step op = some o) (hid : id ∈ w.finalizes op o) :
    (∃ rows, w.ownership.reconciler = .finalizing id rows) ∧
      o.tables.runtimeSessions.lookup id = none := by
  rw [finalizes.eq_def] at hid
  split at hid
  · rename_i fault k rows hreconciler houtcome
    obtain rfl := List.mem_singleton.mp hid
    refine ⟨⟨rows, hreconciler⟩, ?_⟩
    simp only [SessionOwnership.step, OwnershipOp.byReconciler, if_true,
      SessionOwnership.stepReconciler, hreconciler] at hstep
    obtain rfl := Option.some.inj hstep
    simp only [SessionOwnership.transact] at houtcome ⊢
    cases htransaction : transaction fault (Ownership.finalizeClosed id) w.ownership.tables with
    | mk tables outcome =>
      rw [htransaction] at houtcome
      obtain rfl := Option.some.inj houtcome
      obtain ⟨-, -, hbody⟩ | ⟨hfailed, -⟩ := transaction_cases htransaction
      · have hentry := Ownership.entry_finalizeClosed hbody id
        rw [if_pos rfl] at hentry
        exact congrArg Prod.snd hentry
      · exact absurd rfl hfailed
  · cases hid

end Ledger

/-! ### The invariant -/

/-- A step of the ledger keeps the invariant. -/
theorem Tracked.ledger {op : OwnershipOp} (h : Tracked w.ownership w.finalized)
    (hstep : w.ownership.step op = some o)
    (hnew : ∀ id size createOperationId capability expectedSocket fault,
      op = .create id size createOperationId capability expectedSocket fault → w.IsNew id) :
    Tracked o (w.finalizes op o ++ w.finalized) where
  reconciles := h.reconciles.step hstep
  gone id hid row hrow := by
    obtain hid | hid := List.mem_append.mp hid
    · cases hrow.symm.trans (gone_of_finalizes hstep hid).2
    · obtain hbefore | hcreates := public_of_step hstep hrow
      · exact h.gone id hid row hbefore
      · exact absurd hid (h.created id hcreates).1
  created id hcreates := by
    obtain ⟨hown, hbefore⟩ := own_of_step h.reconciles (fun id hid => (h.created id hid).2) hstep
      hcreates
    refine ⟨fun hid => ?_, hown⟩
    obtain hid | hid := List.mem_append.mp hid
    · -- the session is being created already, because a creation finalizes nothing
      obtain hcreates | ⟨_, _, _, _, _, rfl⟩ := hbefore
      · obtain ⟨rows, hreconciler⟩ := (gone_of_finalizes hstep hid).1
        exact not_finalizing_own h.reconciles (h.created id hcreates).2 rows hreconciler
      · cases hid
    · obtain hcreates | ⟨_, _, _, _, _, rfl⟩ := hbefore
      · exact (h.created id hcreates).1 hid
      · exact (hnew _ _ _ _ _ _ rfl).2.2.2 hid

/-- A transaction that opens no row of a session that was finalized keeps the invariant. -/
theorem Tracked.rows {fault : Option Fault} {body : List Statement}
    (h : Tracked w.ownership w.finalized)
    (hbody : ¬fault.any (Fault.hits body.length) → ∀ t,
      body.foldlM (fun t statement => statement t) w.ownership.tables = some t →
        t.ownership = w.ownership.tables.ownership ∧ ∀ id ∈ w.finalized, ∀ row,
          t.runtimeSessions.lookup id = some row → row.state ≠ .closed →
            w.ownership.tables.runtimeSessions.lookup id = some row) :
    Tracked (w.transact fault body).ownership w.finalized := by
  rw [transact]
  cases htransaction : transaction fault body w.ownership.tables with
  | mk tables outcome =>
    obtain ⟨-, hfault, hcommitted⟩ | ⟨-, rfl⟩ := transaction_cases htransaction
    · obtain ⟨hownership, hopened⟩ := hbody hfault tables hcommitted
      refine ⟨h.reconciles.mono ?_, fun id hid row hrow => ?_, fun id hcreates => ?_⟩
      · rintro id ⟨row, hrow, hother⟩
        exact ⟨row, by rw [hownership]; exact hrow, hother⟩
      · by_contra hopen
        exact hopen (h.gone id hid row (hopened id hid row hrow hopen))
      · obtain ⟨hid, row, hrow, hearly, hgeneration⟩ := h.created id hcreates
        exact ⟨hid, row, by rw [hownership]; exact hrow, hearly, hgeneration⟩
    · exact h

/-- **The condition**: a save that commits is not of a session that was finalized. -/
def Forgotten (w : DaemonRun) : DaemonOp → Prop
  | .save fault =>
    match w.request with
    | .saving sessions => fault.any (Fault.hits sessions.length) ∨
        ∀ session ∈ sessions, session.1 ∉ w.finalized
    | _ => True
  | _ => True

instance (w : DaemonRun) (op : DaemonOp) : Decidable (w.Forgotten op) := by
  unfold Forgotten
  split
  · split <;> infer_instance
  · infer_instance

theorem Tracked.step {op : DaemonOp} (h : Tracked w.ownership w.finalized) (hop : w.Forgotten op)
    (hstep : w.step op = some w') : Tracked w'.ownership w'.finalized := by
  cases ledgerStep_of_step hstep with
  | same hownership hfinalized =>
    rw [hownership, hfinalized]
    exact h
  | ledger hledger hnew hfinalized =>
    rw [hfinalized]
    exact h.ledger hledger hnew
  | panic hledger hownership hfinalized =>
    have htracked := h.ledger hledger (by simp)
    rw [hownership, hfinalized]
    refine ⟨htracked.reconciles.mono ?_, htracked.gone, by simp [creates]⟩
    rintro id ⟨row, hrow, hother⟩
    exact ⟨row, hrow, hother⟩
  | rows hownership hfinalized hbody =>
    rw [hownership, hfinalized]
    refine h.rows fun hfault t ht => ?_
    obtain ⟨sessions, rfl, hrequest, rfl⟩ | ⟨id, rfl⟩ := hbody
    · refine ⟨ownership_saveSqliteState ht, fun id hid row hrow hopen => ?_⟩
      obtain hbefore | ⟨row, hmem, -⟩ := lookup_saveSqliteState ht hrow hopen
      · exact hbefore
      · simp only [Forgotten, hrequest] at hop
        obtain hhits | hforgotten := hop
        · rw [saveSqliteState, List.length_map] at hfault
          exact absurd hhits hfault
        · exact absurd hid (hforgotten _ hmem)
    · exact ⟨ownership_recordRuntimeSessionClosed ht, fun id _ row hrow hopen =>
        lookup_recordRuntimeSessionClosed ht hrow hopen⟩

/-! ### Sessions that were finalized -/

/-- **A session that was finalized is finished**: no row says that it is open, it is not listed any
more, and no daemon after this one recovers it. -/
structure Finished (w : DaemonRun) : Prop where
  rows : ∀ id ∈ w.finalized, ∀ row, w.ownership.tables.runtimeSessions.lookup id = some row →
    row.state ≠ .running ∧ row.state ≠ .created
  listed : ∀ id ∈ w.finalized, ∀ w', w.step (.reconcileClosed false) = some w' →
    w'.maps.sessionIndex.lookup id = none
  recovered : ∀ id ∈ w.finalized, ∀ generation w', w.step (.start generation) = some w' →
    ∃ loaded, w'.request = .starting loaded [] ∧ ∀ record ∈ sessionRecords loaded,
      record.sessionId = id → record.state = .closed

theorem Tracked.finished (h : Tracked w.ownership w.finalized) : w.Finished where
  rows id hid row hrow := by
    have hclosed := h.gone id hid row hrow
    simp [hclosed]
  listed id hid w' hstep := by
    simp only [DaemonRun.step] at hstep
    split at hstep
    · obtain rfl := Option.some.inj hstep
      dsimp only
      rw [SessionMaps.sessionIndex_reconcile, if_neg]
      intro hrunning
      obtain ⟨row, hrow, hrunning⟩ := (Option.any_eq_true ..).mp hrunning
      have hclosed := h.gone id hid row hrow
      simp [hclosed] at hrunning
    · cases hstep
  recovered id hid generation w' hstep := by
    simp only [DaemonRun.step] at hstep
    obtain ⟨ownership, -, hstep⟩ := Option.bind_eq_some_iff.mp hstep
    obtain rfl := Option.some.inj hstep
    refine ⟨_, rfl, fun record hrecord hsame => ?_⟩
    obtain ⟨k, row, hrow, hselect⟩ := Table.mem_select.mp hrecord
    obtain rfl := Option.some.inj hselect
    obtain rfl : k = id := hsame
    exact h.gone k hid row hrow

/-- **Sessions that were finalized stay finished** in the runs in which no save is of such a
session. -/
theorem finished_of_forgotten (runtimeSessions : Table String RuntimeRow) (generation : List UInt8)
    (ops : List DaemonOp) (w : DaemonRun)
    (hforgotten : Along step Forgotten (init runtimeSessions generation) ops)
    (hrun : exec step (init runtimeSessions generation) ops = some w) : w.Finished := by
  have hinit : Tracked (init runtimeSessions generation).ownership [] :=
    ⟨trivial, by simp, by simp [init, SessionOwnership.init, creates]⟩
  have htracked : Tracked w.ownership w.finalized :=
    exec_induction_along (I := fun w : DaemonRun => Tracked w.ownership w.finalized)
      (fun _ _ _ h hop hstep => h.step hop hstep) hinit hforgotten hrun
  exact htracked.finished

/-- The daemon looks at the rows before it saves. -/
theorem finished_of_list : ∃ w,
    exec step (init ∅ [0]) (creation "a" ++ naturalExit ++
      [.reconcileClosed false, .snapshot fun _ => some (.unixSocket "s" 7 .running), .save none]) =
        some w ∧ w.finalized = ["a"] ∧ w.Finished := by
  let ops := creation "a" ++ naturalExit ++
    [.reconcileClosed false, .snapshot fun _ => some (.unixSocket "s" 7 .running), .save none]
  have hrun : (decide (Along step Forgotten (init ∅ [0]) ops) &&
      (exec step (init ∅ [0]) ops).any fun w => w.finalized = ["a"]) = true := by
    decide +kernel
  rw [Bool.and_eq_true, decide_eq_true_eq] at hrun
  obtain ⟨halong, hrun⟩ := hrun
  obtain ⟨w, hw, hfinalized⟩ := (Option.any_eq_true ..).mp hrun
  exact ⟨w, hw, of_decide_eq_true hfinalized, finished_of_forgotten ∅ [0] ops w halong hw⟩

/-- A device is paired after the session was finalized, and before anybody has listed the sessions.
The state is saved with the pairing: the row is there again, and it is running. -/
theorem not_finished_of_pairing :
    ¬∀ (runtimeSessions : Table String RuntimeRow) (generation : List UInt8) (ops : List DaemonOp)
      (w : DaemonRun), exec step (init runtimeSessions generation) ops = some w → w.Finished := by
  intro h
  let ops := creation "a" ++ naturalExit ++
    [.snapshot fun _ => some (.unixSocket "s" 7 .running), .save none]
  have hrun : ((exec step (init ∅ [0]) ops).any fun w => w.finalized = ["a"] &&
      (w.ownership.tables.runtimeSessions.lookup "a").any fun row => row.state = .running) =
        true := by
    decide +kernel
  obtain ⟨w, hw, hrun⟩ := (Option.any_eq_true ..).mp hrun
  rw [Bool.and_eq_true, decide_eq_true_eq] at hrun
  obtain ⟨hfinalized, hrow⟩ := hrun
  obtain ⟨row, hrow, hrunning⟩ := (Option.any_eq_true ..).mp hrow
  have hfinished := (h ∅ [0] ops w hw).rows "a" (by simp [hfinalized]) row hrow
  exact hfinished.1 (of_decide_eq_true hrunning)

end DaemonRun

end Termd.Daemon
