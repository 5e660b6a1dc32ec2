import Termd.Ownership.Phases

/-!
# Every row in the phase `cleaning` can be reconciled

The reconciler cleans up what has a socket and a process id. A session that could not be created is
marked for cleanup as well, and when its supervisor was not spawned there is nothing to clean up with:
the row is never selected and stays.

## Main definitions

* `SessionOwnership.Reconcilable`: the row is selected, and deleted when the backend confirms
* `SessionOwnership.evidenced`: the guard of the step that goes wrong

## Main results

* `SessionOwnership.reconcilable_iff_evidenced`: the runs in which every row that is marked for
  cleanup can be reconciled
-/

namespace Termd.Ownership

/-- The columns of the evidence are filled. -/
def OwnershipRow.hasEvidence (row : OwnershipRow) : Bool :=
  row.socketPath.isSome && row.supervisorPid.isSome

namespace SessionOwnership

variable {w w' : SessionOwnership} {op : OwnershipOp} {id : String}

/-- **The row can be reconciled**: it has evidence, `reconcile_once` selects it, and the session is
gone when the backend confirms the cleanup. -/
def Reconcilable (w : SessionOwnership) (id : String) (row : OwnershipRow) : Prop :=
  row.hasEvidence ∧ ∃ cleanupRow ∈ w.tables.cleanupRows,
    cleanupRow.sessionId = id ∧ cleanupRow.phase = .cleaning ∧
    ∀ rows, ∃ v, exec step { w with reconciler := .cleanup cleanupRow rows }
      [.cleanup true, .finalizeClosed none] = some v ∧ v.tables.entry id = (none, none)

/-- The guard: `mark_cleaning` finds evidence in the row that it updates. -/
def evidenced (w : SessionOwnership) : OwnershipOp → Bool
  | .markCleaning false =>
    match w.daemon with
    | .failing id _ =>
      (w.tables.ownership.lookup id).all fun row => row.phase = .active || row.hasEvidence
    | _ => true
  | _ => true

/-- **The invariant**: what was prepared has evidence. -/
def Evidenced (w : SessionOwnership) : Prop :=
  ∀ id row, w.tables.ownership.lookup id = some row →
    row.phase = .prepared ∨ row.phase = .active ∨ row.phase = .cleaning → row.hasEvidence

/-- A row in the phase `cleaning` that has evidence can be reconciled. -/
theorem reconcilable_of_hasEvidence {row : OwnershipRow}
    (hrow : w.tables.ownership.lookup id = some row) (hphase : row.phase = .cleaning)
    (hevidence : row.hasEvidence) : w.Reconcilable id row := by
  obtain ⟨hsocket, hpid⟩ := (Bool.and_eq_true ..).mp hevidence
  obtain ⟨socketPath, hsocket⟩ := Option.isSome_iff_exists.mp hsocket
  obtain ⟨supervisorPid, hpid⟩ := Option.isSome_iff_exists.mp hpid
  refine ⟨hevidence, ⟨id, .cleaning, row.capability, socketPath, supervisorPid,
    row.closeOperationId, row.legacyProtocol⟩, ?_, rfl, rfl, fun rows => ?_⟩
  · exact mem_cleanupRows.mpr ⟨row, hrow, .inr hphase, hsocket, hpid, hphase, rfl, rfl, rfl⟩
  · refine ⟨_, rfl, ?_⟩
    have hentry := @entry_finalizeClosed w.tables _ id rfl id
    rw [if_pos rfl, entry_of_lookup hrow, Option.filter_some, if_neg (by simp [hphase])] at hentry
    exact hentry

/-- **An allowed change** leaves evidence in what was prepared. -/
theorem hasEvidence_of_change (h : w.Evidenced) {entry' : Entry} {row' : OwnershipRow}
    (hchange : Change w op id (w.tables.entry id) entry') (hguard : w.evidenced op)
    (hrow' : entry'.1 = some row')
    (hphase : row'.phase = .prepared ∨ row'.phase = .active ∨ row'.phase = .cleaning) :
    row'.hasEvidence := by
  generalize hentry : w.tables.entry id = entry at hchange
  have hbefore : ∀ row run, entry = (some row, run) →
      row.phase = .prepared ∨ row.phase = .active ∨ row.phase = .cleaning → row.hasEvidence :=
    fun row run hsame => h id row (congrArg Prod.fst (hentry.trans hsame))
  cases hchange with
  | create =>
    obtain rfl := Option.some.inj hrow'
    simp [preparingRow] at hphase
  | recordPrepared =>
    obtain rfl := Option.some.inj hrow'
    rfl
  | commitActive _ hprepared =>
    obtain rfl := Option.some.inj hrow'
    have hevidence := hbefore _ _ rfl (.inl hprepared)
    exact hevidence
  | @markCleaning id again row run hdaemon hactive =>
    obtain rfl := Option.some.inj hrow'
    have hlookup : w.tables.ownership.lookup id = some row := congrArg Prod.fst hentry
    have hevidence : row.hasEvidence := by
      simpa [evidenced, hdaemon, hlookup, hactive] using hguard
    exact hevidence
  | backfill hfilled =>
    cases hfilled with
    | prepared =>
      obtain rfl := Option.some.inj hrow'
      rfl
    | quarantined =>
      obtain rfl := Option.some.inj hrow'
      simp at hphase
  | quarantine =>
    obtain rfl := Option.some.inj hrow'
    simp at hphase
  | migrateLegacy _ hprepared =>
    obtain rfl := Option.some.inj hrow'
    have hevidence := hbefore _ _ rfl (.inl hprepared)
    exact hevidence
  | close hclosing =>
    obtain rfl := Option.some.inj hrow'
    have hevidence := hbefore _ _ rfl (.inr hclosing)
    exact hevidence
  | markStable _ hmarked =>
    obtain rfl := Option.some.inj hrow'
    have hevidence := hbefore _ _ rfl hmarked
    exact hevidence
  | finalizeNothing => exact hbefore row' _ (by rw [← hrow']) hphase
  | quarantineNothing | dropPreparing | finalizeClosed => cases hrow'

theorem Evidenced.step (h : w.Evidenced) (hguard : w.evidenced op) (hstep : w.step op = some w') :
    w'.Evidenced := by
  intro id row' hrow' hphase
  obtain hsame | hchange := step_entry hstep id
  · exact h id row' ((congrArg Prod.fst hsame).symm.trans hrow') hphase
  · exact hasEvidence_of_change h hchange hguard hrow' hphase

/-- A step that is not allowed leaves a row in the phase `cleaning` that has no evidence. -/
theorem exists_cleaning_of_not_evidenced (hguard : ¬w.evidenced op) (hstep : w.step op = some w') :
    ∃ id row, w'.tables.ownership.lookup id = some row ∧ row.phase = .cleaning ∧
      ¬row.hasEvidence := by
  cases op with
  | markCleaning fault =>
    cases fault with
    | true => exact absurd rfl hguard
    | false =>
      obtain ⟨generation, hop, -⟩ | ⟨hop, -⟩ | ⟨-, hstep⟩ := step_cases hstep
      · cases hop
      · cases hop
      · simp only [stepDaemon] at hstep
        split at hstep
        · rename_i id again hdaemon
          obtain rfl := Option.some.inj hstep
          simp only [evidenced, hdaemon] at hguard
          cases hrow : w.tables.ownership.lookup id with
          | none => simp [hrow] at hguard
          | some row =>
            simp only [hrow, Option.all_some, Bool.or_eq_true, decide_eq_true_eq, not_or] at hguard
            refine ⟨id, { row with phase := .cleaning }, ?_, rfl, hguard.2⟩
            simp [Tables.markCleaning, Tables.updateOwnership, Table.lookup_updateWhere, hrow,
              hguard.1]
        · cases hstep
  | _ => exact absurd rfl hguard

/-- **Every row that is marked for cleanup can be reconciled throughout a run exactly when no session
is marked for which nothing was recorded.** -/
theorem reconcilable_iff_evidenced (runtimeSessions : Table String RuntimeRow)
    (generation : List UInt8) (ops : List OwnershipOp) (w : SessionOwnership)
    (hrun : exec step (init runtimeSessions generation) ops = some w) :
    (∀ front back v, ops = front ++ back →
      exec step (init runtimeSessions generation) front = some v →
        ∀ id row, v.tables.ownership.lookup id = some row → row.phase = .cleaning →
          v.Reconcilable id row) ↔
      Along step (fun w op => w.evidenced op) (init runtimeSessions generation) ops := by
  have hinit : (init runtimeSessions generation).Evidenced := by
    intro id row hrow
    cases hrow
  refine forall_reached_iff_along (I := Evidenced) ?_ (fun _ _ _ h => h.step) ?_ hinit hrun
  · intro v h id row hrow hphase
    exact reconcilable_of_hasEvidence hrow hphase (h id row hrow (.inr (.inr hphase)))
  · intro v op v' _ hguard hstep hall
    obtain ⟨id, row, hrow, hphase, hevidence⟩ := exists_cleaning_of_not_evidenced hguard hstep
    exact hevidence (hall id row hrow hphase).1

/-- The supervisor is spawned and the session cannot be prepared. -/
theorem reconcilable_of_failed_prepare : ∃ w,
    exec step (init ∅ [0])
      [.create "a" ⟨2, 4, 0, 0⟩ [1] [2] (some "s") none,
        .recordPrepared (.unixSocket "s" 7 .running) false,
        .spawned (some (.unixSocket "s" 7 .running)), .prepare false, .markCleaning false] =
        some w ∧
      ∃ row, w.tables.ownership.lookup "a" = some row ∧ row.phase = .cleaning ∧
        w.Reconcilable "a" row := by
  let ops : List OwnershipOp := [.create "a" ⟨2, 4, 0, 0⟩ [1] [2] (some "s") none,
    .recordPrepared (.unixSocket "s" 7 .running) false,
    .spawned (some (.unixSocket "s" 7 .running)), .prepare false, .markCleaning false]
  have hrun : (decide (Along step (fun w op => w.evidenced op = true) (init ∅ [0]) ops) &&
      (exec step (init ∅ [0]) ops).any fun w =>
        (w.tables.ownership.lookup "a").any fun row => row.phase = .cleaning) = true := by
    decide +kernel
  rw [Bool.and_eq_true, decide_eq_true_eq] at hrun
  obtain ⟨w, hw, hrow⟩ := (Option.any_eq_true ..).mp hrun.2
  obtain ⟨row, hrow, hphase⟩ := (Option.any_eq_true ..).mp hrow
  have hphase := of_decide_eq_true hphase
  refine ⟨w, hw, row, hrow, hphase, ?_⟩
  exact (reconcilable_iff_evidenced ∅ [0] ops w hw).mpr hrun.1 ops [] w (List.append_nil ops).symm hw
    "a" row hrow hphase

/-- The supervisor cannot be spawned. -/
theorem not_reconcilable_of_failed_spawn :
    ¬∀ (runtimeSessions : Table String RuntimeRow) (generation : List UInt8)
      (ops : List OwnershipOp) (w : SessionOwnership),
      exec step (init runtimeSessions generation) ops = some w →
        ∀ id row, w.tables.ownership.lookup id = some row → row.phase = .cleaning →
          w.Reconcilable id row := by
  intro h
  let ops : List OwnershipOp := [.create "a" ⟨2, 4, 0, 0⟩ [1] [2] (some "s") none, .spawnFailed,
    .markCleaning false]
  have hrun : ((exec step (init ∅ [0]) ops).any fun w =>
      (w.tables.ownership.lookup "a").any fun row =>
        row.phase = .cleaning && !row.hasEvidence) = true := by
    decide +kernel
  obtain ⟨w, hw, hrow⟩ := (Option.any_eq_true ..).mp hrun
  obtain ⟨row, hrow, hphase⟩ := (Option.any_eq_true ..).mp hrow
  rw [Bool.and_eq_true, Bool.not_eq_true', decide_eq_true_eq] at hphase
  have hevidence := (h ∅ [0] ops w hw "a" row hrow hphase.1).1
  rw [hphase.2] at hevidence
  cases hevidence

end SessionOwnership

end Termd.Ownership
