import Termd.Ownership.Changes

/-!
# Public rows are backed by ownership

A row of `runtime_sessions` that the ledger knows of has a row of `session_ownership` whose phase is
active or cleaning, or that is waiting to be migrated. It holds between any two statements, so that it
does not matter where the daemon is killed.

## Main definitions

* `OwnershipRow.backs`: the row may have a public row
* `SessionOwnership.Backed`: every public row is backed

## Main results

* `SessionOwnership.backed_of_run`: public rows are backed in every reachable state, and a
  transaction that fails changes nothing
-/

namespace Termd.Ownership

/-- The row may have a row in `runtime_sessions`. -/
def OwnershipRow.backs (row : OwnershipRow) : Prop :=
  row.phase = .active ∨ row.phase = .cleaning ∨
    row.phase = .prepared ∧ row.diagnostic = some legacyMigration

namespace SessionOwnership

variable {w w' : SessionOwnership} {op : OwnershipOp} {id : String}

/-- **Public rows are backed.** -/
structure Backed (w : SessionOwnership) : Prop where
  published_backed : ∀ id ∈ w.published, (w.tables.runtimeSessions.lookup id).isSome →
    ∃ row, w.tables.ownership.lookup id = some row ∧ row.backs
  not_beside : ∀ id row, w.tables.ownership.lookup id = some row →
    (w.tables.runtimeSessions.lookup id).isSome →
      row.phase ≠ .preparing ∧ row.phase ≠ .quarantined ∧
        (row.phase = .prepared → row.diagnostic = some legacyMigration)

/-- **The invariant**: a public row is backed, or the ledger has not seen the session. -/
def Covered (w : SessionOwnership) (id : String) : Prop :=
  (w.tables.entry id).2.isSome →
    (∃ row, (w.tables.entry id).1 = some row ∧ row.backs) ∨
      (w.tables.entry id).1 = none ∧ id ∉ w.published

theorem backed_of_covered (h : ∀ id, w.Covered id) : w.Backed where
  published_backed id hid hrun := (h id hrun).resolve_right fun hnone => hnone.2 hid
  not_beside id row hrow hrun := by
    obtain ⟨row', hrow', hbacks⟩ | ⟨hnone, -⟩ := h id hrun
    · obtain rfl : row = row' := Option.some.inj (hrow.symm.trans hrow')
      obtain hphase | hphase | ⟨hphase, hdiagnostic⟩ := hbacks <;> simp [*]
    · cases hrow.symm.trans hnone

/-- A session is published together with its row. -/
theorem published_of_stepDaemon (hstep : w.stepDaemon op = some w') (hid : id ∈ w'.published) :
    id ∈ w.published ∨ (w'.tables.entry id).1.isSome := by
  cases op with
  | commitActive fault =>
    simp only [stepDaemon] at hstep
    split at hstep
    · rename_i created size restoreInfo hdaemon
      obtain rfl := Option.some.inj hstep
      simp only [transact] at hid ⊢
      cases htransaction :
          transaction fault (Ownership.commitActive created size restoreInfo) w.tables with
      | mk tables outcome =>
        rw [htransaction] at hid
        cases outcome with
        | committed =>
          obtain rfl | hid := List.mem_cons.mp hid
          · obtain ⟨-, -, hbody⟩ | ⟨hfailed, -⟩ := transaction_cases htransaction
            · obtain ⟨row, -, -, hafter⟩ := entry_commitActive hbody
              refine .inr ?_
              dsimp only
              rw [hafter, if_pos rfl]
              rfl
            · exact absurd rfl hfailed
          · exact .inl hid
        | rolledBack => exact .inl hid
        | refused => exact .inl hid
    · cases hstep
  | recover records drawn fault =>
    simp only [stepDaemon] at hstep
    split_ifs at hstep
    obtain rfl := Option.some.inj hstep
    simp only [transact] at hid ⊢
    cases htransaction : transaction fault (backfillLegacyRecords records drawn) w.tables with
    | mk tables outcome =>
      rw [htransaction] at hid
      cases outcome with
      | committed =>
        obtain hid | hid := List.mem_append.mp hid
        · obtain ⟨record, hrecord, rfl⟩ := List.mem_map.mp hid
          obtain ⟨-, -, hbody⟩ | ⟨hfailed, -⟩ := transaction_cases htransaction
          · exact .inr ((entry_backfillLegacyRecords hbody).1 record hrecord)
          · exact absurd rfl hfailed
        · exact .inl hid
      | rolledBack => exact .inl hid
      | refused => exact .inl hid
  | _ =>
    refine .inl ?_
    simp only [stepDaemon, transact] at hstep
    grind

theorem published_of_step (hstep : w.step op = some w') (hid : id ∈ w'.published) :
    id ∈ w.published ∨ (w'.tables.entry id).1.isSome := by
  obtain ⟨generation, rfl, rfl⟩ | ⟨-, hthread⟩ | ⟨-, hthread⟩ := step_cases hstep
  · exact .inl hid
  · rw [(stepReconciler_frame hthread).2.1] at hid
    exact .inl hid
  · have hpublished := published_of_stepDaemon hthread hid
    exact hpublished

/-- A change leaves a public row only where it is backed. -/
theorem backs_of_change {entry entry' : Entry} (hchange : Change w op id entry entry')
    (h : ∀ row, entry.1 = some row → entry.2.isSome → row.backs) (hrun : entry'.2.isSome) :
    ∃ row, entry'.1 = some row ∧ row.backs := by
  cases hchange with
  | create => cases hrun
  | recordPrepared _ hphase =>
    have hbacks := h _ rfl hrun
    simp [OwnershipRow.backs, hphase] at hbacks
  | commitActive => exact ⟨_, rfl, .inl rfl⟩
  | markCleaning => exact ⟨_, rfl, .inr (.inl rfl)⟩
  | backfill hfilled =>
    cases hfilled with
    | prepared => exact ⟨_, rfl, .inr (.inr ⟨rfl, rfl⟩)⟩
    | quarantined => cases hrun
  | quarantine => cases hrun
  | quarantineNothing => cases hrun
  | migrateLegacy =>
    refine ⟨_, rfl, ?_⟩
    simp only [OwnershipRow.backs]
    split_ifs
    · exact .inr (.inl rfl)
    · exact .inl rfl
  | close => exact ⟨_, rfl, .inr (.inl rfl)⟩
  | markStable => exact ⟨_, rfl, .inr (.inl rfl)⟩
  | dropPreparing _ hphase =>
    have hbacks := h _ rfl hrun
    simp [OwnershipRow.backs, hphase] at hbacks
  | finalizeClosed => cases hrun
  | finalizeNothing => cases hrun

theorem Covered.step (h : w.Covered id) (hstep : w.step op = some w') : w'.Covered id := by
  intro hrun
  obtain hsame | hchange := step_entry hstep id
  · rw [hsame] at hrun ⊢
    obtain hbacked | ⟨hnone, hid⟩ := h hrun
    · exact .inl hbacked
    · refine .inr ⟨hnone, fun hid' => ?_⟩
      obtain hid' | hsome := published_of_step hstep hid'
      · exact hid hid'
      · simp [hsame, hnone] at hsome
  · refine .inl (backs_of_change hchange (fun row hrow hrun' => ?_) hrun)
    obtain ⟨row', hrow', hbacks⟩ | ⟨hnone, -⟩ := h hrun'
    · obtain rfl : row = row' := Option.some.inj (hrow.symm.trans hrow')
      exact hbacks
    · cases hrow.symm.trans hnone

theorem tables_of_failed_transact {fault : Option Fault} {body : List Statement}
    {next : Outcome → SessionOwnership → SessionOwnership} {outcome : Outcome}
    (h : w.transact fault body next = w')
    (hnext : ∀ outcome v, (next outcome v).tables = v.tables ∧ (next outcome v).outcome = v.outcome)
    (houtcome : w'.outcome = some outcome) (hfailed : outcome ≠ .committed) :
    w'.tables = w.tables := by
  rw [← h, transact] at houtcome ⊢
  cases htransaction : transaction fault body w.tables with
  | mk tables result =>
    rw [htransaction] at houtcome
    dsimp only at houtcome ⊢
    rw [(hnext ..).2, Option.some.injEq] at houtcome
    rw [(hnext ..).1]
    obtain ⟨hcommitted, -⟩ | ⟨-, htables⟩ := transaction_cases htransaction
    · exact absurd (houtcome.symm.trans hcommitted) hfailed
    · exact htables

theorem tables_of_failed_stepDaemon (hstep : w.stepDaemon op = some w') {outcome : Outcome}
    (hnone : w.outcome = none) (houtcome : w'.outcome = some outcome)
    (hfailed : outcome ≠ .committed) : w'.tables = w.tables := by
  cases op with
  | create | close | recover =>
    simp only [stepDaemon] at hstep
    split_ifs at hstep
    refine tables_of_failed_transact (Option.some.inj hstep) (fun result v => ?_) houtcome hfailed
    cases result <;> exact ⟨rfl, rfl⟩
  | commitActive | quarantine =>
    simp only [stepDaemon] at hstep
    split at hstep
    · refine tables_of_failed_transact (Option.some.inj hstep) (fun result v => ?_) houtcome hfailed
      cases result <;> exact ⟨rfl, rfl⟩
    · cases hstep
  | _ =>
    simp only [stepDaemon] at hstep
    grind

theorem tables_of_failed_stepReconciler (hstep : w.stepReconciler op = some w') {outcome : Outcome}
    (hnone : w.outcome = none) (houtcome : w'.outcome = some outcome)
    (hfailed : outcome ≠ .committed) : w'.tables = w.tables := by
  cases op with
  | finalizeClosed =>
    simp only [stepReconciler] at hstep
    split at hstep
    · exact tables_of_failed_transact (Option.some.inj hstep) (fun _ _ => ⟨rfl, rfl⟩) houtcome
        hfailed
    · cases hstep
  | _ =>
    simp only [stepReconciler] at hstep
    grind

/-- **A transaction that fails** changes nothing. -/
theorem tables_of_failed (hstep : w.step op = some w') {outcome : Outcome}
    (houtcome : w'.outcome = some outcome) (hfailed : outcome ≠ .committed) :
    w'.tables = w.tables := by
  obtain ⟨generation, rfl, rfl⟩ | ⟨-, hthread⟩ | ⟨-, hthread⟩ := step_cases hstep
  · rfl
  · have htables := tables_of_failed_stepReconciler hthread rfl houtcome hfailed
    exact htables
  · have htables := tables_of_failed_stepDaemon hthread rfl houtcome hfailed
    exact htables

/-- **Public rows are backed by ownership** in every reachable state, and no transaction that fails
changes a table. -/
theorem backed_of_run (runtimeSessions : Table String RuntimeRow) (generation : List UInt8)
    (ops : List OwnershipOp) (w : SessionOwnership)
    (hrun : exec step (init runtimeSessions generation) ops = some w) :
    w.Backed ∧ ∀ op w' outcome, w.step op = some w' → w'.outcome = some outcome →
      outcome ≠ .committed → w'.tables = w.tables := by
  refine ⟨backed_of_covered fun id => ?_, fun op w' outcome hstep => tables_of_failed hstep⟩
  have hinit : (init runtimeSessions generation).Covered id := fun _ => .inr ⟨rfl, nofun⟩
  exact exec_induction (I := fun v => v.Covered id) (fun _ _ _ h => h.step) hinit hrun

/-- The daemon is killed after the backfill: the session that can be migrated is still public, and the
other one is not. -/
theorem backed_of_backfill : ∃ w,
    exec step (init (AList.insert "b" ⟨.running, ⟨2, 4, 0, 0⟩, none⟩ (AList.insert "a"
        ⟨.running, ⟨2, 4, 0, 0⟩, some (.unixSocket "s" 7 .running)⟩ ∅)) [0])
      [.recover [⟨"a", .running, some (.unixSocket "s" 7 .running)⟩, ⟨"b", .running, none⟩]
        (fun _ => ([], [])) none, .crash [1]] = some w ∧
      (w.tables.runtimeSessions.lookup "a").isSome ∧
      (w.tables.runtimeSessions.lookup "b").isNone ∧ w.Backed := by
  let runtimeSessions : Table String RuntimeRow := AList.insert "b" ⟨.running, ⟨2, 4, 0, 0⟩, none⟩
    (AList.insert "a" ⟨.running, ⟨2, 4, 0, 0⟩, some (.unixSocket "s" 7 .running)⟩ ∅)
  let ops : List OwnershipOp :=
    [.recover [⟨"a", .running, some (.unixSocket "s" 7 .running)⟩, ⟨"b", .running, none⟩]
      (fun _ => ([], [])) none, .crash [1]]
  have hrun : ((exec step (init runtimeSessions [0]) ops).any fun w =>
      (w.tables.runtimeSessions.lookup "a").isSome &&
        (w.tables.runtimeSessions.lookup "b").isNone) = true := by
    decide +kernel
  obtain ⟨w, hw, hpublic⟩ := (Option.any_eq_true ..).mp hrun
  obtain ⟨ha, hb⟩ := (Bool.and_eq_true ..).mp hpublic
  exact ⟨w, hw, ha, hb, (backed_of_run runtimeSessions [0] ops w hw).1⟩

end SessionOwnership

end Termd.Ownership
