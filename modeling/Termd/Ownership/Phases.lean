import Termd.Ownership.Changes

/-!
# Phases move forward

A row that is in the phase `cleaning` is there until it is deleted, a row becomes active only when it
was prepared, the reconciler leaves the rows alone that the running daemon is creating, and the
operation under which a session is closed is chosen once. The first of these fails: `recover`
quarantines a session on a phase that it read before, and the update asks for no phase.

## Main definitions

* `SessionOwnership.Forward`: what a step must not do to the phases
* `SessionOwnership.sparing`: the guard of the step that goes wrong

## Main results

* `SessionOwnership.forward_iff_sparing`: the runs in which phases move forward
-/

namespace Termd.Ownership

namespace SessionOwnership

variable {w w' : SessionOwnership} {op : OwnershipOp} {id : String}

/-- The row is of a session that is being created. -/
def early (row : OwnershipRow) : Prop := row.phase = .preparing ∨ row.phase = .prepared

/-- **Phases move forward** in a step. -/
structure Forward (w : SessionOwnership) (op : OwnershipOp) (w' : SessionOwnership) : Prop where
  cleaning_left : ∀ id row, w.tables.ownership.lookup id = some row → row.phase = .cleaning →
    (∃ row', w'.tables.ownership.lookup id = some row' ∧ row'.phase = .cleaning) ∨
      w'.tables.ownership.lookup id = none ∧
        ∃ fault rows, op = .finalizeClosed fault ∧ w.reconciler = .finalizing id rows
  active_from_prepared : ∀ id row', w'.tables.ownership.lookup id = some row' →
    row'.phase = .active → ∃ row, w.tables.ownership.lookup id = some row ∧
      (row.phase = .active ∨ row.phase = .prepared)
  own_creates_kept : op.byReconciler → ∀ id row, w.tables.ownership.lookup id = some row →
    early row → row.ownerGeneration = some w.generation →
      w'.tables.ownership.lookup id = some row
  close_operation_kept : ∀ id row row' operationId, w.tables.ownership.lookup id = some row →
    row.closeOperationId = some operationId → w'.tables.ownership.lookup id = some row' →
      row'.closeOperationId = some operationId

/-- **The guard**: a session is not quarantined when its row is in the phase `cleaning`. -/
def sparing (w : SessionOwnership) : OwnershipOp → Bool
  | .quarantine fault =>
    match w.daemon with
    | .quarantining id _ _ =>
      fault.any (Fault.hits 2) ||
        (w.tables.ownership.lookup id).all fun row => row.phase ≠ .cleaning
    | _ => true
  | _ => true

/-! ### What the reconciler works on -/

/-- The reconciler may change the row: the running daemon is not creating the session. -/
def Listed (w : SessionOwnership) (id : String) : Prop :=
  ∃ row, w.tables.ownership.lookup id = some row ∧
    (early row → row.ownerGeneration ≠ some w.generation)

/-- The sessions that are to be reconciled are different, and the reconciler may change them. -/
def AllListed (w : SessionOwnership) (ids : List String) : Prop :=
  ids.Nodup ∧ ∀ id ∈ ids, w.Listed id

/-- **The invariant**: whatever the reconciler has read, it may change. -/
def Reconciles (w : SessionOwnership) : ReconcilerPhase → Prop
  | .idle => True
  | .interrupted ids => w.AllListed ids
  | .abandoned creates => w.AllListed (creates.map Prod.fst)
  | .reconciling rows => w.AllListed (rows.map CleanupRow.sessionId)
  | .marking id next => w.Listed id ∧ w.Reconciles next
  | .reading _ next => w.Reconciles next
  | .cleanup row rows => w.AllListed (row.sessionId :: rows.map CleanupRow.sessionId)
  | .finalizing id rows => w.AllListed (id :: rows.map CleanupRow.sessionId)

/-- What becomes of a row that is changed. -/
theorem row_of_change {row : OwnershipRow} {run : Option RuntimeRow} {entry' : Entry}
    (h : Change w op id (some row, run) entry') :
    (∃ row', entry'.1 = some row' ∧ row'.ownerGeneration = row.ownerGeneration ∧
      (early row' → early row)) ∨
      op.byReconciler ∧ ((∃ expectedSocket creates,
        w.reconciler = .abandoned ((id, expectedSocket) :: creates)) ∨
        ∃ rows, w.reconciler = .finalizing id rows) := by
  cases h with
  | recordPrepared _ hphase => exact .inl ⟨_, rfl, rfl, fun _ => .inl hphase⟩
  | commitActive _ hphase => exact .inl ⟨_, rfl, rfl, fun _ => .inr hphase⟩
  | markCleaning => exact .inl ⟨_, rfl, rfl, by simp [early]⟩
  | quarantine => exact .inl ⟨_, rfl, rfl, by simp [early]⟩
  | migrateLegacy _ hphase => exact .inl ⟨_, rfl, rfl, fun _ => .inr hphase⟩
  | close => exact .inl ⟨_, rfl, rfl, by simp [early]⟩
  | markStable => exact .inl ⟨_, rfl, rfl, by simp [early]⟩
  | dropPreparing hreconciler => exact .inr ⟨rfl, .inl ⟨_, _, hreconciler⟩⟩
  | finalizeClosed hreconciler => exact .inr ⟨rfl, .inr ⟨_, hreconciler⟩⟩
  | finalizeNothing hreconciler => exact .inl ⟨row, rfl, rfl, fun h => h⟩

/-- A session that the reconciler may change stays one, unless the reconciler deletes it. -/
theorem Listed.step (h : w.Listed id) (hstep : w.step op = some w')
    (hgeneration : w'.generation = w.generation)
    (hkept : op.byReconciler →
      (∀ expectedSocket creates, w.reconciler ≠ .abandoned ((id, expectedSocket) :: creates)) ∧
        ∀ rows, w.reconciler ≠ .finalizing id rows) : w'.Listed id := by
  obtain ⟨row, hrow, hother⟩ := h
  obtain ⟨row', hrow', hsame, hearly⟩ : ∃ row', w'.tables.ownership.lookup id = some row' ∧
      row'.ownerGeneration = row.ownerGeneration ∧ (early row' → early row) := by
    obtain hentry | hchange := step_entry hstep id
    · exact ⟨row, (congrArg Prod.fst hentry).trans hrow, rfl, fun h => h⟩
    · have hentry : w.tables.entry id = (some row, (w.tables.entry id).2) := Prod.ext hrow rfl
      rw [hentry] at hchange
      refine (row_of_change hchange).resolve_right ?_
      rintro ⟨hop, ⟨expectedSocket, creates, hreconciler⟩ | ⟨rows, hreconciler⟩⟩
      · exact (hkept hop).1 _ _ hreconciler
      · exact (hkept hop).2 _ hreconciler
  refine ⟨row', hrow', fun h => ?_⟩
  rw [hsame, hgeneration]
  exact hother (hearly h)

theorem AllListed.mono (hmono : ∀ id, w.Listed id → w'.Listed id) {ids : List String}
    (h : w.AllListed ids) : w'.AllListed ids :=
  ⟨h.1, fun id hid => hmono id (h.2 id hid)⟩

theorem AllListed.head {ids : List String} (h : w.AllListed (id :: ids)) : w.Listed id :=
  h.2 id List.mem_cons_self

theorem AllListed.tail {ids : List String} (h : w.AllListed (id :: ids)) : w.AllListed ids :=
  ⟨h.1.of_cons, fun _ hmem => h.2 _ (List.mem_cons_of_mem _ hmem)⟩

theorem Reconciles.mono (hmono : ∀ id, w.Listed id → w'.Listed id) {phase : ReconcilerPhase}
    (h : w.Reconciles phase) : w'.Reconciles phase := by
  induction phase with
  | idle => trivial
  | interrupted ids => exact AllListed.mono hmono h
  | abandoned creates => exact AllListed.mono hmono h
  | reconciling rows => exact AllListed.mono hmono h
  | marking id next ih => exact ⟨hmono id h.1, ih h.2⟩
  | reading id next ih => exact ih h
  | cleanup row rows => exact AllListed.mono hmono h
  | finalizing id rows => exact AllListed.mono hmono h

theorem listed_interruptedCreates : w.AllListed (w.tables.interruptedCreates w.generation) := by
  refine ⟨?_, fun id hid => ?_⟩
  · rw [← List.map_id (w.tables.interruptedCreates w.generation)]
    refine Table.nodup_select _ fun k row a ha => ?_
    split_ifs at ha
    exact (Option.some.inj ha).symm
  · obtain ⟨k, row, hrow, hid⟩ := Table.mem_select.mp hid
    split_ifs at hid with hcreate
    obtain rfl := Option.some.inj hid
    exact ⟨row, hrow, fun _ => of_decide_eq_true hcreate.2.2⟩

theorem listed_abandonedCreates :
    w.AllListed ((w.tables.abandonedCreates w.generation).map Prod.fst) := by
  refine ⟨?_, fun id hid => ?_⟩
  · refine Table.nodup_select _ fun k row a ha => ?_
    split_ifs at ha
    rw [← Option.some.inj ha]
  · obtain ⟨create, hcreate, rfl⟩ := List.mem_map.mp hid
    obtain ⟨k, row, hrow, hcreate⟩ := Table.mem_select.mp hcreate
    split_ifs at hcreate with hother
    obtain rfl := Option.some.inj hcreate
    exact ⟨row, hrow, fun _ => of_decide_eq_true hother.2⟩

/-- What the query of `reconcile_once` returns. -/
theorem mem_cleanupRows {t : Tables} {cleanupRow : CleanupRow} :
    cleanupRow ∈ t.cleanupRows ↔ ∃ row, t.ownership.lookup cleanupRow.sessionId = some row ∧
      (row.phase = .active ∨ row.phase = .cleaning) ∧ row.socketPath = some cleanupRow.socketPath ∧
      row.supervisorPid = some cleanupRow.supervisorPid ∧ row.phase = cleanupRow.phase ∧
      row.capability = cleanupRow.capability ∧ row.closeOperationId = cleanupRow.operationId ∧
      row.legacyProtocol = cleanupRow.legacyProtocol := by
  rw [Tables.cleanupRows, Table.mem_select]
  constructor
  · rintro ⟨id, row, hrow, hselect⟩
    split at hselect
    · rename_i socketPath supervisorPid hsocket hpid
      split_ifs at hselect with hphase
      obtain rfl := Option.some.inj hselect
      exact ⟨row, hrow, hphase, hsocket, hpid, rfl, rfl, rfl, rfl⟩
    · cases hselect
  · rintro ⟨row, hrow, hphase, hsocket, hpid, hphase', hcapability, hoperation, hlegacy⟩
    refine ⟨_, row, hrow, ?_⟩
    rw [hsocket, hpid]
    dsimp only
    rw [if_pos hphase, hphase', hcapability, hoperation, hlegacy]

theorem listed_cleanupRows :
    w.AllListed (w.tables.cleanupRows.map CleanupRow.sessionId) := by
  refine ⟨?_, fun id hid => ?_⟩
  · refine Table.nodup_select _ fun k row a ha => ?_
    split at ha
    · split_ifs at ha
      rw [← Option.some.inj ha]
    · cases ha
  · obtain ⟨cleanupRow, hcleanupRow, rfl⟩ := List.mem_map.mp hid
    obtain ⟨row, hrow, hphase, -⟩ := mem_cleanupRows.mp hcleanupRow
    refine ⟨row, hrow, fun hearly => ?_⟩
    obtain hphase | hphase := hphase <;> simp [early, hphase] at hearly

/-- **A step of the reconciler** keeps to what it may change. -/
theorem Reconciles.stepReconciler (h : w.Reconciles w.reconciler)
    (hstep : w.stepReconciler op = some w')
    (hkeep : ∀ id, w.Listed id →
      ((∀ expectedSocket creates, w.reconciler ≠ .abandoned ((id, expectedSocket) :: creates)) ∧
        ∀ rows, w.reconciler ≠ .finalizing id rows) → w'.Listed id) :
    w'.Reconciles w'.reconciler := by
  cases op with
  | interruptedCreates fault =>
    simp only [SessionOwnership.stepReconciler] at hstep
    split at hstep
    · obtain rfl := Option.some.inj hstep
      cases fault with
      | true => trivial
      | false => exact listed_interruptedCreates
    · cases hstep
  | abandonedCreates fault =>
    simp only [SessionOwnership.stepReconciler] at hstep
    split at hstep
    · rename_i id ids hreconciler
      obtain rfl := Option.some.inj hstep
      rw [hreconciler] at h
      exact ⟨AllListed.head h, AllListed.tail h⟩
    · obtain rfl := Option.some.inj hstep
      cases fault with
      | true => trivial
      | false => exact listed_abandonedCreates
    · cases hstep
  | dropPreparing socketExists fault =>
    simp only [SessionOwnership.stepReconciler] at hstep
    split at hstep
    · rename_i id expectedSocket creates hreconciler
      rw [hreconciler] at h hkeep
      have htail : w'.AllListed (creates.map Prod.fst) := by
        refine ⟨(AllListed.tail h).1, fun k hk => hkeep k ((AllListed.tail h).2 k hk) ⟨?_, by simp⟩⟩
        rintro expectedSocket' creates' hsame
        obtain rfl : id = k := (Prod.mk.inj (List.cons.inj (ReconcilerPhase.abandoned.inj hsame)).1).1
        exact (List.nodup_cons.mp h.1).1 hk
      split_ifs at hstep
      · obtain rfl := Option.some.inj hstep
        trivial
      · obtain rfl := Option.some.inj hstep
        exact htail
      · obtain rfl := Option.some.inj hstep
        exact htail
    · cases hstep
  | cleanupRows fault =>
    simp only [SessionOwnership.stepReconciler] at hstep
    split at hstep
    · obtain rfl := Option.some.inj hstep
      cases fault with
      | true => trivial
      | false => exact listed_cleanupRows
    · cases hstep
  | reconcileRow naturalExit =>
    simp only [SessionOwnership.stepReconciler] at hstep
    split at hstep
    · obtain rfl := Option.some.inj hstep
      trivial
    · rename_i row rows hreconciler
      obtain rfl := Option.some.inj hstep
      rw [hreconciler] at h
      dsimp only
      split_ifs
      · exact ⟨AllListed.head h, AllListed.tail h⟩
      · exact AllListed.tail h
      · split
        · exact h
        · exact ⟨AllListed.head h, h⟩
    · cases hstep
  | markStable proposed fault =>
    simp only [SessionOwnership.stepReconciler] at hstep
    split at hstep
    · rename_i id next hreconciler
      rw [hreconciler] at h hkeep
      have hnext := h.2.mono fun k hk => hkeep k hk ⟨by simp, by simp⟩
      split_ifs at hstep
      · obtain rfl := Option.some.inj hstep
        trivial
      · obtain rfl := Option.some.inj hstep
        exact hnext
    · cases hstep
  | readStable fault =>
    simp only [SessionOwnership.stepReconciler] at hstep
    split at hstep
    · rename_i id next hreconciler
      rw [hreconciler] at h
      have hnext : w.Reconciles next := h
      split_ifs at hstep
      · obtain rfl := Option.some.inj hstep
        trivial
      · obtain rfl := Option.some.inj hstep
        refine Reconciles.mono (fun _ hk => ?_) hnext
        exact hk
    · cases hstep
  | cleanup confirmed =>
    simp only [SessionOwnership.stepReconciler] at hstep
    split at hstep
    · rename_i row rows hreconciler
      obtain rfl := Option.some.inj hstep
      rw [hreconciler] at h
      cases confirmed with
      | true => exact h
      | false => exact AllListed.tail h
    · cases hstep
  | finalizeClosed fault =>
    simp only [SessionOwnership.stepReconciler] at hstep
    split at hstep
    · rename_i id rows hreconciler
      rw [hreconciler] at h hkeep
      have htail : w'.AllListed (rows.map CleanupRow.sessionId) := by
        refine ⟨(AllListed.tail h).1, fun k hk => hkeep k ((AllListed.tail h).2 k hk) ⟨by simp, ?_⟩⟩
        rintro rows' hsame
        obtain rfl : id = k := (ReconcilerPhase.finalizing.inj hsame).1
        exact (List.nodup_cons.mp h.1).1 hk
      obtain hphase | hphase : w'.reconciler = .reconciling rows ∨ w'.reconciler = .idle := by
        rw [← Option.some.inj hstep, transact]
        dsimp only
        split_ifs
        · exact .inl rfl
        · exact .inr rfl
      · rw [hphase]
        exact htail
      · rw [hphase]
        trivial
    · cases hstep
  | _ => cases hstep

/-- **The invariant is kept** by every step. -/
theorem Reconciles.step (h : w.Reconciles w.reconciler) (hstep : w.step op = some w') :
    w'.Reconciles w'.reconciler := by
  obtain ⟨generation, rfl, rfl⟩ | ⟨hop, hthread⟩ | ⟨hop, hthread⟩ := step_cases hstep
  · trivial
  · obtain ⟨hgeneration, -⟩ := stepReconciler_frame hthread
    refine Reconciles.stepReconciler (w := { w with outcome := none }) ?_ hthread ?_
    · refine Reconciles.mono (fun _ hid => ?_) h
      exact hid
    · exact fun id hid hkept => Listed.step hid hstep hgeneration fun _ => hkept
  · obtain ⟨hreconciler, hgeneration⟩ := stepDaemon_frame hthread
    rw [hreconciler]
    refine h.mono fun id hid => hid.step hstep hgeneration ?_
    exact fun hreconciler => absurd hreconciler hop

/-! ### Forward -/

theorem entry_of_lookup {t : Tables} {row : OwnershipRow} (h : t.ownership.lookup id = some row) :
    t.entry id = (some row, (t.entry id).2) := Prod.ext h rfl

theorem cleaning_of_change {row : OwnershipRow} {run : Option RuntimeRow} {entry' : Entry}
    (h : Change w op id (some row, run) entry') (hrow : w.tables.ownership.lookup id = some row)
    (hphase : row.phase = .cleaning) (hguard : w.sparing op) :
    (∃ row', entry'.1 = some row' ∧ row'.phase = .cleaning) ∨
      entry'.1 = none ∧
        ∃ fault rows, op = .finalizeClosed fault ∧ w.reconciler = .finalizing id rows := by
  cases h with
  | recordPrepared _ hpreparing => cases hphase.symm.trans hpreparing
  | commitActive _ hprepared => cases hphase.symm.trans hprepared
  | markCleaning => exact .inl ⟨_, rfl, rfl⟩
  | quarantine hdaemon hfault =>
    simp [sparing, hdaemon, hrow, hphase, hfault] at hguard
  | migrateLegacy _ hprepared => cases hphase.symm.trans hprepared
  | close => exact .inl ⟨_, rfl, rfl⟩
  | markStable => exact .inl ⟨_, rfl, rfl⟩
  | dropPreparing _ hpreparing => cases hphase.symm.trans hpreparing
  | finalizeClosed hreconciler => exact .inr ⟨rfl, _, _, rfl, hreconciler⟩
  | finalizeNothing => exact .inl ⟨row, rfl, hphase⟩

/-- A row becomes active only when it was prepared. -/
theorem active_of_change {entry entry' : Entry} {row' : OwnershipRow}
    (h : Change w op id entry entry') (hrow' : entry'.1 = some row') (hactive : row'.phase = .active) :
    ∃ row, entry.1 = some row ∧ (row.phase = .active ∨ row.phase = .prepared) := by
  cases h with
  | commitActive _ hprepared => exact ⟨_, rfl, .inr hprepared⟩
  | migrateLegacy _ hprepared => exact ⟨_, rfl, .inr hprepared⟩
  | finalizeNothing => exact ⟨row', hrow', .inl hactive⟩
  | backfill hfilled =>
    cases hfilled <;>
    · obtain rfl := Option.some.inj hrow'
      cases hactive
  | create | recordPrepared | markCleaning | quarantine | close | markStable =>
    obtain rfl := Option.some.inj hrow'
    cases hactive
  | quarantineNothing | dropPreparing | finalizeClosed => cases hrow'

/-- The operation under which a session is closed is kept. -/
theorem closeOperationId_of_change {row row' : OwnershipRow} {run : Option RuntimeRow}
    {entry' : Entry} {operationId : ℕ} (h : Change w op id (some row, run) entry')
    (hrow' : entry'.1 = some row') (hoperation : row.closeOperationId = some operationId) :
    row'.closeOperationId = some operationId := by
  cases h with
  | migrateLegacy =>
    obtain rfl := Option.some.inj hrow'
    dsimp only
    split_ifs <;> simp [hoperation]
  | close | markStable =>
    obtain rfl := Option.some.inj hrow'
    simp [hoperation]
  | recordPrepared | commitActive | markCleaning | quarantine | finalizeNothing =>
    obtain rfl := Option.some.inj hrow'
    exact hoperation
  | dropPreparing | finalizeClosed => cases hrow'

/-- The reconciler leaves alone what the running daemon is creating. -/
theorem own_of_change (h : w.Reconciles w.reconciler) {row : OwnershipRow}
    {run : Option RuntimeRow} {entry' : Entry} (hchange : Change w op id (some row, run) entry')
    (hop : op.byReconciler) (hrow : w.tables.ownership.lookup id = some row) (hearly : early row)
    (hown : row.ownerGeneration = some w.generation) : entry'.1 = some row := by
  have hforeign : ¬w.Listed id := by
    rintro ⟨row', hrow', hother⟩
    obtain rfl : row = row' := Option.some.inj (hrow.symm.trans hrow')
    exact hother hearly hown
  cases hchange with
  | markStable hreconciler =>
    rw [hreconciler] at h
    exact absurd h.1 hforeign
  | dropPreparing hreconciler =>
    rw [hreconciler] at h
    exact absurd (AllListed.head h) hforeign
  | finalizeClosed hreconciler =>
    rw [hreconciler] at h
    exact absurd (AllListed.head h) hforeign
  | finalizeNothing => rfl
  | _ => cases hop

/-- **An allowed step** moves phases forward. -/
theorem Reconciles.forward (h : w.Reconciles w.reconciler) (hguard : w.sparing op)
    (hstep : w.step op = some w') : w.Forward op w' where
  cleaning_left id row hrow hphase := by
    obtain hsame | hchange := step_entry hstep id
    · exact .inl ⟨row, (congrArg Prod.fst hsame).trans hrow, hphase⟩
    · rw [entry_of_lookup hrow] at hchange
      exact cleaning_of_change hchange hrow hphase hguard
  active_from_prepared id row' hrow' hactive := by
    obtain hsame | hchange := step_entry hstep id
    · exact ⟨row', (congrArg Prod.fst hsame).symm.trans hrow', .inl hactive⟩
    · exact active_of_change hchange hrow' hactive
  own_creates_kept hop id row hrow hearly hown := by
    obtain hsame | hchange := step_entry hstep id
    · exact (congrArg Prod.fst hsame).trans hrow
    · rw [entry_of_lookup hrow] at hchange
      exact own_of_change h hchange hop hrow hearly hown
  close_operation_kept id row row' operationId hrow hoperation hrow' := by
    obtain hsame | hchange := step_entry hstep id
    · obtain rfl := Option.some.inj (hrow'.symm.trans ((congrArg Prod.fst hsame).trans hrow))
      exact hoperation
    · rw [entry_of_lookup hrow] at hchange
      exact closeOperationId_of_change hchange hrow' hoperation

/-- A step that is not allowed takes a row out of the phase `cleaning`. -/
theorem not_forward_of_not_sparing (hguard : ¬w.sparing op) (hstep : w.step op = some w') :
    ¬w.Forward op w' := by
  intro hforward
  cases op with
  | quarantine fault =>
    obtain ⟨generation, hop, -⟩ | ⟨hop, -⟩ | ⟨-, hstep⟩ := step_cases hstep
    · cases hop
    · cases hop
    · simp only [stepDaemon] at hstep
      split at hstep
      · rename_i id diagnostic records hdaemon
        simp only [sparing, hdaemon, Bool.or_eq_true, not_or] at hguard
        obtain ⟨hfault, hcleaning⟩ := hguard
        obtain ⟨row, hrow, hphase⟩ : ∃ row, w.tables.ownership.lookup id = some row ∧
            row.phase = .cleaning := by
          cases hrow : w.tables.ownership.lookup id with
          | none => simp [hrow] at hcleaning
          | some row => exact ⟨row, rfl, by simpa [hrow] using hcleaning⟩
        have hquarantined : w'.tables.ownership.lookup id =
            some { row with phase := .quarantined, diagnostic := some diagnostic } := by
          have hbody := transaction_of_not_hits (Ownership.quarantine id diagnostic) w.tables hfault rfl
          rw [← Option.some.inj hstep, transact, hbody]
          simp [Tables.deleteRuntime, Tables.updateOwnership, Table.lookup_updateWhere, hrow]
        obtain ⟨row', hrow', hphase'⟩ | ⟨hnone, -⟩ := hforward.cleaning_left id row hrow hphase
        · rw [hquarantined] at hrow'
          obtain rfl := Option.some.inj hrow'
          cases hphase'
        · rw [hquarantined] at hnone
          cases hnone
      · cases hstep
  | _ => exact hguard rfl

/-- **Phases move forward in every step of a run exactly when no session is quarantined that is being
cleaned up.** -/
theorem forward_iff_sparing (runtimeSessions : Table String RuntimeRow) (generation : List UInt8)
    (ops : List OwnershipOp) (w : SessionOwnership)
    (hrun : exec step (init runtimeSessions generation) ops = some w) :
    (∀ front op back v v', ops = front ++ op :: back →
      exec step (init runtimeSessions generation) front = some v → v.step op = some v' →
        v.Forward op v') ↔
      Along step (fun w op => w.sparing op) (init runtimeSessions generation) ops := by
  rw [along_iff_forall_front]
  refine forall_congr' fun front => forall_congr' fun op => forall_congr' fun back =>
    forall_congr' fun v => ?_
  constructor
  · intro h hops hfront
    by_contra hguard
    -- the run goes on, so that the step is enabled
    rw [hops, exec_append, hfront, Option.bind_some, exec_cons] at hrun
    obtain ⟨v', hstep, -⟩ := Option.bind_eq_some_iff.mp hrun
    exact not_forward_of_not_sparing hguard hstep (h v' hops hfront hstep)
  · intro h v' hops hfront hstep
    have hinit : (init runtimeSessions generation).Reconciles .idle := trivial
    have hreconciles : v.Reconciles v.reconciler :=
      exec_induction (I := fun v : SessionOwnership => v.Reconciles v.reconciler)
        (fun _ _ _ h => h.step) hinit hfront
    exact hreconciles.forward (h hops hfront) hstep

/-- A session is created, closed and cleaned up. -/
theorem forward_of_close : ∃ v w : SessionOwnership,
    exec step (init ∅ [0])
      [.create "a" ⟨2, 4, 0, 0⟩ [1] [2] (some "s") none,
        .recordPrepared (.unixSocket "s" 7 .running) false,
        .spawned (some (.unixSocket "s" 7 .running)), .prepare true, .commitActive none,
        .close "a" 5 none, .interruptedCreates false, .abandonedCreates false, .cleanupRows false,
        .reconcileRow false, .cleanup true] = some v ∧
      v.step (.finalizeClosed none) = some w ∧ w.tables.ownership.lookup "a" = none ∧
      v.Forward (.finalizeClosed none) w := by
  let front : List OwnershipOp := [.create "a" ⟨2, 4, 0, 0⟩ [1] [2] (some "s") none,
    .recordPrepared (.unixSocket "s" 7 .running) false,
    .spawned (some (.unixSocket "s" 7 .running)), .prepare true, .commitActive none,
    .close "a" 5 none, .interruptedCreates false, .abandonedCreates false, .cleanupRows false,
    .reconcileRow false, .cleanup true]
  have hrun : (decide (Along step (fun w op => w.sparing op = true) (init ∅ [0])
      (front ++ [.finalizeClosed none])) && (exec step (init ∅ [0]) front).any fun v =>
        (v.step (.finalizeClosed none)).any fun w =>
          (w.tables.ownership.lookup "a").isNone) = true := by
    decide +kernel
  rw [Bool.and_eq_true, decide_eq_true_eq] at hrun
  obtain ⟨halong, hrun⟩ := hrun
  obtain ⟨v, hv, hrun⟩ := (Option.any_eq_true ..).mp hrun
  obtain ⟨w, hw, hnone⟩ := (Option.any_eq_true ..).mp hrun
  have hwhole : exec step (init ∅ [0]) (front ++ [.finalizeClosed none]) = some w := by
    rw [exec_snoc, hv]
    exact hw
  refine ⟨v, w, hv, hw, by simpa using hnone, ?_⟩
  exact (forward_iff_sparing ∅ [0] _ w hwhole).mpr halong front _ [] v w rfl hv hw

/-- The child of a session exits while a new daemon reconnects to it. The reconciler marks the session
for cleanup, and then the daemon quarantines it. -/
theorem not_forward_of_quarantine :
    ¬∀ (runtimeSessions : Table String RuntimeRow) (generation : List UInt8)
      (front : List OwnershipOp) (op : OwnershipOp) (v v' : SessionOwnership),
      exec step (init runtimeSessions generation) front = some v → v.step op = some v' →
        v.Forward op v' := by
  intro h
  let front : List OwnershipOp := [.create "a" ⟨2, 4, 0, 0⟩ [1] [2] (some "s") none,
    .recordPrepared (.unixSocket "s" 7 .running) false,
    .spawned (some (.unixSocket "s" 7 .running)), .prepare true, .commitActive none, .crash [3],
    .recover [⟨"a", .running, some (.unixSocket "s" 7 .running)⟩] (fun _ => ([], [])) none,
    .readPhase false, .activeEvidenceMatches false, .interruptedCreates false,
    .abandonedCreates false, .cleanupRows false, .reconcileRow true, .markStable 5 false,
    .reconnect false]
  have hrun : ((exec step (init ∅ [0]) front).any fun v =>
      !v.sparing (.quarantine none) && (v.step (.quarantine none)).isSome) = true := by
    decide +kernel
  obtain ⟨v, hv, hrun⟩ := (Option.any_eq_true ..).mp hrun
  rw [Bool.and_eq_true, Bool.not_eq_true'] at hrun
  obtain ⟨v', hv'⟩ := Option.isSome_iff_exists.mp hrun.2
  exact not_forward_of_not_sparing (Bool.eq_false_iff.mp hrun.1) hv' (h ∅ [0] front _ v v' hv hv')

end SessionOwnership

end Termd.Ownership
