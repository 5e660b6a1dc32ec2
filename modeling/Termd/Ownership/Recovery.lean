import Termd.Ownership.Changes

/-!
# Recovery beside the reconciler

When a daemon starts, `recover` goes over the records of the daemon before it, while the
reconciler is already running. For each record it reads the phase of the row, and for some it
reads the row once more: `active_evidence_matches` asks for an active row, and the capability of a
row that is to be migrated has to be there. When the row has changed in between, that query finds
nothing, and its error ends `recover` for all records that are left.

Here no statement of `recover` fails for another reason. The reconciler may do what it wants, and
so may the backend.

## Main definitions

* `RecoverRun`: a call of `recover`, with the records that it has visited and the answers of the
  backend
* `RecoverRun.Isolated`: no record stops the recovery of the others
* `RecoverRun.undisturbed`: the row that is read again is still there

## Main results

* `RecoverRun.isolated_iff_undisturbed`: the runs in which sessions are isolated from each other
-/

namespace Termd.Ownership

inductive RecoverResult
  | ok (active : List SessionStateRecord)
  | error
deriving DecidableEq

/-- A statement of `recover` or an answer that it gets, or a step of the reconciler. -/
inductive RecoverOp
  | reconciler (op : OwnershipOp)
  | readPhase
  | activeEvidenceMatches
  | reconnect (ok : Bool)
  | quarantine
  | install (installed : Option Bool)
  | migrateLegacy (proposed : ℕ)

namespace RecoverOp

/-- No statement of `recover` fails by itself. -/
def statement : RecoverOp → OwnershipOp
  | reconciler op => op
  | readPhase => .readPhase false
  | activeEvidenceMatches => .activeEvidenceMatches false
  | reconnect ok => .reconnect ok
  | quarantine => .quarantine none
  | install installed => .install false installed
  | migrateLegacy proposed => .migrateLegacy proposed false

def isReconciler : RecoverOp → Bool
  | reconciler _ => true
  | _ => false

end RecoverOp

/-- A call of `recover`. `visited` are the records whose phase was read, `reconnects` is what the
backend has answered, and `statements` counts the steps of the call. -/
structure RecoverRun where
  ownership : SessionOwnership
  active : List SessionStateRecord := []
  result : Option RecoverResult := none
  visited : List SessionStateRecord := []
  reconnects : List (SessionStateRecord × Bool) := []
  statements : ℕ := 0

namespace RecoverRun

/-- The call after its backfill. -/
def start (w : SessionOwnership) (records : List SessionStateRecord)
    (drawn : String → List UInt8 × List UInt8) : Option RecoverRun :=
  (w.step (.recover records drawn none)).map fun ownership => { ownership }

/-- What a step means for the call. The thread is idle again when `recover` has returned. -/
def advance (r : RecoverRun) (op : RecoverOp) (ownership : SessionOwnership) : RecoverRun :=
  match op, r.ownership.daemon with
  | .reconciler _, _ => { r with ownership }
  | .readPhase, .recovering [] =>
    { r with ownership, result := some (.ok r.active), statements := r.statements + 1 }
  | .readPhase, .recovering (record :: _) =>
    { r with ownership, visited := r.visited ++ [record], statements := r.statements + 1 }
  | .reconnect ok, .reconnecting record _ _ =>
    { r with
      ownership
      active := if ok then r.active ++ [record] else r.active
      reconnects := r.reconnects ++ [(record, ok)], statements := r.statements + 1 }
  | _, _ =>
    { r with
      ownership
      result := if ownership.daemon = .idle then some .error else r.result
      statements := r.statements + 1 }

def step (r : RecoverRun) (op : RecoverOp) : Option RecoverRun :=
  if op.isReconciler && !op.statement.byReconciler then none
  else (r.ownership.step op.statement).map (r.advance op)

/-- **No record stops the recovery of the others.** `recover` does not fail, and when it returns
it has visited every record and returns those that were reconnected, in the order of the records.
It always has a next step, and not too many of them. -/
structure Isolated (records : List SessionStateRecord) (r : RecoverRun) : Prop where
  not_error : r.result ≠ some .error
  ok : ∀ active, r.result = some (.ok active) →
    r.visited = records ∧ active = (r.reconnects.filter Prod.snd).map Prod.fst
  inOrder : (r.reconnects.map Prod.fst).Sublist records
  advances : r.result = none → ∃ op, op.isReconciler = false ∧ (r.step op).isSome
  bounded : r.statements ≤ 5 * records.length + 1

/-- **The guard**: a row that was active is still active when its evidence is read, and a row that
is to be migrated is still there when its capability is read. -/
def undisturbed (r : RecoverRun) : RecoverOp → Bool
  | .activeEvidenceMatches =>
    match r.ownership.daemon with
    | .matching record _ =>
      match record.restoreInfo with
      | some (.unixSocket _ _ .running) =>
        (r.ownership.tables.ownership.lookup record.sessionId).any fun row => row.phase = .active
      | _ => true
    | _ => true
  | .install _ =>
    match r.ownership.daemon with
    | .installing record _ _ => (r.ownership.tables.ownership.lookup record.sessionId).isSome
    | _ => true
  | _ => true

/-! ### The steps of the thread -/

open SessionOwnership

variable {w w' : SessionOwnership}

/-- The records that are left after the one that is worked on. -/
def remaining : DaemonPhase → Option (List SessionStateRecord)
  | .recovering records | .matching _ records | .reconnecting _ _ records
  | .quarantining _ _ records | .installing _ _ records | .migrating _ _ _ records => some records
  | _ => none

/-- The record that may still be reconnected. -/
def current : DaemonPhase → Option SessionStateRecord
  | .matching record _ | .reconnecting record _ _ | .installing record _ _
  | .migrating record _ _ _ => some record
  | _ => none

/-- How many steps are left at most. -/
def stepsLeft : DaemonPhase → ℕ
  | .recovering records => 5 * records.length + 1
  | .quarantining _ _ records => 5 * records.length + 2
  | .reconnecting _ _ records => 5 * records.length + 3
  | .matching _ records | .migrating _ _ _ records => 5 * records.length + 4
  | .installing _ _ records => 5 * records.length + 5
  | _ => 0

/-- What a step of `recover` does to the daemon thread. -/
inductive Goes (w : SessionOwnership) : RecoverOp → DaemonPhase → DaemonPhase → Prop
  | finish : Goes w .readPhase (.recovering []) .idle
  | read {record : SessionStateRecord} {records : List SessionStateRecord} :
    Goes w .readPhase (.recovering (record :: records))
      (recoverPhase record records (w.tables.ownership.lookup record.sessionId))
  | matched {record : SessionStateRecord} {records : List SessionStateRecord} {result : Bool} :
    w.activeEvidenceMatches record = some result →
      Goes w .activeEvidenceMatches (.matching record records) (matchPhase record records result)
  | noActiveRow {record : SessionStateRecord} {records : List SessionStateRecord} :
    w.activeEvidenceMatches record = none →
      Goes w .activeEvidenceMatches (.matching record records) .idle
  | reconnected {record : SessionStateRecord} {diagnostic : String}
    {records : List SessionStateRecord} :
    Goes w (.reconnect true) (.reconnecting record diagnostic records) (.recovering records)
  | unreachable {record : SessionStateRecord} {diagnostic : String}
    {records : List SessionStateRecord} :
    Goes w (.reconnect false) (.reconnecting record diagnostic records)
      (.quarantining record.sessionId diagnostic records)
  | quarantined {id diagnostic : String} {records : List SessionStateRecord} :
    Goes w .quarantine (.quarantining id diagnostic records) (.recovering records)
  | noRow {record : SessionStateRecord} {restoreInfo : PtyRestoreInfo}
    {records : List SessionStateRecord} {installed : Option Bool} :
    w.tables.ownership.lookup record.sessionId = none →
      Goes w (.install installed) (.installing record restoreInfo records) .idle
  | installed {record : SessionStateRecord} {restoreInfo : PtyRestoreInfo}
    {records : List SessionStateRecord} {installed : Bool} {row : OwnershipRow} :
    w.tables.ownership.lookup record.sessionId = some row →
      Goes w (.install (some installed)) (.installing record restoreInfo records)
        (.migrating record restoreInfo installed records)
  | unverified {record : SessionStateRecord} {restoreInfo : PtyRestoreInfo}
    {records : List SessionStateRecord} {row : OwnershipRow} :
    w.tables.ownership.lookup record.sessionId = some row →
      Goes w (.install none) (.installing record restoreInfo records)
        (.quarantining record.sessionId "legacy supervisor authority is unverified" records)
  | closing {record : SessionStateRecord} {restoreInfo : PtyRestoreInfo} {installed : Bool}
    {records : List SessionStateRecord} {proposed : ℕ} :
    Goes w (.migrateLegacy proposed) (.migrating record restoreInfo installed records)
      (.recovering records)
  | migrated {record : SessionStateRecord} {restoreInfo : PtyRestoreInfo} {installed : Bool}
    {records : List SessionStateRecord} {proposed : ℕ} :
    Goes w (.migrateLegacy proposed) (.migrating record restoreInfo installed records)
      (.reconnecting record "migrated supervisor could not be authenticated and reconnected"
        records)

/-- No statement of the backfill can fail. -/
theorem transaction_backfill (records : List SessionStateRecord)
    (drawn : String → List UInt8 × List UInt8) (t : Tables) :
    ∃ t', transaction none (backfillLegacyRecords records drawn) t = (t', .committed) := by
  suffices h : ∃ t', (backfillLegacyRecords records drawn).foldlM
      (fun t statement => statement t) t = some t' by
    obtain ⟨t', ht'⟩ := h
    exact ⟨t', transaction_of_not_hits _ t (by simp) ht'⟩
  induction records generalizing t with
  | nil => exact ⟨t, rfl⟩
  | cons record records ih =>
    have hround : ∃ u, backfillLegacyRecord record (drawn record.sessionId).1
        (drawn record.sessionId).2 t = some u := by
      cases hrow : t.ownership.lookup record.sessionId with
      | some row => exact ⟨t, by simp [backfillLegacyRecord, hrow]⟩
      | none =>
        cases hevidence : record.evidence <;>
          simp [backfillLegacyRecord, insertOwnership, Table.insertNew, hrow, hevidence]
    obtain ⟨u, hu⟩ := hround
    obtain ⟨t', ht'⟩ := ih u
    refine ⟨t', ?_⟩
    rw [backfillLegacyRecords, List.map_cons, List.foldlM_cons, hu]
    exact ht'

/-- No statement of `quarantine` can fail. -/
theorem transaction_quarantine (id diagnostic : String) (t : Tables) :
    ∃ t', transaction none (Ownership.quarantine id diagnostic) t = (t', .committed) :=
  ⟨_, transaction_of_not_hits _ t (by simp) rfl⟩

/-- A step of the reconciler leaves the daemon thread alone. -/
theorem daemon_of_reconciler {op : OwnershipOp} (hop : op.byReconciler)
    (hstep : w.step op = some w') : w'.daemon = w.daemon := by
  obtain ⟨generation, rfl, -⟩ | ⟨-, hthread⟩ | ⟨hnot, -⟩ := step_cases hstep
  · cases hop
  · exact (stepReconciler_frame hthread).2.2
  · exact absurd hop hnot

theorem step_statement {op : RecoverOp} (hop : op.isReconciler = false) :
    w.step op.statement = stepDaemon { w with outcome := none } op.statement := by
  cases op with
  | reconciler => cases hop
  | _ => rfl

/-- **What a step of `recover` does.** -/
theorem goes_of_step {op : RecoverOp} (hop : op.isReconciler = false)
    (hstep : w.step op.statement = some w') : Goes w op w.daemon w'.daemon := by
  rw [step_statement hop] at hstep
  cases op with
  | reconciler => cases hop
  | readPhase =>
    simp only [RecoverOp.statement, stepDaemon] at hstep
    split at hstep
    next hdaemon =>
      obtain rfl := Option.some.inj hstep
      exact hdaemon ▸ .finish
    next record records hdaemon =>
      obtain rfl := Option.some.inj hstep
      exact hdaemon ▸ .read
    next => cases hstep
  | activeEvidenceMatches =>
    simp only [RecoverOp.statement, stepDaemon] at hstep
    split at hstep
    next record records hdaemon =>
      have hsame : SessionOwnership.activeEvidenceMatches { w with outcome := none } record =
        w.activeEvidenceMatches record := rfl
      rw [hsame] at hstep
      cases hmatches : w.activeEvidenceMatches record with
      | none =>
        rw [hmatches] at hstep
        obtain rfl := Option.some.inj hstep
        exact hdaemon ▸ .noActiveRow hmatches
      | some result =>
        rw [hmatches] at hstep
        obtain rfl := Option.some.inj hstep
        exact hdaemon ▸ .matched hmatches
    next => cases hstep
  | reconnect ok =>
    simp only [RecoverOp.statement, stepDaemon] at hstep
    split at hstep
    next record diagnostic records hdaemon =>
      obtain rfl := Option.some.inj hstep
      cases ok with
      | true => exact hdaemon ▸ .reconnected
      | false => exact hdaemon ▸ .unreachable
    next => cases hstep
  | quarantine =>
    simp only [RecoverOp.statement, stepDaemon] at hstep
    split at hstep
    next id diagnostic records hdaemon =>
      obtain ⟨tables, hcommitted⟩ := transaction_quarantine id diagnostic w.tables
      simp only [transact, hcommitted, if_pos] at hstep
      obtain rfl := Option.some.inj hstep
      exact hdaemon ▸ .quarantined
    next => cases hstep
  | install installed =>
    simp only [RecoverOp.statement, stepDaemon] at hstep
    split at hstep
    next record restoreInfo records hdaemon =>
      cases hrow : w.tables.ownership.lookup record.sessionId with
      | none =>
        rw [if_pos (Or.inr (by rw [hrow]; rfl))] at hstep
        obtain rfl := Option.some.inj hstep
        exact hdaemon ▸ .noRow hrow
      | some row =>
        rw [hrow, if_neg (by simp)] at hstep
        cases installed with
        | none =>
          obtain rfl := Option.some.inj hstep
          exact hdaemon ▸ .unverified hrow
        | some installed =>
          obtain rfl := Option.some.inj hstep
          exact hdaemon ▸ .installed hrow
    next => cases hstep
  | migrateLegacy proposed =>
    simp only [RecoverOp.statement, stepDaemon] at hstep
    split at hstep
    next record restoreInfo installed records hdaemon =>
      rw [if_neg Bool.false_ne_true] at hstep
      obtain rfl := Option.some.inj hstep
      cases hclosing : isClosing restoreInfo with
      | true => exact hdaemon ▸ .closing
      | false => exact hdaemon ▸ .migrated
    next => cases hstep

/-! ### Runs -/

variable {r r' : RecoverRun} {records : List SessionStateRecord}

/-- What holds in all runs whose steps the guard admits. -/
structure Invariant (records : List SessionStateRecord) (r : RecoverRun) : Prop where
  active_eq : r.active = (r.reconnects.filter Prod.snd).map Prod.fst
  inOrder : ∃ before, (r.reconnects.map Prod.fst).Sublist before ∧
    r.visited = before ++ (current r.ownership.daemon).toList
  running : r.result = none → ∃ rest, remaining r.ownership.daemon = some rest ∧
    r.visited ++ rest = records
  returned : ∀ result, r.result = some result →
    result = .ok r.active ∧ r.ownership.daemon = .idle ∧ r.visited = records
  bounded : r.statements + stepsLeft r.ownership.daemon ≤ 5 * records.length + 1

theorem Invariant.start {drawn : String → List UInt8 × List UInt8}
    (h : start w records drawn = some r) : Invariant records r := by
  obtain ⟨w', hstep, rfl⟩ := Option.map_eq_some_iff.mp h
  have hdaemon : w'.daemon = .recovering records := by
    obtain ⟨tables, hcommitted⟩ := transaction_backfill records drawn w.tables
    obtain ⟨generation, hcrash, -⟩ | ⟨hop, -⟩ | ⟨-, hthread⟩ := step_cases hstep
    · cases hcrash
    · cases hop
    · simp only [stepDaemon, transact, hcommitted] at hthread
      split_ifs at hthread
      obtain rfl := Option.some.inj hthread
      rfl
  exact
    { active_eq := rfl
      inOrder := ⟨[], .slnil, by rw [hdaemon]; rfl⟩
      running := fun _ => ⟨records, by rw [hdaemon]; rfl, rfl⟩
      returned := fun _ hresult => by cases hresult
      bounded := by simp [hdaemon, stepsLeft] }

/-- **What a step does** to a call. -/
theorem step_cases {op : RecoverOp} (hstep : r.step op = some r') :
    (∃ w', op.isReconciler ∧ w'.daemon = r.ownership.daemon ∧ r' = { r with ownership := w' }) ∨
    ∃ w', op.isReconciler = false ∧ Goes r.ownership op r.ownership.daemon w'.daemon ∧
      r' = r.advance op w' := by
  rw [step] at hstep
  split_ifs at hstep with hop
  obtain ⟨w', hw', rfl⟩ := Option.map_eq_some_iff.mp hstep
  cases hown : op.isReconciler with
  | false => exact .inr ⟨w', rfl, goes_of_step hown hw', rfl⟩
  | true =>
    cases op with
    | reconciler op =>
      simp only [hown, Bool.true_and, Bool.not_eq_true', Bool.not_eq_false] at hop
      exact .inl ⟨w', rfl, daemon_of_reconciler hop hw', rfl⟩
    | _ => cases hown

/-- A step that stays with a record, or is done with it. -/
theorem Invariant.proceed (h : Invariant records r) {w' : SessionOwnership}
    (hremaining : remaining w'.daemon = remaining r.ownership.daemon)
    (hcurrent : current w'.daemon = current r.ownership.daemon ∨ current w'.daemon = none)
    (hleft : stepsLeft w'.daemon < stepsLeft r.ownership.daemon) :
    Invariant records { r with ownership := w', statements := r.statements + 1 } where
  active_eq := h.active_eq
  inOrder := by
    obtain ⟨before, hsublist, hvisited⟩ := h.inOrder
    obtain hsame | hnone := hcurrent
    · exact ⟨before, hsublist, by rw [hsame]; exact hvisited⟩
    · refine ⟨r.visited, ?_, by simp [hnone]⟩
      rw [hvisited]
      exact hsublist.trans (List.sublist_append_left ..)
  running hresult := by
    rw [hremaining]
    exact h.running hresult
  returned result hresult := by
    have hidle := (h.returned result hresult).2.1
    rw [hidle] at hleft
    cases hleft
  bounded := by
    have hbounded := h.bounded
    dsimp only
    omega

theorem Invariant.finish (h : Invariant records r) {w' : SessionOwnership}
    (hd : r.ownership.daemon = .recovering []) (hd' : w'.daemon = .idle)
    (hresult : r.result = none) : Invariant records (r.advance .readPhase w') := by
  obtain ⟨rest, hrest, hvisited⟩ := h.running hresult
  rw [hd] at hrest
  obtain rfl := Option.some.inj hrest
  rw [List.append_nil] at hvisited
  have hbounded := h.bounded
  simp only [hd, stepsLeft, List.length_nil] at hbounded
  simp only [advance, hd]
  exact
    { active_eq := h.active_eq
      inOrder := by
        obtain ⟨before, hsublist, hbefore⟩ := h.inOrder
        rw [hd] at hbefore
        rw [hd']
        exact ⟨before, hsublist, hbefore⟩
      running := fun hnone => by cases hnone
      returned := fun result heq => ⟨(Option.some.inj heq).symm, hd', hvisited⟩
      bounded := by
        simp only [hd', stepsLeft]
        omega }

theorem remaining_recoverPhase (record : SessionStateRecord) (rest : List SessionStateRecord)
    (row : Option OwnershipRow) :
    remaining (recoverPhase record rest row) = some rest ∧
      (current (recoverPhase record rest row) = some record ∨
        current (recoverPhase record rest row) = none) ∧
      stepsLeft (recoverPhase record rest row) ≤ 5 * rest.length + 5 := by
  cases row with
  | none => simp [recoverPhase, remaining, current, stepsLeft]
  | some row =>
    rw [recoverPhase]
    split_ifs
    · simp [remaining, current, stepsLeft]
    · simp [remaining, current, stepsLeft]
    · cases record.restoreInfo <;> simp [remaining, current, stepsLeft]

theorem Invariant.read (h : Invariant records r) {w' : SessionOwnership}
    {record : SessionStateRecord} {rest : List SessionStateRecord}
    (hd : r.ownership.daemon = .recovering (record :: rest)) {row : Option OwnershipRow}
    (hd' : w'.daemon = recoverPhase record rest row) (hresult : r.result = none) :
    Invariant records (r.advance .readPhase w') := by
  obtain ⟨_, hrest, hvisited⟩ := h.running hresult
  rw [hd] at hrest
  obtain rfl := Option.some.inj hrest
  obtain ⟨before, hsublist, hbefore⟩ := h.inOrder
  replace hbefore : r.visited = before := by simpa [hd, current] using hbefore
  have hbounded := h.bounded
  simp only [hd, stepsLeft, List.length_cons] at hbounded
  obtain ⟨hremaining, hcurrent, hleft⟩ := remaining_recoverPhase record rest row
  simp only [advance, hd]
  exact
    { active_eq := h.active_eq
      inOrder := by
        rw [hd']
        obtain hsome | hnone := hcurrent
        · exact ⟨before, hsublist, by rw [hsome, hbefore]; rfl⟩
        · exact ⟨r.visited ++ [record], by
            rw [hbefore]
            exact hsublist.trans (List.sublist_append_left ..), by rw [hnone]; simp⟩
      running := fun _ => ⟨rest, by rw [hd', hremaining], by
        rw [List.append_assoc]
        exact hvisited⟩
      returned := fun result heq => by
        rw [hresult] at heq
        cases heq
      bounded := by
        rw [hd']
        dsimp only
        omega }

theorem Invariant.reconnect (h : Invariant records r) {w' : SessionOwnership}
    {record : SessionStateRecord} {diagnostic : String} {rest : List SessionStateRecord} {ok : Bool}
    (hd : r.ownership.daemon = .reconnecting record diagnostic rest)
    (hd' : w'.daemon = if ok then .recovering rest
      else .quarantining record.sessionId diagnostic rest)
    (hresult : r.result = none) : Invariant records (r.advance (.reconnect ok) w') := by
  obtain ⟨_, hrest, hvisited⟩ := h.running hresult
  rw [hd] at hrest
  obtain rfl := Option.some.inj hrest
  obtain ⟨before, hsublist, hbefore⟩ := h.inOrder
  have hbounded := h.bounded
  simp only [hd, stepsLeft] at hbounded
  simp only [advance, hd]
  exact
    { active_eq := by
        rw [List.filter_append, List.map_append, ← h.active_eq]
        cases ok with
        | true => rfl
        | false => exact (List.append_nil _).symm
      inOrder := by
        rw [hd] at hbefore
        refine ⟨r.visited, ?_, by rw [hd']; cases ok <;> simp [current]⟩
        rw [hbefore, List.map_append]
        exact hsublist.append (List.Sublist.refl _)
      running := fun _ => ⟨_, by rw [hd']; cases ok <;> rfl, hvisited⟩
      returned := fun result heq => by
        rw [hresult] at heq
        cases heq
      bounded := by
        rw [hd']
        cases ok <;> simp only [stepsLeft, if_true, Bool.false_eq_true, if_false] <;> omega }

/-- The second query of a record fails when there is no active row. -/
theorem undisturbed_matching {record : SessionStateRecord} {rest : List SessionStateRecord}
    (hd : r.ownership.daemon = .matching record rest) :
    r.undisturbed .activeEvidenceMatches = (r.ownership.activeEvidenceMatches record).isSome := by
  simp only [undisturbed, hd, SessionOwnership.activeEvidenceMatches]
  cases record.restoreInfo with
  | none => rfl
  | some info =>
    cases info with
    | tmux => rfl
    | unixSocket socketPath supervisorPid supervisorStatus =>
      cases supervisorStatus with
      | closing => rfl
      | closed => rfl
      | running =>
        cases r.ownership.tables.ownership.lookup record.sessionId with
        | none => rfl
        | some row => by_cases hphase : row.phase = .active <;> simp [hphase]

theorem undisturbed_installing {record : SessionStateRecord} {restoreInfo : PtyRestoreInfo}
    {rest : List SessionStateRecord} (hd : r.ownership.daemon = .installing record restoreInfo rest)
    (installed : Option Bool) : r.undisturbed (.install installed) =
      (r.ownership.tables.ownership.lookup record.sessionId).isSome := by
  simp only [undisturbed, hd]

/-- The guard and the steps of the reconciler keep the invariant. -/
theorem Invariant.step (h : Invariant records r) {op : RecoverOp} (hguard : r.undisturbed op)
    (hstep : r.step op = some r') : Invariant records r' := by
  obtain ⟨w', -, hdaemon, rfl⟩ | ⟨w', -, hgoes, rfl⟩ := step_cases hstep
  · exact
      { active_eq := h.active_eq
        inOrder := by rw [hdaemon]; exact h.inOrder
        running := by rw [hdaemon]; exact h.running
        returned := by rw [hdaemon]; exact h.returned
        bounded := by rw [hdaemon]; exact h.bounded }
  have hresult : r.result = none := by
    cases hresult : r.result with
    | none => rfl
    | some result =>
      rw [(h.returned result hresult).2.1] at hgoes
      cases hgoes
  generalize hd : r.ownership.daemon = d, hd' : w'.daemon = d' at hgoes
  cases hgoes with
  | finish => exact h.finish hd hd' hresult
  | read => exact h.read hd hd' hresult
  | reconnected => exact h.reconnect hd hd' hresult
  | unreachable => exact h.reconnect hd hd' hresult
  | noActiveRow hnone =>
    rw [undisturbed_matching hd, hnone] at hguard
    cases hguard
  | noRow hnone =>
    rw [undisturbed_installing hd, hnone] at hguard
    cases hguard
  | @matched record rest result =>
    have heq : r.advance .activeEvidenceMatches w' =
        { r with ownership := w', statements := r.statements + 1 } := by
      cases result <;> simp [advance, hd', matchPhase]
    rw [heq]
    refine h.proceed ?_ ?_ ?_ <;> rw [hd, hd'] <;> cases result <;>
      simp [matchPhase, remaining, current, stepsLeft]
  | _ =>
    simp only [advance, hd', reduceCtorEq, if_false]
    refine h.proceed ?_ ?_ ?_ <;> rw [hd, hd'] <;> simp [remaining, current, stepsLeft]

/-- A step that is not admitted by the guard ends the call. -/
theorem result_of_disturbed {op : RecoverOp} (hguard : ¬r.undisturbed op)
    (hstep : r.step op = some r') : r'.result = some .error := by
  obtain ⟨w', hop, -, -⟩ | ⟨w', -, hgoes, rfl⟩ := step_cases hstep
  · cases op with
    | reconciler => exact absurd rfl hguard
    | _ => cases hop
  generalize hd : r.ownership.daemon = d, hd' : w'.daemon = d' at hgoes
  cases hgoes with
  | noActiveRow => simp [advance, hd']
  | noRow => simp [advance, hd']
  | matched hmatches => exact absurd (by rw [undisturbed_matching hd, hmatches]; rfl) hguard
  | installed hrow | unverified hrow =>
    exact absurd (by rw [undisturbed_installing hd, hrow]; rfl) hguard
  | _ => exact absurd rfl hguard

/-- The thread is never stuck. -/
theorem exists_step {rest : List SessionStateRecord} (hrest : remaining w.daemon = some rest) :
    ∃ op : RecoverOp, op.isReconciler = false ∧ (w.step op.statement).isSome := by
  cases hd : w.daemon with
  | recovering records =>
    refine ⟨.readPhase, rfl, ?_⟩
    rw [step_statement rfl]
    cases records <;> simp [RecoverOp.statement, stepDaemon, hd]
  | matching record records =>
    refine ⟨.activeEvidenceMatches, rfl, ?_⟩
    rw [step_statement rfl]
    simp only [RecoverOp.statement, stepDaemon, hd, Bool.false_eq_true, if_false]
    split <;> rfl
  | reconnecting record diagnostic records =>
    refine ⟨.reconnect true, rfl, ?_⟩
    rw [step_statement rfl]
    simp [RecoverOp.statement, stepDaemon, hd]
  | quarantining id diagnostic records =>
    refine ⟨.quarantine, rfl, ?_⟩
    rw [step_statement rfl]
    simp [RecoverOp.statement, stepDaemon, hd]
  | installing record restoreInfo records =>
    refine ⟨.install none, rfl, ?_⟩
    rw [step_statement rfl]
    simp only [RecoverOp.statement, stepDaemon, hd]
    split_ifs <;> rfl
  | migrating record restoreInfo installed records =>
    refine ⟨.migrateLegacy 0, rfl, ?_⟩
    rw [step_statement rfl]
    simp [RecoverOp.statement, stepDaemon, hd]
  | _ =>
    rw [hd] at hrest
    cases hrest

theorem Invariant.isolated (h : Invariant records r) : r.Isolated records where
  not_error herror := by
    have hok := (h.returned _ herror).1
    cases hok
  ok active hactive := by
    obtain ⟨heq, -, hvisited⟩ := h.returned _ hactive
    rw [RecoverResult.ok.inj heq]
    exact ⟨hvisited, h.active_eq⟩
  inOrder := by
    obtain ⟨before, hsublist, hvisited⟩ := h.inOrder
    have hbefore : before <+: records := by
      refine .trans (hvisited ▸ List.prefix_append ..) ?_
      cases hresult : r.result with
      | none =>
        obtain ⟨rest, -, hrecords⟩ := h.running hresult
        exact hrecords ▸ List.prefix_append ..
      | some result => exact (h.returned _ hresult).2.2 ▸ List.prefix_rfl
    exact hsublist.trans hbefore.sublist
  advances hresult := by
    obtain ⟨rest, hrest, -⟩ := h.running hresult
    obtain ⟨op, hop, hstep⟩ := exists_step hrest
    exact ⟨op, hop, by simpa [RecoverRun.step, hop] using hstep⟩
  bounded := by
    have hbounded := h.bounded
    omega

/-- **Exactly when sessions are isolated**: while the reconciler does what it wants, no record
stops the recovery of the others if and only if every row that is read again is still there. -/
theorem isolated_iff_undisturbed (w : SessionOwnership) (records : List SessionStateRecord)
    (drawn : String → List UInt8 × List UInt8) {r₀ r : RecoverRun} {ops : List RecoverOp}
    (hstart : start w records drawn = some r₀) (hrun : exec step r₀ ops = some r) :
    (∀ ops₁ ops₂ r₁, ops = ops₁ ++ ops₂ → exec step r₀ ops₁ = some r₁ → r₁.Isolated records) ↔
      Along step (fun r op => r.undisturbed op) r₀ ops :=
  forall_reached_iff_along (fun _ h => h.isolated) (fun _ _ _ h hguard hstep => h.step hguard hstep)
    (fun _ _ _ _ hguard hstep hisolated =>
      hisolated.not_error (result_of_disturbed hguard hstep))
    (Invariant.start hstart) hrun

/-- Two sessions of the daemon before, whose rows are active. -/
def twoSessions : List OwnershipOp :=
  [.create "a" ⟨2, 4, 0, 0⟩ [1] [2] (some "s") none,
    .recordPrepared (.unixSocket "s" 7 .running) false,
    .spawned (some (.unixSocket "s" 7 .running)), .prepare true, .commitActive none,
    .create "b" ⟨2, 4, 0, 0⟩ [3] [4] (some "t") none,
    .recordPrepared (.unixSocket "t" 8 .running) false,
    .spawned (some (.unixSocket "t" 8 .running)), .prepare true, .commitActive none, .crash [1]]

def twoRecords : List SessionStateRecord :=
  [⟨"a", .running, some (.unixSocket "s" 7 .running)⟩,
    ⟨"b", .running, some (.unixSocket "t" 8 .running)⟩]

/-- The reconciler finds that the first session has exited. -/
def naturalExit : List RecoverOp :=
  [.reconciler (.interruptedCreates false), .reconciler (.abandonedCreates false),
    .reconciler (.cleanupRows false), .reconciler (.reconcileRow false),
    .reconciler (.reconcileRow true), .reconciler (.markStable 0 false)]

def recoverTwo : Option RecoverRun :=
  (exec SessionOwnership.step (init ∅ [0]) twoSessions).bind fun w =>
    start w twoRecords fun _ => ([], [])

/-- The first session has exited before its phase is read. -/
theorem recovers_second :
    ∃ r₀ r, recoverTwo = some r₀ ∧
      exec step r₀ (naturalExit ++
        [.readPhase, .readPhase, .activeEvidenceMatches, .reconnect true, .readPhase]) = some r ∧
      r.result = some (.ok (twoRecords.drop 1)) ∧ r.Isolated twoRecords := by
  let ops := naturalExit ++
    [.readPhase, .readPhase, .activeEvidenceMatches, .reconnect true, .readPhase]
  have hops : (recoverTwo.any fun r₀ =>
      decide (Along step (fun r op => r.undisturbed op = true) r₀ ops) &&
        (exec step r₀ ops).any fun r => r.result = some (.ok (twoRecords.drop 1))) = true := by
    decide +kernel
  obtain ⟨r₀, hr₀, hops⟩ := (Option.any_eq_true ..).mp hops
  rw [Bool.and_eq_true, decide_eq_true_eq] at hops
  obtain ⟨r, hr, hresult⟩ := (Option.any_eq_true ..).mp hops.2
  obtain ⟨w, -, hstart⟩ := Option.bind_eq_some_iff.mp hr₀
  refine ⟨r₀, r, hr₀, hr, of_decide_eq_true hresult, ?_⟩
  exact (isolated_iff_undisturbed w twoRecords _ hstart hr).mpr hops.1 ops [] r
    (List.append_nil ops).symm hr

/-- The first session exits after its phase is read: the second one is not recovered. -/
theorem not_isolated_of_natural_exit :
    ¬∀ (generation : List UInt8) (before : List OwnershipOp) (w : SessionOwnership)
      (records : List SessionStateRecord) (drawn : String → List UInt8 × List UInt8)
      (r₀ r : RecoverRun) (ops : List RecoverOp),
      exec SessionOwnership.step (init ∅ generation) before = some w →
        start w records drawn = some r₀ → exec step r₀ ops = some r → r.Isolated records := by
  intro h
  have hops : (recoverTwo.any fun r₀ =>
      (exec step r₀ ([.readPhase] ++ naturalExit ++ [.activeEvidenceMatches])).any fun r =>
        r.result = some .error && r.visited = twoRecords.take 1) = true := by
    decide +kernel
  obtain ⟨r₀, hr₀, hops⟩ := (Option.any_eq_true ..).mp hops
  obtain ⟨r, hr, hresult⟩ := (Option.any_eq_true ..).mp hops
  rw [Bool.and_eq_true, decide_eq_true_eq] at hresult
  obtain ⟨w, hw, hstart⟩ := Option.bind_eq_some_iff.mp hr₀
  exact (h [0] twoSessions w twoRecords _ r₀ r _ hw hstart hr).not_error hresult.1

end RecoverRun

end Termd.Ownership
