import Termd.Daemon.Slots

/-!
# The sessions that clients see

The daemon answers its clients from `session_index`; a session that is not in it is not there for
them. What is saved in `runtime_sessions` is a snapshot of the sessions in the index, and the daemon
drops the sessions from the index whose row says that they are not running any more.

## Main definitions

* `SessionMaps`: the index, the roots of the sessions, and the runtime
* `SessionMaps.snapshotState`, `saveSqliteState`: what is saved of the sessions, and how
* `SessionMaps.reconcilePersistedClosedSessions`, `SessionMaps.closeVisibleSessionState`: sessions are
  dropped from the index
* `recordRuntimeSessionClosed`: the row of a session that is not recovered

## Main results

* `SessionMaps.sessionIndex_reconcile`: the sessions that are left in the index
* `lookup_saveSqliteState`: an open row after a save was open before, or is of the snapshot
-/

namespace Termd.Daemon

open Ownership (SessionState SessionStateRecord PtyRestoreInfo RuntimeRow Tables Statement)

/-- The maps of the daemon that have an entry for each session. -/
structure SessionMaps where
  sessionIndex : Table String String := ∅
  sessionRoots : Table String String := ∅
  runtime : SessionRuntime := {}

namespace SessionMaps

variable (m : SessionMaps)

/-- A session is visible from now on; the id of its runtime session is the text of its own. -/
def register (id root : String) : SessionMaps :=
  { m with
    sessionIndex := m.sessionIndex.insert id id
    sessionRoots := m.sessionRoots.insert id root }

def closeVisibleSessionState (id : String) : SessionMaps :=
  { m with
    sessionIndex := m.sessionIndex.erase id
    sessionRoots := m.sessionRoots.erase id }

/-- `reconcile_persisted_closed_sessions`, with the rows that were loaded. -/
def reconcilePersistedClosedSessions (loaded : Table String RuntimeRow) : SessionMaps :=
  let closed := m.sessionIndex.select fun id _ =>
    if (loaded.lookup id).any fun row => row.state = .running then none else some id
  closed.foldl closeVisibleSessionState m

/-- The rows of `snapshot_state`, with what each PTY answers. A session of which something cannot be
read is left out. -/
def snapshotState (restoreInfo : String → Option PtyRestoreInfo) : List (String × RuntimeRow) :=
  m.sessionIndex.select fun id internalId =>
    match m.runtime.state internalId, m.runtime.size internalId,
      m.runtime.restoreInfo internalId (restoreInfo internalId) with
    | .ok state, .ok size, .ok (some restoreInfo) => some (id, ⟨state, size, some restoreInfo⟩)
    | _, _, _ => none

end SessionMaps

/-! ### Rows -/

/-- The row that a snapshot makes of the row that is there. A closed row stays closed. -/
def mergeRow (row : RuntimeRow) : Option RuntimeRow → RuntimeRow
  | none => if row.state = .closed then { row with restoreInfo := none } else row
  | some old =>
    if old.state = .closed ∨ row.state = .closed then
      { row with state := .closed, restoreInfo := none }
    else row

/-- The statement of `save_sqlite_state` for a session. -/
def upsertSession (id : String) (row : RuntimeRow) : Statement := fun t => some { t with
  runtimeSessions := t.runtimeSessions.insert id (mergeRow row (t.runtimeSessions.lookup id)) }

/-- The statements of `save_sqlite_state` on `runtime_sessions`. A row that is not in the snapshot is
left alone. -/
def saveSqliteState (sessions : List (String × RuntimeRow)) : List Statement :=
  sessions.map fun session => upsertSession session.1 session.2

/-- `record_runtime_session_closed`. -/
def recordRuntimeSessionClosed (id : String) : List Statement :=
  [fun t => some { t with
    runtimeSessions := t.runtimeSessions.insert id
      (match t.runtimeSessions.lookup id with
      | some old => { old with state := .closed, restoreInfo := none }
      | none => ⟨.closed, ⟨1, 1, 0, 0⟩, none⟩) }]

/-- `restore_info_is_reconnectable`, and the session is running. -/
def isReconnectable (row : RuntimeRow) : Bool :=
  row.state = .running &&
    match row.restoreInfo with
    | some (.unixSocket _ _ .running) => true
    | _ => false

/-- The records that the daemon recovers from. -/
def sessionRecords (loaded : Table String RuntimeRow) : List SessionStateRecord :=
  loaded.select fun id row => some ⟨id, row.state, row.restoreInfo⟩

/-! ### What becomes of the index -/

namespace SessionMaps

variable {m : SessionMaps} {id k root : String}

@[simp] theorem runtime_register : (m.register id root).runtime = m.runtime := rfl

@[simp] theorem runtime_closeVisible : (m.closeVisibleSessionState id).runtime = m.runtime := rfl

theorem lookup_register :
    (m.register id root).sessionIndex.lookup k =
      if k = id then some id else m.sessionIndex.lookup k := by
  by_cases hk : k = id
  · subst hk
    simp [register]
  · simp [register, hk, AList.lookup_insert_ne]

/-- Sessions keep their ids within the runtime. -/
theorem internal_register
    (h : ∀ k internalId, m.sessionIndex.lookup k = some internalId → internalId = k) :
    ∀ k internalId, (m.register id root).sessionIndex.lookup k = some internalId →
      internalId = k := by
  intro k internalId hlookup
  rw [lookup_register] at hlookup
  split_ifs at hlookup with hk
  · exact (Option.some.inj hlookup).symm.trans hk.symm
  · exact h k internalId hlookup

theorem lookup_closeVisible :
    (m.closeVisibleSessionState id).sessionIndex.lookup k =
      if k = id then none else m.sessionIndex.lookup k := by
  by_cases hk : k = id
  · subst hk
    simp [closeVisibleSessionState]
  · simp [closeVisibleSessionState, hk, AList.lookup_erase_ne]

theorem roots_closeVisible (hk : k ≠ id) :
    (m.closeVisibleSessionState id).sessionRoots.lookup k = m.sessionRoots.lookup k :=
  AList.lookup_erase_ne hk

theorem lookup_foldl_closeVisible (ids : List String) :
    (ids.foldl closeVisibleSessionState m).sessionIndex.lookup k =
      if k ∈ ids then none else m.sessionIndex.lookup k := by
  induction ids generalizing m with
  | nil => simp
  | cons id ids ih =>
    rw [List.foldl_cons, ih, lookup_closeVisible]
    by_cases hk : k = id
    · simp [hk]
    · simp [hk]

theorem mem_closed {loaded : Table String RuntimeRow} :
    k ∈ (m.sessionIndex.select fun id _ =>
        if (loaded.lookup id).any fun row => row.state = .running then none else some id) ↔
      (m.sessionIndex.lookup k).isSome ∧
        ¬(loaded.lookup k).any fun row => row.state = .running := by
  rw [Table.mem_select]
  constructor
  · rintro ⟨id, internalId, hlookup, hselect⟩
    split_ifs at hselect with hrunning
    obtain rfl := Option.some.inj hselect
    exact ⟨by simp [hlookup], hrunning⟩
  · rintro ⟨hlookup, hrunning⟩
    obtain ⟨internalId, hlookup⟩ := Option.isSome_iff_exists.mp hlookup
    exact ⟨k, internalId, hlookup, if_neg hrunning⟩

/-- **What is left in the index**: the sessions whose row says that they are running. -/
theorem sessionIndex_reconcile {loaded : Table String RuntimeRow} :
    (m.reconcilePersistedClosedSessions loaded).sessionIndex.lookup k =
      if (loaded.lookup k).any fun row => row.state = .running then m.sessionIndex.lookup k
      else none := by
  rw [reconcilePersistedClosedSessions, lookup_foldl_closeVisible]
  simp only [mem_closed]
  by_cases hrunning : (loaded.lookup k).any fun row => row.state = .running
  · simp [hrunning]
  · cases hlookup : m.sessionIndex.lookup k <;> simp [hrunning]

/-- Nothing is dropped when every session in the index has a running row. -/
theorem reconcile_eq_self {loaded : Table String RuntimeRow}
    (h : ∀ id, (m.sessionIndex.lookup id).isSome →
      (loaded.lookup id).any fun row => row.state = .running) :
    m.reconcilePersistedClosedSessions loaded = m := by
  rw [reconcilePersistedClosedSessions]
  have hclosed : (m.sessionIndex.select fun id _ =>
      if (loaded.lookup id).any fun row => row.state = .running then none else some id) = [] := by
    refine List.eq_nil_iff_forall_not_mem.mpr fun id hid => ?_
    obtain ⟨hlookup, hrunning⟩ := mem_closed.mp hid
    exact hrunning (h id hlookup)
  rw [hclosed]
  rfl

end SessionMaps

/-! ### What becomes of the rows -/

section Rows

variable {t t' : Tables} {id k : String} {row row' : RuntimeRow}

theorem mergeRow_open {old : Option RuntimeRow}
    (h : (mergeRow row old).state ≠ .closed) : row.state ≠ .closed := by
  intro hclosed
  cases old with
  | none => simp [mergeRow, hclosed] at h
  | some old => simp [mergeRow, hclosed] at h

/-- **What a save opens**: an open row was there before, or is of the snapshot. -/
theorem lookup_saveSqliteState {sessions : List (String × RuntimeRow)}
    (h : (saveSqliteState sessions).foldlM (fun t statement => statement t) t = some t')
    (hrow : t'.runtimeSessions.lookup k = some row') (hopen : row'.state ≠ .closed) :
    t.runtimeSessions.lookup k = some row' ∨ ∃ row, (k, row) ∈ sessions ∧ row.state ≠ .closed := by
  induction sessions generalizing t with
  | nil =>
    obtain rfl : t = t' := Option.some.inj h
    exact .inl hrow
  | cons session sessions ih =>
    simp only [saveSqliteState, List.map_cons, List.foldlM_cons, upsertSession,
      Option.bind_eq_bind, Option.bind_some] at h
    obtain hlookup | ⟨row, hmem, hstate⟩ := ih h
    · obtain ⟨hk, hmerge⟩ | ⟨-, hold⟩ := Table.lookup_insert_eq_some.mp hlookup
      · subst hk hmerge
        exact .inr ⟨session.2, List.mem_cons_self, mergeRow_open hopen⟩
      · exact .inl hold
    · exact .inr ⟨row, List.mem_cons_of_mem _ hmem, hstate⟩

theorem ownership_saveSqliteState {sessions : List (String × RuntimeRow)}
    (h : (saveSqliteState sessions).foldlM (fun t statement => statement t) t = some t') :
    t'.ownership = t.ownership := by
  induction sessions generalizing t with
  | nil => exact congrArg Tables.ownership (Option.some.inj h).symm
  | cons session sessions ih =>
    simp only [saveSqliteState, List.map_cons, List.foldlM_cons, upsertSession,
      Option.bind_eq_bind, Option.bind_some] at h
    have htail := ih h
    exact htail

/-- The row of a session that is not recovered is closed. -/
theorem lookup_recordRuntimeSessionClosed
    (h : (recordRuntimeSessionClosed id).foldlM (fun t statement => statement t) t = some t')
    (hrow : t'.runtimeSessions.lookup k = some row') (hopen : row'.state ≠ .closed) :
    t.runtimeSessions.lookup k = some row' := by
  obtain rfl := Option.some.inj h
  obtain ⟨rfl, rfl⟩ | ⟨-, hold⟩ := Table.lookup_insert_eq_some.mp hrow
  · cases hold : t.runtimeSessions.lookup k <;> simp [hold] at hopen
  · exact hold

theorem ownership_recordRuntimeSessionClosed
    (h : (recordRuntimeSessionClosed id).foldlM (fun t statement => statement t) t = some t') :
    t'.ownership = t.ownership := by
  obtain rfl := Option.some.inj h
  rfl

end Rows

end Termd.Daemon
