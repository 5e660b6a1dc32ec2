import Termd.Library.Traverse
import Termd.State.Store

/-!
# How saved states are merged

Seen from outside the store holds an identity, a list of devices and at most one record for each
session, and a record of a closed session has nothing to restore. The tables represent such a store:
they are loaded as what it holds, and every statement does to them what it does to the store.

## Main definitions

* `Store`: what is held, with the operations on it
* `Represents codec db store`: the tables hold it
* `Op`, `run`: the writers, one after another
* `Merged before saved after`: what a save does to what is loaded

## Main results

* `Represents.load`: what is loaded
* `Represents.save`, `Represents.step`: the writers
* `state_merges`: what is loaded after any writers
-/

namespace Termd.State

open Ownership (PtyRestoreInfo PtySupervisorStatus SessionState)

/-! ### Columns are read back -/

section Columns

theorem toI64_of_lt {n : ℕ} (h : n < 2 ^ 63) : toI64 n = n := by
  have hmod : n % 2 ^ 64 = n := Nat.mod_eq_of_lt (by omega)
  rw [toI64, hmod, if_pos h]

theorem integerToTimestamp_toI64 {n : ℕ} (h : n < 2 ^ 63) :
    integerToTimestamp (toI64 n) = some n := by
  rw [toI64_of_lt h, integerToTimestamp, if_pos (Int.natCast_nonneg n), Int.toNat_natCast]

theorem integerToU16_toNat (x : UInt16) : integerToU16 x.toNat = some x := by
  have hlt := x.toNat_lt
  rw [integerToU16, if_pos (by omega), Int.toNat_natCast, UInt16.ofNat_toNat]

theorem parseSessionState_text (state : SessionState) :
    parseSessionState (sessionStateText state) = some state := by
  cases state <;> decide

theorem sessionStateText_eq_closed {state : SessionState} :
    sessionStateText state = closedText ↔ state = .closed := by
  cases state <;> decide

theorem parseRestoreInfo_serialize (codec : RestoreCodec) (info : Option PtyRestoreInfo) :
    parseRestoreInfo codec (serializeRestoreInfo codec info).1 (serializeRestoreInfo codec info).2 =
      some info := by
  cases info with
  | none => rfl
  | some info =>
    cases info with
    | unixSocket socketPath supervisorPid supervisorStatus =>
      rw [serializeRestoreInfo, parseRestoreInfo, if_pos rfl, codec.parse_unixSocketText]
      rfl
    | tmux socketPath sessionName =>
      rw [serializeRestoreInfo, parseRestoreInfo, if_neg (by decide), if_pos rfl,
        codec.parse_tmuxText]
      rfl

end Columns

/-- The times of a record fit into a column. -/
def SessionStateRecord.Timely (r : SessionStateRecord) : Prop :=
  r.createdAtMs < 2 ^ 63 ∧ r.updatedAtMs < 2 ^ 63

def TrustedDeviceState.Timely (d : TrustedDeviceState) : Prop :=
  d.trustedAtMs < 2 ^ 63 ∧ ∀ t ∈ d.lastSeenAtMs, t < 2 ^ 63

/-- A record as it is held: a closed session has nothing to restore. -/
def SessionStateRecord.stored (r : SessionStateRecord) : SessionStateRecord :=
  { r with restoreInfo := if r.state = .closed then none else r.restoreInfo }

section Rows

variable (codec : RestoreCodec) {r : SessionStateRecord} {d : TrustedDeviceState}

theorem loadDevice_row (h : d.Timely) : loadDevice d.deviceId d.row = some d := by
  obtain ⟨htrusted, hseen⟩ := h
  have hlast : optionalTimestamp (d.lastSeenAtMs.map toI64) = some d.lastSeenAtMs := by
    cases hlast : d.lastSeenAtMs with
    | none => rfl
    | some t => rw [Option.map_some, optionalTimestamp, integerToTimestamp_toI64 (hseen t hlast)]; rfl
  simp only [loadDevice, TrustedDeviceState.row, integerToTimestamp_toI64 htrusted, hlast,
    Option.bind_eq_bind, Option.bind_some]
  rfl

theorem row_stored (r : SessionStateRecord) : r.stored.row codec = r.row codec := by
  by_cases hclosed : r.state = .closed
  · simp [SessionStateRecord.row, SessionStateRecord.stored, hclosed]
  · simp [SessionStateRecord.row, SessionStateRecord.stored, hclosed]

/-- The restore information in the columns of a record. -/
theorem parseRestoreInfo_row (hstored : r.stored = r) :
    parseRestoreInfo codec (r.row codec).restoreKind (r.row codec).restoreValue =
      some r.restoreInfo := by
  by_cases hclosed : r.state = .closed
  · have hnone : r.restoreInfo = none := by
      rw [← hstored, SessionStateRecord.stored]
      exact if_pos hclosed
    simp only [SessionStateRecord.row, if_pos hclosed, hnone]
    rfl
  · simp only [SessionStateRecord.row, if_neg hclosed]
    exact parseRestoreInfo_serialize codec r.restoreInfo

theorem loadSession_row (htimely : r.Timely) (hstored : r.stored = r) :
    loadSession codec r.sessionId (r.row codec) = some r := by
  rw [loadSession, parseRestoreInfo_row codec hstored]
  simp only [SessionStateRecord.row, parseSessionState_text, integerToU16_toNat,
    integerToTimestamp_toI64 htimely.1, integerToTimestamp_toI64 htimely.2, Option.bind_eq_bind,
    Option.bind_some]
  rfl

theorem row_closed_iff : (r.row codec).state = closedText ↔ r.state = .closed :=
  sessionStateText_eq_closed

end Rows

/-! ### What is held -/

/-- The identity, the devices, and at most one record for each session. -/
structure Store where
  identity : Option DaemonIdentitySnapshot
  devices : List TrustedDeviceState
  sessions : String → Option SessionStateRecord

/-- The record of a session after it was saved as `s`. -/
def mergeRecord (old : Option SessionStateRecord) (s : SessionStateRecord) : SessionStateRecord :=
  if old.any (·.state = .closed) then { s with state := .closed, restoreInfo := none } else s.stored

/-- The record of a session after it was closed. -/
def closeRecord (sessionId : String) (nowMs : ℕ) : Option SessionStateRecord → SessionStateRecord
  | none => ⟨sessionId, .closed, ⟨1, 1, 0, 0⟩, nowMs, nowMs, none⟩
  | some r => { r with state := .closed, updatedAtMs := nowMs, restoreInfo := none }

namespace Store

def empty : Store := ⟨none, [], fun _ => none⟩

def upsert (a : Store) (s : SessionStateRecord) : Store :=
  { a with
    sessions := Function.update a.sessions s.sessionId
      (some (mergeRecord (a.sessions s.sessionId) s)) }

def close (a : Store) (sessionId : String) (nowMs : ℕ) : Store :=
  { a with
    sessions := Function.update a.sessions sessionId
      (some (closeRecord sessionId nowMs (a.sessions sessionId))) }

def prune (a : Store) (sessionId : String) : Store :=
  { a with
    sessions := Function.update a.sessions sessionId
      ((a.sessions sessionId).filter fun r => r.state ≠ .closed) }

def save (a : Store) (state : DaemonState) : Store :=
  state.sessions.foldl upsert
    { a with identity := state.daemonIdentity, devices := state.trustedDevices }

end Store

/-- The tables hold what the store holds. -/
structure Represents (codec : RestoreCodec) (db : Db) (a : Store) : Prop where
  identity : loadIdentity db = a.identity
  devices : ∀ id, db.trustedDevices.lookup id =
    (a.devices.find? fun d => d.deviceId = id).map TrustedDeviceState.row
  devices_nodup : (a.devices.map TrustedDeviceState.deviceId).Nodup
  devices_timely : ∀ d ∈ a.devices, d.Timely
  sessions : ∀ id, db.runtimeSessions.lookup id = (a.sessions id).map (·.row codec)
  sessions_held : ∀ id r, a.sessions id = some r → r.sessionId = id ∧ r.Timely ∧ r.stored = r

/-! ### Loading -/

section Load

variable {codec : RestoreCodec} {db : Db} {a : Store}

theorem mem_devicesInOrder {id : String} {row : TrustedDeviceRow} :
    ⟨id, row⟩ ∈ devicesInOrder db ↔ db.trustedDevices.lookup id = some row := by
  rw [devicesInOrder, List.mem_insertionSort]
  exact AList.mem_lookup_iff.symm

theorem mem_sessionsInOrder {id : String} {row : RuntimeSessionRow} :
    ⟨id, row⟩ ∈ sessionsInOrder db ↔ db.runtimeSessions.lookup id = some row := by
  rw [sessionsInOrder, List.mem_insertionSort]
  exact AList.mem_lookup_iff.symm

theorem deviceId_of_load {id : String} {row : TrustedDeviceRow} {d : TrustedDeviceState}
    (h : loadDevice id row = some d) : d.deviceId = id := by
  simp only [loadDevice, Option.bind_eq_bind, Option.bind_eq_some_iff] at h
  obtain ⟨_, _, _, _, h⟩ := h
  rw [← Option.some.inj h]

theorem sessionId_of_load {id : String} {row : RuntimeSessionRow} {r : SessionStateRecord}
    (h : loadSession codec id row = some r) : r.sessionId = id := by
  simp only [loadSession, Option.bind_eq_bind, Option.bind_eq_some_iff] at h
  obtain ⟨_, _, _, _, _, _, _, _, _, _, _, _, _, _, _, _, h⟩ := h
  rw [← Option.some.inj h]

/-- The rows of the devices are read, each as the device that it was made of. -/
theorem Represents.loadDevice_eq (h : Represents codec db a) {id : String} {row : TrustedDeviceRow}
    (hrow : db.trustedDevices.lookup id = some row) :
    ∃ d ∈ a.devices, d.deviceId = id ∧ loadDevice id row = some d := by
  rw [h.devices, Option.map_eq_some_iff] at hrow
  obtain ⟨d, hfind, rfl⟩ := hrow
  have hmem := List.mem_of_find?_eq_some hfind
  have hid : d.deviceId = id := by simpa using List.find?_some hfind
  subst hid
  exact ⟨d, hmem, rfl, loadDevice_row (h.devices_timely d hmem)⟩

theorem Represents.loadSession_eq (h : Represents codec db a) {id : String}
    {row : RuntimeSessionRow} (hrow : db.runtimeSessions.lookup id = some row) :
    ∃ r, a.sessions id = some r ∧ loadSession codec id row = some r := by
  rw [h.sessions, Option.map_eq_some_iff] at hrow
  obtain ⟨r, hr, rfl⟩ := hrow
  obtain ⟨rfl, htimely, hstored⟩ := h.sessions_held id r hr
  exact ⟨r, hr, loadSession_row codec htimely hstored⟩

theorem find?_deviceId {devices : List TrustedDeviceState}
    (hnodup : (devices.map TrustedDeviceState.deviceId).Nodup) {d : TrustedDeviceState}
    (hd : d ∈ devices) : devices.find? (fun e => e.deviceId = d.deviceId) = some d := by
  induction devices with
  | nil => cases hd
  | cons e devices ih =>
    obtain ⟨hnot, hrest⟩ := List.nodup_cons.mp hnodup
    rcases List.mem_cons.mp hd with rfl | hd
    · exact List.find?_cons_of_pos (decide_eq_true rfl)
    · have hne : e.deviceId ≠ d.deviceId := fun heq =>
        hnot (heq ▸ List.mem_map_of_mem hd)
      rw [List.find?_cons_of_neg (by simpa using hne), ih hrest hd]

/-- What is loaded of a store. -/
structure Loaded (a : Store) (state : DaemonState) : Prop where
  version_eq : state.version = STATE_SCHEMA_VERSION
  identity_eq : state.daemonIdentity = a.identity
  devices_perm : state.trustedDevices.Perm a.devices
  devices_sorted : (state.trustedDevices.map TrustedDeviceState.deviceId).Pairwise (· ≤ ·)
  mem_sessions : ∀ r, r ∈ state.sessions ↔ a.sessions r.sessionId = some r
  sessions_nodup : (state.sessions.map SessionStateRecord.sessionId).Nodup

/-- **What is loaded** is what is held. -/
theorem Represents.load (h : Represents codec db a) :
    ∃ state, loadSqliteState codec db = some state ∧ Loaded a state := by
  obtain ⟨devices, hdevices, hdeviceRows⟩ :=
    exists_mapM_eq (l := devicesInOrder db) (f := fun entry => loadDevice entry.1 entry.2)
      fun entry hentry => by
        obtain ⟨d, -, -, hd⟩ := h.loadDevice_eq (mem_devicesInOrder.mp hentry)
        rw [hd]
        rfl
  obtain ⟨sessions, hsessions, hsessionRows⟩ :=
    exists_mapM_eq (l := sessionsInOrder db) (f := fun entry => loadSession codec entry.1 entry.2)
      fun entry hentry => by
        obtain ⟨r, -, hr⟩ := h.loadSession_eq (mem_sessionsInOrder.mp hentry)
        rw [hr]
        rfl
  have hdeviceIds : devices.map TrustedDeviceState.deviceId =
      (devicesInOrder db).map Sigma.fst :=
    forall₂_map_eq hdeviceRows fun _ _ hrow => deviceId_of_load hrow
  have hsessionIds : sessions.map SessionStateRecord.sessionId =
      (sessionsInOrder db).map Sigma.fst :=
    forall₂_map_eq hsessionRows fun _ _ hrow => sessionId_of_load hrow
  have hdeviceNodup : (devices.map TrustedDeviceState.deviceId).Nodup := by
    rw [hdeviceIds]
    exact ((List.perm_insertionSort _ _).map _).nodup_iff.mpr db.trustedDevices.nodupKeys
  refine ⟨⟨STATE_SCHEMA_VERSION, loadIdentity db, devices, sessions⟩, ?_, rfl, h.identity, ?_, ?_,
    fun r => ?_, ?_⟩
  · rw [loadSqliteState, hdevices, hsessions]
    rfl
  · refine (List.perm_ext_iff_of_nodup hdeviceNodup.of_map h.devices_nodup.of_map).mpr fun d => ?_
    constructor
    · intro hd
      obtain ⟨entry, hentry, hrow⟩ := mem_of_forall₂ hdeviceRows hd
      obtain ⟨d', hd', -, hload⟩ := h.loadDevice_eq (mem_devicesInOrder.mp hentry)
      rwa [← Option.some.inj (hload.symm.trans hrow)]
    · intro hd
      have hrow : db.trustedDevices.lookup d.deviceId = some d.row := by
        rw [h.devices, find?_deviceId h.devices_nodup hd]
        rfl
      obtain ⟨d', hd', hload⟩ := mem_of_forall₂_left hdeviceRows (mem_devicesInOrder.mpr hrow)
      rwa [Option.some.inj ((loadDevice_row (h.devices_timely d hd)).symm.trans hload)]
  · rw [hdeviceIds, devicesInOrder, List.map_insertionSort _ (fun a b : String => a ≤ b) Sigma.fst
      _ fun _ _ _ _ => Iff.rfl]
    exact List.pairwise_insertionSort ..
  · constructor
    · intro hr
      obtain ⟨entry, hentry, hrow⟩ := mem_of_forall₂ hsessionRows hr
      obtain ⟨r', hr', hload⟩ := h.loadSession_eq (mem_sessionsInOrder.mp hentry)
      obtain rfl := Option.some.inj (hload.symm.trans hrow)
      rwa [sessionId_of_load hrow]
    · intro hr
      have hrow : db.runtimeSessions.lookup r.sessionId = some (r.row codec) := by
        rw [h.sessions, hr]
        rfl
      obtain ⟨-, htimely, hstored⟩ := h.sessions_held _ r hr
      obtain ⟨r', hr', hload⟩ := mem_of_forall₂_left hsessionRows (mem_sessionsInOrder.mpr hrow)
      rwa [Option.some.inj ((loadSession_row codec htimely hstored).symm.trans hload)]
  · rw [hsessionIds]
    exact ((List.perm_insertionSort _ _).map _).nodup_iff.mpr db.runtimeSessions.nodupKeys

end Load

/-! ### The statements of a save -/

section Save

variable {codec : RestoreCodec} {db db' : Db} {a : Store} {s : SessionStateRecord}

theorem stored_stored (r : SessionStateRecord) : r.stored.stored = r.stored := by
  by_cases hclosed : r.state = .closed <;> simp [SessionStateRecord.stored, hclosed]

theorem mergeRecord_stored (old : Option SessionStateRecord) (s : SessionStateRecord) :
    (mergeRecord old s).stored = mergeRecord old s := by
  rw [mergeRecord]
  split_ifs
  · rfl
  · exact stored_stored s

theorem mergeRecord_timely {old : Option SessionStateRecord} (h : s.Timely) :
    (mergeRecord old s).Timely := by
  rw [mergeRecord]
  split_ifs <;> exact h

theorem sessionId_mergeRecord (old : Option SessionStateRecord) :
    (mergeRecord old s).sessionId = s.sessionId := by
  rw [mergeRecord]
  split_ifs <;> rfl

theorem row_closed {r : SessionStateRecord} (h : r.state = .closed) :
    r.row codec = { r.row codec with state := closedText, restoreKind := none, restoreValue := none } := by
  simp only [SessionStateRecord.row, h, if_true]
  rfl

/-- What `ON CONFLICT` does to the row of a record. -/
theorem onConflict_row (old : SessionStateRecord) :
    (old.row codec).onConflict (s.row codec) = (mergeRecord (some old) s).row codec := by
  rw [RuntimeSessionRow.onConflict, mergeRecord, Option.any_some]
  by_cases hold : old.state = .closed
  · have holdRow : (old.row codec).state = closedText := (row_closed_iff codec).mpr hold
    simp only [holdRow, true_or, if_true, hold, decide_true]
    rfl
  · have holdRow : ¬ (old.row codec).state = closedText := fun h =>
      hold ((row_closed_iff codec).mp h)
    simp only [holdRow, false_or, hold, decide_false, Bool.false_eq_true, if_false, row_stored]
    by_cases hs : s.state = .closed
    · have hsRow : (s.row codec).state = closedText := (row_closed_iff codec).mpr hs
      simp only [hsRow, if_true]
      exact (row_closed hs).symm
    · have hsRow : ¬ (s.row codec).state = closedText := fun h => hs ((row_closed_iff codec).mp h)
      simp only [hsRow, if_false]

/-- A row is replaced by the row of a record. -/
theorem Represents.insertSession (h : Represents codec db a) {id : String} {r : SessionStateRecord}
    (hr : r.sessionId = id ∧ r.Timely ∧ r.stored = r) :
    Represents codec
      { db with runtimeSessions := db.runtimeSessions.insert id (r.row codec) }
      { a with sessions := Function.update a.sessions id (some r) } := by
  refine { h with sessions := fun k => ?_, sessions_held := fun k r' hk => ?_ }
  · by_cases hk : k = id
    · subst hk
      simp only [AList.lookup_insert, Function.update_self, Option.map_some]
    · simp only [AList.lookup_insert_ne hk, Function.update_of_ne hk, h.sessions]
  · by_cases hkid : k = id
    · subst hkid
      simp only [Function.update_self] at hk
      rwa [← Option.some.inj hk]
    · simp only [Function.update_of_ne hkid] at hk
      exact h.sessions_held k r' hk

theorem Represents.upsertSession (h : Represents codec db a) (htimely : s.Timely) : ∃ row,
    State.upsertSession codec s db =
        some { db with runtimeSessions := db.runtimeSessions.insert s.sessionId row } ∧
      Represents codec { db with runtimeSessions := db.runtimeSessions.insert s.sessionId row }
        (a.upsert s) := by
  refine ⟨(mergeRecord (a.sessions s.sessionId) s).row codec, ?_, ?_⟩
  · rw [State.upsertSession, h.sessions]
    cases a.sessions s.sessionId with
    | none => simp only [Option.map_none, mergeRecord, Option.any_none, Bool.false_eq_true, if_false,
        row_stored]
    | some old => simp only [Option.map_some, onConflict_row]
  · exact h.insertSession
      ⟨sessionId_mergeRecord _, mergeRecord_timely htimely, mergeRecord_stored _ _⟩

theorem Represents.upsertSessions (h : Represents codec db a) (sessions : List SessionStateRecord)
    (htimely : ∀ s ∈ sessions, s.Timely) : ∃ table,
    (sessions.map (State.upsertSession codec)).foldlM (fun db statement => statement db) db =
        some { db with runtimeSessions := table } ∧
      Represents codec { db with runtimeSessions := table } (sessions.foldl Store.upsert a) := by
  induction sessions generalizing db a with
  | nil => exact ⟨db.runtimeSessions, rfl, h⟩
  | cons s sessions ih =>
    obtain ⟨hs, hsessions⟩ := List.forall_mem_cons.mp htimely
    obtain ⟨row, hstep, hrow⟩ := h.upsertSession hs
    obtain ⟨table, hrest, htable⟩ := ih hrow hsessions
    refine ⟨table, ?_, htable⟩
    rw [List.map_cons, List.foldlM_cons, hstep]
    exact hrest

/-- The devices are inserted one after another, and no two have the same identifier. -/
theorem insertDevices (done : List TrustedDeviceState) {devices : List TrustedDeviceState}
    (hdone : ∀ id, db.trustedDevices.lookup id =
      (done.find? fun d => d.deviceId = id).map TrustedDeviceState.row)
    (hnodup : (done.map TrustedDeviceState.deviceId).Nodup)
    (h : (devices.map insertTrustedDevice).foldlM (fun db statement => statement db) db =
      some db') : ∃ table, db' = { db with trustedDevices := table } ∧
        (∀ id, table.lookup id =
          ((done ++ devices).find? fun d => d.deviceId = id).map TrustedDeviceState.row) ∧
        ((done ++ devices).map TrustedDeviceState.deviceId).Nodup := by
  induction devices generalizing db done with
  | nil =>
    obtain rfl := Option.some.inj h
    rw [List.append_nil]
    exact ⟨db.trustedDevices, rfl, hdone, hnodup⟩
  | cons d devices ih =>
    rw [List.map_cons, List.foldlM_cons, Option.bind_eq_bind, Option.bind_eq_some_iff] at h
    obtain ⟨db₁, hinsert, hrest⟩ := h
    rw [insertTrustedDevice, Option.map_eq_some_iff] at hinsert
    obtain ⟨table, htable, rfl⟩ := hinsert
    obtain ⟨hnew, rfl⟩ := Table.insertNew_eq_some.mp htable
    rw [hdone, Option.map_eq_none_iff] at hnew
    have hdone' (id : String) : AList.lookup id (db.trustedDevices.insert d.deviceId d.row) =
        ((done ++ [d]).find? fun e => e.deviceId = id).map TrustedDeviceState.row := by
      rw [List.find?_append]
      by_cases hid : id = d.deviceId
      · subst hid
        rw [AList.lookup_insert, hnew]
        simp
      · rw [AList.lookup_insert_ne hid, hdone]
        have hne : ¬ d.deviceId = id := fun heq => hid heq.symm
        simp [hne]
    have hnodup' : ((done ++ [d]).map TrustedDeviceState.deviceId).Nodup := by
      rw [List.map_append, List.map_singleton, List.nodup_append]
      refine ⟨hnodup, List.nodup_singleton _, ?_⟩
      intro id hid id' hid' heq
      obtain ⟨e, he, rfl⟩ := List.mem_map.mp hid
      obtain rfl := List.mem_singleton.mp hid'
      have hnot := List.find?_eq_none.mp hnew e he
      simp [heq] at hnot
    obtain ⟨table, rfl, hlookup, hall⟩ := ih _ hdone' hnodup' hrest
    rw [List.append_assoc, List.singleton_append] at hlookup hall
    exact ⟨table, rfl, hlookup, hall⟩

theorem saveIdentity_eq (identity : Option DaemonIdentitySnapshot) (db : Db) : ∃ table,
    (saveIdentity identity).foldlM (fun db statement => statement db) db =
        some { db with daemonMeta := table } ∧
      loadIdentity { db with daemonMeta := table } = identity ∧
      table.lookup .stateSchemaVersion = db.daemonMeta.lookup .stateSchemaVersion := by
  cases identity with
  | none =>
    refine ⟨_, rfl, ?_, ?_⟩
    · simp [loadIdentity, AList.lookup_erase_ne]
    · simp [AList.lookup_erase_ne]
  | some identity =>
    obtain ⟨serverId, publicKey, privateKey⟩ := identity
    cases privateKey with
    | none =>
      refine ⟨_, rfl, ?_, ?_⟩
      · simp [loadIdentity, AList.lookup_erase_ne, AList.lookup_insert_ne]
      · simp [AList.lookup_erase_ne, AList.lookup_insert_ne]
    | some privateKey =>
      refine ⟨_, rfl, ?_, ?_⟩
      · simp [loadIdentity, AList.lookup_insert_ne]
      · simp [AList.lookup_insert_ne]

theorem Store.foldl_upsert_frame (sessions : List SessionStateRecord) (a : Store) :
    (sessions.foldl Store.upsert a).identity = a.identity ∧
      (sessions.foldl Store.upsert a).devices = a.devices := by
  induction sessions generalizing a with
  | nil => exact ⟨rfl, rfl⟩
  | cons s sessions ih => exact ih (a.upsert s)

/-- A session that is missing from the snapshot stays as it is. -/
theorem Store.foldl_upsert_of_missing {sessions : List SessionStateRecord} {id : String}
    (h : ∀ s ∈ sessions, s.sessionId ≠ id) (a : Store) :
    (sessions.foldl Store.upsert a).sessions id = a.sessions id := by
  induction sessions generalizing a with
  | nil => rfl
  | cons s sessions ih =>
    obtain ⟨hs, hsessions⟩ := List.forall_mem_cons.mp h
    rw [List.foldl_cons, ih hsessions, Store.upsert]
    exact Function.update_of_ne hs.symm _ _

theorem Store.foldl_upsert_of_mem {sessions : List SessionStateRecord}
    (hnodup : (sessions.map SessionStateRecord.sessionId).Nodup) (hs : s ∈ sessions) (a : Store) :
    (sessions.foldl Store.upsert a).sessions s.sessionId =
      some (mergeRecord (a.sessions s.sessionId) s) := by
  induction sessions generalizing a with
  | nil => cases hs
  | cons first sessions ih =>
    obtain ⟨hnot, hrest⟩ := List.nodup_cons.mp hnodup
    rw [List.foldl_cons]
    rcases List.mem_cons.mp hs with rfl | hs
    · have hmissing : ∀ s' ∈ sessions, s'.sessionId ≠ s.sessionId := fun s' hs' heq =>
        hnot (List.mem_map.mpr ⟨s', hs', heq⟩)
      rw [Store.foldl_upsert_of_missing hmissing, Store.upsert]
      exact Function.update_self ..
    · have hne : s.sessionId ≠ first.sessionId := fun heq =>
        hnot (List.mem_map.mpr ⟨s, hs, heq⟩)
      rw [ih hrest hs, Store.upsert]
      simp only [Function.update_of_ne hne]

end Save

/-! ### The writers -/

/-- A state that can be saved: no session occurs twice, and the times fit into the columns. -/
structure Snapshot extends DaemonState where
  sessions_nodup : (sessions.map SessionStateRecord.sessionId).Nodup
  sessions_timely : ∀ s ∈ sessions, s.Timely
  devices_timely : ∀ d ∈ trustedDevices, d.Timely

/-- The store has a version, or it is new. -/
def Db.Ready (db : Db) : Prop :=
  db.daemonMeta.lookup .stateSchemaVersion = some versionText ∨ db = {}

inductive Op
  | save (fault : Option Fault) (snapshot : Snapshot)
  | recordClosed (fault : Option Fault) (sessionId : String) (nowMs : Fin (2 ^ 63))
  | prune (fault : Option Fault) (sessionId : String)
  | pruneExcept (fault : Option Fault) (protected_ : List String)

namespace Op

def apply (codec : RestoreCodec) (db : Db) : Op → Db × Outcome
  | save fault snapshot => State.save codec fault snapshot.toDaemonState db
  | recordClosed fault sessionId nowMs => recordRuntimeSessionClosed fault sessionId nowMs db
  | prune fault sessionId => pruneClosedSession fault sessionId db
  | pruneExcept fault protected_ => pruneClosedSessionsExcept fault protected_ db

/-- The writer is to prune the session if it is closed. -/
def prunes (sessionId : String) : Op → Bool
  | prune _ id => id = sessionId
  | pruneExcept _ protected_ => sessionId ∉ protected_
  | _ => false

end Op

/-- The store after some writers, from a new one. -/
def run (codec : RestoreCodec) (ops : List Op) : Db :=
  ops.foldl (fun db op => (op.apply codec db).1) {}

section Writers

variable {codec : RestoreCodec} {db db' : Db} {a : Store} {id : String}

def Store.Closed (a : Store) (id : String) : Prop := ∃ r, a.sessions id = some r ∧ r.state = .closed

theorem Db.Ready.ensure (h : db.Ready) : ensureSqliteStateVersion db = some db := by
  have hversion : parseU32 versionText = some STATE_SCHEMA_VERSION := by decide
  rcases h with h | rfl
  · rw [ensureSqliteStateVersion, h]
    simp only [hversion]
    rfl
  · rfl

theorem represents_new (codec : RestoreCodec) : Represents codec {} .empty where
  identity := rfl
  devices _ := rfl
  devices_nodup := List.nodup_nil
  devices_timely _ hd := absurd hd List.not_mem_nil
  sessions _ := rfl
  sessions_held _ _ hr := by cases hr

theorem Represents.save (h : Represents codec db a) (snapshot : Snapshot)
    (hversion : snapshot.version = STATE_SCHEMA_VERSION)
    (hbody : (saveBody codec snapshot.toDaemonState).foldlM (fun db statement => statement db) db =
      some db') :
    Represents codec db' (a.save snapshot.toDaemonState) ∧
      db'.daemonMeta.lookup .stateSchemaVersion = some versionText := by
  obtain ⟨table, hidentity, hload, htable⟩ := saveIdentity_eq snapshot.daemonIdentity
    { db with daemonMeta := db.daemonMeta.insert .stateSchemaVersion (toString snapshot.version) }
  rw [saveBody, List.foldlM_append, List.foldlM_append, List.foldlM_cons] at hbody
  simp only [Option.bind_eq_bind, Option.bind_eq_some_iff, upsertMetaValue, Option.some.injEq] at hbody
  obtain ⟨db₂, ⟨db₁, ⟨_, rfl, hmeta⟩, hdevices⟩, hsessions⟩ := hbody
  obtain rfl := Option.some.inj (hidentity.symm.trans hmeta)
  simp only [List.foldlM_cons, deleteTrustedDevices, Option.bind_eq_bind, Option.bind_some] at hdevices
  obtain ⟨devices, rfl, hlookup, hnodup⟩ :=
    insertDevices [] (fun _ => rfl) List.nodup_nil hdevices
  rw [List.nil_append] at hlookup hnodup
  have hheld : Represents codec
      { db with daemonMeta := table, trustedDevices := devices }
      { a with identity := snapshot.daemonIdentity, devices := snapshot.trustedDevices } :=
    { identity := hload
      devices := hlookup
      devices_nodup := hnodup
      devices_timely := snapshot.devices_timely
      sessions := h.sessions
      sessions_held := h.sessions_held }
  obtain ⟨sessions, hrun, hrepresents⟩ :=
    hheld.upsertSessions snapshot.sessions snapshot.sessions_timely
  obtain rfl := Option.some.inj (hrun.symm.trans hsessions)
  refine ⟨hrepresents, htable.trans ?_⟩
  rw [AList.lookup_insert, hversion]
  rfl

/-- **A save has all of its effects or none.** -/
theorem save_cases (hready : db.Ready) (h : Represents codec db a) (fault : Option Fault)
    (snapshot : Snapshot) {outcome : Outcome}
    (hsave : State.save codec fault snapshot.toDaemonState db = (db', outcome)) :
    (outcome = .committed ∧ Represents codec db' (a.save snapshot.toDaemonState) ∧ db'.Ready) ∨
      (outcome ≠ .committed ∧ db' = db) := by
  rw [State.save, hready.ensure] at hsave
  simp only at hsave
  split_ifs at hsave with hversion
  · rcases transaction_cases hsave with ⟨rfl, -, hbody⟩ | hfailed
    · obtain ⟨hrepresents, hversion'⟩ := h.save snapshot hversion hbody
      exact .inl ⟨rfl, hrepresents, .inl hversion'⟩
    · exact .inr hfailed
  · obtain ⟨rfl, rfl⟩ := Prod.mk.inj hsave
    exact .inr ⟨Outcome.noConfusion, rfl⟩

theorem Represents.closeSession (h : Represents codec db a) (sessionId : String) {nowMs : ℕ}
    (hnow : nowMs < 2 ^ 63) : ∃ row,
    State.closeSession sessionId nowMs db =
        some { db with runtimeSessions := db.runtimeSessions.insert sessionId row } ∧
      Represents codec { db with runtimeSessions := db.runtimeSessions.insert sessionId row }
        (a.close sessionId nowMs) := by
  refine ⟨(closeRecord sessionId nowMs (a.sessions sessionId)).row codec, ?_, ?_⟩
  · rw [State.closeSession, h.sessions]
    cases a.sessions sessionId with
    | none => rfl
    | some r => simp [closeRecord, SessionStateRecord.row, closedText]
  · refine h.insertSession ?_
    cases hr : a.sessions sessionId with
    | none => exact ⟨rfl, ⟨hnow, hnow⟩, rfl⟩
    | some r =>
      obtain ⟨hid, htimely, -⟩ := h.sessions_held sessionId r hr
      exact ⟨hid, ⟨htimely.1, hnow⟩, rfl⟩

theorem Represents.upsertVersion (h : Represents codec db a) : Represents codec
    { db with daemonMeta := db.daemonMeta.insert .stateSchemaVersion versionText } a := by
  refine { h with identity := ?_ }
  rw [← h.identity]
  simp [loadIdentity, AList.lookup_insert_ne]

theorem Represents.recordClosed (h : Represents codec db a) (sessionId : String) {nowMs : ℕ}
    (hnow : nowMs < 2 ^ 63)
    (hbody : [upsertMetaValue .stateSchemaVersion versionText,
      State.closeSession sessionId nowMs].foldlM (fun db statement => statement db) db = some db') :
    Represents codec db' (a.close sessionId nowMs) ∧ db'.Ready := by
  obtain ⟨row, hclose, hrepresents⟩ := h.upsertVersion.closeSession sessionId hnow
  simp only [List.foldlM_cons, List.foldlM_nil, upsertMetaValue, hclose, Option.bind_eq_bind,
    Option.bind_some] at hbody
  obtain rfl := Option.some.inj hbody
  exact ⟨hrepresents, .inl (AList.lookup_insert _)⟩

theorem Represents.deleteClosedSession (h : Represents codec db a) (hready : db.Ready)
    (sessionId : String) : ∃ db', State.deleteClosedSession sessionId db = some db' ∧
      Represents codec db' (a.prune sessionId) ∧ db'.Ready := by
  refine ⟨_, rfl, { h with sessions := fun id => ?_, sessions_held := fun id r hr => ?_ }, ?_⟩
  · rw [Table.lookup_deleteWhere, Store.prune]
    by_cases hid : id = sessionId
    · subst hid
      rw [if_pos rfl, h.sessions]
      simp only [Function.update_self]
      cases a.sessions id with
      | none => rfl
      | some r =>
        by_cases hclosed : r.state = .closed
        · simp [Option.filter_some, hclosed, (row_closed_iff codec).mpr hclosed]
        · simp [Option.filter_some, hclosed, mt (row_closed_iff codec).mp hclosed]
    · rw [if_neg hid, h.sessions]
      simp only [Function.update_of_ne hid]
  · rw [Store.prune] at hr
    by_cases hid : id = sessionId
    · subst hid
      simp only [Function.update_self, Option.filter_eq_some_iff] at hr
      exact h.sessions_held id r hr.1
    · simp only [Function.update_of_ne hid] at hr
      exact h.sessions_held id r hr
  · rcases hready with hversion | rfl
    · exact .inl hversion
    · exact .inr rfl

theorem Represents.deleteClosedSessions (h : Represents codec db a) (hready : db.Ready)
    (ids : List String) : ∃ db',
    (ids.map State.deleteClosedSession).foldlM (fun db statement => statement db) db = some db' ∧
      Represents codec db' (ids.foldl Store.prune a) ∧ db'.Ready := by
  induction ids generalizing db a with
  | nil => exact ⟨db, rfl, h, hready⟩
  | cons id ids ih =>
    obtain ⟨db₁, hdelete, hrepresents, hready₁⟩ := h.deleteClosedSession hready id
    obtain ⟨db', hrest, hdone⟩ := ih hrepresents hready₁
    refine ⟨db', ?_, hdone⟩
    rw [List.map_cons, List.foldlM_cons, hdelete]
    exact hrest

/-- A session that is not among those to be pruned is left as it is. -/
theorem Store.foldl_prune_of_not_mem {ids : List String} {id : String} (h : id ∉ ids) (a : Store) :
    (ids.foldl Store.prune a).sessions id = a.sessions id := by
  induction ids generalizing a with
  | nil => rfl
  | cons first ids ih =>
    obtain ⟨hne, hids⟩ := List.ne_and_not_mem_of_not_mem_cons h
    rw [List.foldl_cons, ih hids, Store.prune]
    exact Function.update_of_ne hne _ _

theorem Store.Closed.upsert (h : a.Closed id) (s : SessionStateRecord) : (a.upsert s).Closed id := by
  obtain ⟨r, hr, hclosed⟩ := h
  by_cases hid : id = s.sessionId
  · subst hid
    refine ⟨{ s with state := .closed, restoreInfo := none }, ?_, rfl⟩
    simp [Store.upsert, mergeRecord, hr, hclosed]
  · exact ⟨r, (Function.update_of_ne hid _ _).trans hr, hclosed⟩

theorem Store.Closed.save (h : a.Closed id) (state : DaemonState) : (a.save state).Closed id := by
  have hfold (sessions : List SessionStateRecord) {a : Store} (h : a.Closed id) :
      (sessions.foldl Store.upsert a).Closed id := by
    induction sessions generalizing a with
    | nil => exact h
    | cons s sessions ih => exact ih (h.upsert s)
  exact hfold state.sessions h

theorem Store.Closed.close (h : a.Closed id) (sessionId : String) (nowMs : ℕ) :
    (a.close sessionId nowMs).Closed id := by
  obtain ⟨r, hr, hclosed⟩ := h
  by_cases hid : id = sessionId
  · subst hid
    refine ⟨{ r with state := .closed, updatedAtMs := nowMs, restoreInfo := none }, ?_, rfl⟩
    simp [Store.close, closeRecord, hr]
  · exact ⟨r, (Function.update_of_ne hid _ _).trans hr, hclosed⟩

/-- What one writer does: it fails and changes nothing, or the tables hold a new store, in which a
session that was closed is closed unless the writer prunes it. -/
theorem Represents.step (hready : db.Ready) (h : Represents codec db a) {op : Op}
    {outcome : Outcome} (hop : op.apply codec db = (db', outcome)) :
    (outcome ≠ .committed ∧ db' = db) ∨
      outcome = .committed ∧ ∃ a', Represents codec db' a' ∧ db'.Ready ∧
        ∀ id, op.prunes id = false → a.Closed id → a'.Closed id := by
  cases op with
  | save fault snapshot =>
    rcases save_cases hready h fault snapshot hop with ⟨hdone, hrepresents, hready'⟩ | hfailed
    · exact .inr ⟨hdone, _, hrepresents, hready', fun id _ hclosed => hclosed.save _⟩
    · exact .inl hfailed
  | recordClosed fault sessionId nowMs =>
    rw [Op.apply, recordRuntimeSessionClosed, hready.ensure] at hop
    rcases transaction_cases hop with ⟨hdone, -, hbody⟩ | hfailed
    · obtain ⟨hrepresents, hready'⟩ := h.recordClosed sessionId nowMs.isLt hbody
      exact .inr ⟨hdone, _, hrepresents, hready', fun id _ hclosed => hclosed.close _ _⟩
    · exact .inl hfailed
  | prune fault sessionId =>
    rw [Op.apply, pruneClosedSession, hready.ensure] at hop
    rcases transaction_cases hop with ⟨hdone, -, hbody⟩ | hfailed
    · obtain ⟨db₁, hdelete, hrepresents, hready'⟩ :=
        h.deleteClosedSessions hready [sessionId]
      obtain rfl := Option.some.inj (hdelete.symm.trans hbody)
      refine .inr ⟨hdone, _, hrepresents, hready', fun id hid ⟨r, hr, hclosed⟩ => ⟨r, ?_, hclosed⟩⟩
      rw [Store.foldl_prune_of_not_mem (by simpa [Op.prunes, eq_comm] using hid), hr]
    · exact .inl hfailed
  | pruneExcept fault protected_ =>
    rw [Op.apply, pruneClosedSessionsExcept, hready.ensure] at hop
    rcases transaction_cases hop with ⟨hdone, -, hbody⟩ | hfailed
    · obtain ⟨db₁, hdelete, hrepresents, hready'⟩ :=
        h.deleteClosedSessions hready (deletableSessions protected_ db)
      obtain rfl := Option.some.inj (hdelete.symm.trans hbody)
      refine .inr ⟨hdone, _, hrepresents, hready', fun id hid ⟨r, hr, hclosed⟩ => ⟨r, ?_, hclosed⟩⟩
      have hprotected : id ∈ protected_ := by simpa [Op.prunes] using hid
      rw [Store.foldl_prune_of_not_mem ?_, hr]
      intro hmem
      obtain ⟨k, row, -, hselect⟩ := Table.mem_select.mp hmem
      simp only [Option.ite_none_right_eq_some, Option.some.injEq] at hselect
      obtain ⟨⟨-, hnot⟩, rfl⟩ := hselect
      exact hnot hprotected
    · exact .inl hfailed

/-- What a run of writers does. -/
theorem Represents.run (hready : db.Ready) (h : Represents codec db a) (ops : List Op) : ∃ a',
    Represents codec (ops.foldl (fun db op => (op.apply codec db).1) db) a' ∧
      (ops.foldl (fun db op => (op.apply codec db).1) db).Ready ∧
      ∀ id, (∀ op ∈ ops, op.prunes id = false) → a.Closed id → a'.Closed id := by
  induction ops generalizing db a with
  | nil => exact ⟨a, h, hready, fun _ _ hclosed => hclosed⟩
  | cons op ops ih =>
    have hop : op.apply codec db = ((op.apply codec db).1, (op.apply codec db).2) := rfl
    rcases h.step hready hop with
      ⟨-, hsame⟩ | ⟨-, a₁, h₁, hready₁, hkept⟩
    · obtain ⟨a', h', hready', hkept⟩ := ih hready h
      rw [List.foldl_cons, hsame]
      exact ⟨a', h', hready', fun id hops hclosed =>
        hkept id (fun op hop => hops op (List.mem_cons_of_mem _ hop)) hclosed⟩
    · obtain ⟨a', h', hready', hkept'⟩ := ih hready₁ h₁
      refine ⟨a', h', hready', fun id hops hclosed => ?_⟩
      obtain ⟨hop, hrest⟩ := List.forall_mem_cons.mp hops
      exact hkept' id hrest (hkept id hop hclosed)

theorem represents_run (codec : RestoreCodec) (ops : List Op) :
    ∃ a, Represents codec (State.run codec ops) a ∧ (State.run codec ops).Ready := by
  obtain ⟨a, h, hready, -⟩ := (represents_new codec).run (.inr rfl) ops
  exact ⟨a, h, hready⟩

end Writers

/-! ### What is loaded after a save -/

/-- A saved session that is not to be restored: it was closed before, or it is saved as closed. -/
def ClosedBy (before : List SessionStateRecord) (s : SessionStateRecord) : Prop :=
  s.state = .closed ∨ ∃ b ∈ before, b.sessionId = s.sessionId ∧ b.state = .closed

/-- The state `after` is the saved state with the sessions of `before` that are missing from it. -/
structure Merged (before : List SessionStateRecord) (saved after : DaemonState) : Prop where
  identity_eq : after.daemonIdentity = saved.daemonIdentity
  devices_perm : after.trustedDevices.Perm saved.trustedDevices
  devices_sorted : (after.trustedDevices.map TrustedDeviceState.deviceId).Pairwise (· ≤ ·)
  missing_iff : ∀ r, (∀ s ∈ saved.sessions, s.sessionId ≠ r.sessionId) →
    (r ∈ after.sessions ↔ r ∈ before)
  saved_mem : ∀ s ∈ saved.sessions, ∃ r ∈ after.sessions,
    (r.sessionId = s.sessionId ∧ r.size = s.size ∧ r.createdAtMs = s.createdAtMs ∧
      r.updatedAtMs = s.updatedAtMs) ∧
    (ClosedBy before s → r.state = .closed ∧ r.restoreInfo = none) ∧
    (¬ ClosedBy before s → r.state = s.state ∧ r.restoreInfo = s.restoreInfo)
  sessions_nodup : (after.sessions.map SessionStateRecord.sessionId).Nodup

section Merging

variable {codec : RestoreCodec} {db db' : Db} {a : Store} {before after : DaemonState}
  {s : SessionStateRecord}

theorem Represents.closedBy_iff (h : Represents codec db a) (hbefore : Loaded a before) :
    ClosedBy before.sessions s ↔
      s.state = .closed ∨ (a.sessions s.sessionId).any (·.state = .closed) = true := by
  refine or_congr_right ?_
  constructor
  · rintro ⟨b, hb, hid, hclosed⟩
    rw [hbefore.mem_sessions, hid] at hb
    rw [hb, Option.any_some, decide_eq_true hclosed]
  · intro hany
    obtain ⟨b, hb, hclosed⟩ := (Option.any_eq_true ..).mp hany
    obtain ⟨hid, -, -⟩ := h.sessions_held _ b hb
    exact ⟨b, (hbefore.mem_sessions b).mpr (hid ▸ hb), hid, of_decide_eq_true hclosed⟩

theorem mergeRecord_of_closed {old : Option SessionStateRecord}
    (h : s.state = .closed ∨ old.any (·.state = .closed) = true) :
    (mergeRecord old s).state = .closed ∧ (mergeRecord old s).restoreInfo = none := by
  rw [mergeRecord]
  split_ifs with hold
  · exact ⟨rfl, rfl⟩
  · have hclosed : s.state = .closed := h.resolve_right hold
    exact ⟨hclosed, if_pos hclosed⟩

theorem mergeRecord_of_not_closed {old : Option SessionStateRecord}
    (h : ¬ (s.state = .closed ∨ old.any (·.state = .closed) = true)) : mergeRecord old s = s := by
  obtain ⟨hs, hold⟩ := not_or.mp h
  rw [mergeRecord, if_neg hold, SessionStateRecord.stored, if_neg hs]

theorem mergeRecord_columns (old : Option SessionStateRecord) :
    (mergeRecord old s).size = s.size ∧ (mergeRecord old s).createdAtMs = s.createdAtMs ∧
      (mergeRecord old s).updatedAtMs = s.updatedAtMs := by
  rw [mergeRecord]
  split_ifs
  · exact ⟨rfl, rfl, rfl⟩
  · exact ⟨rfl, rfl, rfl⟩

theorem Represents.merged (h : Represents codec db a) (hbefore : Loaded a before)
    (snapshot : Snapshot) (hafter : Loaded (a.save snapshot.toDaemonState) after) :
    Merged before.sessions snapshot.toDaemonState after := by
  obtain ⟨hidentity, hdevices⟩ := Store.foldl_upsert_frame snapshot.sessions
    { a with identity := snapshot.daemonIdentity, devices := snapshot.trustedDevices }
  refine ⟨hafter.identity_eq.trans hidentity, hafter.devices_perm.trans (.of_eq hdevices),
    hafter.devices_sorted, fun r hmissing => ?_, fun s hs => ?_, hafter.sessions_nodup⟩
  · rw [hafter.mem_sessions, hbefore.mem_sessions, Store.save,
      Store.foldl_upsert_of_missing hmissing]
  · have hmerged : (a.save snapshot.toDaemonState).sessions s.sessionId =
        some (mergeRecord (a.sessions s.sessionId) s) :=
      Store.foldl_upsert_of_mem snapshot.sessions_nodup hs _
    have hid : (mergeRecord (a.sessions s.sessionId) s).sessionId = s.sessionId :=
      sessionId_mergeRecord _
    refine ⟨mergeRecord (a.sessions s.sessionId) s, ?_, ⟨hid, mergeRecord_columns _⟩, ?_, ?_⟩
    · rw [hafter.mem_sessions, hid, hmerged]
    · rw [h.closedBy_iff hbefore]
      exact mergeRecord_of_closed
    · rw [h.closedBy_iff hbefore]
      intro hopen
      rw [mergeRecord_of_not_closed hopen]
      exact ⟨rfl, rfl⟩

theorem Represents.closed_iff (h : Represents codec db a) (hafter : Loaded a after) {id : String} :
    a.Closed id ↔ ∃ r ∈ after.sessions, r.sessionId = id ∧ r.state = .closed := by
  constructor
  · rintro ⟨r, hr, hclosed⟩
    obtain ⟨rfl, -, -⟩ := h.sessions_held id r hr
    exact ⟨r, (hafter.mem_sessions r).mpr hr, rfl, hclosed⟩
  · rintro ⟨r, hr, rfl, hclosed⟩
    exact ⟨r, (hafter.mem_sessions r).mp hr, hclosed⟩

theorem Represents.restoreInfo_of_closed (h : Represents codec db a) (hafter : Loaded a after)
    {r : SessionStateRecord} (hr : r ∈ after.sessions) (hclosed : r.state = .closed) :
    r.restoreInfo = none := by
  obtain ⟨-, -, hstored⟩ := h.sessions_held _ r ((hafter.mem_sessions r).mp hr)
  rw [← hstored, SessionStateRecord.stored]
  exact if_pos hclosed

/-- The state of the old file is taken for an empty store only. -/
theorem load_eq (hready : db.Ready) (hload : loadSqliteState codec db = some after)
    {legacy : Option (Option DaemonState)}
    (h : legacy = some none ∨
      after.daemonIdentity ≠ none ∨ after.trustedDevices ≠ [] ∨ after.sessions ≠ []) :
    load codec legacy db = some after := by
  rw [load, hready.ensure]
  simp only [Option.bind_eq_bind, Option.bind_some, hload]
  rcases h with rfl | h
  · simp
  · rw [if_pos]
    · rfl
    · simp only [Bool.or_eq_true, Bool.not_eq_true', List.isEmpty_eq_false_iff,
        Option.isSome_iff_ne_none]
      tauto

end Merging

/-- **Saved states are merged.** After any writers, a save that succeeds is loaded as the saved state
merged with what was loaded before it, and any writer that fails changes nothing. A session that is
loaded as closed has nothing to restore, and it is loaded so after any further writers of which none
prunes it. -/
theorem state_merges (codec : RestoreCodec) (legacy : Option (Option DaemonState)) (ops : List Op) :
    (∀ (fault : Option Fault) (snapshot : Snapshot) (db' : Db),
      (Op.save fault snapshot).apply codec (run codec ops) = (db', .committed) →
      ∃ before after, loadSqliteState codec (run codec ops) = some before ∧
        loadSqliteState codec db' = some after ∧
        Merged before.sessions snapshot.toDaemonState after ∧
        (legacy = some none ∨ after.daemonIdentity ≠ none ∨ after.trustedDevices ≠ [] ∨
          after.sessions ≠ [] → load codec legacy db' = some after)) ∧
    (∀ (op : Op) (db' : Db) (outcome : Outcome),
      op.apply codec (run codec ops) = (db', outcome) → outcome ≠ .committed →
      db' = run codec ops) ∧
    (∀ before, loadSqliteState codec (run codec ops) = some before →
      ∀ r ∈ before.sessions, r.state = .closed → r.restoreInfo = none ∧
        ∀ later : List Op, (∀ op ∈ later, op.prunes r.sessionId = false) →
          ∃ after, load codec legacy (run codec (ops ++ later)) = some after ∧
            ∃ r' ∈ after.sessions, r'.sessionId = r.sessionId ∧ r'.state = .closed ∧
              r'.restoreInfo = none) := by
  obtain ⟨a, h, hready⟩ := represents_run codec ops
  obtain ⟨before, hload, hbefore⟩ := h.load
  refine ⟨fun fault snapshot db' hsave => ?_, fun op db' outcome hop hfailed => ?_,
    fun before' hload' r hr hclosed => ?_⟩
  · rcases save_cases hready h fault snapshot hsave with ⟨-, h', hready'⟩ | ⟨hfailed, -⟩
    · obtain ⟨after, hload', hafter⟩ := h'.load
      exact ⟨before, after, hload, hload', h.merged hbefore snapshot hafter, load_eq hready' hload'⟩
    · exact absurd rfl hfailed
  · rcases h.step hready hop with ⟨-, hsame⟩ | ⟨hdone, -⟩
    · exact hsame
    · exact absurd hdone hfailed
  · obtain rfl := Option.some.inj (hload.symm.trans hload')
    refine ⟨h.restoreInfo_of_closed hbefore hr hclosed, fun later hlater => ?_⟩
    obtain ⟨a', h', hready', hkept⟩ := h.run hready later
    obtain ⟨after, hload', hafter⟩ := h'.load
    obtain ⟨r', hr', hid, hclosed'⟩ := (h'.closed_iff hafter).mp
      (hkept r.sessionId hlater ((h.closed_iff hbefore).mpr ⟨r, hr, rfl, hclosed⟩))
    refine ⟨after, ?_, r', hr', hid, hclosed', h'.restoreInfo_of_closed hafter hr' hclosed'⟩
    rw [run, List.foldl_append]
    exact load_eq hready' hload' (.inr (.inr (.inr (List.ne_nil_of_mem hr'))))

/-! ### Two states that are not loaded as they were saved -/

/-- A codec whose texts begin with a number in unary. -/
def plainCodec : RestoreCodec where
  unixSocketText socketPath supervisorPid supervisorStatus := String.ofList <|
    List.replicate supervisorPid 'p' ++ (match supervisorStatus with
      | .running => 'r'
      | .closing => 'c'
      | .closed => 'd') :: socketPath.toList
  parseUnixSocket text :=
    match text.toList.dropWhile (· = 'p') with
    | [] => none
    | status :: socketPath => some (String.ofList socketPath,
        (text.toList.takeWhile (· = 'p')).length,
        if status = 'r' then .running else if status = 'c' then .closing else .closed)
  tmuxText socketPath sessionName := String.ofList <|
    List.replicate socketPath.toList.length 'n' ++ '.' :: socketPath.toList ++ sessionName.toList
  parseTmux text :=
    let count := (text.toList.takeWhile (· = 'n')).length
    let rest := (text.toList.dropWhile (· = 'n')).tail
    some (String.ofList (rest.take count), String.ofList (rest.drop count))
  parse_unixSocketText socketPath supervisorPid supervisorStatus := by
    cases supervisorStatus <;> simp
  parse_tmuxText socketPath sessionName := by
    simp

/-- A session that runs, with a tmux session of its own. -/
def runningSnapshot : Snapshot where
  version := STATE_SCHEMA_VERSION
  daemonIdentity := none
  trustedDevices := []
  sessions := [⟨"s", .running, ⟨24, 80, 0, 0⟩, 1, 2, some (.tmux "t" "n")⟩]
  sessions_nodup := by decide
  sessions_timely := by simp [SessionStateRecord.Timely]
  devices_timely := by simp

/-- The session is saved, closed, and saved again from a snapshot in which it runs. -/
theorem state_merges_afterClose :
    let ops : List Op := [.save none runningSnapshot, .recordClosed none "s" 5]
    ∃ db' before after,
      (Op.save none runningSnapshot).apply plainCodec (run plainCodec ops) = (db', .committed) ∧
      loadSqliteState plainCodec (run plainCodec ops) = some before ∧
      before.sessions.map (·.state) = [.closed] ∧
      load plainCodec (some none) db' = some after ∧
      Merged before.sessions runningSnapshot.toDaemonState after ∧
      after.sessions.map (fun r => (r.state, r.restoreInfo)) = [(.closed, none)] := by
  intro ops
  let saved := (Op.save none runningSnapshot).apply plainCodec (run plainCodec ops)
  have hcommitted : saved.2 = .committed := by decide +kernel
  have hclosed : (loadSqliteState plainCodec (run plainCodec ops)).map
      (fun state => state.sessions.map (·.state)) = some [.closed] := by decide +kernel
  have hsaved : (loadSqliteState plainCodec saved.1).map
      (fun state => state.sessions.map fun r => (r.state, r.restoreInfo)) =
        some [(.closed, none)] := by decide +kernel
  obtain ⟨before, after, hbefore, hafter, hmerged, hload⟩ :=
    (state_merges plainCodec (some none) ops).1 none runningSnapshot saved.1
      (Prod.ext rfl hcommitted)
  rw [hbefore] at hclosed
  rw [hafter] at hsaved
  exact ⟨saved.1, before, after, Prod.ext rfl hcommitted, hbefore, Option.some.inj hclosed,
    hload (.inl rfl), hmerged, Option.some.inj hsaved⟩

/-- A session that is saved as closed. -/
def closedSnapshot : Snapshot where
  version := STATE_SCHEMA_VERSION
  daemonIdentity := none
  trustedDevices := []
  sessions := [⟨"s", .closed, ⟨24, 80, 0, 0⟩, 1, 2, some (.tmux "t" "n")⟩]
  sessions_nodup := by decide
  sessions_timely := by simp [SessionStateRecord.Timely]
  devices_timely := by simp

def emptySnapshot : Snapshot where
  version := STATE_SCHEMA_VERSION
  daemonIdentity := none
  trustedDevices := []
  sessions := []
  sessions_nodup := by decide
  sessions_timely := by simp
  devices_timely := by simp

/-- A session that was not closed before is loaded without its restore information when it is saved
as closed, and an empty state is loaded as the state of the old file. -/
theorem not_loaded_as_saved :
    (¬ ∀ (codec : RestoreCodec) (ops : List Op) (snapshot : Snapshot) (db' : Db)
        (before after : DaemonState),
      (Op.save none snapshot).apply codec (run codec ops) = (db', .committed) →
      loadSqliteState codec (run codec ops) = some before →
      load codec (some none) db' = some after →
      ∀ s ∈ snapshot.sessions,
        (¬ ∃ b ∈ before.sessions, b.sessionId = s.sessionId ∧ b.state = .closed) →
        ∃ r ∈ after.sessions, r.sessionId = s.sessionId ∧ r.restoreInfo = s.restoreInfo) ∧
    ¬ ∀ (codec : RestoreCodec) (legacy : Option (Option DaemonState)) (ops : List Op)
        (snapshot : Snapshot) (db' : Db) (after : DaemonState),
      (Op.save none snapshot).apply codec (run codec ops) = (db', .committed) →
      load codec legacy db' = some after →
      after.trustedDevices.Perm snapshot.trustedDevices := by
  constructor
  · intro h
    obtain ⟨r, hr, -, hinfo⟩ := h plainCodec [] closedSnapshot _ _ _ rfl rfl rfl
      ⟨"s", .closed, ⟨24, 80, 0, 0⟩, 1, 2, some (.tmux "t" "n")⟩ (by simp [closedSnapshot])
      (by rintro ⟨b, hb, -⟩; cases hb)
    obtain rfl := List.mem_singleton.mp hr
    exact absurd hinfo (by decide)
  · intro h
    have hperm := h plainCodec (some (some ⟨1, none, [⟨"d", "k", 0, none, none⟩], []⟩)) []
      emptySnapshot _ _ rfl rfl
    exact absurd hperm.length_eq (by decide)

end Termd.State
