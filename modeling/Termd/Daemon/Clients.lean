import Termd.Daemon.Devices

/-!
# The devices that are online

A device is online as long as it has a connection. This is kept in three places: in the history, which
counts the connections of each device, in the record of the device, which has the sessions of each of
its connections, and in the runtime, which has the devices of each session. Connections are attached to
sessions and closed, sessions are created and closed, and requests come in between, each on a connection
of its own.

A connection whose terminal could not be opened is given up by those who made it, and nobody closes it.

## Main definitions

* `ClientsRun`: the daemon and its open connections
* `DaemonProtocol.Recorded`, `DaemonProtocol.Attached`: the invariants
* `ClientsRun.Present`: the three places agree with the connections

## Main results

* `ClientsRun.present_of_exec`: the three places agree with the connections in every run
-/

namespace Termd.Daemon

open Ownership (SessionState RuntimeRow)
open Pty (PtySize)
open SessionRuntime (Touches)

/-- How a terminal is opened. -/
inductive V070TerminalOpen
  /-- The session is a new one; `authority` says whether its supervisor keeps the devices. -/
  | create (session root : String) (size : PtySize) (authority : Bool)
  /-- The rows are loaded before. -/
  | attach (session : String) (loaded : Table String RuntimeRow)

/-- The part of a request that is about sessions and devices. -/
inductive HttpCall
  | other
  | closeSession (session : String)
  | forgetDaemonClient (device : String)

namespace DaemonProtocol

/-- A supervisor that has no devices yet. -/
def freshPty (authority : Bool) : PtySession where
  authority := if authority then some ∅ else none

/-- A session that there never was. -/
def IsNew (p : DaemonProtocol) (session : String) : Prop :=
  p.maps.runtime.slot session = (none, none) ∧ p.maps.sessionIndex.lookup session = none

instance (p : DaemonProtocol) (session : String) : Decidable (p.IsNew session) := by
  unfold IsNew
  infer_instance

/-- `open_v070_terminal`, and whether it succeeds. -/
def openV070Terminal (p : DaemonProtocol) (c : ProtocolConnection) :
    V070TerminalOpen → DaemonProtocol × ProtocolConnection × Bool
  | .create session root size authority =>
    p.createSessionInner c session root size (freshPty authority) {} true
  | .attach session loaded => p.attachTerminalSession c session loaded {} true

/-- `dispatch_v070_http_control` -/
def dispatchV070HttpControl (p : DaemonProtocol) (c : ProtocolConnection) :
    HttpCall → DaemonProtocol
  | .other => p
  | .closeSession session => (p.closeSession c session (some true)).1
  | .forgetDaemonClient device => (p.forgetDaemonClient device).1

/-- A request, on a connection of its own; the lock is held all the time. -/
def http (p : DaemonProtocol) (client device : String) (session : Option String) (call : HttpCall) :
    DaemonProtocol :=
  let c := ProtocolConnection.authenticatedHttp client device
  match session with
  | none => (p.dispatchV070HttpControl c call).detachConnection c {} true
  | some session =>
    match p.restoreHttpControlScope c session {} with
    | (p, _, false) => p
    | (p, c, true) => (p.dispatchV070HttpControl c call).detachConnection c {} true

/-- `restore_runtime_sessions`, for one session that was loaded. -/
def recover (p : DaemonProtocol) (session root : String) (row : RuntimeRow) (authority : Bool) :
    DaemonProtocol :=
  match p.maps.runtime.reconnectSession session row.state row.size row.restoreInfo
      (some (freshPty authority)) with
  | (runtime, .error _) => p.setRuntime runtime
  | (runtime, .ok ()) =>
    if isReconnectable row then { p with maps := { p.maps with runtime }.register session root }
    else p.setRuntime runtime

end DaemonProtocol

/-- The daemon and its open connections. -/
structure ClientsRun where
  daemon : DaemonProtocol := {}
  connections : Table String ProtocolConnection := ∅

inductive ClientsOp
  | recover (session root : String) (row : RuntimeRow) (authority : Bool)
  /-- A new connection opens a terminal. -/
  | connect (client device : String) (terminal : V070TerminalOpen)
  /-- An open connection opens another terminal. -/
  | reopen (client : String) (terminal : V070TerminalOpen)
  | http (client device : String) (session : Option String) (call : HttpCall)
  | close (client : String)

namespace ClientsRun

/-- The daemon when it starts, with the history it finds. -/
def init (history : ClientHistory) : ClientsRun where
  daemon := { clientHistory := history.resetRuntimeState }

/-- A session that is created is new. -/
def Admits (w : ClientsRun) : V070TerminalOpen → Prop
  | .create session .. => w.daemon.IsNew session
  | .attach .. => True

instance (w : ClientsRun) (terminal : V070TerminalOpen) : Decidable (w.Admits terminal) := by
  unfold Admits
  split <;> infer_instance

/-- One step. The id of a connection is new. -/
def step (w : ClientsRun) : ClientsOp → Option ClientsRun
  | .recover session root row authority =>
    if w.daemon.IsNew session then
      some { w with daemon := w.daemon.recover session root row authority }
    else none
  | .connect client device terminal =>
    if w.connections.lookup client = none ∧ w.Admits terminal then
      match w.daemon.openV070Terminal (.authenticatedV070Terminal client device) terminal with
      | (daemon, _, false) => some { w with daemon }
      | (daemon, c, true) => some { daemon, connections := w.connections.insert client c }
    else none
  | .reopen client terminal =>
    match w.connections.lookup client with
    | none => none
    | some c =>
      if w.Admits terminal then
        match w.daemon.openV070Terminal c terminal with
        | (daemon, c, _) => some { daemon, connections := w.connections.insert client c }
      else none
  | .http client device session call =>
    if w.connections.lookup client = none then
      some { w with daemon := w.daemon.http client device session call }
    else none
  | .close client =>
    match w.connections.lookup client with
    | none => none
    | some c => some {
        daemon := w.daemon.detachConnection c {} true
        connections := w.connections.erase client }

end ClientsRun

/-! ### The records of the devices -/

/-- The connection counts as one of the device. -/
def ProtocolConnection.counts (c : ProtocolConnection) (device : String) : Bool :=
  c.trackDaemonClientHistory && !c.attachedSessions.isEmpty && c.deviceId = device

namespace DaemonProtocol

variable {p p' : DaemonProtocol} {c : ProtocolConnection} {session device client d k : String}
  {connections : Table String ProtocolConnection}

/-- The sessions that the record of a device has of a connection. -/
def activeSessions (p : DaemonProtocol) (device client : String) : Option (Finset String) :=
  (p.daemonClients.lookup device).bind fun record => record.activeConnections.lookup client

/-- The sessions of a connection that are still visible. -/
def visibleSessions (p : DaemonProtocol) (c : ProtocolConnection) : Finset String :=
  c.attachedSessions.toFinset.filter p.Visible

theorem mem_visibleSessions :
    k ∈ p.visibleSessions c ↔ k ∈ c.attachedSessions ∧ p.Visible k := by
  rw [visibleSessions, Finset.mem_filter, List.mem_toFinset]

theorem visible_closeVisibleSessionState :
    (p.closeVisibleSessionState session).Visible k ↔ p.Visible k ∧ k ≠ session := by
  rw [Visible, closeVisibleSessionState, SessionMaps.lookup_closeVisible, Visible]
  by_cases hk : k = session <;> simp [hk]

/-- **The history and the records are those of the connections.** A device has a record only as long as
it has a connection. -/
structure Recorded (p : DaemonProtocol) (connections : Table String ProtocolConnection) : Prop where
  counted : ∀ device, p.clientHistory.count device =
    connections.countWhere fun _ c => c.counts device
  sessions : ∀ device client, p.activeSessions device client =
    (connections.lookup client).bind fun c =>
      if c.deviceId = device then some (p.visibleSessions c) else none
  online : ∀ device record, p.daemonClients.lookup device = some record →
    record.online ∧ ∃ client, (record.activeConnections.lookup client).isSome

/-- Every open connection has a terminal. -/
def Connected (connections : Table String ProtocolConnection) : Prop :=
  ∀ client c, connections.lookup client = some c →
    c.clientId = client ∧ c.trackDaemonClientHistory ∧ c.attachedSessions ≠ []

theorem counts_of_connected (h : Connected connections) (hc : connections.lookup k = some c) :
    c.counts device ↔ c.deviceId = device := by
  obtain ⟨-, htracked, hattached⟩ := h k c hc
  simp [ProtocolConnection.counts, htracked, hattached]

/-- A device has a connection when its record has one. -/
theorem activeSessions_isSome :
    (p.activeSessions device client).isSome ↔ ∃ record, p.daemonClients.lookup device = some record ∧
      (record.activeConnections.lookup client).isSome := by
  rw [activeSessions]
  cases p.daemonClients.lookup device <;> simp

theorem daemonClientHasActiveSession_iff :
    p.daemonClientHasActiveSession device session client ↔
      ∃ k ≠ client, ∃ sessions, p.activeSessions device k = some sessions ∧ session ∈ sessions := by
  rw [daemonClientHasActiveSession]
  simp only [activeSessions, Option.any_eq_true, List.any_eq_true, Bool.and_eq_true, decide_eq_true_eq,
    Option.bind_eq_some_iff]
  constructor
  · rintro ⟨record, hrecord, ⟨k, sessions⟩, hmem, hne, hsession⟩
    exact ⟨k, hne, sessions, ⟨record, hrecord, AList.mem_lookup_iff.mpr hmem⟩, hsession⟩
  · rintro ⟨k, hne, sessions, ⟨record, hrecord, hlookup⟩, hsession⟩
    exact ⟨record, hrecord, ⟨k, sessions⟩, AList.mem_lookup_iff.mp hlookup, hne, hsession⟩

/-! ### A connection is recorded -/

theorem count_recordConnection (history : ClientHistory) :
    (history.recordConnection device).count d =
      history.count d + if d = device then 1 else 0 := by
  rw [ClientHistory.recordConnection, ClientHistory.count, ClientHistory.count]
  by_cases hd : d = device
  · subst hd
    simp [ClientHistory.count]
  · simp [ClientHistory.count, hd, AList.lookup_insert_ne]

theorem count_recordDisconnect (history : ClientHistory) :
    (history.recordDisconnect device).count d =
      if d = device then history.count d - 1 else history.count d := by
  rw [ClientHistory.recordDisconnect, ClientHistory.count, ClientHistory.count,
    Table.lookup_updateWhere]
  by_cases hd : d = device
  · subst hd
    cases history.lookup d <;> simp
  · simp [hd]

variable (session) in
/-- The record when a connection of the device is attached to a session. -/
theorem recordDaemonClientAttach_spec (htracked : c.trackDaemonClientHistory) :
    (p.recordDaemonClientAttach session c).maps = p.maps ∧
    (∀ d, (p.recordDaemonClientAttach session c).clientHistory.count d = p.clientHistory.count d +
      if d = c.deviceId ∧ p.activeSessions c.deviceId c.clientId = none then 1 else 0) ∧
    ∃ record, (p.recordDaemonClientAttach session c).daemonClients =
        p.daemonClients.insert c.deviceId record ∧ record.online ∧
      ∀ k, record.activeConnections.lookup k =
        if k = c.clientId then some (insert session ((p.activeSessions c.deviceId k).getD ∅))
        else p.activeSessions c.deviceId k := by
  rw [recordDaemonClientAttach]
  simp only [htracked, Bool.not_true, Bool.false_eq_true, if_false]
  cases hrecord : p.daemonClients.lookup c.deviceId with
  | none =>
    have hnone : ∀ k, p.activeSessions c.deviceId k = none := by
      intro k
      rw [activeSessions, hrecord]
      rfl
    simp only [Option.any_none, Bool.false_eq_true, if_false, recordDaemonClientConnection, htracked,
      Bool.not_true, hrecord, AList.lookup_insert, AList.insert_insert, hnone, and_true, Option.getD_none]
    refine ⟨trivial, fun d => count_recordConnection _, _, rfl, rfl, fun k => ?_⟩
    by_cases hk : k = c.clientId
    · subst hk
      rw [if_pos rfl]
      exact AList.lookup_insert ..
    · rw [if_neg hk]
      exact AList.lookup_insert_ne hk
  | some record =>
    have hactive : ∀ k, p.activeSessions c.deviceId k = record.activeConnections.lookup k := by
      intro k
      rw [activeSessions, hrecord]
      rfl
    simp only [hactive]
    cases hclient : record.activeConnections.lookup c.clientId with
    | some sessions =>
      simp only [Option.any_some, hclient, Option.isSome_some, if_true, hrecord, reduceCtorEq,
        and_false, if_false, Nat.add_zero, Option.getD_some]
      refine ⟨trivial, fun d => trivial, _, rfl, rfl, fun k => ?_⟩
      by_cases hk : k = c.clientId
      · subst hk
        simp [hclient]
      · simp [hk, AList.lookup_insert_ne]
    | none =>
      simp only [Option.any_some, hclient, Option.isSome_none, Bool.false_eq_true, if_false,
        recordDaemonClientConnection, htracked, Bool.not_true, hrecord, AList.lookup_insert,
        AList.insert_insert, and_true, Option.getD_some]
      refine ⟨trivial, fun d => count_recordConnection _, _, rfl, rfl, fun k => ?_⟩
      by_cases hk : k = c.clientId
      · subst hk
        simp [hclient]
      · simp [hk, AList.lookup_insert_ne]

/-- A connection is taken off the record of its device. -/
theorem activeSessions_markOffline {persisted : Bool} :
    (p.markDaemonClientConnectionOffline device client persisted).activeSessions d k =
      if d = device ∧ k = client then none else p.activeSessions d k := by
  rw [markDaemonClientConnectionOffline_eq, activeSessions, activeSessions]
  dsimp only
  rw [clientsWithout]
  cases hrecord : p.daemonClients.lookup device with
  | none =>
    by_cases hd : d = device
    · subst hd
      simp [hrecord]
    · rw [if_neg fun hboth => hd hboth.1]
  | some record =>
    dsimp only
    by_cases hd : d = device
    · subst hd
      rw [hrecord, Option.bind_some]
      have herase : (record.activeConnections.erase client).lookup k =
          if k = client then none else record.activeConnections.lookup k := by
        by_cases hk : k = client
        · subst hk
          rw [if_pos rfl, AList.lookup_erase]
        · rw [if_neg hk, AList.lookup_erase_ne hk]
      simp only [true_and]
      rw [← herase]
      split_ifs with hgone
      · -- the device has no connection left
        have hleft : (record.activeConnections.erase client).entries.isEmpty := by
          simpa using hgone.2
        rw [AList.lookup_erase, Table.isEmpty_iff.mp hleft k]
        rfl
      · rw [AList.lookup_insert, Option.bind_some]
    · rw [if_neg fun hboth : d = device ∧ k = client => hd hboth.1]
      by_cases hgone : persisted = true ∧
          (!(!(record.activeConnections.erase client).entries.isEmpty)) = true
      · rw [if_pos hgone, AList.lookup_erase_ne hd]
      · rw [if_neg hgone, AList.lookup_insert_ne hd]

namespace Recorded

/-- The records do not depend on the runtime, nor on sessions that no connection is attached to. -/
theorem congr (h : Recorded p connections) (hclients : p'.daemonClients = p.daemonClients)
    (hhistory : p'.clientHistory = p.clientHistory)
    (hvisible : ∀ k c, connections.lookup k = some c → ∀ session ∈ c.attachedSessions,
      p'.Visible session ↔ p.Visible session) : Recorded p' connections where
  counted device := by
    rw [hhistory]
    exact h.counted device
  sessions device client := by
    rw [activeSessions, hclients, ← activeSessions, h.sessions]
    cases hlookup : connections.lookup client with
    | none => rfl
    | some c =>
      have hsame : p'.visibleSessions c = p.visibleSessions c := by
        refine Finset.filter_congr fun session hsession => ?_
        exact hvisible client c hlookup session (List.mem_toFinset.mp hsession)
      simp only [Option.bind_some, hsame]
  online := by
    rw [hclients]
    exact h.online

/-- A session that is not visible any more. -/
theorem closeVisibleSessionState (h : Recorded p connections) (session : String) :
    Recorded (p.closeVisibleSessionState session) connections where
  counted := h.counted
  sessions device client := by
    have hactive : (p.closeVisibleSessionState session).activeSessions device client =
        (p.activeSessions device client).map (·.erase session) := by
      rw [activeSessions, activeSessions]
      simp only [DaemonProtocol.closeVisibleSessionState, Table.lookup_mapValues]
      cases p.daemonClients.lookup device with
      | none => rfl
      | some record => exact Table.lookup_mapValues ..
    rw [hactive, h.sessions]
    cases connections.lookup client with
    | none => rfl
    | some c =>
      have hsessions : (p.closeVisibleSessionState session).visibleSessions c =
          (p.visibleSessions c).erase session := by
        ext k
        rw [mem_visibleSessions, Finset.mem_erase, mem_visibleSessions,
          visible_closeVisibleSessionState]
        tauto
      rw [Option.bind_some, Option.bind_some, hsessions]
      split_ifs <;> rfl
  online device record hrecord := by
    simp only [DaemonProtocol.closeVisibleSessionState, Table.lookup_mapValues,
      Option.map_eq_some_iff] at hrecord
    obtain ⟨before, hbefore, rfl⟩ := hrecord
    obtain ⟨honline, client, hclient⟩ := h.online device before hbefore
    refine ⟨honline, client, ?_⟩
    rw [Table.lookup_mapValues, Option.isSome_map]
    exact hclient

theorem reconcilePersistedClosedSessions (h : Recorded p connections)
    (loaded : Table String RuntimeRow) :
    Recorded (p.reconcilePersistedClosedSessions loaded) connections :=
  List.foldlRecOn (motive := fun p => Recorded p connections) _ _ h
    fun _ h session _ => h.closeVisibleSessionState session

/-- A connection is attached to a session, which may be its first. -/
theorem attach (h : Recorded p connections) (hconnected : Connected connections)
    (htracked : c.trackDaemonClientHistory) (hvisible : p.Visible session)
    (hbefore : ∀ before, connections.lookup c.clientId = some before →
      before.deviceId = c.deviceId)
    (hattached : ∀ k, k ∈ c.attachedSessions ↔ k = session ∨
      ∃ before, connections.lookup c.clientId = some before ∧ k ∈ before.attachedSessions) :
    Recorded (p.recordDaemonClientAttach session c)
      (connections.insert c.clientId { c with state := .attached }) := by
  obtain ⟨hmaps, hcount, record, hclients, honline, hrecord⟩ :=
    recordDaemonClientAttach_spec session (p := p) htracked
  have hcounts : ∀ device, ({ c with state := .attached } : ProtocolConnection).counts device ↔
      device = c.deviceId := by
    intro device
    have hmem : session ∈ c.attachedSessions := (hattached session).mpr (.inl rfl)
    have hne : c.attachedSessions ≠ [] := List.ne_nil_of_mem hmem
    simp only [ProtocolConnection.counts, htracked, List.isEmpty_eq_false_iff.mpr hne, Bool.not_false,
      Bool.and_self, Bool.true_and, decide_eq_true_eq]
    exact eq_comm
  refine ⟨fun device => ?_, fun device client => ?_, fun device record' hlookup => ?_⟩
  · -- the connection is counted when it was not there before
    rw [hcount, h.counted, Table.countWhere_insert, if_congr (hcounts device) rfl rfl]
    cases hlookup : connections.lookup c.clientId with
    | none =>
      have hnone : p.activeSessions c.deviceId c.clientId = none := by
        rw [h.sessions, hlookup]
        rfl
      rw [Table.erase_of_lookup_none hlookup]
      simp only [hnone, and_true]
      exact Nat.add_comm ..
    | some before =>
      have hsame := hbefore before hlookup
      have hsome : p.activeSessions c.deviceId c.clientId ≠ none := by
        rw [h.sessions, hlookup, Option.bind_some, if_pos hsame]
        simp
      have hcounted : before.counts device ↔ device = c.deviceId := by
        rw [counts_of_connected hconnected hlookup, hsame, eq_comm]
      rw [Table.countWhere_eq_add_erase hlookup, if_congr hcounted rfl rfl]
      simp only [hsome, and_false, if_false, Nat.add_zero]
  · have hactive : (p.recordDaemonClientAttach session c).activeSessions device client =
        if device = c.deviceId ∧ client = c.clientId then
          some (insert session ((p.activeSessions device client).getD ∅))
        else p.activeSessions device client := by
      rw [activeSessions, hclients]
      by_cases hdevice : device = c.deviceId
      · subst hdevice
        rw [AList.lookup_insert, Option.bind_some, hrecord]
        simp only [true_and]
      · rw [AList.lookup_insert_ne hdevice, ← activeSessions, if_neg fun hsame => hdevice hsame.1]
    have hsame : ∀ k, (p.recordDaemonClientAttach session c).Visible k ↔ p.Visible k := by
      intro k
      rw [Visible, hmaps, Visible]
    rw [hactive]
    by_cases hclient : client = c.clientId
    · subst hclient
      rw [AList.lookup_insert, Option.bind_some]
      dsimp only
      by_cases hdevice : device = c.deviceId
      · subst hdevice
        rw [if_pos ⟨rfl, rfl⟩, if_pos rfl, h.sessions]
        congr 1
        ext k
        simp only [Finset.mem_insert, mem_visibleSessions, hsame, hattached]
        cases hlookup : connections.lookup c.clientId with
        | none =>
          simp only [Option.bind_none, Option.getD_none, Finset.notMem_empty, or_false, reduceCtorEq,
            false_and, exists_false]
          exact ⟨fun hk => ⟨hk, hk ▸ hvisible⟩, fun hk => hk.1⟩
        | some before =>
          rw [Option.bind_some, if_pos (hbefore before hlookup), Option.getD_some,
            mem_visibleSessions]
          simp only [Option.some.injEq, exists_eq_left']
          constructor
          · rintro (hk | ⟨hk, hkvisible⟩)
            · exact ⟨.inl hk, hk ▸ hvisible⟩
            · exact ⟨.inr hk, hkvisible⟩
          · rintro ⟨hk | hk, hkvisible⟩
            · exact .inl hk
            · exact .inr ⟨hk, hkvisible⟩
      · rw [if_neg fun hboth => hdevice hboth.1, if_neg fun heq => hdevice heq.symm, h.sessions]
        cases hlookup : connections.lookup c.clientId with
        | none => rfl
        | some before =>
          rw [Option.bind_some, if_neg]
          rw [hbefore before hlookup]
          exact fun heq => hdevice heq.symm
    · rw [if_neg fun hboth => hclient hboth.2, AList.lookup_insert_ne hclient, h.sessions]
      cases connections.lookup client with
      | none => rfl
      | some other =>
        have hother : (p.recordDaemonClientAttach session c).visibleSessions other =
            p.visibleSessions other := by
          ext k
          rw [mem_visibleSessions, mem_visibleSessions, hsame]
        rw [Option.bind_some, Option.bind_some, hother]
  · rw [hclients] at hlookup
    obtain ⟨-, rfl⟩ | ⟨-, hold⟩ := Table.lookup_insert_eq_some.mp hlookup
    · refine ⟨honline, c.clientId, ?_⟩
      rw [hrecord, if_pos rfl]
      rfl
    · exact h.online device record' hold

/-- A connection is closed. -/
theorem markOffline (h : Recorded p connections) (hconnected : Connected connections)
    (hc : connections.lookup c.clientId = some c) :
    Recorded (p.markDaemonClientConnectionOffline c.deviceId c.clientId true)
      (connections.erase c.clientId) := by
  refine ⟨fun device => ?_, fun device client => ?_, fun device record' hlookup => ?_⟩
  · have hcounted : c.counts device ↔ device = c.deviceId :=
      (counts_of_connected hconnected hc).trans eq_comm
    have htotal := Table.countWhere_eq_add_erase (p := fun _ c => c.counts device) hc
    rw [if_congr hcounted rfl rfl] at htotal
    rw [markDaemonClientConnectionOffline_eq]
    dsimp only
    rw [if_pos rfl, count_recordDisconnect, h.counted, htotal]
    split_ifs <;> omega
  · have hvisible : ∀ other, (p.markDaemonClientConnectionOffline c.deviceId c.clientId
        true).visibleSessions other = p.visibleSessions other := by
      intro other
      ext k
      rw [mem_visibleSessions, mem_visibleSessions, Visible, maps_markDaemonClientConnectionOffline,
        Visible]
    simp only [hvisible, activeSessions_markOffline, h.sessions]
    by_cases hclient : client = c.clientId
    · subst hclient
      rw [AList.lookup_erase, hc, Option.bind_some]
      by_cases hdevice : device = c.deviceId
      · rw [if_pos ⟨hdevice, rfl⟩]
        rfl
      · rw [if_neg fun hboth => hdevice hboth.1, if_neg fun heq => hdevice heq.symm]
        rfl
    · rw [if_neg fun hboth => hclient hboth.2, AList.lookup_erase_ne hclient]
  · rw [markDaemonClientConnectionOffline_eq] at hlookup
    dsimp only at hlookup
    rw [clientsWithout] at hlookup
    cases hrecord : p.daemonClients.lookup c.deviceId with
    | none =>
      rw [hrecord] at hlookup
      exact h.online device record' hlookup
    | some record =>
      rw [hrecord] at hlookup
      simp only [true_and] at hlookup
      split_ifs at hlookup with honline
      · obtain ⟨-, hold⟩ := Table.lookup_erase_eq_some.mp hlookup
        exact h.online device record' hold
      · obtain ⟨-, rfl⟩ | ⟨-, hold⟩ := Table.lookup_insert_eq_some.mp hlookup
        · have hleft : ¬(record.activeConnections.erase c.clientId).entries.isEmpty := by
            simpa using honline
          refine ⟨by simpa using hleft, ?_⟩
          by_contra hnone
          refine hleft (Table.isEmpty_iff.mpr fun k => ?_)
          by_contra hk
          exact hnone ⟨k, Option.isSome_iff_ne_none.mpr hk⟩
        · exact h.online device record' hold

/-- A device is forgotten only when it has no connection. -/
theorem forgetDaemonClient (h : Recorded p connections) (device : String) :
    Recorded (p.forgetDaemonClient device).1 connections := by
  rw [DaemonProtocol.forgetDaemonClient]
  split_ifs with honline
  · exact h
  · have hnone : p.daemonClients.lookup device = none := by
      cases hrecord : p.daemonClients.lookup device with
      | none => rfl
      | some record =>
        rw [hrecord] at honline
        exact absurd (h.online device record hrecord).1 honline
    rw [Table.erase_of_lookup_none hnone]
    refine ⟨fun d => ?_, h.sessions, h.online⟩
    rw [← h.counted, ClientHistory.forgetOfflineClient]
    split_ifs with hcount
    · rfl
    · by_cases hd : d = device
      · subst hd
        have hzero : p.clientHistory.count d = 0 := by omega
        rw [hzero, ClientHistory.count, AList.lookup_erase]
        rfl
      · rw [ClientHistory.count, AList.lookup_erase_ne hd, ClientHistory.count]

end Recorded

/-- A connection has changed in what no record has of it. -/
theorem Recorded.replace {c' : ProtocolConnection} (h : Recorded p connections)
    (hc : connections.lookup k = some c) (hdevice : c'.deviceId = c.deviceId)
    (htracked : c'.trackDaemonClientHistory = c.trackDaemonClientHistory)
    (hsessions : c'.attachedSessions = c.attachedSessions) :
    Recorded p (connections.insert k c') where
  counted device := by
    have hcounts : c'.counts device = c.counts device := by
      rw [ProtocolConnection.counts, hdevice, htracked, hsessions, ProtocolConnection.counts]
    rw [h.counted, Table.countWhere_insert, Table.countWhere_eq_add_erase hc, hcounts]
  sessions device client := by
    rw [h.sessions]
    by_cases hclient : client = k
    · subst hclient
      have hvisible : p.visibleSessions c' = p.visibleSessions c := by
        rw [visibleSessions, hsessions, visibleSessions]
      rw [AList.lookup_insert, hc, Option.bind_some, Option.bind_some, hdevice, hvisible]
    · rw [AList.lookup_insert_ne hclient]
  online := h.online

/-! ### The devices of the sessions -/

/-- **The devices of a session are those of the connections that are attached to it**, and the one of a
request that is at it. -/
structure Attached (p : DaemonProtocol) (connections : Table String ProtocolConnection)
    (guest : Option (String × String)) : Prop where
  internal : p.Internal
  isOpen : ∀ session, p.Visible session → (p.maps.runtime.slot session).IsOpen
  known : ∀ client c, connections.lookup client = some c → ∀ session ∈ c.attachedSessions,
    (p.maps.runtime.slot session).1.isSome
  devices : ∀ session, p.Visible session → ∀ device,
    device ∈ (p.maps.runtime.slot session).devices ↔
      (∃ client c, connections.lookup client = some c ∧ c.deviceId = device ∧
        session ∈ c.attachedSessions) ∨ guest = some (session, device)

namespace Attached

variable {guest : Option (String × String)} {touched : Finset String}

/-- A call that leaves the devices of the visible sessions alone. -/
theorem of_devices (h : Attached p connections guest)
    (hindex : p'.maps.sessionIndex = p.maps.sessionIndex)
    (hknown : ∀ k, (p.maps.runtime.slot k).1.isSome → (p'.maps.runtime.slot k).1.isSome)
    (hopen : ∀ k, p.Visible k → (p.maps.runtime.slot k).IsOpen → (p'.maps.runtime.slot k).IsOpen)
    (hdevices : ∀ k, p.Visible k →
      (p'.maps.runtime.slot k).devices = (p.maps.runtime.slot k).devices) :
    Attached p' connections guest := by
  have hvisible : ∀ k, p'.Visible k ↔ p.Visible k := by
    intro k
    rw [Visible, hindex, Visible]
  refine ⟨?_, fun k hk => ?_, fun client c hc k hk => hknown k (h.known client c hc k hk), fun k hk => ?_⟩
  · rw [Internal, hindex]
    exact h.internal
  · have hk := (hvisible k).mp hk
    exact hopen k hk (h.isOpen k hk)
  · have hk := (hvisible k).mp hk
    rw [hdevices k hk]
    exact h.devices k hk

/-- A call that leaves the devices of the session it touches. -/
theorem of_touches (h : Attached p connections guest)
    (hindex : p'.maps.sessionIndex = p.maps.sessionIndex)
    (htouches : Touches p.maps.runtime p'.maps.runtime session
      (p.maps.runtime.slot session).devices touched) : Attached p' connections guest := by
  refine h.of_devices hindex htouches.known (fun k _ hk => ?_) fun k _ => ?_
  · by_cases hsession : k = session
    · exact hsession ▸ htouches.isOpen
    · rwa [htouches.elsewhere k hsession]
  · by_cases hsession : k = session
    · rw [hsession, htouches.devices]
    · rw [htouches.elsewhere k hsession]

/-- A device is attached to a session. -/
theorem enter (h : Attached p connections none)
    (hindex : p'.maps.sessionIndex = p.maps.sessionIndex) (hvisible : p.Visible session)
    (htouches : Touches p.maps.runtime p'.maps.runtime session
      (insert device (p.maps.runtime.slot session).devices) touched) :
    Attached p' connections (some (session, device)) := by
  have hvisible' : ∀ k, p'.Visible k ↔ p.Visible k := by
    intro k
    rw [Visible, hindex, Visible]
  refine ⟨?_, fun k hk => ?_, fun client c hc k hk => htouches.known k (h.known client c hc k hk),
    fun k hk d => ?_⟩
  · rw [Internal, hindex]
    exact h.internal
  · by_cases hsession : k = session
    · exact hsession ▸ htouches.isOpen
    · rw [htouches.elsewhere k hsession]
      exact h.isOpen k ((hvisible' k).mp hk)
  · have hdevices := h.devices k ((hvisible' k).mp hk) d
    by_cases hsession : k = session
    · subst hsession
      rw [htouches.devices, Finset.mem_insert, hdevices]
      simp only [reduceCtorEq, or_false, Option.some.injEq, Prod.mk.injEq, true_and]
      rw [or_comm, eq_comm]
    · rw [htouches.elsewhere k hsession, hdevices]
      have hne : session ≠ k := fun heq => hsession heq.symm
      simp [hne]

/-- The session of a new connection, or another session of an open one. -/
theorem absorb (h : Attached p connections (some (session, c.deviceId)))
    (hopen : (p.maps.runtime.slot session).IsOpen)
    (hbefore : ∀ before, connections.lookup c.clientId = some before →
      before.deviceId = c.deviceId)
    (hattached : ∀ k, k ∈ c.attachedSessions ↔ k = session ∨
      ∃ before, connections.lookup c.clientId = some before ∧ k ∈ before.attachedSessions) :
    Attached p (connections.insert c.clientId c) none where
  internal := h.internal
  isOpen := h.isOpen
  known client c' hc' k hk := by
    obtain ⟨rfl, rfl⟩ | ⟨-, hold⟩ := Table.lookup_insert_eq_some.mp hc'
    · obtain rfl | ⟨before, hbefore', hk⟩ := (hattached k).mp hk
      · obtain ⟨record, handle, hslot, -⟩ := Slot.isOpen_iff.mp hopen
        rw [hslot]
        rfl
      · exact h.known _ before hbefore' k hk
    · exact h.known client c' hold k hk
  devices k hk d := by
    rw [h.devices k hk]
    simp only [Option.some.injEq, Prod.mk.injEq, reduceCtorEq, or_false]
    constructor
    · rintro (⟨client, other, hlookup, hdevice, hmem⟩ | ⟨rfl, rfl⟩)
      · by_cases hclient : client = c.clientId
        · subst hclient
          refine ⟨c.clientId, c, AList.lookup_insert .., (hbefore other hlookup).symm.trans hdevice, ?_⟩
          exact (hattached k).mpr (.inr ⟨other, hlookup, hmem⟩)
        · exact ⟨client, other, (AList.lookup_insert_ne hclient).trans hlookup, hdevice, hmem⟩
      · exact ⟨c.clientId, c, AList.lookup_insert .., rfl, (hattached _).mpr (.inl rfl)⟩
    · rintro ⟨client, other, hlookup, hdevice, hmem⟩
      obtain ⟨rfl, rfl⟩ | ⟨-, hold⟩ := Table.lookup_insert_eq_some.mp hlookup
      · obtain rfl | ⟨before, hbefore', hk⟩ := (hattached k).mp hmem
        · exact .inr ⟨rfl, hdevice⟩
        · exact .inl ⟨_, before, hbefore', (hbefore before hbefore').trans hdevice, hk⟩
      · exact .inl ⟨client, other, hold, hdevice, hmem⟩

/-- A connection has changed in what is not about sessions. -/
theorem replace {c' : ProtocolConnection} (h : Attached p connections guest)
    (hc : connections.lookup k = some c) (hdevice : c'.deviceId = c.deviceId)
    (hsessions : c'.attachedSessions = c.attachedSessions) :
    Attached p (connections.insert k c') guest where
  internal := h.internal
  isOpen := h.isOpen
  known client other hlookup session hmem := by
    obtain ⟨rfl, rfl⟩ | ⟨-, hold⟩ := Table.lookup_insert_eq_some.mp hlookup
    · rw [hsessions] at hmem
      exact h.known _ c hc session hmem
    · exact h.known client other hold session hmem
  devices session hvisible device := by
    rw [h.devices session hvisible]
    refine or_congr_left ⟨?_, ?_⟩
    · rintro ⟨client, other, hlookup, hother, hmem⟩
      by_cases hclient : client = k
      · subst hclient
        obtain rfl := Option.some.inj (hc.symm.trans hlookup)
        exact ⟨client, c', AList.lookup_insert .., hdevice.trans hother, hsessions ▸ hmem⟩
      · exact ⟨client, other, (AList.lookup_insert_ne hclient).trans hlookup, hother, hmem⟩
    · rintro ⟨client, other, hlookup, hother, hmem⟩
      obtain ⟨rfl, rfl⟩ | ⟨-, hold⟩ := Table.lookup_insert_eq_some.mp hlookup
      · exact ⟨_, c, hc, hdevice.symm.trans hother, hsessions ▸ hmem⟩
      · exact ⟨client, other, hold, hother, hmem⟩

/-- A session is not visible any more. -/
theorem closeVisibleSessionState (h : Attached p connections guest) (session : String) :
    Attached (p.closeVisibleSessionState session) connections guest where
  internal k internalId hlookup := by
    rw [DaemonProtocol.closeVisibleSessionState, SessionMaps.lookup_closeVisible] at hlookup
    split_ifs at hlookup
    exact h.internal k internalId hlookup
  isOpen k hk := h.isOpen k (visible_closeVisibleSessionState.mp hk).1
  known := h.known
  devices k hk := h.devices k (visible_closeVisibleSessionState.mp hk).1

theorem reconcilePersistedClosedSessions (h : Attached p connections guest)
    (loaded : Table String RuntimeRow) :
    Attached (p.reconcilePersistedClosedSessions loaded) connections guest :=
  List.foldlRecOn (motive := fun p => Attached p connections guest) _ _ h
    fun _ h session _ => h.closeVisibleSessionState session

/-- A session is closed: its handle is given up, and it is not visible any more. -/
theorem takeForCleanup (h : Attached p connections guest) (session : String) :
    Attached ((p.setRuntime (p.maps.runtime.takeForCleanup session).1).closeVisibleSessionState session)
      connections guest := by
  have hslot : ∀ k ≠ session, ((p.maps.runtime.takeForCleanup session).1.slot k) =
      p.maps.runtime.slot k := by
    intro k hk
    rw [SessionRuntime.slot_takeForCleanup, if_neg hk]
  have hvisible : ∀ k, ((p.setRuntime
      (p.maps.runtime.takeForCleanup session).1).closeVisibleSessionState session).Visible k →
        p.Visible k ∧ k ≠ session := fun k hk => visible_closeVisibleSessionState.mp hk
  refine ⟨fun k internalId hlookup => ?_, fun k hk => ?_, fun client c hc k hk => ?_, fun k hk => ?_⟩
  · rw [DaemonProtocol.closeVisibleSessionState, SessionMaps.lookup_closeVisible] at hlookup
    split_ifs at hlookup
    exact h.internal k internalId hlookup
  · obtain ⟨hk, hne⟩ := hvisible k hk
    change ((p.maps.runtime.takeForCleanup session).1.slot k).IsOpen
    rw [hslot k hne]
    exact h.isOpen k hk
  · change ((p.maps.runtime.takeForCleanup session).1.slot k).1.isSome
    rw [SessionRuntime.slot_takeForCleanup]
    split_ifs
    · exact SessionRuntime.Slot.known_removed (h.known client c hc k hk)
    · exact h.known client c hc k hk
  · obtain ⟨hk, hne⟩ := hvisible k hk
    change ∀ d, d ∈ ((p.maps.runtime.takeForCleanup session).1.slot k).devices ↔ _
    rw [hslot k hne]
    exact h.devices k hk

/-- **A connection is closed.** The device stays where another connection of it is. -/
theorem detachConnection {left : Table String ProtocolConnection}
    (h : Attached p connections guest) (hrecorded : Recorded p connections)
    (hleft : ∀ k, left.lookup k = if k = c.clientId then none else connections.lookup k)
    (hgoes : ∀ k device, (∃ c', connections.lookup c.clientId = some c' ∧ c'.deviceId = device ∧
        k ∈ c'.attachedSessions) ∨ guest = some (k, device) ↔
      device = c.deviceId ∧ k ∈ c.attachedSessions)
    (persisted : Bool) : Attached (p.detachConnection c {} persisted) left none := by
  obtain ⟨honly, heffect⟩ := detachConnection_spec c {} persisted
    h.internal rfl rfl
  have hindex : (p.detachConnection c {} persisted).maps.sessionIndex = p.maps.sessionIndex := by
    rw [honly.sessionIndex]
    split_ifs
    · rw [maps_markDaemonClientConnectionOffline]
    · rfl
  have hvisible : ∀ k, (p.detachConnection c {} persisted).Visible k ↔ p.Visible k := by
    intro k
    rw [Visible, hindex, Visible]
  -- another connection of the device is attached to the session
  have hactive : ∀ k, p.Visible k → (p.daemonClientHasActiveSession c.deviceId k c.clientId ↔
      ∃ client c', left.lookup client = some c' ∧ c'.deviceId = c.deviceId ∧
        k ∈ c'.attachedSessions) := by
    intro k hk
    rw [daemonClientHasActiveSession_iff]
    simp only [hrecorded.sessions, Option.bind_eq_some_iff, hleft]
    constructor
    · rintro ⟨client, hne, sessions, ⟨c', hlookup, hsessions⟩, hmem⟩
      split_ifs at hsessions with hdevice
      obtain rfl := Option.some.inj hsessions
      exact ⟨client, c', by rw [if_neg hne]; exact hlookup, hdevice, (mem_visibleSessions.mp hmem).1⟩
    · rintro ⟨client, c', hlookup, hdevice, hmem⟩
      split_ifs at hlookup with hne
      exact ⟨client, hne, _, ⟨c', hlookup, if_pos hdevice⟩, mem_visibleSessions.mpr ⟨hmem, hk⟩⟩
  refine ⟨?_, fun k hk => ?_, fun client c' hc' k hk => ?_, fun k hk d => ?_⟩
  · rw [Internal, hindex]
    exact h.internal
  · exact (heffect.isOpen k).mpr (h.isOpen k ((hvisible k).mp hk))
  · rw [hleft] at hc'
    split_ifs at hc'
    exact heffect.known k (h.known client c' hc' k hk)
  · have hk := (hvisible k).mp hk
    rw [heffect.devices, Finset.mem_filter, h.devices k hk]
    simp only [reduceCtorEq, or_false]
    have hsplit : (∃ client c', connections.lookup client = some c' ∧ c'.deviceId = d ∧
          k ∈ c'.attachedSessions) ∨ guest = some (k, d) ↔
        (∃ client c', left.lookup client = some c' ∧ c'.deviceId = d ∧ k ∈ c'.attachedSessions) ∨
          d = c.deviceId ∧ k ∈ c.attachedSessions := by
      rw [← hgoes]
      constructor
      · rintro (⟨client, c', hlookup, hrest⟩ | hguest)
        · by_cases hclient : client = c.clientId
          · subst hclient
            exact .inr (.inl ⟨c', hlookup, hrest⟩)
          · exact .inl ⟨client, c', by rw [hleft, if_neg hclient]; exact hlookup, hrest⟩
        · exact .inr (.inr hguest)
      · rintro (⟨client, c', hlookup, hrest⟩ | ⟨c', hlookup, hrest⟩ | hguest)
        · rw [hleft] at hlookup
          split_ifs at hlookup
          exact .inl ⟨client, c', hlookup, hrest⟩
        · exact .inl ⟨c.clientId, c', hlookup, hrest⟩
        · exact .inr hguest
    rw [hsplit]
    constructor
    · rintro ⟨hother | ⟨rfl, hmem⟩, hnot⟩
      · exact hother
      · rw [← hactive k hk]
        by_contra hnone
        exact hnot ⟨rfl, hmem, by simpa using hnone, hk⟩
    · intro hother
      refine ⟨.inl hother, ?_⟩
      rintro ⟨rfl, -, hnone, -⟩
      rw [(hactive k hk).mpr hother] at hnone
      cases hnone

end Attached

/-! ### A terminal is opened -/

/-- **How a terminal is opened**: nothing is changed of the devices, or the connection is attached to the
session. -/
inductive Opened (connections : Table String ProtocolConnection) (c : ProtocolConnection) :
    DaemonProtocol × ProtocolConnection × Bool → Prop
  | failed {p : DaemonProtocol} {c' : ProtocolConnection} : Recorded p connections →
    Attached p connections none → c'.clientId = c.clientId → c'.deviceId = c.deviceId →
    c'.trackDaemonClientHistory = c.trackDaemonClientHistory →
    c'.attachedSessions = c.attachedSessions → Opened connections c (p, c', false)
  | opened {p : DaemonProtocol} {c' : ProtocolConnection} {session : String} :
    Recorded p connections → Attached p connections (some (session, c'.deviceId)) →
    p.Visible session → c'.clientId = c.clientId → c'.deviceId = c.deviceId →
    c'.trackDaemonClientHistory = c.trackDaemonClientHistory →
    (∀ k, k ∈ c'.attachedSessions ↔ k = session ∨ k ∈ c.attachedSessions) →
    Opened connections c (p.recordDaemonClientAttach session c', { c' with state := .attached }, true)

theorem mem_attach : k ∈ (c.attach session).attachedSessions ↔ k = session ∨ k ∈ c.attachedSessions := by
  rw [ProtocolConnection.attach]
  split_ifs with hmem
  · refine ⟨.inr, ?_⟩
    rintro (rfl | hk)
    · exact hmem
    · exact hk
  · rw [List.mem_append, List.mem_singleton, or_comm]

@[simp] theorem attach_clientId : (c.attach session).clientId = c.clientId := by
  rw [ProtocolConnection.attach]
  split_ifs <;> rfl

@[simp] theorem attach_deviceId : (c.attach session).deviceId = c.deviceId := by
  rw [ProtocolConnection.attach]
  split_ifs <;> rfl

@[simp] theorem attach_trackDaemonClientHistory :
    (c.attach session).trackDaemonClientHistory = c.trackDaemonClientHistory := by
  rw [ProtocolConnection.attach]
  split_ifs <;> rfl

section Touches

variable {r : SessionRuntime} {internalId : String} {devices attachments : Finset String}
  {answers : PtyAnswers}

theorem touches_releaseWatchedAttachment (answers : PtyAnswers)
    (h : Touches r p.maps.runtime internalId devices attachments)
    (hindex : p.maps.sessionIndex.lookup session = some internalId) (attachment : String) :
    Touches r (p.releaseWatchedAttachment session attachment answers).maps.runtime
      internalId devices (attachments.erase attachment) := by
  rw [releaseWatchedAttachment, hindex]
  exact h.dropWatchedAttachment attachment answers

/-- The attachment of a connection is started, and the one before it is dropped. -/
theorem startWatchedAttachment_spec (size : PtySize) (answers : PtyAnswers)
    (h : Touches r p.maps.runtime internalId devices attachments)
    (hindex : p.maps.sessionIndex.lookup session = some internalId) :
    let result := p.startWatchedAttachment c session internalId size answers
    OnlyRuntime p result.1 ∧
      (∃ attachments, Touches r result.1.maps.runtime internalId devices attachments) ∧
      result.2.1.clientId = c.clientId ∧ result.2.1.deviceId = c.deviceId ∧
      result.2.1.trackDaemonClientHistory = c.trackDaemonClientHistory ∧
      result.2.1.attachedSessions = c.attachedSessions := by
  have hstart := h.startWatchedAttachment
    ((c.takeWatchedAttachmentId session).2.allocateWatchedAttachmentId session).1 size answers
  dsimp only
  rw [startWatchedAttachment]
  dsimp only
  split
  next hresult =>
    rw [hresult] at hstart
    subst hstart
    refine ⟨.setRuntime _, ⟨attachments, h⟩, ?_⟩
    cases (c.takeWatchedAttachmentId session).1 <;> exact ⟨rfl, rfl, rfl, rfl⟩
  next runtime hresult =>
    rw [hresult] at hstart
    refine ⟨?_, ?_, rfl, rfl, rfl, rfl⟩
    · cases (c.takeWatchedAttachmentId session).1 with
      | none => exact .setRuntime _
      | some previous =>
        exact (OnlyRuntime.setRuntime _).trans (onlyRuntime_releaseWatchedAttachment _ _ _)
    · cases (c.takeWatchedAttachmentId session).1 with
      | none => exact ⟨_, hstart⟩
      | some previous =>
        exact ⟨_, touches_releaseWatchedAttachment (p := p.setRuntime runtime) answers hstart hindex
          previous⟩

theorem onlyRuntime_undoAttach (p : DaemonProtocol) (wasRuntimeAttached : Bool)
    (internalId device : String) (answers : PtyAnswers) :
    OnlyRuntime p (p.undoAttach wasRuntimeAttached internalId device answers) := by
  rw [undoAttach]
  split_ifs
  · exact .refl p
  · exact .setRuntime _

/-- The device is taken back, unless it was attached before. -/
theorem touches_undoAttach {role : Option AttachRole} (hhas : answers.authorityHasDevice)
    (hdetach : answers.authorityDetachDevice) (hopen : (r.slot internalId).IsOpen)
    (hrole : r.role internalId device {} = .ok role)
    (h : Touches r p.maps.runtime internalId
      (insert device (r.slot internalId).devices) attachments) :
    Touches r (p.undoAttach role.isSome internalId device answers).maps.runtime
      internalId (r.slot internalId).devices attachments := by
  rw [SessionRuntime.role_of_isOpen hopen] at hrole
  rw [undoAttach]
  by_cases hmem : device ∈ (r.slot internalId).devices
  · rw [if_pos hmem] at hrole
    rw [← Except.ok.inj hrole, Option.isSome_some, if_pos rfl]
    rwa [Finset.insert_eq_of_mem hmem] at h
  · rw [if_neg hmem] at hrole
    rw [← Except.ok.inj hrole, Option.isSome_none, if_neg Bool.false_ne_true]
    have hdetached : Touches r (p.maps.runtime.detach internalId device answers).1 _ _ _ :=
      h.detach device hhas hdetach
    rwa [Finset.erase_insert hmem] at hdetached

end Touches

theorem opened_attachTerminalSession (hrecorded : Recorded p connections)
    (hattached : Attached p connections none) (loaded : Table String RuntimeRow) :
    Opened connections c (p.attachTerminalSession c session loaded {} true) := by
  have hrecorded := hrecorded.reconcilePersistedClosedSessions loaded
  have hattached := hattached.reconcilePersistedClosedSessions loaded
  rw [attachTerminalSession]
  dsimp only
  generalize p.reconcilePersistedClosedSessions loaded = p at hrecorded hattached
  have hsame : ∀ p' : DaemonProtocol, OnlyRuntime p p' → Recorded p' connections := by
    intro p' honly
    exact hrecorded.congr honly.daemonClients honly.clientHistory fun _ _ _ k _ => honly.visible
  cases hlookup : p.maps.sessionIndex.lookup session with
  | none => exact .failed hrecorded hattached rfl rfl rfl rfl
  | some internalId =>
    obtain rfl := hattached.internal session internalId hlookup
    have hvisible : p.Visible internalId := by simp [Visible, hlookup]
    have hopen := hattached.isOpen internalId hvisible
    obtain ⟨state, hstate⟩ := SessionRuntime.state_of_isOpen hopen
    have hrole : p.maps.runtime.role internalId c.deviceId {} = _ := SessionRuntime.role_of_isOpen hopen
    generalize (if c.deviceId ∈ (p.maps.runtime.slot internalId).devices then
      some AttachRole.operator else none) = role at hrole
    have htouches := (SessionRuntime.Touches.refl hopen).attach c.deviceId {} rfl
    have hok := (SessionRuntime.effect_attach internalId c.deviceId {} (r := p.maps.runtime) rfl).1
    dsimp only
    rw [hrole, hstate]
    dsimp only
    -- an attach that fails from here on
    have hundo : ∀ (p' : DaemonProtocol) (c' : ProtocolConnection) (attachments : Finset String),
        OnlyRuntime p p' →
        Touches p.maps.runtime p'.maps.runtime internalId
          (insert c.deviceId (p.maps.runtime.slot internalId).devices) attachments →
        c'.clientId = c.clientId → c'.deviceId = c.deviceId →
        c'.trackDaemonClientHistory = c.trackDaemonClientHistory →
        c'.attachedSessions = c.attachedSessions →
        Opened connections c (p'.undoAttach role.isSome internalId c'.deviceId {}, c', false) := by
      intro p' c' attachments honly htouches hclient hdevice htracked hsessions
      rw [hdevice]
      have htaken := honly.trans (onlyRuntime_undoAttach p' role.isSome internalId c.deviceId {})
      exact .failed (hsame _ htaken) (hattached.of_touches htaken.sessionIndex
        (touches_undoAttach rfl rfl hopen hrole htouches)) hclient hdevice htracked hsessions
    cases hattach : p.maps.runtime.attach internalId c.deviceId {} with
    | mk runtime result =>
      rw [hattach] at hok htouches
      cases result with
      | error error => simp [hopen, Except.toOption] at hok
      | ok attachedRole =>
        dsimp only
        have honly := OnlyRuntime.setRuntime (p := p) runtime
        split
        · rename_i size _ _ _ _
          obtain ⟨hstarted, ⟨attachments, hstart⟩, hclient, hdevice, htracked, hsessions⟩ :=
            startWatchedAttachment_spec (p := p.setRuntime runtime) (c := c) size {} htouches hlookup
          cases hresult : (p.setRuntime runtime).startWatchedAttachment c internalId internalId size
              {} with
          | mk p' rest =>
            obtain ⟨c', started⟩ := rest
            rw [hresult] at hstarted hstart hclient hdevice htracked hsessions
            cases started with
            | false =>
              exact hundo p' c' attachments (honly.trans hstarted) hstart hclient hdevice htracked
                hsessions
            | true =>
              have honly' := honly.trans hstarted
              refine .opened (hsame p' honly') ?_ (honly'.visible.mpr hvisible) ?_ ?_ ?_ fun k => ?_
              · rw [attach_deviceId]
                dsimp only at hdevice
                rw [hdevice]
                exact hattached.enter honly'.sessionIndex hvisible hstart
              · exact attach_clientId.trans hclient
              · exact attach_deviceId.trans hdevice
              · exact attach_trackDaemonClientHistory.trans htracked
              · dsimp only at hsessions
                rw [mem_attach, hsessions]
        · exact hundo _ c _ honly htouches rfl rfl rfl rfl

/-- **How a session is created**: a failure changes nothing but the session, and the session that is
created has the device and the attachment of the connection. -/
inductive Created (p : DaemonProtocol) (c : ProtocolConnection) (session root : String) :
    DaemonProtocol × ProtocolConnection × Bool → Prop
  | failed {runtime : SessionRuntime} : (∀ k ≠ session, runtime.slot k = p.maps.runtime.slot k) →
    Created p c session root
      (p.setRuntime runtime, (c.allocateWatchedAttachmentId session).2, false)
  | created {runtime : SessionRuntime} {c' : ProtocolConnection} :
    (∀ k ≠ session, runtime.slot k = p.maps.runtime.slot k) → (runtime.slot session).IsOpen →
    (runtime.slot session).devices = {c.deviceId} →
    (runtime.slot session).attachments = {(c.allocateWatchedAttachmentId session).1} →
    c' = ((c.allocateWatchedAttachmentId session).2.attach session).rememberWatchedAttachment session
      (c.allocateWatchedAttachmentId session).1 →
    Created p c session root
      (recordDaemonClientAttach { p with maps :=
        ({ p.maps with runtime } : SessionMaps).register session root } session c',
        { c' with state := .attached }, true)

theorem created_createSessionInner (c : ProtocolConnection) (root : String) (size : PtySize)
    (authority : Bool) (hnew : p.IsNew session) :
    Created p c session root
      (p.createSessionInner c session root size (freshPty authority) {} true) := by
  have hpublish := SessionRuntime.slot_publishOwnedSession (freshPty authority) size hnew.1
  have hothers : ∀ k ≠ session,
      (p.maps.runtime.publishOwnedSession session (freshPty authority) size).1.slot k =
        p.maps.runtime.slot k :=
    fun k hk => SessionRuntime.slot_publishOwnedSession_of_ne hk
  rw [createSessionInner]
  dsimp only
  cases hresult : p.maps.runtime.publishOwnedSession session (freshPty authority) size with
  | mk published returned =>
    rw [hresult] at hpublish hothers
    cases returned with
    | false => exact .failed hothers
    | true =>
      have hslot : published.slot session = (some { size }, some { pty := freshPty authority }) := by
        split_ifs at hpublish
        rw [hpublish.2 session, if_pos rfl]
      have hopen : (published.slot session).IsOpen := by
        rw [hslot]
        simp [Slot.IsOpen]
      have hdevices : (published.slot session).devices = ∅ := by
        rw [hslot, Slot.devices_of_open (by simp)]
        cases authority <;> rfl
      have hattachments : (published.slot session).attachments = ∅ := by
        rw [hslot]
        exact Slot.attachments_of_open (by simp)
      have hattached := (SessionRuntime.Touches.refl hopen).attach c.deviceId {} rfl
      -- a session that fails to be prepared is given up
      have hfailed : ∀ prepared : SessionRuntime,
          (∀ k ≠ session, prepared.slot k = published.slot k) →
          Created p c session root (p.setRuntime (prepared.takeForCleanup session).1,
            (c.allocateWatchedAttachmentId session).2, false) := by
        refine fun prepared hprepared => .failed fun k hk => ?_
        rw [SessionRuntime.slot_takeForCleanup, if_neg hk, hprepared k hk, hothers k hk]
      have hdevice : (c.allocateWatchedAttachmentId session).2.deviceId = c.deviceId := rfl
      dsimp only
      rw [prepareSession, hdevice]
      cases hattach : published.attach session c.deviceId {} with
      | mk attached result =>
        rw [hattach, hdevices, hattachments] at hattached
        cases result with
        | error error => exact hfailed attached hattached.elsewhere
        | ok role =>
          have hstart := hattached.startWatchedAttachment (c.allocateWatchedAttachmentId session).1
            size {}
          dsimp only
          cases hstarted : attached.startWatchedAttachment session
              (c.allocateWatchedAttachmentId session).1 size {} with
          | mk started result =>
            rw [hstarted] at hstart
            cases result with
            | error error =>
              obtain rfl : started = attached := hstart
              exact hfailed started hattached.elsewhere
            | ok value =>
              exact .created (fun k hk => (hstart.elsewhere k hk).trans (hothers k hk)) hstart.isOpen
                hstart.devices hstart.attachments rfl

/-- No connection is attached to a session that is new. -/
theorem Attached.ne_of_isNew {guest : Option (String × String)} (h : Attached p connections guest)
    (hnew : p.IsNew session) (hc : connections.lookup client = some c)
    (hk : k ∈ c.attachedSessions) : k ≠ session := by
  rintro rfl
  have hknown := h.known client c hc k hk
  simp [hnew.1] at hknown

theorem IsNew.ne_of_visible (hnew : p.IsNew session) (hk : p.Visible k) : k ≠ session := by
  rintro rfl
  simp [Visible, hnew.2] at hk

namespace Attached

variable {guest : Option (String × String)} {runtime : SessionRuntime}

/-- The sessions but a new one are left alone. -/
theorem setRuntime_of_isNew (h : Attached p connections guest) (hnew : p.IsNew session)
    (hothers : ∀ k ≠ session, runtime.slot k = p.maps.runtime.slot k) :
    Attached (p.setRuntime runtime) connections guest := by
  refine h.of_devices rfl (fun k hk => ?_) (fun k hk => ?_) fun k hk => ?_
  · change (runtime.slot k).1.isSome
    rwa [hothers k (by rintro rfl; simp [hnew.1] at hk)]
  · change _ → (runtime.slot k).IsOpen
    rw [hothers k (hnew.ne_of_visible hk)]
    exact id
  · change (runtime.slot k).devices = _
    rw [hothers k (hnew.ne_of_visible hk)]

theorem visible_register {root : String} :
    Visible { p with maps := ({ p.maps with runtime } : SessionMaps).register session root } k ↔
      k = session ∨ p.Visible k := by
  rw [Visible, SessionMaps.lookup_register, Visible]
  by_cases hk : k = session <;> simp [hk]

/-- **A new session is taken in**, with the device of a guest or without one. -/
theorem register {root : String} (h : Attached p connections none) (hnew : p.IsNew session)
    (hothers : ∀ k ≠ session, runtime.slot k = p.maps.runtime.slot k)
    (hopen : (runtime.slot session).IsOpen)
    (hguest : ∀ d, d ∈ (runtime.slot session).devices ↔ guest = some (session, d))
    (hsession : ∀ k d, guest = some (k, d) → k = session) :
    Attached { p with maps := ({ p.maps with runtime } : SessionMaps).register session root }
      connections guest := by
  refine ⟨SessionMaps.internal_register h.internal, fun k hk => ?_, fun client c hc k hk => ?_,
    fun k hk d => ?_⟩
  · change (runtime.slot k).IsOpen
    by_cases hk' : k = session
    · exact hk' ▸ hopen
    · rw [hothers k hk']
      exact h.isOpen k ((visible_register.mp hk).resolve_left hk')
  · change (runtime.slot k).1.isSome
    rw [hothers k (h.ne_of_isNew hnew hc hk)]
    exact h.known client c hc k hk
  · change d ∈ (runtime.slot k).devices ↔ _
    by_cases hk' : k = session
    · subst hk'
      rw [hguest]
      refine ⟨.inr, fun hd => hd.resolve_left ?_⟩
      rintro ⟨client, c, hc, -, hmem⟩
      exact h.ne_of_isNew hnew hc hmem rfl
    · rw [hothers k hk', h.devices k ((visible_register.mp hk).resolve_left hk')]
      have hnone : guest ≠ some (k, d) := fun hd => hk' (hsession k d hd)
      simp [hnone]

end Attached

theorem Recorded.register {root : String} {runtime : SessionRuntime} (h : Recorded p connections)
    (hattached : Attached p connections none) (hnew : p.IsNew session) :
    Recorded { p with maps := ({ p.maps with runtime } : SessionMaps).register session root }
      connections := by
  refine h.congr rfl rfl fun client c hc k hk => ?_
  rw [Attached.visible_register]
  simp [hattached.ne_of_isNew hnew hc hk]

theorem opened_createSessionInner {root : String} {size : PtySize} {authority : Bool}
    (hrecorded : Recorded p connections) (hattached : Attached p connections none)
    (hnew : p.IsNew session) :
    Opened connections c
      (p.createSessionInner c session root size (freshPty authority) {} true) := by
  have hcreated := created_createSessionInner c root size authority hnew
  generalize p.createSessionInner c session root size (freshPty authority) {} true = result
    at hcreated ⊢
  cases hcreated with
  | failed hothers =>
    exact .failed (hrecorded.congr rfl rfl fun _ _ _ k _ => .rfl)
      (hattached.setRuntime_of_isNew hnew hothers) rfl rfl rfl rfl
  | created hothers hopen hdevices _ hc =>
    subst hc
    have hdevice : ((c.allocateWatchedAttachmentId session).2.attach session).deviceId = c.deviceId :=
      attach_deviceId
    refine .opened (hrecorded.register hattached hnew) ?_ (Attached.visible_register.mpr (.inl rfl))
      attach_clientId hdevice attach_trackDaemonClientHistory fun k => mem_attach
    refine hattached.register hnew hothers hopen (fun d => ?_) fun k d hguest => ?_
    · rw [hdevices, Finset.mem_singleton, Option.some.injEq, Prod.mk.injEq]
      exact ⟨fun hd => ⟨rfl, hdevice.trans hd.symm⟩, fun hd => hd.2.symm.trans hdevice⟩
    · exact (Prod.mk.inj (Option.some.inj hguest)).1.symm

/-! ### Requests -/

theorem dispatchV070HttpControl_spec {guest : Option (String × String)}
    (hrecorded : Recorded p connections) (hattached : Attached p connections guest) (call : HttpCall) :
    Recorded (p.dispatchV070HttpControl c call) connections ∧
      Attached (p.dispatchV070HttpControl c call) connections guest := by
  cases call with
  | other => exact ⟨hrecorded, hattached⟩
  | closeSession session =>
    rw [dispatchV070HttpControl, closeSession.eq_def]
    split_ifs
    · cases p.maps.sessionIndex.lookup session with
      | none => exact ⟨hrecorded, hattached⟩
      | some internalId =>
        refine ⟨Recorded.closeVisibleSessionState ?_ session, hattached.takeForCleanup session⟩
        exact hrecorded.congr rfl rfl fun _ _ _ k _ => .rfl
    · exact ⟨hrecorded, hattached⟩
  | forgetDaemonClient device =>
    rw [dispatchV070HttpControl]
    refine ⟨hrecorded.forgetDaemonClient device, ?_⟩
    have hmaps : (p.forgetDaemonClient device).1.maps = p.maps := by
      rw [forgetDaemonClient]
      split_ifs <;> rfl
    refine ⟨?_, ?_, ?_, ?_⟩
    · rw [Internal, hmaps]
      exact hattached.internal
    · intro session hvisible
      rw [Visible, hmaps] at hvisible
      rw [hmaps]
      exact hattached.isOpen session hvisible
    · rw [hmaps]
      exact hattached.known
    · intro session hvisible
      rw [Visible, hmaps] at hvisible
      rw [hmaps]
      exact hattached.devices session hvisible

/-- The end of a request: its connection is closed. -/
theorem detach_http {guest : Option (String × String)} (hrecorded : Recorded p connections)
    (hattached : Attached p connections guest) (hclient : connections.lookup c.clientId = none)
    (htracked : c.trackDaemonClientHistory = false)
    (hguest : ∀ k device, guest = some (k, device) ↔ device = c.deviceId ∧ k ∈ c.attachedSessions) :
    Recorded (p.detachConnection c {} true) connections ∧
      Attached (p.detachConnection c {} true) connections none := by
  constructor
  · obtain ⟨honly, -⟩ := detachConnection_spec c {} true
      hattached.internal rfl rfl
    rw [htracked] at honly
    exact hrecorded.congr honly.daemonClients honly.clientHistory fun _ _ _ k _ => honly.visible
  · refine hattached.detachConnection hrecorded (fun k => ?_) (fun k device => ?_) true
    · split_ifs with hk
      · rw [hk]
        exact hclient
      · rfl
    · rw [hclient]
      simp [hguest]

variable (device) in
theorem http_spec (hrecorded : Recorded p connections) (hattached : Attached p connections none)
    (hclient : connections.lookup client = none) (session : Option String) (call : HttpCall) :
    Recorded (p.http client device session call) connections ∧
      Attached (p.http client device session call) connections none := by
  rw [http.eq_def]
  cases session with
  | none =>
    obtain ⟨hrecorded', hattached'⟩ := dispatchV070HttpControl_spec
      (c := .authenticatedHttp client device) hrecorded hattached call
    exact detach_http hrecorded' hattached' hclient rfl
      (by simp [ProtocolConnection.authenticatedHttp])
  | some session =>
    dsimp only
    rw [restoreHttpControlScope]
    cases hlookup : p.maps.sessionIndex.lookup session with
    | none => exact ⟨hrecorded, hattached⟩
    | some internalId =>
      obtain rfl := hattached.internal session internalId hlookup
      have hvisible : p.Visible internalId := by simp [Visible, hlookup]
      have hopen := hattached.isOpen internalId hvisible
      have hok := (SessionRuntime.effect_attach internalId device {} (r := p.maps.runtime) rfl).1
      have htouches := (SessionRuntime.Touches.refl hopen).attach device {} rfl
      dsimp only [ProtocolConnection.authenticatedHttp]
      cases hattach : p.maps.runtime.attach internalId device {} with
      | mk runtime result =>
        rw [hattach] at hok htouches
        cases result with
        | error error => simp [hopen, Except.toOption] at hok
        | ok role =>
          dsimp only
          have hrecorded' : Recorded (p.setRuntime runtime) connections :=
            hrecorded.congr rfl rfl fun _ _ _ k _ => .rfl
          have hattached' : Attached (p.setRuntime runtime) connections (some (internalId, device)) :=
            hattached.enter rfl hvisible htouches
          obtain ⟨hrecorded'', hattached''⟩ := dispatchV070HttpControl_spec hrecorded' hattached' call
          refine detach_http hrecorded'' hattached'' ?_ ?_ fun k d => ?_
          · rw [attach_clientId]
            exact hclient
          · simp
          · simp only [attach_deviceId, mem_attach, List.not_mem_nil, or_false, Option.some.injEq,
              Prod.mk.injEq]
            constructor
            · rintro ⟨rfl, rfl⟩
              exact ⟨rfl, rfl⟩
            · rintro ⟨rfl, rfl⟩
              exact ⟨rfl, rfl⟩

/-- **How a session of an earlier daemon is recovered**: not at all, or with neither devices nor
attachments. -/
theorem recover_cases (root : String) (row : RuntimeRow) (authority : Bool) (hnew : p.IsNew session) :
    p.recover session root row authority = p ∨ ∃ runtime : SessionRuntime,
      (∀ k ≠ session, runtime.slot k = p.maps.runtime.slot k) ∧ (runtime.slot session).IsOpen ∧
      (runtime.slot session).devices = ∅ ∧ (runtime.slot session).attachments = ∅ ∧
      (p.recover session root row authority = p.setRuntime runtime ∨
        p.recover session root row authority =
          { p with maps := ({ p.maps with runtime } : SessionMaps).register session root }) := by
  rw [recover]
  obtain ⟨error, hreconnect⟩ | ⟨pty, hpty, hok, hslots⟩ :=
    SessionRuntime.slot_reconnectSession row.state row.size row.restoreInfo
      (some (freshPty authority)) hnew.1
  · rw [hreconnect]
    exact .inl rfl
  · obtain rfl := Option.some.inj hpty
    cases hresult : p.maps.runtime.reconnectSession session row.state row.size row.restoreInfo
        (some (freshPty authority)) with
    | mk runtime result =>
      rw [hresult] at hok hslots
      obtain rfl : result = .ok () := hok
      dsimp only at hslots ⊢
      have hstate : (SessionRuntime.reconnected row.state row.size).state ≠ .closed := by
        rw [SessionRuntime.reconnected]
        split_ifs <;> simp
      have hslot := hslots session
      rw [if_pos rfl] at hslot
      refine .inr ⟨runtime, fun k hk => (hslots k).trans (if_neg hk), ?_, ?_, ?_, ?_⟩
      · rw [hslot]
        exact hstate
      · rw [hslot, Slot.devices_of_open hstate]
        cases authority <;> rfl
      · rw [hslot]
        exact Slot.attachments_of_open hstate
      · split_ifs
        · exact .inr rfl
        · exact .inl rfl

theorem recover_spec (root : String) (row : RuntimeRow) (authority : Bool)
    (hrecorded : Recorded p connections) (hattached : Attached p connections none)
    (hnew : p.IsNew session) :
    Recorded (p.recover session root row authority) connections ∧
      Attached (p.recover session root row authority) connections none := by
  obtain hsame | ⟨runtime, hothers, hopen, hdevices, -, hkept | hregistered⟩ :=
    recover_cases root row authority hnew
  · rw [hsame]
    exact ⟨hrecorded, hattached⟩
  · rw [hkept]
    exact ⟨hrecorded.congr rfl rfl fun _ _ _ k _ => .rfl, hattached.setRuntime_of_isNew hnew hothers⟩
  · rw [hregistered]
    exact ⟨hrecorded.register hattached hnew,
      hattached.register hnew hothers hopen (by simp [hdevices]) nofun⟩

end DaemonProtocol

/-! ### Runs -/

namespace ClientsRun

open DaemonProtocol

variable {w w' : ClientsRun} {op : ClientsOp}

/-- **The invariant.** -/
structure Invariant (w : ClientsRun) : Prop where
  connected : Connected w.connections
  recorded : Recorded w.daemon w.connections
  attached : Attached w.daemon w.connections none

/-- A terminal is opened on a connection that is open. -/
theorem Invariant.opened (h : w.Invariant) {c : ProtocolConnection}
    (htracked : c.trackDaemonClientHistory)
    (hbefore : w.connections.lookup c.clientId = none ∧ c.attachedSessions = [] ∨
      w.connections.lookup c.clientId = some c)
    {daemon : DaemonProtocol} {c' : ProtocolConnection}
    (hopened : Opened w.connections c (daemon, c', true)) :
    ClientsRun.Invariant { daemon, connections := w.connections.insert c.clientId c' } := by
  cases hopened with
  | opened hrecorded hattached hvisible hclient hdevice htrack hsessions =>
    rename_i p c' session
    have hdevices : ∀ before, w.connections.lookup c'.clientId = some before →
        before.deviceId = c'.deviceId := by
      intro before hlookup
      rw [hclient] at hlookup
      obtain ⟨hnone, -⟩ | hsome := hbefore
      · cases hnone.symm.trans hlookup
      · obtain rfl := Option.some.inj (hsome.symm.trans hlookup)
        exact hdevice.symm
    have hmem : ∀ k, k ∈ c'.attachedSessions ↔ k = session ∨
        ∃ before, w.connections.lookup c'.clientId = some before ∧
          k ∈ before.attachedSessions := by
      intro k
      rw [hsessions, hclient]
      obtain ⟨hnone, hempty⟩ | hsome := hbefore
      · simp [hnone, hempty]
      · simp [hsome]
    rw [← hclient]
    refine ⟨?_, hrecorded.attach h.connected (htrack.trans htracked) hvisible hdevices hmem, ?_⟩
    · rintro client other hlookup
      obtain ⟨rfl, rfl⟩ | ⟨-, hold⟩ := Table.lookup_insert_eq_some.mp hlookup
      · refine ⟨rfl, htrack.trans htracked, ?_⟩
        exact List.ne_nil_of_mem ((hmem session).mpr (.inl rfl))
      · exact h.connected client other hold
    · have hmaps := (recordDaemonClientAttach_spec session (p := p)
        (htrack.trans htracked)).1
      have hopen := hattached.isOpen session hvisible
      have habsorbed := Attached.absorb (c := { c' with state := .attached }) hattached hopen hdevices
        hmem
      refine habsorbed.of_devices (congrArg SessionMaps.sessionIndex hmaps) (fun k hk => ?_)
        (fun k _ hk => ?_) fun k _ => ?_
      · rw [hmaps]
        exact hk
      · rw [hmaps]
        exact hk
      · rw [hmaps]

/-- A terminal that is not opened. -/
theorem Invariant.failed (h : w.Invariant) {c c' : ProtocolConnection} {daemon : DaemonProtocol}
    (hopened : Opened w.connections c (daemon, c', false)) :
    ClientsRun.Invariant { w with daemon } ∧
      (w.connections.lookup c.clientId = some c →
        ClientsRun.Invariant { daemon, connections := w.connections.insert c.clientId c' }) := by
  cases hopened with
  | failed hrecorded hattached hclient hdevice htrack hsessions =>
    refine ⟨⟨h.connected, hrecorded, hattached⟩, fun hlookup => ⟨?_, ?_, ?_⟩⟩
    · intro client other hother
      obtain ⟨rfl, rfl⟩ | ⟨-, hold⟩ := Table.lookup_insert_eq_some.mp hother
      · obtain ⟨-, htracked, hne⟩ := h.connected _ c hlookup
        exact ⟨hclient, htrack.trans htracked, hsessions ▸ hne⟩
      · exact h.connected client other hold
    · exact hrecorded.replace hlookup hdevice htrack hsessions
    · exact hattached.replace hlookup hdevice hsessions

theorem opened_openV070Terminal (h : w.Invariant) {c : ProtocolConnection}
    {terminal : V070TerminalOpen} (hadmits : w.Admits terminal) :
    Opened w.connections c (w.daemon.openV070Terminal c terminal) := by
  cases terminal with
  | create session root size authority =>
    exact opened_createSessionInner h.recorded h.attached hadmits
  | attach session loaded => exact opened_attachTerminalSession h.recorded h.attached loaded

theorem Invariant.step (h : w.Invariant) (hstep : w.step op = some w') : w'.Invariant := by
  cases op with
  | recover session root row authority =>
    simp only [ClientsRun.step] at hstep
    split_ifs at hstep with hnew
    obtain rfl := Option.some.inj hstep
    obtain ⟨hrecorded, hattached⟩ := recover_spec root row authority
      h.recorded h.attached hnew
    exact ⟨h.connected, hrecorded, hattached⟩
  | connect client device terminal =>
    simp only [ClientsRun.step] at hstep
    split_ifs at hstep with hguard
    obtain ⟨hclient, hadmits⟩ := hguard
    have hopened := opened_openV070Terminal (c := .authenticatedV070Terminal client device) h hadmits
    split at hstep
    · rename_i hopen
      rw [hopen] at hopened
      obtain rfl := Option.some.inj hstep
      exact (h.failed hopened).1
    · rename_i hopen
      rw [hopen] at hopened
      obtain rfl := Option.some.inj hstep
      exact h.opened rfl (.inl ⟨hclient, rfl⟩) hopened
  | reopen client terminal =>
    simp only [ClientsRun.step] at hstep
    split at hstep
    · cases hstep
    · rename_i c hlookup
      split_ifs at hstep with hadmits
      obtain ⟨rfl, htracked, -⟩ := h.connected client c hlookup
      have hopened := opened_openV070Terminal (c := c) h hadmits
      cases hopen : w.daemon.openV070Terminal c terminal with
      | mk daemon rest =>
        obtain ⟨c', ok⟩ := rest
        rw [hopen] at hopened hstep
        obtain rfl := Option.some.inj hstep
        cases ok with
        | false => exact (h.failed hopened).2 hlookup
        | true => exact h.opened htracked (.inr hlookup) hopened
  | http client device session call =>
    simp only [ClientsRun.step] at hstep
    split_ifs at hstep with hclient
    obtain rfl := Option.some.inj hstep
    obtain ⟨hrecorded, hattached⟩ := http_spec device h.recorded h.attached hclient session
      call
    exact ⟨h.connected, hrecorded, hattached⟩
  | close client =>
    simp only [ClientsRun.step] at hstep
    split at hstep
    · cases hstep
    · rename_i c hlookup
      obtain rfl := Option.some.inj hstep
      obtain ⟨rfl, htracked, -⟩ := h.connected client c hlookup
      refine ⟨?_, ?_, ?_⟩
      · intro client other hother
        obtain ⟨-, hold⟩ := Table.lookup_erase_eq_some.mp hother
        exact h.connected client other hold
      · obtain ⟨honly, -⟩ := detachConnection_spec c {} true
          h.attached.internal rfl rfl
        rw [if_pos htracked] at honly
        exact (h.recorded.markOffline h.connected hlookup).congr honly.daemonClients
          honly.clientHistory fun _ _ _ k _ => honly.visible
      · refine h.attached.detachConnection h.recorded (fun k => ?_) (fun k device => ?_) true
        · split_ifs with hk
          · rw [hk, AList.lookup_erase]
          · rw [AList.lookup_erase_ne hk]
        · simp only [hlookup, Option.some.injEq, exists_eq_left', reduceCtorEq, or_false]
          rw [eq_comm]

/-- **The three places agree with the connections**: the history counts the connections of each device
that are attached, the record of a device is there and online as long as there is one, and a device
has a role in a visible session as long as one of its connections is attached to it. -/
structure Present (w : ClientsRun) : Prop where
  counted : ∀ device, w.daemon.clientHistory.count device =
    w.connections.countWhere fun _ c => c.counts device
  recorded : ∀ device, (w.daemon.daemonClients.lookup device).isSome ↔
    0 < w.connections.countWhere fun _ c => c.counts device
  online : ∀ device, (w.daemon.daemonClients.lookup device).any DaemonClientRecord.online ↔
    0 < w.connections.countWhere fun _ c => c.counts device
  role : ∀ session internalId, w.daemon.maps.sessionIndex.lookup session = some internalId →
    ∀ device, w.daemon.maps.runtime.role internalId device {} = .ok (some .operator) ↔
      ∃ client c, w.connections.lookup client = some c ∧ c.deviceId = device ∧
        session ∈ c.attachedSessions

theorem Invariant.present (h : w.Invariant) : w.Present := by
  have hrecorded : ∀ device, (w.daemon.daemonClients.lookup device).isSome ↔
      0 < w.connections.countWhere fun _ c => c.counts device := by
    intro device
    rw [Table.countWhere_pos]
    constructor
    · intro hsome
      obtain ⟨record, hrecord⟩ := Option.isSome_iff_exists.mp hsome
      obtain ⟨-, client, hclient⟩ := h.recorded.online device record hrecord
      have hactive := activeSessions_isSome.mpr ⟨record, hrecord, hclient⟩
      rw [h.recorded.sessions] at hactive
      cases hlookup : w.connections.lookup client with
      | none => simp [hlookup] at hactive
      | some c =>
        rw [hlookup, Option.bind_some] at hactive
        split_ifs at hactive with hdevice
        · exact ⟨client, c, hlookup, (counts_of_connected h.connected hlookup).mpr hdevice⟩
        · cases hactive
    · rintro ⟨client, c, hlookup, hcounts⟩
      have hdevice := (counts_of_connected h.connected hlookup).mp hcounts
      have hactive := h.recorded.sessions device client
      rw [hlookup, Option.bind_some, if_pos hdevice] at hactive
      obtain ⟨record, hrecord, -⟩ := activeSessions_isSome.mp (Option.isSome_iff_exists.mpr ⟨_, hactive⟩)
      exact Option.isSome_iff_exists.mpr ⟨record, hrecord⟩
  refine ⟨h.recorded.counted, hrecorded, fun device => ?_, fun session internalId hlookup device => ?_⟩
  · rw [← hrecorded]
    cases hrecord : w.daemon.daemonClients.lookup device with
    | none => simp
    | some record => simp [(h.recorded.online device record hrecord).1]
  · obtain rfl := h.attached.internal session internalId hlookup
    have hvisible : w.daemon.Visible internalId := by simp [Visible, hlookup]
    have hdevices := h.attached.devices internalId hvisible device
    rw [SessionRuntime.role_of_isOpen (h.attached.isOpen internalId hvisible)]
    simp only [reduceCtorEq, or_false] at hdevices
    rw [← hdevices]
    split_ifs with hmem <;> simp [hmem]

theorem invariant_init (history : ClientHistory) : (init history).Invariant := by
  have hcount : ∀ device, history.resetRuntimeState.count device = 0 := by
    intro device
    rw [ClientHistory.resetRuntimeState, ClientHistory.count, Table.lookup_mapValues]
    cases history.lookup device <;> rfl
  refine ⟨by simp [Connected, init], ⟨hcount, fun device client => rfl, by simp [init]⟩, ?_⟩
  exact ⟨by simp [Internal, init], by simp [Visible, init], by simp [init], by simp [Visible, init]⟩

/-- **The three places agree with the connections in every run** of a daemon. -/
theorem present_of_exec (history : ClientHistory) (ops : List ClientsOp) (w : ClientsRun)
    (hrun : exec step (init history) ops = some w) : w.Present := by
  have hinvariant : w.Invariant :=
    exec_induction (fun _ _ _ h hstep => h.step hstep) (invariant_init history) hrun
  exact hinvariant.present

/-- A device has a session open in two tabs. A request and the end of the first tab leave it attached in
the second. -/
theorem present_of_tabs :
    let loaded : Table String RuntimeRow :=
      (∅ : Table String RuntimeRow).insert "a" ⟨.running, ⟨2, 4, 0, 0⟩, none⟩
    ∃ w, exec step (init ∅)
      [.connect "t" "d" (.create "a" "/" ⟨2, 4, 0, 0⟩ true), .connect "u" "d" (.attach "a" loaded),
        .http "h" "d" (some "a") .other, .close "t"] = some w ∧
      w.daemon.clientHistory.count "d" = 1 ∧ w.Present := by
  intro loaded
  let ops : List ClientsOp :=
    [.connect "t" "d" (.create "a" "/" ⟨2, 4, 0, 0⟩ true), .connect "u" "d" (.attach "a" loaded),
      .http "h" "d" (some "a") .other, .close "t"]
  have hrun : ((exec step (init ∅) ops).any fun w => w.daemon.clientHistory.count "d" = 1) = true := by
    decide +kernel
  obtain ⟨w, hw, hcount⟩ := (Option.any_eq_true ..).mp hrun
  exact ⟨w, hw, of_decide_eq_true hcount, present_of_exec ∅ ops w hw⟩

end ClientsRun

end Termd.Daemon
