import Termd.Daemon.Requests

/-!
# Connections and their devices

A connection is of one device, and is attached to sessions. The daemon keeps three things about it: the
runtime has the device attached to each of the sessions, the record of the device has the sessions of
each of its connections, and the history has how many connections the device has. Connections of HTTP
requests are in the runtime only, for as long as the request takes.

When a connection is closed, its device stays attached to the sessions that another connection of the
device holds, and it is detached from the others.

## Main definitions

* `ProtocolConnection`, `DaemonClientRecord`, `DaemonProtocol`: the connections, and what the daemon
  keeps of them
* `DaemonProtocol.createSessionInner`, `DaemonProtocol.attachTerminalSession`,
  `DaemonProtocol.restoreHttpControlScope`: a connection is attached to a session
* `DaemonProtocol.detachConnection`: a connection is closed
* `DaemonProtocol.closeSession`, `DaemonProtocol.forgetDaemonClient`: the requests that change what is
  kept
-/

namespace Termd.Daemon

open Ownership (SessionState PtyRestoreInfo RuntimeRow)
open Pty (PtySize)

/-- What the daemon has in memory of a device that is online. -/
structure DaemonClientRecord where
  online : Bool := true
  /-- The sessions of each connection -/
  activeConnections : Table String (Finset String) := ∅

inductive ProtocolConnectionState
  | authenticated
  | attached
  | closed

/-- A connection; whoever makes one knows its device. -/
structure ProtocolConnection where
  clientId : String
  deviceId : String
  trackDaemonClientHistory : Bool
  state : ProtocolConnectionState := .authenticated
  attachedSessions : List String := []
  watchedAttachmentIds : Table String String := ∅
  nextWatchedAttachmentNumber : ℕ := 1

namespace ProtocolConnection

variable (c : ProtocolConnection)

def authenticatedHttp (clientId deviceId : String) : ProtocolConnection where
  clientId := clientId
  deviceId := deviceId
  trackDaemonClientHistory := false

def authenticatedV070Terminal (clientId deviceId : String) : ProtocolConnection where
  clientId := clientId
  deviceId := deviceId
  trackDaemonClientHistory := true

def attach (session : String) : ProtocolConnection :=
  if session ∈ c.attachedSessions then c
  else { c with attachedSessions := c.attachedSessions ++ [session] }

def allocateWatchedAttachmentId (session : String) : String × ProtocolConnection :=
  (c.clientId ++ ":" ++ session ++ ":" ++ toString c.nextWatchedAttachmentNumber,
    { c with nextWatchedAttachmentNumber := c.nextWatchedAttachmentNumber + 1 })

def rememberWatchedAttachment (session attachment : String) : ProtocolConnection :=
  { c with watchedAttachmentIds := c.watchedAttachmentIds.insert session attachment }

def takeWatchedAttachmentId (session : String) : Option String × ProtocolConnection :=
  (c.watchedAttachmentIds.lookup session,
    { c with watchedAttachmentIds := c.watchedAttachmentIds.erase session })

end ProtocolConnection

/-- The column `active_connection_count` of the devices in the history. -/
abbrev ClientHistory := Table String ℕ

namespace ClientHistory

variable (h : ClientHistory)

/-- How many connections the history has of a device. -/
def count (device : String) : ℕ := (h.lookup device).getD 0

/-- `record_connection` -/
def recordConnection (device : String) : ClientHistory := h.insert device (h.count device + 1)

/-- `record_disconnect` -/
def recordDisconnect (device : String) : ClientHistory :=
  h.updateWhere device (fun _ => true) fun count => count - 1

/-- `forget_offline_client` -/
def forgetOfflineClient (device : String) : ClientHistory :=
  if h.count device > 0 then h else h.erase device

/-- `reset_runtime_state` -/
def resetRuntimeState : ClientHistory := h.mapValues fun _ => 0

end ClientHistory

/-- What the daemon keeps of its sessions and of the devices. -/
structure DaemonProtocol where
  maps : SessionMaps := {}
  daemonClients : Table String DaemonClientRecord := ∅
  clientHistory : ClientHistory := ∅

namespace DaemonProtocol

variable (p : DaemonProtocol)

def setRuntime (runtime : SessionRuntime) : DaemonProtocol :=
  { p with maps := { p.maps with runtime } }

/-! ### Sessions that are not visible any more -/

def closeVisibleSessionState (session : String) : DaemonProtocol :=
  { p with
    maps := p.maps.closeVisibleSessionState session
    daemonClients := p.daemonClients.mapValues fun record => { record with
      activeConnections := record.activeConnections.mapValues fun sessions =>
        sessions.erase session } }

/-- `reconcile_persisted_closed_sessions`, with the rows that were loaded. -/
def reconcilePersistedClosedSessions (loaded : Table String RuntimeRow) : DaemonProtocol :=
  let closed := p.maps.sessionIndex.select fun session _ =>
    if (loaded.lookup session).any fun row => row.state = .running then none else some session
  closed.foldl closeVisibleSessionState p

/-! ### The devices -/

def recordDaemonClientConnection (c : ProtocolConnection) : DaemonProtocol :=
  if !c.trackDaemonClientHistory then p
  else
    let record : DaemonClientRecord :=
      match p.daemonClients.lookup c.deviceId with
      | some record => { record with
          online := true
          activeConnections :=
            if (record.activeConnections.lookup c.clientId).isSome then record.activeConnections
            else record.activeConnections.insert c.clientId ∅ }
      | none => { activeConnections := (∅ : Table String (Finset String)).insert c.clientId ∅ }
    { p with
      clientHistory := p.clientHistory.recordConnection c.deviceId
      daemonClients := p.daemonClients.insert c.deviceId record }

def recordDaemonClientAttach (session : String) (c : ProtocolConnection) : DaemonProtocol :=
  if !c.trackDaemonClientHistory then p
  else
    let p :=
      if (p.daemonClients.lookup c.deviceId).any fun record =>
          (record.activeConnections.lookup c.clientId).isSome then p
      else p.recordDaemonClientConnection c
    let record :=
      match p.daemonClients.lookup c.deviceId with
      | some record => { record with
          online := true
          activeConnections := record.activeConnections.insert c.clientId
            (insert session ((record.activeConnections.lookup c.clientId).getD ∅)) }
      | none => { activeConnections := (∅ : Table String (Finset String)).insert c.clientId {session} }
    { p with daemonClients := p.daemonClients.insert c.deviceId record }

/-- `mark_daemon_client_connection_offline`; the history may fail to be written. -/
def markDaemonClientConnectionOffline (device client : String) (persisted : Bool) : DaemonProtocol :=
  let p := if persisted then { p with clientHistory := p.clientHistory.recordDisconnect device }
    else p
  match p.daemonClients.lookup device with
  | none => p
  | some record =>
    let activeConnections := record.activeConnections.erase client
    let online := !activeConnections.entries.isEmpty
    if persisted ∧ !online then { p with daemonClients := p.daemonClients.erase device }
    else { p with daemonClients := p.daemonClients.insert device { online, activeConnections } }

def daemonClientHasActiveSession (device session excluding : String) : Bool :=
  (p.daemonClients.lookup device).any fun record =>
    record.activeConnections.entries.any fun entry =>
      entry.1 ≠ excluding && session ∈ entry.2

/-- Whether it is done. -/
def forgetDaemonClient (device : String) : DaemonProtocol × Bool :=
  if (p.daemonClients.lookup device).any DaemonClientRecord.online then (p, false)
  else ({ p with
    clientHistory := p.clientHistory.forgetOfflineClient device
    daemonClients := p.daemonClients.erase device }, true)

/-! ### A connection is attached -/

/-- `create_session_inner`. The supervisor is spawned; `committed` says how the closure goes on after
the attachment, and how the commit ends. -/
def createSessionInner (c : ProtocolConnection) (session root : String) (size : PtySize)
    (pty : PtySession) (answers : PtyAnswers) (committed : Bool) :
    DaemonProtocol × ProtocolConnection × Bool :=
  let (attachment, c) := c.allocateWatchedAttachmentId session
  match p.maps.runtime.publishOwnedSession session pty size with
  | (runtime, false) => (p.setRuntime runtime, c, false)
  | (runtime, true) =>
    match prepareSession runtime session c.deviceId attachment size answers committed with
    | (runtime, false) => (p.setRuntime (runtime.takeForCleanup session).1, c, false)
    | (runtime, true) =>
      let c := (c.attach session).rememberWatchedAttachment session attachment
      let p := { p with maps := { p.maps with runtime }.register session root }
      (p.recordDaemonClientAttach session c, { c with state := .attached }, true)

def releaseWatchedAttachment (session attachment : String) (answers : PtyAnswers) : DaemonProtocol :=
  match p.maps.sessionIndex.lookup session with
  | none => p
  | some internalId =>
    p.setRuntime (p.maps.runtime.dropWatchedAttachment internalId attachment answers).1

def releaseWatchedAttachments (watched : List (String × String)) (answers : PtyAnswers) :
    DaemonProtocol :=
  watched.foldl (fun p entry => p.releaseWatchedAttachment entry.1 entry.2 answers) p

/-- `start_watched_attachment` with `commit_watched_attachment_start`, which come one after the other,
and whether it is done. -/
def startWatchedAttachment (c : ProtocolConnection) (session internalId : String) (size : PtySize)
    (answers : PtyAnswers) : DaemonProtocol × ProtocolConnection × Bool :=
  let (previous, c) := c.takeWatchedAttachmentId session
  let (attachment, c) := c.allocateWatchedAttachmentId session
  match p.maps.runtime.startWatchedAttachment internalId attachment size answers with
  | (runtime, .error _) =>
    (p.setRuntime runtime, previous.elim c (c.rememberWatchedAttachment session ·), false)
  | (runtime, .ok ()) =>
    let p := p.setRuntime runtime
    (previous.elim p (p.releaseWatchedAttachment session · answers),
      c.rememberWatchedAttachment session attachment, true)

/-- An attach that fails takes the device back, unless it was attached before. -/
def undoAttach (wasRuntimeAttached : Bool) (internalId device : String) (answers : PtyAnswers) :
    DaemonProtocol :=
  if wasRuntimeAttached then p
  else p.setRuntime (p.maps.runtime.detach internalId device answers).1

/-- `attach_terminal_session`, with the rows that were loaded. `recorded` says whether the history and
the state are written. -/
def attachTerminalSession (c : ProtocolConnection) (session : String)
    (loaded : Table String RuntimeRow) (answers : PtyAnswers) (recorded : Bool) :
    DaemonProtocol × ProtocolConnection × Bool :=
  let p := p.reconcilePersistedClosedSessions loaded
  match p.maps.sessionIndex.lookup session with
  | none => (p, c, false)
  | some internalId =>
    match p.maps.runtime.state internalId, p.maps.runtime.role internalId c.deviceId answers with
    | .ok _, .ok role =>
      match p.maps.runtime.attach internalId c.deviceId answers with
      | (runtime, .error _) => (p.setRuntime runtime, c, false)
      | (runtime, .ok _) =>
        let p := p.setRuntime runtime
        match runtime.size internalId, runtime.state internalId, recorded with
        | .ok size, .ok _, true =>
          match p.startWatchedAttachment c session internalId size answers with
          | (p, c, false) => (p.undoAttach role.isSome internalId c.deviceId answers, c, false)
          | (p, c, true) =>
            let c := c.attach session
            (p.recordDaemonClientAttach session c, { c with state := .attached }, true)
        | _, _, _ => (p.undoAttach role.isSome internalId c.deviceId answers, c, false)
    | _, _ => (p, c, false)

def restoreHttpControlScope (c : ProtocolConnection) (session : String) (answers : PtyAnswers) :
    DaemonProtocol × ProtocolConnection × Bool :=
  match p.maps.sessionIndex.lookup session with
  | none => (p, c, false)
  | some internalId =>
    match p.maps.runtime.attach internalId c.deviceId answers with
    | (runtime, .error _) => (p.setRuntime runtime, c, false)
    | (runtime, .ok _) => (p.setRuntime runtime, { c.attach session with state := .attached }, true)

/-! ### A connection is closed -/

/-- The device is detached from a session. -/
def detachDevice (device session : String) (answers : PtyAnswers) : DaemonProtocol :=
  match p.maps.sessionIndex.lookup session with
  | none => p
  | some internalId => p.setRuntime (p.maps.runtime.detach internalId device answers).1

/-- `detach_connection` -/
def detachConnection (c : ProtocolConnection) (answers : PtyAnswers) (persisted : Bool) :
    DaemonProtocol :=
  let remaining := c.attachedSessions.filter fun session =>
    p.daemonClientHasActiveSession c.deviceId session c.clientId
  let p := p.releaseWatchedAttachments
    (c.watchedAttachmentIds.select fun session attachment => some (session, attachment)) answers
  let p := if c.trackDaemonClientHistory then
      p.markDaemonClientConnectionOffline c.deviceId c.clientId persisted
    else p
  c.attachedSessions.foldl
    (fun p session => if session ∈ remaining then p else p.detachDevice c.deviceId session answers) p

/-- `close_session`. The ownership is closed, with `none` when its transaction fails, and `some false`
when the daemon does not see the end of the clean-up. -/
def closeSession (c : ProtocolConnection) (session : String) (closed : Option Bool) :
    DaemonProtocol × Bool :=
  if session ∉ c.attachedSessions then (p, false)
  else match p.maps.sessionIndex.lookup session, closed with
    | none, _ => (p, false)
    | some _, none => (p, false)
    | some _, some false => (p.setRuntime (p.maps.runtime.takeForCleanup session).1, false)
    | some _, some true =>
      ((p.setRuntime (p.maps.runtime.takeForCleanup session).1).closeVisibleSessionState session,
        true)

end DaemonProtocol

end Termd.Daemon
