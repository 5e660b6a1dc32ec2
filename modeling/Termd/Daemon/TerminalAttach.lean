import Termd.Daemon.Clients
import Termd.Library.TextSplit

/-!
# A terminal that fails to be attached

A connection is attached to a session in two phases. The device is attached in the runtime, and a
new attachment of the terminal is started beside the one that the connection has; when the answer
is made, the old one is dropped, and until then the new one is given up if anything fails. The
device is taken back as well, unless another connection of the device has brought it.

Before all this, sessions whose rows are no longer running are dropped, and that stays.

## Main definitions

* `TerminalAttach.startWatchedAttachment`, `TerminalAttach.commitWatchedAttachmentStart`,
  `TerminalAttach.rollbackWatchedAttachmentStart`: the two phases
* `TerminalAttach.attachTerminalSession`: the request, with all that may fail in it
* `TerminalAttach.Numbered`: a connection whose next attachment has an id of its own
* `TerminalAttach.Unchanged`, `TerminalAttach.Replaced`: what a request has done
* `TerminalAttach.Allocated`: every attachment has an id that a connection has given out

## Main results

* `TerminalAttach.numbered_of_exec`: the next id of an open connection is new in every run
* `TerminalAttach.attach_terminal_session`: a request that fails has changed nothing, and one that
  succeeds has replaced the attachment
* `TerminalAttach.attach_drops_sessions`: what it may drop
-/

namespace Termd.Daemon

open Ownership (SessionState RuntimeRow)
open Pty (PtySize)
open SessionRuntime (Touches)
open DaemonProtocol (OnlyRuntime Visible)

/-- The attachments of a session in the runtime. -/
def SessionRuntime.watched (r : SessionRuntime) (id : String) : Finset String :=
  (r.runtimeSessions.lookup id).elim ∅ RuntimeSession.watchedAttachments

/-- The id of an attachment of the connection. -/
def ProtocolConnection.watchedAttachmentId (c : ProtocolConnection) (session : String) (n : ℕ) :
    String :=
  c.clientId ++ ":" ++ session ++ ":" ++ toString n

namespace TerminalAttach

/-- What is answered in the course of a request. The PTY says whether it has a device, and lets
one go. -/
structure AttachAnswers where
  /-- The rows of the state file -/
  loaded : Option (Table String RuntimeRow)
  authorityAttachDevice : Bool := true
  tryWait : Option Bool := some false
  attachClient : Bool := true
  detachClient : Bool := true
  /-- `record_session_runtime_state` -/
  historyWritten : Bool := true
  /-- `persist_state` -/
  statePersisted : Bool := true
  /-- `envelope_value` -/
  responseBuilt : Bool := true

def AttachAnswers.pty (a : AttachAnswers) : PtyAnswers where
  authorityAttachDevice := a.authorityAttachDevice
  tryWait := a.tryWait
  attachClient := a.attachClient
  detachClient := a.detachClient

inductive AttachError
  | state
  | sessionNotFound
  | runtime (error : RuntimeError)
  | clientHistory
  | response

structure SessionAttachedPayload where
  sessionId : String
  role : AttachRole
  state : SessionState
  size : PtySize
  resizeOwner : Bool

structure PendingWatchedAttachmentStart where
  wireSessionId : String
  attachmentId : String
  previousAttachmentId : Option String

variable (p : DaemonProtocol) (c : ProtocolConnection)

/-- `start_watched_attachment` -/
def startWatchedAttachment (session internalId : String) (size : PtySize) (answers : PtyAnswers) :
    DaemonProtocol × ProtocolConnection × Except AttachError PendingWatchedAttachmentStart :=
  let (previousAttachmentId, c) := c.takeWatchedAttachmentId session
  let (attachmentId, c) := c.allocateWatchedAttachmentId session
  match p.maps.runtime.startWatchedAttachment internalId attachmentId size answers with
  | (runtime, .error error) =>
    (p.setRuntime runtime, previousAttachmentId.elim c (c.rememberWatchedAttachment session ·),
      .error (.runtime error))
  | (runtime, .ok ()) =>
    (p.setRuntime runtime, c,
      .ok { wireSessionId := session, attachmentId, previousAttachmentId })

/-- `commit_watched_attachment_start` -/
def commitWatchedAttachmentStart (pending : PendingWatchedAttachmentStart) (answers : PtyAnswers) :
    DaemonProtocol × ProtocolConnection :=
  (pending.previousAttachmentId.elim p fun previous =>
      p.releaseWatchedAttachment pending.wireSessionId previous answers,
    c.rememberWatchedAttachment pending.wireSessionId pending.attachmentId)

/-- `rollback_watched_attachment_start` -/
def rollbackWatchedAttachmentStart (pending : PendingWatchedAttachmentStart)
    (answers : PtyAnswers) : DaemonProtocol × ProtocolConnection :=
  (p.releaseWatchedAttachment pending.wireSessionId pending.attachmentId answers,
    pending.previousAttachmentId.elim c (c.rememberWatchedAttachment pending.wireSessionId ·))

/-- What `attach_terminal_session` reads and writes between the attachment of the device and that of
the terminal. -/
def attachResult (internalId : String) (stateBeforeAttach : SessionState) (a : AttachAnswers) :
    Except AttachError (PtySize × SessionState) :=
  match p.maps.runtime.size internalId, p.maps.runtime.state internalId with
  | .error error, _ => .error (.runtime error)
  | _, .error error => .error (.runtime error)
  | .ok responseSize, .ok responseState =>
    if !a.historyWritten then .error .clientHistory
    else if stateBeforeAttach ≠ responseState ∧ !a.statePersisted then .error .state
    else .ok (responseSize, responseState)

/-- The end of `attach_terminal_session`, when the attachment of the terminal is started. -/
def finishAttach (session internalId : String) (wasRuntimeAttached : Bool)
    (response : SessionAttachedPayload) (pending : PendingWatchedAttachmentStart)
    (a : AttachAnswers) :
    DaemonProtocol × ProtocolConnection × Except AttachError SessionAttachedPayload :=
  if a.responseBuilt then
    let (p, c) := commitWatchedAttachmentStart p (c.attach session) pending a.pty
    (p.recordDaemonClientAttach session c, { c with state := .attached }, .ok response)
  else
    let (p, c) := rollbackWatchedAttachmentStart p c pending a.pty
    (p.undoAttach wasRuntimeAttached internalId c.deviceId a.pty, c, .error .response)

def attachTerminalSession (session : String) (a : AttachAnswers) :
    DaemonProtocol × ProtocolConnection × Except AttachError SessionAttachedPayload :=
  match a.loaded with
  | none => (p, c, .error .state)
  | some loaded =>
    let p := p.reconcilePersistedClosedSessions loaded
    match p.maps.sessionIndex.lookup session with
    | none => (p, c, .error .sessionNotFound)
    | some internalId =>
      match p.maps.runtime.state internalId, p.maps.runtime.role internalId c.deviceId a.pty with
      | .error error, _ => (p, c, .error (.runtime error))
      | _, .error error => (p, c, .error (.runtime error))
      | .ok stateBeforeAttach, .ok roleBefore =>
        match p.maps.runtime.attach internalId c.deviceId a.pty with
        | (runtime, .error error) => (p.setRuntime runtime, c, .error (.runtime error))
        | (runtime, .ok role) =>
          let p := p.setRuntime runtime
          match attachResult p internalId stateBeforeAttach a with
          | .error error => (p.undoAttach roleBefore.isSome internalId c.deviceId a.pty, c, .error error)
          | .ok (size, state) =>
            match startWatchedAttachment p c session internalId size a.pty with
            | (p, c, .error error) =>
              (p.undoAttach roleBefore.isSome internalId c.deviceId a.pty, c, .error error)
            | (p, c, .ok pending) =>
              finishAttach p c session internalId roleBefore.isSome
                { sessionId := session, role, state, size, resizeOwner := true } pending a

end TerminalAttach

/-! ### The attachments of a session -/

namespace SessionRuntime

variable {r r' : SessionRuntime} {id k device : String} {answers : PtyAnswers}
  {devices attachments : Finset String}

theorem watched_of_isOpen (hopen : (r.slot id).IsOpen) : r.watched id = (r.slot id).attachments := by
  obtain ⟨record, handle, hslot, hstate⟩ := Slot.isOpen_iff.mp hopen
  rw [hslot, Slot.attachments_of_open hstate, watched, runtimeSessions_lookup_of_slot hslot]
  rfl

theorem watched_congr (h : r'.slot k = r.slot k) : r'.watched k = r.watched k :=
  congrArg (fun slot : Slot => slot.2.elim ∅ RuntimeSession.watchedAttachments) h

theorem role_congr (h : r'.slot k = r.slot k) : r'.role k device answers = r.role k device answers := by
  have hrecord : r'.sessions.sessions.lookup k = r.sessions.sessions.lookup k := congrArg Prod.fst h
  have hhandle : r'.runtimeSessions.lookup k = r.runtimeSessions.lookup k := congrArg Prod.snd h
  rw [role, role, sessionAuthorityHasDevice, sessionAuthorityHasDevice, runtimeSession,
    runtimeSession, hhandle, SessionManager.role, SessionManager.role, SessionManager.session,
    SessionManager.session, hrecord]

/-- What a touched session has afterwards. -/
theorem Touches.watched (h : Touches r r' id devices attachments) (k : String) :
    r'.watched k = if k = id then attachments else r.watched k := by
  split_ifs with hk
  · subst hk
    rw [watched_of_isOpen h.isOpen, h.attachments]
  · exact watched_congr (h.elsewhere k hk)

/-- The roles stay as they are where the devices do. -/
theorem Touches.role (h : Touches r r' id (r.slot id).devices attachments)
    (hopen : (r.slot id).IsOpen) (k device : String) : r'.role k device {} = r.role k device {} := by
  by_cases hk : k = id
  · subst hk
    rw [role_of_isOpen h.isOpen, role_of_isOpen hopen, h.devices]
  · exact role_congr (h.elsewhere k hk)

/-- An attach that succeeds had the PTY take the device. -/
theorem authority_of_attach_ok {role : AttachRole} (h : r.attach id device answers = (r', .ok role)) :
    answers.authorityAttachDevice := by
  rw [attach] at h
  cases hensure : r.ensureOpenSession id with
  | error =>
    rw [hensure] at h
    cases h
  | ok handle =>
    rw [hensure] at h
    dsimp only at h
    split_ifs at h with hattach
    · exact hattach
    · rw [fail] at h
      split at h <;> cases h

end SessionRuntime

/-- The PTY fails to take a device, and its child is found to have exited. -/
def PtyAnswers.noticesExit (answers : PtyAnswers) : Bool :=
  !answers.authorityAttachDevice && answers.tryWait = some true

namespace SessionRuntime

variable {r r' : SessionRuntime} {id device : String} {answers : PtyAnswers}

theorem observeNaturalExit_of_not_exited {tryWait : Option Bool} (h : tryWait ≠ some true) :
    (r.observeNaturalExit id tryWait).1 = r := by
  rw [observeNaturalExit]
  cases r.sessions.state id with
  | error => rfl
  | ok state =>
    dsimp only
    split_ifs
    · rfl
    · cases r.runtimeSession id with
      | error => rfl
      | ok handle =>
        rcases tryWait with _ | _ | _
        · rfl
        · rfl
        · exact absurd rfl h

/-- An attach that fails changes nothing, unless the child is found to have exited. -/
theorem attach_error {error : RuntimeError} (h : r.attach id device answers = (r', .error error))
    (hexit : answers.noticesExit = false) : r' = r := by
  by_cases hattach : answers.authorityAttachDevice
  · -- the PTY takes the device, so that the session was not open
    obtain ⟨hok, -⟩ := effect_attach id device answers hattach (r := r)
    rw [h] at hok
    have hclosed : ¬(r.slot id).IsOpen := fun hopen => by simpa [Except.toOption] using hok.mpr hopen
    obtain ⟨_, hensure⟩ := ensureOpenSession_of_not_isOpen hclosed
    rw [attach, hensure] at h
    exact (congrArg Prod.fst h).symm
  · have hwait : answers.tryWait ≠ some true := by
      simpa [PtyAnswers.noticesExit, hattach] using hexit
    rw [attach] at h
    cases hensure : r.ensureOpenSession id with
    | error =>
      rw [hensure] at h
      exact (congrArg Prod.fst h).symm
    | ok handle =>
      rw [hensure] at h
      dsimp only at h
      rw [if_neg hattach, fail] at h
      have hobserved : (r.observeNaturalExit id answers.tryWait).1 = r :=
        observeNaturalExit_of_not_exited hwait
      split at h
      next observed _ hobserve =>
        rw [hobserve] at hobserved
        exact (congrArg Prod.fst h).symm.trans hobserved
      next observed hobserve =>
        rw [hobserve] at hobserved
        exact (congrArg Prod.fst h).symm.trans hobserved
      next observed hobserve =>
        rw [hobserve] at hobserved
        exact (congrArg Prod.fst h).symm.trans hobserved

end SessionRuntime

namespace TerminalAttach

/-! ### What a request has done -/

/-- A connection with the ids that it has given out: the next is neither one of its own nor one of
the session. -/
structure Numbered (p : DaemonProtocol) where
  connection : ProtocolConnection
  /-- The id of a client is in no attachment but its own. -/
  runtime_fresh : ∀ session internalId n, p.maps.sessionIndex.lookup session = some internalId →
    connection.nextWatchedAttachmentNumber ≤ n →
      connection.watchedAttachmentId session n ∉ p.maps.runtime.watched internalId
  own_fresh : ∀ session n, connection.nextWatchedAttachmentNumber ≤ n →
    connection.watchedAttachmentIds.lookup session ≠ some (connection.watchedAttachmentId session n)

/-- The sessions that are dropped before a request, if the rows can be read. -/
def AttachAnswers.reconciled (a : AttachAnswers) (p : DaemonProtocol) : DaemonProtocol :=
  a.loaded.elim p p.reconcilePersistedClosedSessions

/-- Nothing has been changed of a connection, of the attachments and of the roles. -/
structure Unchanged (p p' : DaemonProtocol) (c c' : ProtocolConnection) : Prop where
  attachedSessions : c'.attachedSessions = c.attachedSessions
  watchedAttachmentIds : ∀ session,
    c'.watchedAttachmentIds.lookup session = c.watchedAttachmentIds.lookup session
  watched : ∀ id, p'.maps.runtime.watched id = p.maps.runtime.watched id
  role : ∀ id device, p'.maps.runtime.role id device {} = p.maps.runtime.role id device {}

/-- **The attachment of a session is replaced**: the connection has a new one, which the runtime
has in the place of the one before. -/
structure Replaced (p p' : DaemonProtocol) (c c' : ProtocolConnection) (session internalId : String)
    (attachment : String) : Prop where
  index : p'.maps.sessionIndex.lookup session = some internalId
  own : ∀ k, c'.watchedAttachmentIds.lookup k =
    if k = session then some attachment else c.watchedAttachmentIds.lookup k
  new : attachment ∉ p.maps.runtime.watched internalId
  dropped : c.watchedAttachmentIds.lookup session ≠ some attachment
  watched : ∀ k, p'.maps.runtime.watched k =
    if k = internalId then insert attachment ((p.maps.runtime.watched internalId).filter fun other =>
      c.watchedAttachmentIds.lookup session ≠ some other)
    else p.maps.runtime.watched k

section Requests

variable {p p' : DaemonProtocol} {c : ProtocolConnection} {session internalId : String}
  {a : AttachAnswers}

theorem maps_reconcile (p : DaemonProtocol) (loaded : Table String RuntimeRow) :
    (p.reconcilePersistedClosedSessions loaded).maps =
      p.maps.reconcilePersistedClosedSessions loaded := by
  rw [DaemonProtocol.reconcilePersistedClosedSessions, SessionMaps.reconcilePersistedClosedSessions]
  generalize p.maps.sessionIndex.select _ = closed
  induction closed generalizing p with
  | nil => rfl
  | cons session closed ih => exact ih (p.closeVisibleSessionState session)

theorem runtime_reconcile (m : SessionMaps) (loaded : Table String RuntimeRow) :
    (m.reconcilePersistedClosedSessions loaded).runtime = m.runtime :=
  List.foldlRecOn (motive := fun (m' : SessionMaps) => m'.runtime = m.runtime) _ _ rfl
    fun _ h _ _ => h

theorem runtime_reconciled (a : AttachAnswers) (p : DaemonProtocol) :
    (a.reconciled p).maps.runtime = p.maps.runtime := by
  rw [AttachAnswers.reconciled]
  cases a.loaded with
  | none => rfl
  | some loaded =>
    rw [Option.elim_some, maps_reconcile, runtime_reconcile]

theorem index_reconciled (h : (a.reconciled p).maps.sessionIndex.lookup session = some internalId) :
    p.maps.sessionIndex.lookup session = some internalId := by
  rw [AttachAnswers.reconciled] at h
  cases hloaded : a.loaded with
  | none => rwa [hloaded] at h
  | some loaded =>
    rw [hloaded, Option.elim_some, maps_reconcile, SessionMaps.sessionIndex_reconcile] at h
    split_ifs at h
    exact h

/-- The connection is what it was, but for the number of its next attachment. -/
structure Resumed (c c' : ProtocolConnection) : Prop where
  clientId : c'.clientId = c.clientId
  deviceId : c'.deviceId = c.deviceId
  attachedSessions : c'.attachedSessions = c.attachedSessions
  watchedAttachmentIds : ∀ session,
    c'.watchedAttachmentIds.lookup session = c.watchedAttachmentIds.lookup session
  number : c.nextWatchedAttachmentNumber ≤ c'.nextWatchedAttachmentNumber

theorem Resumed.refl (c : ProtocolConnection) : Resumed c c :=
  ⟨rfl, rfl, rfl, fun _ => rfl, le_rfl⟩

/-- The runtime of a failed request: one session has been touched, and is what it was. -/
structure Restored (p p' : DaemonProtocol) (c c' : ProtocolConnection) : Prop where
  connection : Resumed c c'
  only : OnlyRuntime p p'
  runtime : p'.maps.runtime = p.maps.runtime ∨ ∃ id, (p.maps.runtime.slot id).IsOpen ∧
    Touches p.maps.runtime p'.maps.runtime id (p.maps.runtime.slot id).devices
      (p.maps.runtime.slot id).attachments

theorem Restored.unchanged {c' : ProtocolConnection} (h : Restored p p' c c') :
    Unchanged p p' c c' where
  attachedSessions := h.connection.attachedSessions
  watchedAttachmentIds := h.connection.watchedAttachmentIds
  watched k := by
    rcases h.runtime with heq | ⟨id, hopen, htouches⟩
    · rw [heq]
    · rw [htouches.watched]
      split_ifs with hk
      · subst hk
        exact (SessionRuntime.watched_of_isOpen hopen).symm
      · rfl
  role k device := by
    rcases h.runtime with heq | ⟨id, hopen, htouches⟩
    · rw [heq]
    · exact htouches.role hopen k device

/-- A connection whose attachment of the session has been taken, and a number for the next one. -/
structure Taken (c c' : ProtocolConnection) (session : String) : Prop where
  clientId : c'.clientId = c.clientId
  deviceId : c'.deviceId = c.deviceId
  attachedSessions : c'.attachedSessions = c.attachedSessions
  lookup : ∀ k, c'.watchedAttachmentIds.lookup k =
    if k = session then none else c.watchedAttachmentIds.lookup k
  number : c'.nextWatchedAttachmentNumber = c.nextWatchedAttachmentNumber + 1

/-- The attachment that was taken is put back. -/
theorem Taken.restore {c' : ProtocolConnection} (h : Taken c c' session) :
    Resumed c ((c.watchedAttachmentIds.lookup session).elim c'
      (c'.rememberWatchedAttachment session ·)) := by
  have hnumber : c.nextWatchedAttachmentNumber ≤ c'.nextWatchedAttachmentNumber :=
    h.number ▸ Nat.le_succ _
  cases hprevious : c.watchedAttachmentIds.lookup session with
  | none =>
    refine ⟨h.clientId, h.deviceId, h.attachedSessions, fun k => ?_, hnumber⟩
    rw [Option.elim_none, h.lookup]
    split_ifs with hk
    · rw [hk, hprevious]
    · rfl
  | some previous =>
    refine ⟨h.clientId, h.deviceId, h.attachedSessions, fun k => ?_, hnumber⟩
    rw [Option.elim_some, ProtocolConnection.rememberWatchedAttachment]
    by_cases hk : k = session
    · rw [hk, hprevious, AList.lookup_insert]
    · rw [AList.lookup_insert_ne hk, h.lookup, if_neg hk]

theorem taken_allocate (c : ProtocolConnection) (session : String) :
    Taken c ((c.takeWatchedAttachmentId session).2.allocateWatchedAttachmentId session).2 session where
  clientId := rfl
  deviceId := rfl
  attachedSessions := rfl
  lookup k := by
    split_ifs with hk
    · subst hk
      exact AList.lookup_erase _ _
    · exact AList.lookup_erase_ne hk
  number := rfl

section Start

variable {r : SessionRuntime} {devices attachments : Finset String} {size : PtySize}
  {c' : ProtocolConnection} {pending : PendingWatchedAttachmentStart} {error : AttachError}

/-- **The new attachment is not started**: nothing is done. -/
theorem startWatchedAttachment_error
    (h : Touches r p.maps.runtime internalId devices attachments)
    (hstart : startWatchedAttachment p c session internalId size a.pty = (p', c', .error error)) :
    p' = p ∧ Resumed c c' := by
  have htaken := taken_allocate c session
  have htouches := h.startWatchedAttachment
    ((c.takeWatchedAttachmentId session).2.allocateWatchedAttachmentId session).1 size a.pty
  rw [startWatchedAttachment] at hstart
  dsimp only at hstart
  split at hstart
  next runtime error' hruntime =>
    rw [hruntime] at htouches
    obtain ⟨hp, hc, -⟩ := hstart
    subst htouches
    exact ⟨rfl, htaken.restore⟩
  next => cases hstart

/-- **The new attachment is started** beside the one before. -/
theorem startWatchedAttachment_ok
    (h : Touches r p.maps.runtime internalId devices attachments)
    (hstart : startWatchedAttachment p c session internalId size a.pty = (p', c', .ok pending)) :
    OnlyRuntime p p' ∧ Taken c c' session ∧
      pending = ⟨session, c.watchedAttachmentId session c.nextWatchedAttachmentNumber,
        c.watchedAttachmentIds.lookup session⟩ ∧
      Touches r p'.maps.runtime internalId devices
        (insert (c.watchedAttachmentId session c.nextWatchedAttachmentNumber) attachments) := by
  have htaken := taken_allocate c session
  have htouches := h.startWatchedAttachment
    ((c.takeWatchedAttachmentId session).2.allocateWatchedAttachmentId session).1 size a.pty
  rw [startWatchedAttachment] at hstart
  dsimp only at hstart
  split at hstart
  next => cases hstart
  next runtime hruntime =>
    rw [hruntime] at htouches
    obtain ⟨hp, hc, hpending⟩ := hstart
    exact ⟨.setRuntime _, htaken, rfl, htouches⟩

theorem watchedAttachmentIds_attach (c : ProtocolConnection) (session : String) :
    (c.attach session).watchedAttachmentIds = c.watchedAttachmentIds := by
  rw [ProtocolConnection.attach]
  split_ifs <;> rfl

theorem nextWatchedAttachmentNumber_attach (c : ProtocolConnection) (session : String) :
    (c.attach session).nextWatchedAttachmentNumber = c.nextWatchedAttachmentNumber := by
  rw [ProtocolConnection.attach]
  split_ifs <;> rfl

theorem maps_recordDaemonClientAttach (p : DaemonProtocol) (session : String) (c : ProtocolConnection) :
    (p.recordDaemonClientAttach session c).maps = p.maps := by
  by_cases htracked : c.trackDaemonClientHistory
  · exact (DaemonProtocol.recordDaemonClientAttach_spec session htracked).1
  · rw [DaemonProtocol.recordDaemonClientAttach]
    simp [htracked]

/-- **A commit** drops the attachment before. -/
theorem commit_spec {new : String} (htaken : Taken c c' session)
    (hindex : p.maps.sessionIndex.lookup session = some internalId)
    (hown : c.watchedAttachmentIds.lookup session ≠ some new)
    (h : Touches r p.maps.runtime internalId devices (insert new attachments)) :
    let result := commitWatchedAttachmentStart p (c'.attach session)
      ⟨session, new, c.watchedAttachmentIds.lookup session⟩ a.pty
    result.1.maps.sessionIndex = p.maps.sessionIndex ∧ result.2.clientId = c.clientId ∧
      result.2.nextWatchedAttachmentNumber = c.nextWatchedAttachmentNumber + 1 ∧
      (∀ k, result.2.watchedAttachmentIds.lookup k =
        if k = session then some new else c.watchedAttachmentIds.lookup k) ∧
      Touches r result.1.maps.runtime internalId devices
        (insert new (attachments.filter fun other =>
          c.watchedAttachmentIds.lookup session ≠ some other)) := by
  dsimp only [commitWatchedAttachmentStart]
  refine ⟨?_, DaemonProtocol.attach_clientId.trans htaken.clientId,
    (nextWatchedAttachmentNumber_attach c' session).trans htaken.number, fun k => ?_, ?_⟩
  · cases c.watchedAttachmentIds.lookup session with
    | none => rfl
    | some previous =>
      exact (DaemonProtocol.onlyRuntime_releaseWatchedAttachment session a.pty previous).sessionIndex
  · rw [ProtocolConnection.rememberWatchedAttachment, watchedAttachmentIds_attach]
    split_ifs with hk
    · rw [hk, AList.lookup_insert]
    · rw [AList.lookup_insert_ne hk, htaken.lookup, if_neg hk]
  · cases hprevious : c.watchedAttachmentIds.lookup session with
    | none =>
      have hall : (attachments.filter fun other => (none : Option String) ≠ some other) =
          attachments := by simp
      rw [hall]
      exact h
    | some previous =>
      have hne : previous ≠ new := fun heq => hown (heq ▸ hprevious)
      have herase : (insert new attachments).erase previous =
          insert new (attachments.filter fun other => some previous ≠ some other) := by
        ext other
        simp only [Finset.mem_erase, Finset.mem_insert, Finset.mem_filter, ne_eq,
          Option.some.injEq]
        constructor
        · rintro ⟨hother, rfl | hmem⟩
          · exact .inl rfl
          · exact .inr ⟨hmem, Ne.symm hother⟩
        · rintro (rfl | ⟨hmem, hother⟩)
          · exact ⟨Ne.symm hne, .inl rfl⟩
          · exact ⟨Ne.symm hother, .inr hmem⟩
      rw [← herase]
      exact DaemonProtocol.touches_releaseWatchedAttachment a.pty h hindex previous

/-- **A rollback** drops the attachment that was started. -/
theorem rollback_spec {new : String} (htaken : Taken c c' session)
    (hindex : p.maps.sessionIndex.lookup session = some internalId) (hnew : new ∉ attachments)
    (h : Touches r p.maps.runtime internalId devices (insert new attachments)) :
    let result := rollbackWatchedAttachmentStart p c'
      ⟨session, new, c.watchedAttachmentIds.lookup session⟩ a.pty
    OnlyRuntime p result.1 ∧ Resumed c result.2 ∧
      Touches r result.1.maps.runtime internalId devices attachments := by
  have hreleased := DaemonProtocol.touches_releaseWatchedAttachment a.pty h hindex new
  rw [Finset.erase_insert hnew] at hreleased
  exact ⟨DaemonProtocol.onlyRuntime_releaseWatchedAttachment session a.pty new, htaken.restore,
    hreleased⟩

end Start

/-- What a request has done when it fails, and when it succeeds. -/
def Outcome (p : DaemonProtocol) (c : ProtocolConnection) (session : String) (a : AttachAnswers) :
    DaemonProtocol × ProtocolConnection × Except AttachError SessionAttachedPayload → Prop
  | (p', c', .error _) => a.pty.noticesExit = false → Restored p p' c c'
  | (p', c', .ok _) => p'.maps.sessionIndex = p.maps.sessionIndex ∧ c'.clientId = c.clientId ∧
    c'.nextWatchedAttachmentNumber = c.nextWatchedAttachmentNumber + 1 ∧ ∃ internalId,
      Replaced p p' c c' session internalId
        (c.watchedAttachmentId session c.nextWatchedAttachmentNumber)

theorem outcome_unchanged (error : AttachError) : Outcome p c session a (p, c, .error error) :=
  fun _ => ⟨.refl c, .refl p, .inl rfl⟩

/-- **The end of a request**, with the new attachment beside the one before. -/
theorem outcome_finishAttach {c' : ProtocolConnection} {role : Option AttachRole}
    {response : SessionAttachedPayload} {p₂ : DaemonProtocol}
    (hopen : (p.maps.runtime.slot internalId).IsOpen)
    (hrole : p.maps.runtime.role internalId c.deviceId {} = .ok role)
    (honly : OnlyRuntime p p₂)
    (hindex : p.maps.sessionIndex.lookup session = some internalId) (htaken : Taken c c' session)
    (hnew : c.watchedAttachmentId session c.nextWatchedAttachmentNumber ∉
      p.maps.runtime.watched internalId)
    (hown : c.watchedAttachmentIds.lookup session ≠
      some (c.watchedAttachmentId session c.nextWatchedAttachmentNumber))
    (h : Touches p.maps.runtime p₂.maps.runtime internalId
      (insert c.deviceId (p.maps.runtime.slot internalId).devices)
      (insert (c.watchedAttachmentId session c.nextWatchedAttachmentNumber)
        (p.maps.runtime.slot internalId).attachments)) :
    Outcome p c session a (finishAttach p₂ c' session internalId role.isSome response
      ⟨session, c.watchedAttachmentId session c.nextWatchedAttachmentNumber,
        c.watchedAttachmentIds.lookup session⟩ a) := by
  have hindex₂ : p₂.maps.sessionIndex.lookup session = some internalId := by
    rw [honly.sessionIndex, hindex]
  have hwatched := SessionRuntime.watched_of_isOpen hopen
  rw [finishAttach]
  split_ifs with hbuilt
  · have hcommit := commit_spec (a := a) htaken hindex₂ hown h
    generalize commitWatchedAttachmentStart p₂ (c'.attach session) _ a.pty = result at hcommit ⊢
    obtain ⟨p', c''⟩ := result
    obtain ⟨hindex', hclient, hnumber, hlookup, htouches⟩ := hcommit
    rw [← hwatched] at htouches
    dsimp only at hindex' hclient hnumber htouches
    have hmaps := maps_recordDaemonClientAttach p' session c''
    refine ⟨?_, hclient, hnumber, internalId, ?_⟩
    · rw [hmaps, hindex', honly.sessionIndex]
    · exact
        { index := by rw [hmaps, hindex', hindex₂]
          own := hlookup
          new := hnew
          dropped := hown
          watched := fun k => by rw [hmaps, htouches.watched] }
  · rw [hwatched] at hnew
    have hrollback := rollback_spec (a := a) htaken hindex₂ hnew h
    generalize rollbackWatchedAttachmentStart p₂ c' _ a.pty = result at hrollback ⊢
    obtain ⟨p', c''⟩ := result
    obtain ⟨honly', hresumed, htouches⟩ := hrollback
    dsimp only at honly' hresumed htouches
    intro _
    refine ⟨hresumed, (honly.trans honly').trans (DaemonProtocol.onlyRuntime_undoAttach _ _ _ _ _), .inr ?_⟩
    refine ⟨internalId, hopen, ?_⟩
    rw [hresumed.deviceId]
    exact DaemonProtocol.touches_undoAttach rfl rfl hopen hrole htouches

/-- **A request** changes nothing but the session that it names, and that only when it succeeds. -/
theorem outcome_attachTerminalSession (c : Numbered p) (session : String) (a : AttachAnswers) :
    Outcome (a.reconciled p) c.connection session a
      (attachTerminalSession p c.connection session a) := by
  rw [attachTerminalSession]
  cases hloaded : a.loaded with
  | none =>
    have hp : a.reconciled p = p := by rw [AttachAnswers.reconciled, hloaded, Option.elim_none]
    rw [hp]
    exact outcome_unchanged .state
  | some loaded =>
    have hp : p.reconcilePersistedClosedSessions loaded = a.reconciled p := by
      rw [AttachAnswers.reconciled, hloaded, Option.elim_some]
    dsimp only
    rw [hp]
    have hruntime := runtime_reconciled a p
    have hfresh : ∀ internalId, (a.reconciled p).maps.sessionIndex.lookup session = some internalId →
        c.connection.watchedAttachmentId session c.connection.nextWatchedAttachmentNumber ∉
          (a.reconciled p).maps.runtime.watched internalId := by
      intro internalId hindex
      rw [hruntime]
      exact c.runtime_fresh session internalId _ (index_reconciled hindex) le_rfl
    generalize a.reconciled p = p₁ at hfresh
    cases hindex : p₁.maps.sessionIndex.lookup session with
    | none => exact outcome_unchanged .sessionNotFound
    | some internalId =>
      dsimp only
      split
      · exact outcome_unchanged _
      · exact outcome_unchanged _
      next stateBefore roleBefore hstate hrole =>
        cases hattach : p₁.maps.runtime.attach internalId c.connection.deviceId a.pty with
        | mk runtime result =>
          cases result with
          | error error =>
            intro hexit
            rw [SessionRuntime.attach_error hattach hexit]
            exact ⟨.refl _, .setRuntime _, .inl rfl⟩
          | ok role =>
            have hauthority := SessionRuntime.authority_of_attach_ok hattach
            have hopen : (p₁.maps.runtime.slot internalId).IsOpen := by
              refine (SessionRuntime.effect_attach internalId c.connection.deviceId a.pty
                hauthority).1.mp ?_
              rw [hattach]
              rfl
            have hattached := (SessionRuntime.Touches.refl hopen).attach c.connection.deviceId a.pty
              hauthority
            rw [hattach] at hattached
            -- what fails before the attachment is started
            have hundo : ∀ (c' : ProtocolConnection) (error : AttachError), Resumed c.connection c' →
                Outcome p₁ c.connection session a
                  ((p₁.setRuntime runtime).undoAttach roleBefore.isSome internalId c'.deviceId a.pty,
                    c', .error error) := by
              intro c' error hresumed _
              refine ⟨hresumed,
                (DaemonProtocol.OnlyRuntime.setRuntime runtime).trans (DaemonProtocol.onlyRuntime_undoAttach _ _ _ _ _),
                .inr ⟨internalId, hopen, ?_⟩⟩
              rw [hresumed.deviceId]
              exact DaemonProtocol.touches_undoAttach rfl rfl hopen hrole hattached
            dsimp only
            split
            · exact hundo _ _ (.refl _)
            next size state hresult =>
              split
              next p' c' error hstart =>
                obtain ⟨rfl, hresumed⟩ := startWatchedAttachment_error hattached hstart
                exact hundo c' error hresumed
              next p' c' pending hstart =>
                obtain ⟨honly, htaken, rfl, hstarted⟩ := startWatchedAttachment_ok hattached hstart
                exact outcome_finishAttach hopen hrole
                  ((DaemonProtocol.OnlyRuntime.setRuntime runtime).trans honly) hindex htaken
                  (hfresh internalId hindex) (c.own_fresh session _ le_rfl) hstarted

/-- Nothing is dropped when every session in the index has a running row. -/
theorem reconciled_eq_self (h : ∀ loaded, a.loaded = some loaded → ∀ session,
    p.Visible session → (loaded.lookup session).any fun row => row.state = .running) :
    a.reconciled p = p := by
  rw [AttachAnswers.reconciled]
  cases hloaded : a.loaded with
  | none => rfl
  | some loaded =>
    have hclosed : (p.maps.sessionIndex.select fun session _ =>
        if (loaded.lookup session).any fun row => row.state = .running then none
        else some session) = [] := by
      refine List.eq_nil_iff_forall_not_mem.mpr fun session hsession => ?_
      obtain ⟨hvisible, hrunning⟩ := SessionMaps.mem_closed.mp hsession
      exact hrunning (h loaded hloaded session hvisible)
    rw [Option.elim_some, DaemonProtocol.reconcilePersistedClosedSessions, hclosed]
    rfl

theorem Unchanged.of_runtime {p₁ : DaemonProtocol} {c' : ProtocolConnection}
    (h : Unchanged p₁ p' c c') (hruntime : p₁.maps.runtime = p.maps.runtime) :
    Unchanged p p' c c' where
  attachedSessions := h.attachedSessions
  watchedAttachmentIds := h.watchedAttachmentIds
  watched id := by rw [h.watched, hruntime]
  role id device := by rw [h.role, hruntime]

theorem Replaced.of_runtime {p₁ : DaemonProtocol} {c' : ProtocolConnection} {attachment : String}
    (h : Replaced p₁ p' c c' session internalId attachment)
    (hruntime : p₁.maps.runtime = p.maps.runtime) :
    Replaced p p' c c' session internalId attachment where
  index := h.index
  own := h.own
  new := hruntime ▸ h.new
  dropped := h.dropped
  watched k := by rw [h.watched, hruntime]

theorem remember_attach (c : ProtocolConnection) (session attachment : String) :
    (c.rememberWatchedAttachment session attachment).attach session =
      (c.attach session).rememberWatchedAttachment session attachment := by
  rw [ProtocolConnection.attach, ProtocolConnection.attach]
  by_cases hmem : session ∈ c.attachedSessions
  · rw [if_pos hmem]
    exact if_pos hmem
  · rw [if_neg hmem]
    exact if_neg hmem

/-- **A request in which nothing fails but the terminal** is the one that opens a terminal. -/
theorem attachTerminalSession_eq (p : DaemonProtocol) (c : ProtocolConnection) (session : String)
    {loaded : Table String RuntimeRow} {a : AttachAnswers} (hloaded : a.loaded = some loaded)
    (hhistory : a.historyWritten) (hpersisted : a.statePersisted) (hbuilt : a.responseBuilt) :
    p.attachTerminalSession c session loaded a.pty true =
      ((attachTerminalSession p c session a).1, (attachTerminalSession p c session a).2.1,
        (attachTerminalSession p c session a).2.2.toBool) := by
  rw [attachTerminalSession, DaemonProtocol.attachTerminalSession, hloaded]
  dsimp only
  generalize p.reconcilePersistedClosedSessions loaded = p
  cases p.maps.sessionIndex.lookup session with
  | none => rfl
  | some internalId =>
    dsimp only
    cases p.maps.runtime.state internalId with
    | error => rfl
    | ok stateBefore =>
      cases p.maps.runtime.role internalId c.deviceId a.pty with
      | error => rfl
      | ok roleBefore =>
        dsimp only
        obtain ⟨runtime, result⟩ := p.maps.runtime.attach internalId c.deviceId a.pty
        cases result with
        | error => rfl
        | ok role =>
          dsimp only
          have hsame : (p.setRuntime runtime).maps.runtime = runtime := rfl
          rw [attachResult, hsame]
          cases runtime.size internalId with
          | error => rfl
          | ok size =>
            cases runtime.state internalId with
            | error => rfl
            | ok state =>
              simp only [hhistory, hpersisted, Bool.not_true, Bool.false_eq_true, and_false, if_false]
              rw [startWatchedAttachment, DaemonProtocol.startWatchedAttachment]
              dsimp only
              generalize ((c.takeWatchedAttachmentId session).2.allocateWatchedAttachmentId session) =
                allocated
              obtain ⟨attachment, c'⟩ := allocated
              dsimp only
              cases (p.setRuntime runtime).maps.runtime.startWatchedAttachment internalId attachment
                  size a.pty with
              | mk started result =>
                cases result with
                | error => rfl
                | ok _ =>
                  simp only [finishAttach, hbuilt, if_true, commitWatchedAttachmentStart,
                    remember_attach]
                  rfl

end Requests

/-! ### The ids of the attachments -/

section Ids

variable {p p' : DaemonProtocol} {c c' : ProtocolConnection} {session client k : String}
  {ids ids' : Set String} {connections connections' : Table String ProtocolConnection}
  {used used' : List String}

/-- The client and the number are read off an id, as the client has no colon. -/
theorem watchedAttachmentId_inj {session' : String} {n n' : ℕ} (hc : ':' ∉ c.clientId.toList)
    (hc' : ':' ∉ c'.clientId.toList)
    (h : c.watchedAttachmentId session n = c'.watchedAttachmentId session' n') :
    c.clientId = c'.clientId ∧ n = n' := by
  have hlists : c.clientId.toList ++ ':' :: (session.toList ++ ':' :: Nat.toDigits 10 n) =
      c'.clientId.toList ++ ':' :: (session'.toList ++ ':' :: Nat.toDigits 10 n') := by
    simpa [ProtocolConnection.watchedAttachmentId, Nat.toString_eq_repr, Nat.toList_repr] using
      congrArg String.toList h
  have hsplit := congrArg (splitOnce ':') hlists
  rw [splitOnce_append hc, splitOnce_append hc'] at hsplit
  obtain ⟨hclient, hrest⟩ := Prod.mk.inj (Option.some.inj hsplit)
  have hlast := congrArg (rsplitOnce ':') hrest
  rw [rsplitOnce_append (notMem_toDigits rfl n), rsplitOnce_append (notMem_toDigits rfl n')] at hlast
  have hnumber := (Prod.mk.inj (Option.some.inj hlast)).2
  refine ⟨String.toList_injective hclient, ?_⟩
  rw [← Nat.ofDigitChars_ten_toDigits (n := n), hnumber, Nat.ofDigitChars_ten_toDigits]

/-- The attachments of the visible sessions are among `ids`. -/
structure Watching (p : DaemonProtocol) (ids : Set String) : Prop where
  internal : p.Internal
  mem : ∀ k, p.Visible k → ∀ attachment ∈ (p.maps.runtime.slot k).attachments, attachment ∈ ids

namespace Watching

theorem mono (h : Watching p ids) (hsub : ids ⊆ ids') : Watching p ids' :=
  ⟨h.internal, fun k hk attachment hmem => hsub (h.mem k hk attachment hmem)⟩

/-- The sessions that are visible still have no other attachments. -/
theorem of_subset (h : Watching p ids)
    (hindex : ∀ k internalId, p'.maps.sessionIndex.lookup k = some internalId →
      p.maps.sessionIndex.lookup k = some internalId)
    (hsub : ∀ k, p'.Visible k → (p'.maps.runtime.slot k).attachments ⊆
      (p.maps.runtime.slot k).attachments) : Watching p' ids where
  internal k internalId hlookup := h.internal k internalId (hindex k internalId hlookup)
  mem k hk attachment hmem := by
    obtain ⟨internalId, hlookup⟩ := Option.isSome_iff_exists.mp hk
    refine h.mem k ?_ attachment (hsub k hk hmem)
    rw [Visible, hindex k internalId hlookup]
    rfl

theorem of_maps (h : Watching p ids) (hmaps : p'.maps = p.maps) : Watching p' ids :=
  h.of_subset (fun _ _ hlookup => hmaps ▸ hlookup) fun _ _ => hmaps ▸ subset_rfl

theorem of_effect {runtime : SessionRuntime} {devices : String → Finset String}
    (h : Watching p ids) (heffect : SessionRuntime.Effect p.maps.runtime runtime devices
      fun k => (p.maps.runtime.slot k).attachments) : Watching (p.setRuntime runtime) ids :=
  h.of_subset (fun _ _ hlookup => hlookup) fun k _ => (heffect.attachments k).subset

theorem dispatchV070HttpControl (h : Watching p ids) (call : HttpCall) :
    Watching (p.dispatchV070HttpControl c call) ids := by
  cases call with
  | other => exact h
  | closeSession session =>
    rw [DaemonProtocol.dispatchV070HttpControl, DaemonProtocol.closeSession.eq_def]
    split_ifs
    · cases p.maps.sessionIndex.lookup session with
      | none => exact h
      | some internalId =>
        dsimp only
        -- the session whose handle is given up is not visible any more
        refine h.of_subset (fun k internalId hlookup => ?_) fun k hk => ?_
        · rw [DaemonProtocol.closeVisibleSessionState, SessionMaps.lookup_closeVisible] at hlookup
          split_ifs at hlookup
          exact hlookup
        · have hne := (DaemonProtocol.visible_closeVisibleSessionState.mp hk).2
          have hslot : (p.maps.runtime.takeForCleanup session).1.slot k = p.maps.runtime.slot k := by
            rw [SessionRuntime.slot_takeForCleanup, if_neg hne]
          exact (congrArg Slot.attachments hslot).subset
    · exact h
  | forgetDaemonClient device =>
    refine h.of_maps ?_
    rw [DaemonProtocol.dispatchV070HttpControl, DaemonProtocol.forgetDaemonClient]
    split_ifs <;> rfl

theorem detachConnection (h : Watching p ids) (c : ProtocolConnection) :
    Watching (p.detachConnection c {} true) ids := by
  obtain ⟨honly, heffect⟩ := DaemonProtocol.detachConnection_spec c {} true h.internal rfl rfl
  have hindex := honly.sessionIndex
  have hmaps : (if c.trackDaemonClientHistory then
      p.markDaemonClientConnectionOffline c.deviceId c.clientId true else p).maps = p.maps := by
    split_ifs
    · exact DaemonProtocol.maps_markDaemonClientConnectionOffline
    · rfl
  rw [hmaps] at hindex
  refine h.of_subset (fun _ _ hlookup => hindex ▸ hlookup) fun k _ => ?_
  rw [heffect.attachments]
  exact Finset.filter_subset _ _

theorem http (h : Watching p ids) (client device : String) (session : Option String)
    (call : HttpCall) : Watching (p.http client device session call) ids := by
  rw [DaemonProtocol.http.eq_def]
  cases session with
  | none => exact (h.dispatchV070HttpControl call).detachConnection _
  | some session =>
    dsimp only
    rw [DaemonProtocol.restoreHttpControlScope]
    cases p.maps.sessionIndex.lookup session with
    | none => exact h
    | some internalId =>
      have heffect := (SessionRuntime.effect_attach internalId device {} (r := p.maps.runtime) rfl).2
      dsimp only [ProtocolConnection.authenticatedHttp]
      cases hattach : p.maps.runtime.attach internalId device {} with
      | mk runtime result =>
        rw [hattach] at heffect
        cases result with
        | error error => exact h.of_effect heffect
        | ok role =>
          exact ((h.of_effect heffect).dispatchV070HttpControl call).detachConnection _

/-- A session that is new has no attachments. -/
theorem register {runtime : SessionRuntime} {root : String} (h : Watching p ids)
    (hslot : ∀ k ≠ session, runtime.slot k = p.maps.runtime.slot k)
    (hnew : ∀ attachment ∈ (runtime.slot session).attachments, attachment ∈ ids) :
    Watching { p with maps := ({ p.maps with runtime } : SessionMaps).register session root } ids where
  internal := SessionMaps.internal_register h.internal
  mem k hk attachment hmem := by
    rw [Visible, SessionMaps.lookup_register] at hk
    change attachment ∈ (runtime.slot k).attachments at hmem
    by_cases heq : k = session
    · subst heq
      exact hnew attachment hmem
    · rw [if_neg heq] at hk
      rw [hslot k heq] at hmem
      exact h.mem k hk attachment hmem

/-- The sessions but a new one are left alone. -/
theorem setRuntime_of_isNew {runtime : SessionRuntime} (h : Watching p ids) (hnew : p.IsNew session)
    (hslot : ∀ k ≠ session, runtime.slot k = p.maps.runtime.slot k) :
    Watching (p.setRuntime runtime) ids :=
  h.of_subset (fun _ _ hlookup => hlookup) fun k hk =>
    (congrArg Slot.attachments (hslot k (hnew.ne_of_visible hk))).subset

theorem recover (h : Watching p ids) (hnew : p.IsNew session) (root : String) (row : RuntimeRow)
    (authority : Bool) : Watching (p.recover session root row authority) ids := by
  obtain hsame | ⟨runtime, hothers, -, -, hattachments, hkept | hregistered⟩ :=
    DaemonProtocol.recover_cases root row authority hnew
  · rwa [hsame]
  · rw [hkept]
    exact h.setRuntime_of_isNew hnew hothers
  · rw [hregistered]
    exact h.register hothers (by simp [hattachments])

end Watching

/-- The ids that the connections have given out, those that are closed included. -/
def givenIds (used : List String) (connections : Table String ProtocolConnection) : Set String :=
  {attachment | ∃ (c : ProtocolConnection) (session : String) (n : ℕ),
    attachment = c.watchedAttachmentId session n ∧ c.clientId ∈ used ∧ ∀ current,
      connections.lookup c.clientId = some current → n < current.nextWatchedAttachmentNumber}

theorem givenIds_mono (hused : used ⊆ used') (hgrow : ∀ client ∈ used, ∀ current,
    connections'.lookup client = some current → ∃ before, connections.lookup client = some before ∧
      before.nextWatchedAttachmentNumber ≤ current.nextWatchedAttachmentNumber) :
    givenIds used connections ⊆ givenIds used' connections' := by
  rintro attachment ⟨c, session, n, rfl, hclient, hnumber⟩
  refine ⟨c, session, n, rfl, hused hclient, fun current hcurrent => ?_⟩
  obtain ⟨before, hbefore, hle⟩ := hgrow c.clientId hclient current hcurrent
  exact (hnumber before hbefore).trans_le hle

/-- The id of a connection that it gives out next. -/
def nextIds (c c' : ProtocolConnection) : Set String :=
  {attachment | c.nextWatchedAttachmentNumber < c'.nextWatchedAttachmentNumber ∧
    ∃ session, attachment = c.watchedAttachmentId session c.nextWatchedAttachmentNumber}

/-- **A terminal is opened** on a connection, or fails to be: there is no id but those before and the
one that the connection has given out. -/
structure Allots (ids : Set String) (c : ProtocolConnection) (p' : DaemonProtocol)
    (c' : ProtocolConnection) : Prop where
  watching : Watching p' (ids ∪ nextIds c c')
  clientId : c'.clientId = c.clientId
  number : c.nextWatchedAttachmentNumber ≤ c'.nextWatchedAttachmentNumber
  own : ∀ k attachment, c'.watchedAttachmentIds.lookup k = some attachment →
    c.watchedAttachmentIds.lookup k = some attachment ∨ attachment ∈ nextIds c c'

theorem Allots.of_resumed (h : Watching p' ids) (hresumed : Resumed c c') : Allots ids c p' c' where
  watching := h.mono Set.subset_union_left
  clientId := hresumed.clientId
  number := hresumed.number
  own k _ hlookup := .inl (hresumed.watchedAttachmentIds k ▸ hlookup)

theorem watching_reconciled (h : Watching p ids) (a : AttachAnswers) :
    Watching (a.reconciled p) ids :=
  h.of_subset (fun _ _ hlookup => index_reconciled hlookup)
    fun k _ => (congrArg (fun runtime => (SessionRuntime.slot runtime k).attachments)
      (runtime_reconciled a p)).subset

/-- **An attach.** -/
theorem allots_attachTerminalSession (h : Watching p ids)
    (hopen : ∀ k, p.Visible k → (p.maps.runtime.slot k).IsOpen) (numbered : Numbered p)
    (session : String) (loaded : Table String RuntimeRow) :
    Allots ids numbered.connection
      (p.attachTerminalSession numbered.connection session loaded {} true).1
      (p.attachTerminalSession numbered.connection session loaded {} true).2.1 := by
  have heq := attachTerminalSession_eq p numbered.connection session
    (a := { loaded := some loaded }) rfl rfl rfl rfl
  have houtcome := outcome_attachTerminalSession numbered session { loaded := some loaded }
  have hwatching := watching_reconciled h { loaded := some loaded }
  have hruntime := runtime_reconciled { loaded := some loaded } p
  have hvisible : ∀ k, (AttachAnswers.reconciled { loaded := some loaded } p).Visible k →
      (p.maps.runtime.slot k).IsOpen := by
    intro k hk
    obtain ⟨internalId, hlookup⟩ := Option.isSome_iff_exists.mp hk
    refine hopen k ?_
    rw [Visible, index_reconciled hlookup]
    rfl
  rw [← hruntime] at hvisible
  change p.attachTerminalSession numbered.connection session loaded {} true = _ at heq
  rw [heq]
  generalize AttachAnswers.reconciled { loaded := some loaded } p = p₁ at houtcome hwatching hvisible
  generalize attachTerminalSession p numbered.connection session { loaded := some loaded } = outcome
    at houtcome
  obtain ⟨p', c', result⟩ := outcome
  cases result with
  | error error =>
    obtain ⟨hresumed, honly, hslots⟩ := houtcome rfl
    refine .of_resumed (hwatching.of_subset (fun _ _ hlookup => honly.sessionIndex ▸ hlookup) ?_)
      hresumed
    intro k _
    obtain hsame | ⟨id, -, htouches⟩ := hslots
    · rw [hsame]
    · by_cases hk : k = id
      · rw [hk, htouches.attachments]
      · rw [htouches.elsewhere k hk]
  | ok response =>
    obtain ⟨hindex, hclient, hnumber, internalId, hreplaced⟩ := houtcome
    have hnext : numbered.connection.watchedAttachmentId session
        numbered.connection.nextWatchedAttachmentNumber ∈ nextIds numbered.connection c' :=
      ⟨hnumber ▸ Nat.lt_succ_self _, session, rfl⟩
    refine ⟨⟨fun k id hlookup => hwatching.internal k id (hindex ▸ hlookup), ?_⟩, hclient,
      hnumber ▸ Nat.le_succ _, ?_⟩
    · intro k hk attachment hmem
      rw [Visible, hindex] at hk
      have hbefore := SessionRuntime.watched_of_isOpen (hvisible k hk)
      rw [← SessionRuntime.watched_of_isOpen (Slot.isOpen_of_mem_attachments hmem),
        hreplaced.watched] at hmem
      split_ifs at hmem with hk'
      · subst hk'
        rcases Finset.mem_insert.mp hmem with rfl | hmem
        · exact .inr hnext
        · rw [hbefore] at hmem
          exact .inl (hwatching.mem k hk attachment (Finset.mem_filter.mp hmem).1)
      · rw [hbefore] at hmem
        exact .inl (hwatching.mem k hk attachment hmem)
    · intro k attachment hlookup
      rw [hreplaced.own] at hlookup
      split_ifs at hlookup
      · exact .inr (Option.some.inj hlookup ▸ hnext)
      · exact .inl hlookup

/-- **A session is created.** -/
theorem allots_createSessionInner (h : Watching p ids) (hnew : p.IsNew session) (root : String)
    (size : PtySize) (authority : Bool) :
    Allots ids c
      (p.createSessionInner c session root size (DaemonProtocol.freshPty authority) {} true).1
      (p.createSessionInner c session root size (DaemonProtocol.freshPty authority) {} true).2.1 := by
  have hcreated := DaemonProtocol.created_createSessionInner c root size authority hnew
  generalize p.createSessionInner c session root size (DaemonProtocol.freshPty authority) {} true =
    result at hcreated ⊢
  cases hcreated with
  | failed hothers =>
    exact .of_resumed (h.setRuntime_of_isNew hnew hothers)
      ⟨rfl, rfl, rfl, fun _ => rfl, Nat.le_succ _⟩
  | created hothers _ _ hattachments hc =>
    subst hc
    have hlt : c.nextWatchedAttachmentNumber <
        ((c.allocateWatchedAttachmentId session).2.attach session).nextWatchedAttachmentNumber := by
      rw [nextWatchedAttachmentNumber_attach]
      exact Nat.lt_succ_self _
    refine
      { watching := .of_maps ?_ (maps_recordDaemonClientAttach _ _ _)
        clientId := DaemonProtocol.attach_clientId
        number := hlt.le
        own := fun k attachment hlookup => ?_ }
    · refine (h.mono Set.subset_union_left).register hothers fun attachment hmem => ?_
      rw [hattachments, Finset.mem_singleton] at hmem
      exact .inr ⟨hlt, session, hmem⟩
    · obtain ⟨-, rfl⟩ | ⟨-, hold⟩ := Table.lookup_insert_eq_some.mp hlookup
      · exact .inr ⟨hlt, session, rfl⟩
      · rw [watchedAttachmentIds_attach] at hold
        exact .inl hold

theorem union_nextIds_subset (hused : used ⊆ used') (hgrow : ∀ client ∈ used, ∀ current,
      connections'.lookup client = some current → ∃ before, connections.lookup client = some before ∧
        before.nextWatchedAttachmentNumber ≤ current.nextWatchedAttachmentNumber)
    (hclient : c.clientId ∈ used') (hcurrent : ∀ current,
      connections'.lookup c.clientId = some current →
        c'.nextWatchedAttachmentNumber ≤ current.nextWatchedAttachmentNumber) :
    givenIds used connections ∪ nextIds c c' ⊆ givenIds used' connections' := by
  refine Set.union_subset (givenIds_mono hused hgrow) ?_
  rintro attachment ⟨hlt, session, rfl⟩
  exact ⟨c, session, _, rfl, hclient, fun current hlookup =>
    hlt.trans_le (hcurrent current hlookup)⟩

end Ids

/-- The connection that an operation opens. -/
def opens : ClientsOp → Option String
  | .connect client .. => some client
  | _ => none

/-- The ids of the connections are UUIDs: none is used twice, and none has a colon. -/
structure DistinctClients (ops : List ClientsOp) : Prop where
  nodup : (ops.filterMap opens).Nodup
  colon : ∀ client ∈ ops.filterMap opens, ':' ∉ client.toList

/-- **The attachments are numbered**: each has an id that a connection has given out. -/
structure Allocated (w : ClientsRun) (used : List String) : Prop where
  invariant : w.Invariant
  watching : Watching w.daemon (givenIds used w.connections)
  connected : ∀ client c, w.connections.lookup client = some c → client ∈ used
  own : ∀ client c, w.connections.lookup client = some c → ∀ k attachment,
    c.watchedAttachmentIds.lookup k = some attachment → ∃ session n,
      attachment = c.watchedAttachmentId session n ∧ n < c.nextWatchedAttachmentNumber

namespace Allocated

variable {w w' : ClientsRun} {used : List String} {c c' : ProtocolConnection} {client : String}

/-- **The next id of a connection is a new one.** -/
theorem numbered (h : Allocated w used) (hcolon : ∀ client ∈ used, ':' ∉ client.toList)
    (hc : ':' ∉ c.clientId.toList) (hcurrent : w.connections.lookup c.clientId = some c ∨
      c.clientId ∉ used ∧ c.watchedAttachmentIds = ∅) :
    ∃ numbered : Numbered w.daemon, numbered.connection = c := by
  refine ⟨⟨c, fun session internalId n hlookup hle hmem => ?_, fun session n hle hlookup => ?_⟩, rfl⟩
  · obtain rfl := h.watching.internal session internalId hlookup
    have hvisible : w.daemon.Visible internalId := by simp [Visible, hlookup]
    rw [SessionRuntime.watched_of_isOpen (h.invariant.attached.isOpen internalId hvisible)] at hmem
    obtain ⟨c', session', n', heq, hused, hnumber⟩ := h.watching.mem internalId hvisible _ hmem
    obtain ⟨hclient, rfl⟩ := watchedAttachmentId_inj hc (hcolon _ hused) heq
    rw [← hclient] at hused hnumber
    rcases hcurrent with hcurrent | ⟨hunused, -⟩
    · exact absurd (hnumber c hcurrent) (Nat.not_lt.mpr hle)
    · exact hunused hused
  · rcases hcurrent with hcurrent | ⟨-, hempty⟩
    · obtain ⟨session', n', heq, hlt⟩ := h.own _ c hcurrent _ _ hlookup
      obtain ⟨-, rfl⟩ := watchedAttachmentId_inj hc hc heq
      exact absurd hlt (Nat.not_lt.mpr hle)
    · rw [hempty] at hlookup
      cases hlookup

theorem allots (h : Allocated w used) {terminal : V070TerminalOpen} (hadmits : w.Admits terminal)
    (hnumbered : ∃ numbered : Numbered w.daemon, numbered.connection = c) :
    Allots (givenIds used w.connections) c (w.daemon.openV070Terminal c terminal).1
      (w.daemon.openV070Terminal c terminal).2.1 := by
  cases terminal with
  | create session root size authority =>
    exact allots_createSessionInner h.watching hadmits root size authority
  | attach session loaded =>
    obtain ⟨numbered, rfl⟩ := hnumbered
    exact allots_attachTerminalSession h.watching h.invariant.attached.isOpen numbered session loaded

/-- The connection that a terminal was opened on is kept. -/
theorem opened (h : Allocated w used) {daemon : DaemonProtocol} {used' : List String}
    (hallots : Allots (givenIds used w.connections) c daemon c')
    (hinvariant : ClientsRun.Invariant
      { daemon, connections := w.connections.insert c.clientId c' })
    (hused : used ⊆ used') (hclient : c.clientId ∈ used')
    (hbefore : w.connections.lookup c.clientId = some c ∨
      c.clientId ∉ used ∧ c.watchedAttachmentIds = ∅) :
    Allocated { daemon, connections := w.connections.insert c.clientId c' } used' where
  invariant := hinvariant
  watching := by
    refine hallots.watching.mono (union_nextIds_subset hused ?_ hclient fun current hlookup => ?_)
    · intro client hmem current hlookup
      obtain ⟨rfl, rfl⟩ | ⟨-, hold⟩ := Table.lookup_insert_eq_some.mp hlookup
      · obtain hbefore | ⟨hunused, -⟩ := hbefore
        · exact ⟨c, hbefore, hallots.number⟩
        · exact absurd hmem hunused
      · exact ⟨current, hold, le_rfl⟩
    · obtain ⟨-, rfl⟩ | ⟨hne, -⟩ := Table.lookup_insert_eq_some.mp hlookup
      · exact le_rfl
      · exact absurd rfl hne
  connected client current hlookup := by
    obtain ⟨rfl, -⟩ | ⟨-, hold⟩ := Table.lookup_insert_eq_some.mp hlookup
    · exact hclient
    · exact hused (h.connected client current hold)
  own client current hlookup k attachment hown := by
    obtain ⟨rfl, rfl⟩ | ⟨-, hold⟩ := Table.lookup_insert_eq_some.mp hlookup
    · have hid : ∀ session n, current.watchedAttachmentId session n = c.watchedAttachmentId session n :=
        fun session n => congrArg (· ++ ":" ++ session ++ ":" ++ toString n) hallots.clientId
      rcases hallots.own k attachment hown with hown | ⟨hlt, session, rfl⟩
      · obtain hbefore | ⟨-, hempty⟩ := hbefore
        · obtain ⟨session, n, rfl, hlt⟩ := h.own _ c hbefore k attachment hown
          exact ⟨session, n, (hid session n).symm, hlt.trans_le hallots.number⟩
        · rw [hempty] at hown
          cases hown
      · exact ⟨session, _, (hid session _).symm, hlt⟩
    · exact h.own client current hold k attachment hown

theorem step (h : Allocated w used) {op : ClientsOp} (hcolon : ∀ client ∈ used, ':' ∉ client.toList)
    (hopens : ∀ client, opens op = some client → client ∉ used ∧ ':' ∉ client.toList)
    (hstep : w.step op = some w') : Allocated w' (used ++ (opens op).toList) := by
  have hinvariant := h.invariant.step hstep
  have hsub : used ⊆ used ++ (opens op).toList := List.subset_append_left _ _
  -- the connections stay as they are
  have hsame : ∀ daemon, ClientsRun.Invariant { w with daemon } →
      Watching daemon (givenIds (used ++ (opens op).toList) w.connections) →
      Allocated { w with daemon } (used ++ (opens op).toList) := fun daemon hinvariant hwatching =>
    ⟨hinvariant, hwatching, fun client c hlookup => hsub (h.connected client c hlookup), h.own⟩
  have hids : givenIds used w.connections ⊆ givenIds (used ++ (opens op).toList) w.connections :=
    givenIds_mono hsub fun _ _ current hlookup => ⟨current, hlookup, le_rfl⟩
  cases op with
  | recover session root row authority =>
    simp only [ClientsRun.step] at hstep
    split_ifs at hstep with hnew
    obtain rfl := Option.some.inj hstep
    exact hsame _ hinvariant ((h.watching.recover hnew root row authority).mono hids)
  | connect client device terminal =>
    obtain ⟨hunused, hclient⟩ := hopens client rfl
    have hmem : client ∈ used ++ (opens (.connect client device terminal)).toList :=
      List.mem_append_right _ (List.mem_singleton_self _)
    simp only [ClientsRun.step] at hstep
    split_ifs at hstep with hguard
    have hfresh : w.connections.lookup client = some (.authenticatedV070Terminal client device) ∨
        client ∉ used ∧ (ProtocolConnection.authenticatedV070Terminal client
          device).watchedAttachmentIds = ∅ := .inr ⟨hunused, rfl⟩
    have hallots := h.allots hguard.2
      (h.numbered (c := .authenticatedV070Terminal client device) hcolon hclient hfresh)
    split at hstep
    next hopen =>
      rw [hopen] at hallots
      obtain rfl := Option.some.inj hstep
      refine hsame _ hinvariant (hallots.watching.mono (union_nextIds_subset hsub
        (fun _ _ current hlookup => ⟨current, hlookup, le_rfl⟩) hmem fun current hlookup => ?_))
      cases hguard.1.symm.trans hlookup
    next hopen =>
      rw [hopen] at hallots
      obtain rfl := Option.some.inj hstep
      exact h.opened hallots hinvariant hsub hmem hfresh
  | reopen client terminal =>
    simp only [ClientsRun.step] at hstep
    split at hstep
    · cases hstep
    · rename_i c hlookup
      split_ifs at hstep with hadmits
      obtain ⟨rfl, -⟩ := h.invariant.connected client c hlookup
      have hclient := h.connected _ c hlookup
      have hallots := h.allots hadmits (h.numbered hcolon (hcolon _ hclient) (.inl hlookup))
      cases hopen : w.daemon.openV070Terminal c terminal with
      | mk daemon rest =>
        obtain ⟨c', ok⟩ := rest
        rw [hopen] at hallots hstep
        obtain rfl := Option.some.inj hstep
        exact h.opened hallots hinvariant hsub (hsub hclient) (.inl hlookup)
  | http client device session call =>
    simp only [ClientsRun.step] at hstep
    split_ifs at hstep with hclient
    obtain rfl := Option.some.inj hstep
    exact hsame _ hinvariant ((h.watching.http client device session call).mono hids)
  | close client =>
    simp only [ClientsRun.step] at hstep
    split at hstep
    · cases hstep
    · rename_i c hlookup
      obtain rfl := Option.some.inj hstep
      have hleft : ∀ other current, (w.connections.erase client).lookup other = some current →
          w.connections.lookup other = some current := fun other current hother =>
        (Table.lookup_erase_eq_some.mp hother).2
      refine ⟨hinvariant, (h.watching.detachConnection c).mono (givenIds_mono hsub ?_), ?_, ?_⟩
      · exact fun other _ current hother => ⟨current, hleft other current hother, le_rfl⟩
      · exact fun other current hother => hsub (h.connected other current (hleft other current hother))
      · exact fun other current hother => h.own other current (hleft other current hother)

end Allocated

theorem allocated_of_exec {history : ClientHistory} {ops : List ClientsOp} {w : ClientsRun}
    (hids : DistinctClients ops) (hrun : exec ClientsRun.step (ClientsRun.init history) ops = some w) :
    Allocated w (ops.filterMap opens) := by
  induction ops using List.reverseRecOn generalizing w with
  | nil =>
    obtain rfl := Option.some.inj hrun
    exact ⟨ClientsRun.invariant_init history, ⟨by simp [DaemonProtocol.Internal, ClientsRun.init],
      by simp [Visible, ClientsRun.init]⟩, by simp [ClientsRun.init],
      by simp [ClientsRun.init]⟩
  | append_singleton ops op ih =>
    obtain ⟨hnodup, hcolon⟩ := hids
    have hfilter : (ops ++ [op]).filterMap opens = ops.filterMap opens ++ (opens op).toList := by
      rw [List.filterMap_append]
      cases hop : opens op <;> simp [hop]
    rw [hfilter] at hnodup hcolon ⊢
    rw [exec_snoc] at hrun
    obtain ⟨w₀, hbefore, hstep⟩ := Option.bind_eq_some_iff.mp hrun
    obtain ⟨hnodup, -, hdisjoint⟩ := List.nodup_append.mp hnodup
    have hcolon' := (List.forall_mem_append.mp hcolon).1
    refine (ih ⟨hnodup, hcolon'⟩ hbefore).step hcolon' (fun client hclient => ?_) hstep
    have hmem : client ∈ (opens op).toList := by simp [hclient]
    exact ⟨fun hused => hdisjoint client hused client hmem rfl,
      hcolon client (List.mem_append_right _ hmem)⟩

/-- **In every run an open connection gives out new ids.** -/
theorem numbered_of_exec {history : ClientHistory} {ops : List ClientsOp} {w : ClientsRun}
    (hids : DistinctClients ops) (hrun : exec ClientsRun.step (ClientsRun.init history) ops = some w)
    {client : String} {c : ProtocolConnection} (hlookup : w.connections.lookup client = some c) :
    ∃ numbered : Numbered w.daemon, numbered.connection = c := by
  have hallocated := allocated_of_exec hids hrun
  obtain ⟨rfl, -⟩ := hallocated.invariant.connected client c hlookup
  exact hallocated.numbered hids.colon (hids.colon _ (hallocated.connected _ c hlookup))
    (.inl hlookup)

/-- **A terminal is attached, or nothing is changed.** A request that fails leaves the connection,
the attachments in the runtime and the roles as they were, and the records of the devices but for
the sessions that are no longer running. One that succeeds has replaced the attachment of the
connection. -/
theorem attach_terminal_session (p : DaemonProtocol) (c : Numbered p) (session : String)
    (a : AttachAnswers) (p' : DaemonProtocol) (c' : ProtocolConnection) :
    (∀ error, attachTerminalSession p c.connection session a = (p', c', .error error) →
      a.pty.noticesExit = false →
        Unchanged p p' c.connection c' ∧ p'.daemonClients = (a.reconciled p).daemonClients ∧
          ((∀ loaded, a.loaded = some loaded → ∀ k, p.Visible k →
            (loaded.lookup k).any fun row => row.state = .running) →
              p'.daemonClients = p.daemonClients)) ∧
      ∀ response, attachTerminalSession p c.connection session a = (p', c', .ok response) →
        ∃ internalId attachment, Replaced p p' c.connection c' session internalId attachment := by
  have houtcome := outcome_attachTerminalSession c session a
  have hruntime := runtime_reconciled a p
  refine ⟨fun error hfailed hexit => ?_, fun response hattached => ?_⟩
  · rw [hfailed] at houtcome
    have hrestored := houtcome hexit
    refine ⟨hrestored.unchanged.of_runtime hruntime, hrestored.only.daemonClients, fun hrunning => ?_⟩
    rw [hrestored.only.daemonClients, reconciled_eq_self hrunning]
  · rw [hattached] at houtcome
    obtain ⟨-, -, -, internalId, hreplaced⟩ := houtcome
    exact ⟨internalId, _, hreplaced.of_runtime hruntime⟩

/-- A session and two connections that are attached to it. -/
def twoTabs : List ClientsOp :=
  [.connect "t" "d" (.create "a" "/" ⟨2, 4, 0, 0⟩ true),
    .connect "u" "e" (.attach "a" ((∅ : Table String RuntimeRow).insert "a"
      ⟨.running, ⟨2, 4, 0, 0⟩, none⟩))]

theorem distinctClients_twoTabs : DistinctClients twoTabs :=
  ⟨by decide, by decide⟩

/-- The answers to a request of a connection of `twoTabs`. -/
def runningRow : AttachAnswers where
  loaded := some ((∅ : Table String RuntimeRow).insert "a" ⟨.running, ⟨2, 4, 0, 0⟩, none⟩)

/-- A tab attaches its session again: first the answer cannot be made, then it is. -/
theorem attach_terminal_session_twoTabs :
    ∃ w c, exec ClientsRun.step (ClientsRun.init ∅) twoTabs = some w ∧
      w.connections.lookup "u" = some c ∧
      w.daemon.maps.runtime.watched "a" = {"t:a:1", "u:a:1"} ∧
      (∃ p' c' error, attachTerminalSession w.daemon c "a" { runningRow with responseBuilt := false } =
        (p', c', .error error) ∧ Unchanged w.daemon p' c c') ∧
      ∃ p' c' response, attachTerminalSession w.daemon c "a" runningRow = (p', c', .ok response) ∧
        ∃ internalId attachment, Replaced w.daemon p' c c' "a" internalId attachment := by
  have hrun : ((exec ClientsRun.step (ClientsRun.init ∅) twoTabs).any fun w =>
      (w.connections.lookup "u").any fun c =>
        w.daemon.maps.runtime.watched "a" = {"t:a:1", "u:a:1"} &&
          !(attachTerminalSession w.daemon c "a"
            { runningRow with responseBuilt := false }).2.2.toBool &&
            (attachTerminalSession w.daemon c "a" runningRow).2.2.toBool) = true := by
    decide +kernel
  obtain ⟨w, hw, hlookup⟩ := (Option.any_eq_true ..).mp hrun
  obtain ⟨c, hc, hresults⟩ := (Option.any_eq_true ..).mp hlookup
  simp only [Bool.and_eq_true, decide_eq_true_eq, Bool.not_eq_true'] at hresults
  obtain ⟨⟨hwatched, hfails⟩, hsucceeds⟩ := hresults
  obtain ⟨numbered, rfl⟩ := numbered_of_exec distinctClients_twoTabs hw hc
  refine ⟨w, _, hw, hc, hwatched, ?_, ?_⟩
  · rcases hresult : attachTerminalSession w.daemon numbered.connection "a"
      { runningRow with responseBuilt := false } with ⟨p', c', error | response⟩
    · exact ⟨p', c', error, rfl, ((attach_terminal_session w.daemon numbered "a" _ p' c').1 error
        hresult rfl).1⟩
    · rw [hresult] at hfails
      cases hfails
  · rcases hresult : attachTerminalSession w.daemon numbered.connection "a" runningRow with
      ⟨p', c', error | response⟩
    · rw [hresult] at hsucceeds
      cases hsucceeds
    · exact ⟨p', c', response, rfl,
        (attach_terminal_session w.daemon numbered "a" _ p' c').2 response hresult⟩

/-- A daemon that has a session of which there is no row any more. -/
def staleProtocol : DaemonProtocol where
  maps := { sessionIndex := (∅ : Table String String).insert "a" "a" }
  daemonClients := (∅ : Table String DaemonClientRecord).insert "d"
    { activeConnections := (∅ : Table String (Finset String)).insert "t" {"a"} }

def staleConnection : Numbered staleProtocol where
  connection := .authenticatedV070Terminal "u" "e"
  runtime_fresh _ _ _ _ _ := Finset.notMem_empty _
  own_fresh _ _ _ := Option.some_ne_none _ |>.symm

/-- **A request that fails drops the session** from the records of the devices, and its attachments
when the child is found to have exited. -/
theorem attach_drops_sessions :
    (¬∀ (p : DaemonProtocol) (c : Numbered p) (session : String) (a : AttachAnswers)
      (p' : DaemonProtocol) (c' : ProtocolConnection) (error : AttachError),
      attachTerminalSession p c.connection session a = (p', c', .error error) →
        a.pty.noticesExit = false → p'.daemonClients = p.daemonClients) ∧
    ¬∀ (p : DaemonProtocol) (c : Numbered p) (session : String) (a : AttachAnswers)
      (p' : DaemonProtocol) (c' : ProtocolConnection) (error : AttachError),
      attachTerminalSession p c.connection session a = (p', c', .error error) →
        Unchanged p p' c.connection c' := by
  constructor
  · intro h
    have hclients := h staleProtocol staleConnection "a" { loaded := some ∅ }
      (staleProtocol.reconcilePersistedClosedSessions ∅) staleConnection.connection .sessionNotFound
      rfl rfl
    have hactive := congrArg (fun clients : Table String DaemonClientRecord =>
      (clients.lookup "d").bind fun record => record.activeConnections.lookup "t") hclients
    exact absurd hactive (by decide)
  · intro h
    have hrun : ((exec ClientsRun.step (ClientsRun.init ∅) twoTabs).any fun w =>
        (w.connections.lookup "u").any fun c =>
          let result := attachTerminalSession w.daemon c "a"
            { runningRow with authorityAttachDevice := false, tryWait := some true }
          result.1.maps.runtime.watched "a" ≠ w.daemon.maps.runtime.watched "a" &&
            !result.2.2.toBool) = true := by
      decide +kernel
    obtain ⟨w, hw, hlookup⟩ := (Option.any_eq_true ..).mp hrun
    obtain ⟨c, hc, hresult⟩ := (Option.any_eq_true ..).mp hlookup
    obtain ⟨numbered, rfl⟩ := numbered_of_exec distinctClients_twoTabs hw hc
    rcases heq : attachTerminalSession w.daemon numbered.connection "a"
      { runningRow with authorityAttachDevice := false, tryWait := some true } with
      ⟨p', c', error | response⟩
    · rw [heq] at hresult
      simp only [Bool.and_eq_true, decide_eq_true_eq] at hresult
      exact hresult.1 ((h w.daemon numbered "a" _ p' c' error heq).watched "a")
    · rw [heq] at hresult
      simp [Except.toBool] at hresult

end TerminalAttach

end Termd.Daemon
