import Termd.Daemon.Clients

/-!
# Connection scopes

A connection that is attached to a session has to be closed by the function that attached it: nothing
else takes its device, its attachments and its record away. The function that serves a terminal over a
relay closes it at its end only. It also returns wherever an error is passed on, and its task may be
aborted wherever it waits, and in both cases nobody closes the connection. The function that serves a
terminal over a websocket closes it on every way out, and the handlers of requests hold the lock from
the attachment to the end; of these one returns before its end when an empty file cannot be written.

A step below is one answer that such a function waits for, together with what it does until it waits
again; in between others have the lock, and the daemon may be in any state then.

## Main definitions

* `Task`: a function that serves a connection, and the states in which it closed the connection
* `Task.step`: how it goes on
* `Task.Released`: the connection was closed, once, and nothing is left of it
* `Task.Careful`: no step is one of those at which the connection is forgotten

## Main results

* `Task.released_of_careful`: a connection is released in the runs that avoid these steps
* `Task.not_released_of_disconnect`: the connection of a terminal over a relay is forgotten when the
  client goes away
-/

namespace Termd.Daemon

open Pty (PtySize)

/-- The handlers that restore a scope, and close it. -/
inductive HttpHandler
  | v070FileUploadCreate
  | v070FileUploadChunk
  | v070FileUploadCommit
  | v070FileUploadAbort
  | v070FileDownloadCreate
  | v070JsonControl
deriving DecidableEq

/-- The functions that serve a connection. -/
inductive Handler
  | runRelayV070Terminal
  | runTerminalWebsocket
  | http (handler : HttpHandler)
deriving DecidableEq

/-- A frame of a client, as far as the daemon reads it. -/
inductive TerminalClientFrame
  | resize (size : PtySize)
  | other
deriving DecidableEq

/-- What comes in on the socket of a terminal. A binary frame may not decode. -/
inductive Inbound
  | binary (frame : Option TerminalClientFrame)
  | ping
  | close
  | failed
  | ended
  | text
  | other

/-- What a function waits for. -/
inductive Await
  /-- `terminal.created` or `terminal.attached` is sent. -/
  | opened
  /-- `terminal.snapshot` is sent. -/
  | snapshot
  /-- The lock, before the frames are drained -/
  | drain
  /-- The frames are sent. -/
  | frames (frames : List (List UInt8))
  | select
  /-- The lock, before a frame is written -/
  | write (frame : Option TerminalClientFrame)
  | pong
  /-- A text message is refused. -/
  | refuse
  /-- The lock, before the connection is closed -/
  | close
  /-- A handler has restored its scope, and has the lock. -/
  | respond
deriving DecidableEq

inductive TaskPhase
  | waiting (await : Await)
  | returned
  | aborted
deriving DecidableEq

namespace DaemonProtocol

variable (p : DaemonProtocol)

/-- `drain_v070_terminal_frames`, with the frames that the attachment gives. -/
def drainV070TerminalFrames (c : ProtocolConnection) (session : String)
    (read : Option (List (List UInt8))) : Option (List (List UInt8)) := do
  let attachment ← c.watchedAttachmentIds.lookup session
  let internalId ← p.maps.sessionIndex.lookup session
  if session ∈ c.attachedSessions ∧ attachment ∈ (p.maps.runtime.slot internalId).attachments then read
  else none

/-- `write_v070_terminal_frame`, and whether it succeeds. A resize is recorded after the frame was
written, and the record may fail. -/
def writeV070TerminalFrame (c : ProtocolConnection) (session : String)
    (frame : Option TerminalClientFrame) (written recorded : Bool) : DaemonProtocol × Bool :=
  match frame, c.watchedAttachmentIds.lookup session, p.maps.sessionIndex.lookup session with
  | some frame, some attachment, some internalId =>
    if session ∈ c.attachedSessions ∧ attachment ∈ (p.maps.runtime.slot internalId).attachments ∧
        written then
      match frame with
      | .other => (p, true)
      | .resize size =>
        match p.maps.runtime.recordWatchedAttachmentResize internalId size with
        | (runtime, .error _) => (p.setRuntime runtime, false)
        | (runtime, .ok ()) => (p.setRuntime runtime, recorded)
    else (p, false)
  | _, _, _ => (p, false)

end DaemonProtocol

/-- A function that serves a connection. -/
structure Task where
  handler : Handler
  protocol : DaemonProtocol
  connection : ProtocolConnection
  session : String
  phase : TaskPhase
  /-- The daemon after each `detach_connection` -/
  releases : List DaemonProtocol := []

inductive TaskOp
  /-- Others have the lock. -/
  | others (protocol : {p : DaemonProtocol // p.Internal})
  /-- A message is sent, or cannot be sent. -/
  | sent (ok : Bool)
  | drained (read : Option (List (List UInt8)))
  | inbound (message : Inbound)
  | tick
  | writerFailed
  | written (written recorded : Bool)
  | closed (answers : PtyAnswers) (persisted : Bool)
  /-- A handler does its work, and closes the connection. Only a request of the control API changes
  what is kept here, and only an upload of an empty file is written when it is committed. -/
  | respond (call : HttpCall) (sizeBytes : ℕ) (written : Bool) (answers : PtyAnswers) (persisted : Bool)
  /-- The control loop aborts the task. -/
  | abort

namespace Task

variable (t : Task)

def wait (await : Await) : Task := { t with phase := .waiting await }

/-- The task after the connection was attached. -/
def start (handler : Handler) (protocol : {p : DaemonProtocol // p.Internal})
    (connection : ProtocolConnection) (session : String) : Task where
  handler := handler
  protocol := protocol
  connection := connection
  session := session
  phase := .waiting (match handler with
    | .http _ => .respond
    | _ => .opened)

/-- What happens on an error: over a relay it is passed on at once. -/
def fail : Task :=
  match t.handler with
  | .runRelayV070Terminal => { t with phase := .returned }
  | _ => t.wait .close

/-- `close`, at the end of a function -/
def close (answers : PtyAnswers) (persisted : Bool) : Task :=
  let protocol := t.protocol.detachConnection t.connection answers persisted
  { t with protocol, releases := protocol :: t.releases, phase := .returned }

/-- The frames are sent one after the other. -/
def sendFrames : List (List UInt8) → Task
  | [] => t.wait .select
  | frames => t.wait (.frames frames)

/-- What the loop does with a message. -/
def receive : Inbound → Task
  | .binary frame => t.wait (.write frame)
  | .ping => t.wait .pong
  | .close | .failed | .ended => t.wait .close
  | .text =>
    match t.handler with
    | .runRelayV070Terminal => t.wait .close
    | _ => t.wait .refuse
  | .other => t

/-- One answer. -/
def step (t : Task) : TaskOp → Option Task
  | .others protocol =>
    match t.phase with
    | .waiting .respond => none
    | .waiting _ => some { t with protocol := protocol }
    | _ => none
  | .sent ok =>
    match t.phase with
    | .waiting .opened => some (if ok then t.wait .snapshot else t.fail)
    | .waiting .snapshot => some (if ok then t.wait .drain else t.fail)
    | .waiting (.frames frames) => some (if ok then t.sendFrames frames.tail else t.fail)
    | .waiting .pong => some (if ok then t.wait .select else t.fail)
    | .waiting .refuse => some (t.wait .select)
    | _ => none
  | .drained read =>
    match t.phase with
    | .waiting .drain =>
      match t.protocol.drainV070TerminalFrames t.connection t.session read with
      | some frames => some (t.sendFrames frames)
      | none => some t.fail
    | _ => none
  | .inbound message =>
    match t.phase with
    | .waiting .select => some (t.receive message)
    | _ => none
  | .tick =>
    match t.phase with
    | .waiting .select => some (t.wait .drain)
    | _ => none
  | .writerFailed =>
    match t.handler, t.phase with
    | .runRelayV070Terminal, .waiting .select => some (t.wait .close)
    | _, _ => none
  | .written written recorded =>
    match t.phase with
    | .waiting (.write frame) =>
      match t.protocol.writeV070TerminalFrame t.connection t.session frame written recorded with
      | (protocol, true) => some ({ t with protocol }.wait .select)
      | (protocol, false) => some { t with protocol }.fail
    | _ => none
  | .closed answers persisted =>
    match t.phase with
    | .waiting .close => some (t.close answers persisted)
    | _ => none
  | .respond call sizeBytes written answers persisted =>
    match t.handler, t.phase with
    | .http handler, .waiting .respond =>
      if handler = .v070FileUploadCommit ∧ sizeBytes = 0 ∧ !written then
        some { t with phase := .returned }
      else if handler = .v070JsonControl then
        some ({ t with
          protocol := t.protocol.dispatchV070HttpControl t.connection call }.close answers persisted)
      else some (t.close answers persisted)
    | _, _ => none
  | .abort =>
    match t.handler, t.phase with
    | .runRelayV070Terminal, .waiting _ => some { t with phase := .aborted }
    | _, _ => none

end Task

/-! ### A connection that was closed -/

namespace DaemonProtocol

variable {p : DaemonProtocol} {c : ProtocolConnection} {answers : PtyAnswers} {persisted : Bool}

/-- **Nothing is left of a connection**: its attachments are dropped, it is in no record, and its device
is attached only to sessions that another connection of the device holds. -/
structure Gone (p : DaemonProtocol) (c : ProtocolConnection) : Prop where
  attachments : ∀ session attachment, c.watchedAttachmentIds.lookup session = some attachment →
    attachment ∉ (p.maps.runtime.slot session).attachments
  record : c.trackDaemonClientHistory → p.activeSessions c.deviceId c.clientId = none
  devices : ∀ session ∈ c.attachedSessions,
    c.deviceId ∈ (p.maps.runtime.slot session).devices → ∃ client ≠ c.clientId, ∃ sessions,
      p.activeSessions c.deviceId client = some sessions ∧ session ∈ sessions

/-- The sessions of a connection that are open are still visible, and their PTY answers. -/
def Closable (p : DaemonProtocol) (c : ProtocolConnection) (answers : PtyAnswers) : Prop :=
  answers.authorityHasDevice ∧ answers.authorityDetachDevice ∧
    ∀ session ∈ c.attachedSessions ++ c.watchedAttachmentIds.keys,
      (p.maps.runtime.slot session).IsOpen → p.Visible session

instance : Decidable (p.Closable c answers) := by
  unfold Closable
  infer_instance

theorem Internal.detachConnection (hinternal : p.Internal) (hclosable : p.Closable c answers) :
    (p.detachConnection c answers persisted).Internal := by
  obtain ⟨honly, -⟩ := detachConnection_spec c _ persisted hinternal hclosable.1
    hclosable.2.1
  refine honly.internal ?_
  split_ifs
  · rw [Internal, maps_markDaemonClientConnectionOffline]
    exact hinternal
  · exact hinternal

/-- **Nothing is left of a connection that is closed.** -/
theorem gone_detachConnection (hinternal : p.Internal) (hclosable : p.Closable c answers) :
    (p.detachConnection c answers persisted).Gone c := by
  obtain ⟨honly, heffect⟩ := detachConnection_spec c _ persisted hinternal
    hclosable.1 hclosable.2.1
  have hvisible := hclosable.2.2
  have hactive : ∀ client, (p.detachConnection c answers persisted).activeSessions c.deviceId client =
      if c.trackDaemonClientHistory ∧ client = c.clientId then none
      else p.activeSessions c.deviceId client := by
    intro client
    rw [activeSessions, honly.daemonClients, ← activeSessions]
    by_cases htracked : c.trackDaemonClientHistory
    · rw [if_pos htracked, activeSessions_markOffline]
      simp only [htracked, true_and]
    · rw [if_neg htracked, if_neg fun hboth => htracked hboth.1]
  refine ⟨fun session attachment hlookup hmem => ?_, fun htracked => ?_,
    fun session hsession hmem => ?_⟩
  · rw [heffect.attachments, Finset.mem_filter] at hmem
    obtain ⟨hmem, hother | hinvisible⟩ := hmem
    · exact hother hlookup
    · have hkey : session ∈ c.watchedAttachmentIds.keys := by
        rw [← AList.mem_keys, ← AList.lookup_isSome, hlookup]
        rfl
      exact hinvisible (hvisible session (List.mem_append_right _ hkey)
        (Slot.isOpen_of_mem_attachments hmem))
  · rw [hactive, if_pos ⟨htracked, rfl⟩]
  · rw [heffect.devices, Finset.mem_filter] at hmem
    obtain ⟨hmem, hstays⟩ := hmem
    have hsees := hvisible session (List.mem_append_left _ hsession) (Slot.isOpen_of_mem_devices hmem)
    have hother : p.daemonClientHasActiveSession c.deviceId session c.clientId := by
      by_contra hnone
      exact hstays ⟨rfl, hsession, by simpa using hnone, hsees⟩
    obtain ⟨client, hne, sessions, hsessions, hmem⟩ := daemonClientHasActiveSession_iff.mp hother
    refine ⟨client, hne, sessions, ?_, hmem⟩
    rw [hactive, if_neg fun hboth => hne hboth.2]
    exact hsessions

/-- A request changes nothing that its connection needs to be closed. -/
theorem closable_dispatch (call : HttpCall) (hinternal : p.Internal)
    (hclosable : p.Closable c answers) :
    (p.dispatchV070HttpControl c call).Internal ∧
      (p.dispatchV070HttpControl c call).Closable c answers := by
  cases call with
  | other => exact ⟨hinternal, hclosable⟩
  | forgetDaemonClient device =>
    have hmaps : (p.dispatchV070HttpControl c (.forgetDaemonClient device)).maps = p.maps := by
      rw [dispatchV070HttpControl, forgetDaemonClient]
      split_ifs <;> rfl
    rw [Internal, Closable]
    simp only [Visible, hmaps]
    exact ⟨hinternal, hclosable⟩
  | closeSession session =>
    rw [dispatchV070HttpControl, closeSession.eq_def]
    split_ifs
    · cases p.maps.sessionIndex.lookup session with
      | none => exact ⟨hinternal, hclosable⟩
      | some internalId =>
        refine ⟨fun k id hlookup => ?_, hclosable.1, hclosable.2.1, fun k hk hopen => ?_⟩
        · rw [closeVisibleSessionState, SessionMaps.lookup_closeVisible] at hlookup
          split_ifs at hlookup
          exact hinternal k id hlookup
        · change ((p.maps.runtime.takeForCleanup session).1.slot k).IsOpen at hopen
          rw [SessionRuntime.slot_takeForCleanup] at hopen
          split_ifs at hopen with hsession
          · exact absurd hopen (SessionRuntime.Slot.not_isOpen_removed _)
          · exact visible_closeVisibleSessionState.mpr ⟨hclosable.2.2 k hk hopen, hsession⟩
    · exact ⟨hinternal, hclosable⟩

theorem internal_writeV070TerminalFrame (session : String) (frame : Option TerminalClientFrame)
    (written recorded : Bool) (hinternal : p.Internal) :
    (p.writeV070TerminalFrame c session frame written recorded).1.Internal := by
  rw [writeV070TerminalFrame.eq_def]
  split
  · split_ifs
    · split
      · exact hinternal
      · split <;> exact hinternal
    · exact hinternal
  · exact hinternal

end DaemonProtocol

/-! ### Runs -/

namespace Task

variable {t t' : Task} {op : TaskOp} {c : ProtocolConnection}

/-- **No step is one at which the connection is forgotten.** Over a relay nothing fails but what ends the
loop, and the task is not aborted; an empty file can be written when it is committed; and the sessions
of a connection that is closed are still visible. -/
def Careful (t : Task) : TaskOp → Prop
  | .sent ok => t.handler = .runRelayV070Terminal → ok
  | .drained read => t.handler = .runRelayV070Terminal →
    (t.protocol.drainV070TerminalFrames t.connection t.session read).isSome
  | .written written recorded => t.handler = .runRelayV070Terminal →
    match t.phase with
    | .waiting (.write frame) =>
      (t.protocol.writeV070TerminalFrame t.connection t.session frame written recorded).2
    | _ => True
  | .closed answers _ => t.protocol.Closable t.connection answers
  | .respond _ sizeBytes written answers _ =>
    ¬(t.handler = .http .v070FileUploadCommit ∧ sizeBytes = 0 ∧ !written) ∧
      t.protocol.Closable t.connection answers
  | .abort => False
  | _ => True

instance (t : Task) (op : TaskOp) : Decidable (t.Careful op) := by
  unfold Careful
  split
  · infer_instance
  · infer_instance
  · split <;> infer_instance
  all_goals infer_instance

/-- The function has returned, or its task is gone. -/
def Finished (t : Task) : Prop := t.phase = .returned ∨ t.phase = .aborted

/-- **The connection is released**: it was closed, once, and nothing was left of it. -/
def Released (t : Task) (c : ProtocolConnection) : Prop := ∃ p : DaemonProtocol, t.releases = [p] ∧ p.Gone c

/-- **The invariant.** -/
structure Invariant (c : ProtocolConnection) (t : Task) : Prop where
  connection : t.connection = c
  internal : t.protocol.Internal
  released : (∃ await, t.phase = .waiting await) ∧ t.releases = [] ∨
    t.phase = .returned ∧ t.Released c

/-- The function goes on. -/
theorem Invariant.wait (hconnection : t.connection = c) (hinternal : t.protocol.Internal)
    (hreleases : t.releases = []) (await : Await) : (t.wait await).Invariant c :=
  ⟨hconnection, hinternal, .inl ⟨⟨await, rfl⟩, hreleases⟩⟩

theorem Invariant.close {answers : PtyAnswers} {persisted : Bool} (hconnection : t.connection = c)
    (hinternal : t.protocol.Internal) (hreleases : t.releases = [])
    (hclosable : t.protocol.Closable c answers) : (t.close answers persisted).Invariant c := by
  obtain rfl := hconnection
  refine ⟨rfl, hinternal.detachConnection hclosable,
    .inr ⟨rfl, t.protocol.detachConnection t.connection answers persisted, ?_, ?_⟩⟩
  · rw [Task.close, hreleases]
  · exact DaemonProtocol.gone_detachConnection hinternal hclosable

theorem Invariant.sendFrames (hconnection : t.connection = c) (hinternal : t.protocol.Internal)
    (hreleases : t.releases = []) (frames : List (List UInt8)) : (t.sendFrames frames).Invariant c := by
  cases frames with
  | nil => exact .wait hconnection hinternal hreleases _
  | cons => exact .wait hconnection hinternal hreleases _

/-- An error, where the function closes the connection. -/
theorem Invariant.fail (hconnection : t.connection = c) (hinternal : t.protocol.Internal)
    (hreleases : t.releases = []) (hhandler : t.handler ≠ .runRelayV070Terminal) :
    t.fail.Invariant c := by
  rw [Task.fail]
  split
  · contradiction
  · exact .wait hconnection hinternal hreleases _

/-- The function waits, and has not closed the connection. -/
theorem Invariant.releases {await : Await} (h : t.Invariant c) (hphase : t.phase = .waiting await) :
    t.releases = [] := by
  obtain ⟨-, hreleases⟩ | ⟨hreturned, -⟩ := h.released
  · exact hreleases
  · cases hphase.symm.trans hreturned

theorem Invariant.sent {ok : Bool} (h : t.Invariant c)
    (hok : t.handler = .runRelayV070Terminal → ok) (hstep : t.step (.sent ok) = some t') :
    t'.Invariant c := by
  -- over a relay a message that cannot be sent is passed on, and elsewhere it ends the loop
  have hnext : ∀ next : Task, t.releases = [] → next.Invariant c →
      (if ok then next else t.fail).Invariant c := by
    intro next hreleases hnext
    split_ifs with hsent
    · exact hnext
    · exact .fail h.connection h.internal hreleases fun hrelay => hsent (hok hrelay)
  simp only [Task.step] at hstep
  split at hstep
  case h_6 => cases hstep
  all_goals
    rename_i hphase
    have hreleases := h.releases hphase
    obtain rfl := Option.some.inj hstep
  · exact hnext _ hreleases (.wait h.connection h.internal hreleases _)
  · exact hnext _ hreleases (.wait h.connection h.internal hreleases _)
  · exact hnext _ hreleases (.sendFrames h.connection h.internal hreleases _)
  · exact hnext _ hreleases (.wait h.connection h.internal hreleases _)
  · exact .wait h.connection h.internal hreleases _

theorem Invariant.inbound {message : Inbound} (h : t.Invariant c)
    (hstep : t.step (.inbound message) = some t') : t'.Invariant c := by
  simp only [Task.step] at hstep
  split at hstep
  · rename_i hphase
    have hreleases := h.releases hphase
    obtain rfl := Option.some.inj hstep
    cases message with
    | other => exact h
    | text =>
      rw [Task.receive]
      split <;> exact .wait h.connection h.internal hreleases _
    | binary | ping | close | failed | ended => exact .wait h.connection h.internal hreleases _
  · cases hstep

theorem Invariant.step (h : t.Invariant c) (hop : t.Careful op) (hstep : t.step op = some t') :
    t'.Invariant c := by
  cases op with
  | sent ok => exact h.sent hop hstep
  | inbound message => exact h.inbound hstep
  | others protocol =>
    simp only [Task.step] at hstep
    split at hstep
    · cases hstep
    · rename_i hphase
      obtain rfl := Option.some.inj hstep
      exact ⟨h.connection, protocol.2, .inl ⟨⟨_, hphase⟩, h.releases hphase⟩⟩
    · cases hstep
  | drained read =>
    simp only [Task.step] at hstep
    split at hstep
    · rename_i hphase
      have hreleases := h.releases hphase
      split at hstep
      · obtain rfl := Option.some.inj hstep
        exact .sendFrames h.connection h.internal hreleases _
      · rename_i hdrain
        obtain rfl := Option.some.inj hstep
        refine .fail h.connection h.internal hreleases fun hrelay => ?_
        have hsome := hop hrelay
        simp [hdrain] at hsome
    · cases hstep
  | tick =>
    simp only [Task.step] at hstep
    split at hstep
    · rename_i hphase
      obtain rfl := Option.some.inj hstep
      exact .wait h.connection h.internal (h.releases hphase) _
    · cases hstep
  | writerFailed =>
    simp only [Task.step] at hstep
    split at hstep
    · rename_i hphase
      obtain rfl := Option.some.inj hstep
      exact .wait h.connection h.internal (h.releases hphase) _
    · cases hstep
  | written written recorded =>
    simp only [Task.step] at hstep
    split at hstep
    · rename_i frame hphase
      have hreleases := h.releases hphase
      have hinternal :=
        DaemonProtocol.internal_writeV070TerminalFrame t.session frame written recorded
          (c := t.connection) h.internal
      split at hstep
      · rename_i protocol hwrite
        rw [hwrite] at hinternal
        obtain rfl := Option.some.inj hstep
        exact Invariant.wait (t := { t with protocol }) h.connection hinternal hreleases _
      · rename_i protocol hwrite
        rw [hwrite] at hinternal
        obtain rfl := Option.some.inj hstep
        refine Invariant.fail (t := { t with protocol }) h.connection hinternal hreleases
          fun hrelay => ?_
        have hok := hop hrelay
        simp [hphase, hwrite] at hok
    · cases hstep
  | closed answers persisted =>
    simp only [Task.step] at hstep
    split at hstep
    · rename_i hphase
      obtain rfl := Option.some.inj hstep
      refine .close h.connection h.internal (h.releases hphase) ?_
      rw [← h.connection]
      exact hop
    · cases hstep
  | respond call sizeBytes written answers persisted =>
    obtain ⟨hwritten, hclosable⟩ := hop
    rw [h.connection] at hclosable
    simp only [Task.step] at hstep
    split at hstep
    · rename_i handler hhandler hphase
      have hreleases := h.releases hphase
      split_ifs at hstep with hcommit hjson
      · exact absurd ⟨hhandler.trans (congrArg Handler.http hcommit.1), hcommit.2⟩ hwritten
      · obtain rfl := Option.some.inj hstep
        obtain ⟨hinternal, hclosable⟩ := DaemonProtocol.closable_dispatch call h.internal
          hclosable
        refine .close h.connection ?_ hreleases ?_
        · rw [h.connection]
          exact hinternal
        · rw [h.connection]
          exact hclosable
      · obtain rfl := Option.some.inj hstep
        exact .close h.connection h.internal hreleases hclosable
    · cases hstep
  | abort => exact hop.elim

/-- **A connection is released** in the runs that avoid these steps: when the function has returned, the
connection was closed once, and nothing was left of it. -/
theorem released_of_careful (handler : Handler) (protocol : {p : DaemonProtocol // p.Internal})
    (connection : ProtocolConnection) (session : String) (ops : List TaskOp) (t : Task)
    (hcareful : Along step Careful (start handler protocol connection session) ops)
    (hrun : exec step (start handler protocol connection session) ops = some t)
    (hfinished : t.Finished) : t.Released connection := by
  have hinit : (start handler protocol connection session).Invariant connection :=
    ⟨rfl, protocol.2, .inl ⟨⟨_, rfl⟩, rfl⟩⟩
  have hinvariant : t.Invariant connection :=
    exec_induction_along (fun _ _ _ h hop hstep => h.step hop hstep) hinit hcareful hrun
  obtain ⟨⟨await, hphase⟩, -⟩ | ⟨-, hreleased⟩ := hinvariant.released
  · rw [Finished, hphase] at hfinished
    simp at hfinished
  · exact hreleased

/-- A terminal that was opened on a new session. -/
def openedTerminal : DaemonProtocol × ProtocolConnection × Bool :=
  DaemonProtocol.openV070Terminal {} (.authenticatedV070Terminal "t" "d")
    (.create "a" "/" ⟨2, 4, 0, 0⟩ true)

theorem internal_openedTerminal : openedTerminal.1.Internal := by
  intro session internalId hlookup
  have hindex : openedTerminal.1.maps.sessionIndex = (∅ : Table String String).insert "a" "a" := by
    refine AList.ext ?_
    decide +kernel
  rw [hindex] at hlookup
  obtain ⟨rfl, rfl⟩ | ⟨-, hnone⟩ := Table.lookup_insert_eq_some.mp hlookup
  · rfl
  · cases hnone

/-- The terminal is served until the client closes its socket. -/
theorem released_of_close : ∃ t,
    exec step (start .runRelayV070Terminal ⟨openedTerminal.1, internal_openedTerminal⟩
      openedTerminal.2.1 "a")
      [.sent true, .sent true, .drained (some [[1]]), .sent true, .inbound .close, .closed {} true] =
        some t ∧ t.Released openedTerminal.2.1 := by
  let ops : List TaskOp :=
    [.sent true, .sent true, .drained (some [[1]]), .sent true, .inbound .close, .closed {} true]
  let t₀ := start .runRelayV070Terminal ⟨openedTerminal.1, internal_openedTerminal⟩
    openedTerminal.2.1 "a"
  have hrun : (decide (Along step Careful t₀ ops) &&
      (exec step t₀ ops).any fun t => t.phase = .returned) = true := by
    decide +kernel
  rw [Bool.and_eq_true, decide_eq_true_eq] at hrun
  obtain ⟨halong, hrun⟩ := hrun
  obtain ⟨t, ht, hphase⟩ := (Option.any_eq_true ..).mp hrun
  exact ⟨t, ht, released_of_careful _ _ _ _ ops t halong ht (.inl (of_decide_eq_true hphase))⟩

/-- The client goes away while its terminal is served over a relay: the control loop aborts the task, and
the device stays attached. -/
theorem not_released_of_disconnect :
    ¬∀ (handler : Handler) (protocol : {p : DaemonProtocol // p.Internal})
      (connection : ProtocolConnection) (session : String) (ops : List TaskOp) (t : Task),
      exec step (start handler protocol connection session) ops = some t → t.Finished →
        t.Released connection := by
  intro h
  let ops : List TaskOp := [.sent true, .sent true, .drained (some []), .abort]
  let t₀ := start .runRelayV070Terminal ⟨openedTerminal.1, internal_openedTerminal⟩
    openedTerminal.2.1 "a"
  have hrun : ((exec step t₀ ops).any fun t => t.phase = .aborted && t.releases.isEmpty) = true := by
    decide +kernel
  obtain ⟨t, ht, hend⟩ := (Option.any_eq_true ..).mp hrun
  rw [Bool.and_eq_true, decide_eq_true_eq, List.isEmpty_iff] at hend
  obtain ⟨hphase, hreleases⟩ := hend
  obtain ⟨p, hp, -⟩ := h _ _ _ _ ops t ht (.inr hphase)
  cases hreleases.symm.trans hp

end Task

end Termd.Daemon
