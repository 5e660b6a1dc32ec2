import Mathlib.Data.List.Destutter
import Mathlib.Data.List.Sort
import Termd.Pty.Attach
import Termd.Pty.Mirror

/-!
# Resuming the connection to the supervisor

When a request fails, the daemon opens another connection and resumes its lease on it: it asks for a
snapshot, checks the connection, commits, starts a reader thread and feeds its mirror with the
snapshot and with what the reader has buffered meanwhile. The supervisor sends events to a
connection only after its commit. Readers of earlier connections may still run.

## Main definitions

* `IpcConnection`: both ends of one connection, and the reader thread on it
* `IpcResume`: the supervisor, the connections, the resuming thread and the mirror
* `Seen`: a mirror that has every event up to its current one
* `InStep`: such a mirror, and what it has accepted

## Main results

* `Seen.next`, `Seen.snapshot`: what keeps a mirror complete
* `InStep.applyAndEnqueue`: one frame that fits
-/

namespace Termd.Pty

open Screen

/-! ### Connections -/

/-- What the resuming thread asks for, in this order. -/
inductive ResumeRequest
  | attachSync
  | ping
  | snapshot
  | commitControllerResume
deriving DecidableEq

/-- The answers. Each is read before the next request is sent, so that the request ids agree. -/
inductive ResumeResponse
  | attachSync (sync : SupervisorAttachSyncPayload)
  | empty
  | snapshot (snapshot : SupervisorSnapshotPayload)
  | controllerResumeStatus (controller : ControllerIdentity)
  | err (message : String)

inductive SupervisorFrame
  | response (response : ResumeResponse)
  | terminalFrame (frame : PtyTerminalFrame)

structure IpcConnection where
  /-- A request that the supervisor has not handled yet. -/
  request : Option ResumeRequest := none
  controllerIdentity : Option ControllerIdentity := none
  pendingResumeIdentity : Option ControllerIdentity := none
  committedResumeTransactionId : Option ℕ := none
  /-- What the last `AttachSync` on this connection has covered. -/
  baseSeq : ℕ := 0
  rx : BoundedOutput PtyTerminalFrame := {}
  /-- The queues of the writer task. -/
  control : List ResumeResponse := []
  data : List PtyTerminalFrame := []
  closed : Bool := false
  /-- What was written and not read. -/
  socket : List SupervisorFrame := []
  /-- The reader thread of the daemon runs. -/
  reading : Bool := false
  /-- The frame that the reader is about to apply. -/
  hand : Option PtyTerminalFrame := none

/-- `drain_controller_frames_after_sync`, with what it takes dropped. -/
def BoundedOutput.drained {α : Type} (q : BoundedOutput α) : BoundedOutput α :=
  { q with
    queue := []
    usage := q.queue.foldl (fun usage value => usage.release value.2) q.usage }

/-! ### The daemon -/

/-- How far the resuming thread is. -/
inductive ResumePhase
  | idle
  /-- A request was sent. -/
  | sync
  | ping (sync : SupervisorAttachSyncPayload)
  | snapshot (sync : SupervisorAttachSyncPayload)
  | commit (sync : SupervisorAttachSyncPayload)
  | committed (sync : SupervisorAttachSyncPayload)
  /-- The reader runs, and `bootstrap_terminal_frames` is not set yet. -/
  | started (sync : SupervisorAttachSyncPayload)
  | buffering (sync : SupervisorAttachSyncPayload)
  /-- `seed_attach_sync`, with the frames that are left to apply. -/
  | seeding (todo : List PtyTerminalFrame)
  | done
deriving DecidableEq

/-- `sort_by_key` and `dedup_by_key` by the sequence number. -/
def sortFrames (frames : List PtyTerminalFrame) : List PtyTerminalFrame :=
  (frames.insertionSort fun a b => a.terminalSeq.getD 0 ≤ b.terminalSeq.getD 0).destutter
    fun a b => a.terminalSeq ≠ b.terminalSeq

def retainedBytes (frames : List PtyTerminalFrame) : ℕ :=
  (frames.map PtyTerminalFrame.retainedBytes).sum

/-- A queue of the daemon has room for one more frame. -/
def hasRoom (frames : List PtyTerminalFrame) (frame : PtyTerminalFrame) : Bool :=
  frames.length < supervisorOutputQueueMaxMessages &&
    retainedBytes frames + frame.retainedBytes ≤ supervisorOutputQueueMaxBytes

def enqueueDaemonTerminalFrame (pending : List PtyTerminalFrame) (mirror : SupervisorTerminalMirror)
    (frame : PtyTerminalFrame) : List PtyTerminalFrame :=
  if hasRoom pending frame then pending ++ [frame]
  else (mirror.terminalSnapshotOrTail none).2.filter fun snapshot =>
    snapshot.retainedBytes ≤ supervisorOutputQueueMaxBytes

structure IpcResume where
  state : SupervisorState
  /-- The events that were recorded. -/
  log : List CacheOp
  /-- The lease of the daemon, which is the only controller. -/
  controllerId : ℕ
  connections : ℕ → IpcConnection
  /-- The connection that the resuming thread uses. -/
  attempt : ℕ := 0
  transactionId : ℕ := 0
  phase : ResumePhase := .done
  mirror : SupervisorTerminalMirror
  bootstrap : Option (List PtyTerminalFrame) := none
  pending : List PtyTerminalFrame := []
  /-- What the mirror has accepted, with the sequence number that it had before. -/
  accepted : List (ℕ × PtyTerminalFrame) := []
  /-- A reader has given up because too much was buffered. -/
  transportError : Bool := false

inductive ResumeOp
  | record (op : CacheOp)
  /-- The supervisor handles a request. -/
  | serve (connection : ℕ) (processId : Option ℕ)
  /-- One frame goes from the queue of the controller to the writer task. -/
  | forward (connection : ℕ)
  | write (connection : ℕ)
  | close (connection : ℕ)
  /-- `reconnect_ipc` is called. -/
  | reconnect (transactionId : ℕ)
  | connect
  /-- The resuming thread reads a frame. -/
  | receive
  /-- The attempt fails. -/
  | fail
  | start
  | buffer
  | seed
  | seedNext
  /-- The reader thread of a connection reads a frame. -/
  | read (connection : ℕ)
  /-- The reader thread of a connection applies a frame that it has not buffered. -/
  | apply (connection : ℕ)
  /-- A frame is taken out of the pending ones. -/
  | consume

namespace IpcResume

variable (w : IpcResume)

def setConnection (i : ℕ) (connection : IpcConnection) : IpcResume :=
  { w with connections := Function.update w.connections i connection }

/-- The queue of the connection is that of the controller. -/
def registered (i : ℕ) : Bool := (w.state.controllers w.controllerId).any (·.tx = i)

/-- `broadcast_terminal_frame`, for the controller. -/
def broadcastTerminalFrame (frame : PtyTerminalFrame) : IpcResume :=
  match w.state.controllers w.controllerId with
  | none => w
  | some handle =>
    let connection := w.connections handle.tx
    let (rx, sent) := connection.rx.trySend frame frame.retainedBytes
    let w := w.setConnection handle.tx { connection with rx }
    if sent then w
    else { w with state := w.state.removeController ⟨w.controllerId, handle.connectionId⟩ }

def ensureCurrentOrPendingController (connection : IpcConnection) : Bool :=
  match connection.controllerIdentity, connection.pendingResumeIdentity with
  | some controller, _ => w.state.isActiveController controller
  | none, some pending => w.state.mayResume pending.id
  | none, none => false

/-- The supervisor handles one request of a connection. -/
def handle (i : ℕ) (processId : Option ℕ) (connection : IpcConnection) :
    ResumeRequest → SupervisorState × IpcConnection × ResumeResponse
  | .attachSync =>
    if connection.controllerIdentity.isSome then
      (w.state, connection, .err "session supervisor control socket is already attached")
    else if w.state.exited then
      (w.state, connection, .err "session supervisor PTY has exited")
    else match w.state.resumeAttachSync w.controllerId processId none with
      | .error message => (w.state, connection, .err message)
      | .ok (state, identity, sync) =>
        -- what was queued is dropped: the connection is not the controller yet
        (state, { connection with
          pendingResumeIdentity := some identity, baseSeq := sync.baseSeq, rx := connection.rx.drained },
          .attachSync sync)
  | .ping =>
    if w.ensureCurrentOrPendingController connection then (w.state, connection, .empty)
    else (w.state, connection, .err SupervisorState.notActive)
  | .snapshot =>
    if w.ensureCurrentOrPendingController connection then
      (w.state, connection, .snapshot ⟨w.state.terminal.size, processId, w.state.exited,
        w.state.terminal.snapshotOutput⟩)
    else (w.state, connection, .err SupervisorState.notActive)
  | .commitControllerResume =>
    match connection.pendingResumeIdentity with
    | none => (w.state, connection, .err "session supervisor has no pending controller resume")
    | some candidate =>
      match w.state.commitControllerResume w.transactionId candidate i with
      | .error message => (w.state, connection, .err message)
      | .ok (state, committed) =>
        (state, { connection with
          controllerIdentity := some committed, pendingResumeIdentity := none
          committedResumeTransactionId := some w.transactionId },
          .controllerResumeStatus committed)

/-- A connection that has resumed a lease keeps it when it ends. -/
def leave (connection : IpcConnection) : SupervisorState :=
  match connection.controllerIdentity with
  | none => w.state
  | some identity =>
    let committedHere := connection.committedResumeTransactionId.any fun transactionId =>
      w.state.committedResumeTransactions transactionId = some identity
    if committedHere then w.state else w.state.removeController identity

/-- The end of `handle_supervisor_connection`. -/
def closeConnection (i : ℕ) : IpcResume :=
  let connection := w.connections i
  setConnection { w with state := w.leave connection } i
    { connection with
      request := none, control := [], data := [], closed := true
      rx := { connection.rx with queue := [], receiver := false } }

/-- `apply_and_enqueue_daemon_terminal_frame` -/
def applyAndEnqueue (width : Char → Option (Fin 3)) (frame : PtyTerminalFrame) :
    Option IpcResume := do
  let (mirror, applied) ← w.mirror.applyFrame width frame
  if applied then
    return { w with
      mirror
      pending := enqueueDaemonTerminalFrame w.pending mirror frame
      accepted := w.accepted ++ [(w.mirror.currentTerminalSeq, frame)] }
  else return { w with mirror }

/-- The resuming thread sends its next request. -/
def sendRequest (socket : List SupervisorFrame) (phase : ResumePhase) (request : ResumeRequest) :
    IpcResume :=
  setConnection { w with phase } w.attempt
    { w.connections w.attempt with socket, request := some request }

/-- `supervisor_candidate_request`: events are skipped until the answer comes. -/
def receive : Option IpcResume :=
  match (w.connections w.attempt).socket with
  | [] => none
  | frame :: socket =>
    let skipped := w.setConnection w.attempt { w.connections w.attempt with socket }
    match w.phase, frame with
    | .sync, .response (.attachSync sync) => some (w.sendRequest socket (.ping sync) .ping)
    | .ping sync, .response .empty => some (w.sendRequest socket (.snapshot sync) .snapshot)
    | .snapshot sync, .response (.snapshot _) =>
      some (w.sendRequest socket (.commit sync) .commitControllerResume)
    | .commit sync, .response (.controllerResumeStatus _) =>
      some { skipped with phase := .committed sync }
    | .sync, .response _ | .ping _, .response _ | .snapshot _, .response _
    | .commit _, .response _ => some { skipped with phase := .idle }
    | .sync, .terminalFrame _ | .ping _, .terminalFrame _ | .snapshot _, .terminalFrame _
    | .commit _, .terminalFrame _ => some skipped
    | _, _ => none

/-- One round of `supervisor_reader_loop`; the lock of the buffer is held while it is emptied. -/
def read (i : ℕ) : Option IpcResume :=
  let connection := w.connections i
  if ¬connection.reading ∨ connection.hand.isSome then none
  else match connection.socket with
    | [] => none
    | .response _ :: socket => some (w.setConnection i { connection with socket })
    | .terminalFrame frame :: socket =>
      match w.phase, w.bootstrap with
      | .seeding _, _ => none
      | _, none => some (w.setConnection i { connection with socket, hand := some frame })
      | _, some buffered =>
        if hasRoom buffered frame then
          some (setConnection { w with bootstrap := some (buffered ++ [frame]) } i
            { connection with socket })
        else
          some (setConnection { w with bootstrap := some [], transportError := true } i
            { connection with socket, reading := false })

/-- One lock, one message or one frame. -/
def step (width : Char → Option (Fin 3)) (w : IpcResume) : ResumeOp → Option IpcResume
  | .record op => do
    let (state, frame) ← w.state.record width op
    return broadcastTerminalFrame { w with state, log := w.log ++ [op] } frame
  | .serve i processId =>
    let connection := w.connections i
    match connection.request, connection.closed with
    | some request, false =>
      let (state, connection, response) := w.handle i processId connection request
      some (setConnection { w with state } i
        { connection with request := none, control := connection.control ++ [response] })
    | _, _ => none
  | .forward i =>
    let connection := w.connections i
    if connection.closed then none
    else match connection.rx.recv with
      | none => none
      | some (frame, rx) =>
        if connection.controllerIdentity.any w.state.isActiveController then
          some (w.setConnection i { connection with rx, data := connection.data ++ [frame] })
        else some (w.closeConnection i)
  | .write i =>
    let connection := w.connections i
    if connection.closed then none
    else match connection.control, connection.data with
      | response :: control, _ =>
        some (w.setConnection i
          { connection with control, socket := connection.socket ++ [.response response] })
      | [], frame :: data =>
        some (w.setConnection i
          { connection with data, socket := connection.socket ++ [.terminalFrame frame] })
      | [], [] => none
  | .close i =>
    if (w.connections i).closed ∨ w.attempt < i then none else some (w.closeConnection i)
  | .reconnect transactionId =>
    if w.phase ≠ .done then none else some { w with phase := .idle, transactionId }
  | .connect =>
    if w.phase ≠ .idle then none
    else some (setConnection { w with phase := .sync, attempt := w.attempt + 1 } (w.attempt + 1)
      { request := some .attachSync })
  | .receive => w.receive
  | .fail =>
    match w.phase with
    | .sync | .ping _ | .snapshot _ | .commit _ | .committed _ => some { w with phase := .idle }
    | _ => none
  | .start =>
    match w.phase with
    | .committed sync =>
      some (setConnection { w with phase := .started sync } w.attempt
        { w.connections w.attempt with reading := true })
    | _ => none
  | .buffer =>
    match w.phase with
    | .started sync => some { w with bootstrap := some [], phase := .buffering sync }
    | _ => none
  | .seed =>
    match w.phase with
    | .buffering sync =>
      let pendingLive := w.pending.filter fun frame => frame.terminalSeq.any (sync.baseSeq < ·)
      some { w with
        pending := []
        bootstrap := w.bootstrap.map fun _ => []
        phase := .seeding (sync.frames ++ sortFrames (pendingLive ++ w.bootstrap.getD [])) }
    | _ => none
  | .seedNext =>
    match w.phase with
    | .seeding [] => some { w with bootstrap := none, phase := .done }
    | .seeding (frame :: todo) => applyAndEnqueue { w with phase := .seeding todo } width frame
    | _ => none
  | .read i => w.read i
  | .apply i =>
    let connection := w.connections i
    match connection.hand with
    | none => none
    | some frame =>
      applyAndEnqueue (w.setConnection i { connection with hand := none }) width frame
  | .consume => if w.pending = [] then none else some { w with pending := w.pending.tail }

/-- A daemon has attached to a supervisor after the events `prior`, and its mirror has taken the
snapshot. -/
def attached (width : Char → Option (Fin 3)) (size mirrorSize : PtySize)
    (cleanupCapability : Option (List UInt8)) (prior : List CacheOp) : Option IpcResume := do
  let state ← exec (fun s op => (s.record width op).map Prod.fst)
    (SupervisorState.new size cleanupCapability) prior
  let (state, identity, sync) := state.attachSync 0 none none
  let mirror ← exec (SupervisorTerminalMirror.feed width) (.new mirrorSize) sync.frames
  return {
    state, mirror
    log := prior
    controllerId := identity.id
    connections := fun i =>
      if i = 0 then
        { controllerIdentity := some identity, baseSeq := sync.baseSeq, reading := true }
      else {} }

end IpcResume

/-! ### What the mirror has seen -/

section Seen

variable (width : Char → Option (Fin 3)) (size : PtySize)

/-- **The mirror has seen every event** up to its current one: since the last snapshot of the
supervisor it was fed all of them, in order. -/
def Seen (log : List CacheOp) (m : SupervisorTerminalMirror) : Prop :=
  ∃ (base : ℕ) (c : SupervisorTerminalCache) (m₀ m₁ : SupervisorTerminalMirror),
    base ≤ m.currentTerminalSeq ∧ m.currentTerminalSeq ≤ log.length ∧
    exec (SupervisorTerminalCache.step width) (.new size) (log.take base) = some c ∧
    m₀.resetFromSnapshot width c.size base c.snapshotOutput = some m₁ ∧
    m₁.currentTerminalSeq = base ∧
    exec (SupervisorTerminalMirror.feed width) m₁
      (eventsAfter log base (m.currentTerminalSeq - base)) = some m

variable {width size} {log : List CacheOp} {m : SupervisorTerminalMirror}

/-- The event number `seq` of a run. -/
def IsEvent (log : List CacheOp) (seq : ℕ) (frame : PtyTerminalFrame) : Prop :=
  ∃ n event, seq = n + 1 ∧ (recorded log)[n]? = some event ∧ frame = event.toTerminalFrame

theorem IsEvent.terminalSeq_eq {seq : ℕ} {frame : PtyTerminalFrame} (h : IsEvent log seq frame) :
    frame.terminalSeq = some seq := by
  obtain ⟨n, event, rfl, hevent, rfl⟩ := h
  obtain ⟨op, -, rfl, -⟩ := getElem?_recorded hevent
  simp

theorem IsEvent.snoc {seq : ℕ} {frame : PtyTerminalFrame} (h : IsEvent log seq frame) (op : CacheOp) :
    IsEvent (log ++ [op]) seq frame := by
  obtain ⟨n, event, hseq, hevent, hframe⟩ := h
  refine ⟨n, event, hseq, ?_, hframe⟩
  rw [recorded_snoc, List.getElem?_append_left (List.getElem?_eq_some_iff.mp hevent).1, hevent]

/-- The first of the events after a base. -/
theorem eventsAfter_eq_cons {base n : ℕ} {frame : PtyTerminalFrame} {frames : List PtyTerminalFrame}
    (h : eventsAfter log base n = frame :: frames) :
    ∃ m, n = m + 1 ∧ IsEvent log (base + 1) frame ∧ frames = eventsAfter log (base + 1) m := by
  cases n with
  | zero => cases h
  | succ m =>
    rw [eventsAfter, List.map_eq_cons_iff] at h
    obtain ⟨event, events, hevents, rfl, rfl⟩ := h
    cases hdrop : (recorded log).drop base with
    | nil => simp [hdrop] at hevents
    | cons event' rest =>
      rw [hdrop, List.take_succ_cons] at hevents
      obtain ⟨rfl, rfl⟩ := List.cons.inj hevents
      refine ⟨m, rfl, ⟨base, event', rfl, ?_, rfl⟩, ?_⟩
      · rw [← List.head?_drop, hdrop]
        rfl
      · rw [eventsAfter, ← List.drop_drop, hdrop]
        rfl

/-- The next event after some of them. -/
theorem eventsAfter_add_one {base n : ℕ} {frame : PtyTerminalFrame}
    (h : IsEvent log (base + n + 1) frame) :
    eventsAfter log base (n + 1) = eventsAfter log base n ++ [frame] := by
  obtain ⟨k, event, hk, hevent, rfl⟩ := h
  obtain rfl : k = base + n := by omega
  rw [eventsAfter, List.take_add_one, List.getElem?_drop, hevent, List.map_append]
  rfl

theorem fed_eventsAfter {base n : ℕ} (h : base + n ≤ log.length) :
    Fed log base (eventsAfter log base n) (base + n) := by
  induction n with
  | zero => exact .nil
  | succ n ih =>
    obtain ⟨event, hevent⟩ : ∃ event, (recorded log)[base + n]? = some event :=
      ⟨_, List.getElem?_eq_getElem (by rw [length_recorded]; omega)⟩
    rw [eventsAfter_add_one ⟨base + n, event, rfl, hevent, rfl⟩]
    exact (ih (by omega)).next hevent

theorem Seen.followsFrom (h : Seen width size log m) :
    ∃ base, m.FollowsFrom base (log.take m.currentTerminalSeq) := by
  obtain ⟨base, c, m₀, m₁, hbase, hle, hc, hreset, hcurrent, hfeed⟩ := h
  have hm₀ : m₀.currentTerminalSeq ≤ base := by
    by_contra hlt
    rw [SupervisorTerminalMirror.resetFromSnapshot, if_pos (by omega)] at hreset
    cases hreset
    omega
  obtain ⟨m₁', hm₁', hfollows⟩ := SupervisorTerminalMirror.followsFrom_reset width hm₀
    (show base ≤ log.length by omega) c.size c.snapshotOutput
  obtain rfl : m₁' = m₁ := Option.some.inj (hm₁'.symm.trans hreset)
  obtain ⟨m', hm', hfollows', -⟩ := SupervisorTerminalMirror.followsFrom_of_fed width hfollows
    (fed_eventsAfter (n := m.currentTerminalSeq - base) (by omega))
  obtain rfl : m' = m := Option.some.inj (hm'.symm.trans hfeed)
  refine ⟨base, ?_⟩
  rwa [Nat.add_sub_cancel' hbase] at hfollows'

theorem Seen.le_length (h : Seen width size log m) : m.currentTerminalSeq ≤ log.length := by
  obtain ⟨base, c, m₀, m₁, -, hle, -⟩ := h
  exact hle

theorem Seen.snoc (h : Seen width size log m) (op : CacheOp) : Seen width size (log ++ [op]) m := by
  obtain ⟨base, c, m₀, m₁, hbase, hle, hc, hreset, hcurrent, hfeed⟩ := h
  refine ⟨base, c, m₀, m₁, hbase, by simp; omega, ?_, hreset, hcurrent, ?_⟩
  · rwa [List.take_append_of_le_length (by omega)]
  · rwa [eventsAfter_snoc (by omega)]

/-- **The next event** is accepted. -/
theorem Seen.next (h : Seen width size log m) {frame : PtyTerminalFrame}
    (hframe : IsEvent log (m.currentTerminalSeq + 1) frame) :
    ∃ m', m.applyFrame width frame = some (m', true) ∧
      m'.currentTerminalSeq = m.currentTerminalSeq + 1 ∧ Seen width size log m' := by
  obtain ⟨base₀, hfollows⟩ := h.followsFrom
  have hle := h.le_length
  have hlen : (log.take m.currentTerminalSeq).length = m.currentTerminalSeq := by
    rw [List.length_take]
    omega
  obtain ⟨base, c, m₀, m₁, hbase, -, hc, hreset, hcurrent, hfeed⟩ := h
  obtain ⟨n, event, hn, hevent, hframe'⟩ := id hframe
  obtain rfl : n = m.currentTerminalSeq := by omega
  obtain ⟨op, htake, rfl, -⟩ := getElem?_recorded hevent
  obtain ⟨m', hm', hfollows'⟩ := hfollows.next width op
  rw [hlen, ← hframe'] at hm'
  have hlt : m.currentTerminalSeq < log.length := by
    simpa using (List.getElem?_eq_some_iff.mp hevent).1
  have hcurrent' : m'.currentTerminalSeq = m.currentTerminalSeq + 1 := by
    rw [hfollows'.current_eq, List.length_append, hlen]
    rfl
  refine ⟨m', hm', hcurrent', base, c, m₀, m₁, by omega, by omega, hc, hreset, hcurrent, ?_⟩
  have hsub : m'.currentTerminalSeq - base = (m.currentTerminalSeq - base) + 1 := by omega
  have hevent' : IsEvent log (base + (m.currentTerminalSeq - base) + 1) frame := by
    rwa [Nat.add_sub_cancel' hbase]
  rw [hsub, eventsAfter_add_one hevent', exec_snoc, hfeed, Option.bind_some,
    SupervisorTerminalMirror.feed, hm']
  rfl

/-- **A snapshot of the supervisor** is accepted unless it is older than the mirror. -/
theorem Seen.snapshot (h : Seen width size log m) {base : ℕ} (hbase : base ≤ log.length)
    {c : SupervisorTerminalCache}
    (hc : exec (SupervisorTerminalCache.step width) (.new size) (log.take base) = some c) :
    ∃ m' applied, m.applyFrame width (.snapshot base c.size c.snapshotOutput) = some (m', applied) ∧
      m.currentTerminalSeq ≤ m'.currentTerminalSeq ∧ base ≤ m'.currentTerminalSeq ∧
      (applied = false → m' = m) ∧ Seen width size log m' := by
  by_cases hlt : base < m.currentTerminalSeq
  · exact ⟨m, false, if_pos hlt, le_rfl, hlt.le, fun _ => rfl, h⟩
  · rw [Nat.not_lt] at hlt
    obtain ⟨m', hm', hfollows⟩ := SupervisorTerminalMirror.followsFrom_reset width hlt hbase c.size
      c.snapshotOutput
    have hcurrent : m'.currentTerminalSeq = base := by
      rw [hfollows.current_eq, List.length_take]
      omega
    refine ⟨m', true, ?_, by omega, by omega, nofun, base, c, m, m', by omega, by omega, hc, hm',
      hcurrent, ?_⟩
    · refine (if_neg (Nat.not_lt.mpr hlt)).trans ?_
      rw [hm']
      rfl
    · rw [hcurrent, Nat.sub_self]
      rfl

end Seen

/-! ### Frames in order -/

/-- No key is lost with the duplicates. -/
theorem exists_mem_destutter {α β : Type*} [DecidableEq β] (key : α → β) {l : List α} {a : α}
    (h : a ∈ l) : ∃ b ∈ l.destutter fun a b => key a ≠ key b, key b = key a := by
  have hfrom : ∀ (l : List α) (first a : α), a ∈ first :: l →
      ∃ b ∈ l.destutter' (fun a b => key a ≠ key b) first, key b = key a := by
    intro l
    induction l with
    | nil =>
      intro first a h
      exact ⟨first, List.mem_singleton_self _, by rw [List.mem_singleton.mp h]⟩
    | cons next l ih =>
      intro first a h
      by_cases hkey : key first = key next
      · rw [List.destutter'_cons_neg _ (by simpa using hkey)]
        rcases List.mem_cons.mp h with rfl | h
        · exact ih a a List.mem_cons_self
        · rcases List.mem_cons.mp h with rfl | h
          · exact (ih first first List.mem_cons_self).imp fun b hb => ⟨hb.1, hb.2.trans hkey⟩
          · exact ih first a (List.mem_cons_of_mem _ h)
      · rw [List.destutter'_cons_pos _ hkey]
        rcases List.mem_cons.mp h with rfl | h
        · exact ⟨a, List.mem_cons_self, rfl⟩
        · exact (ih next a h).imp fun b hb => ⟨List.mem_cons_of_mem _ hb.1, hb.2⟩
  cases l with
  | nil => cases h
  | cons first l => exact hfrom l first a h

theorem mem_of_mem_sortFrames {frames : List PtyTerminalFrame} {frame : PtyTerminalFrame}
    (h : frame ∈ sortFrames frames) : frame ∈ frames :=
  (List.mem_insertionSort _).mp ((List.destutter_sublist _ _).subset h)

theorem exists_mem_sortFrames {frames : List PtyTerminalFrame} {frame : PtyTerminalFrame}
    (h : frame ∈ frames) : ∃ frame' ∈ sortFrames frames, frame'.terminalSeq = frame.terminalSeq :=
  exists_mem_destutter PtyTerminalFrame.terminalSeq ((List.mem_insertionSort _).mpr h)

/-- The frames are in the order of their sequence numbers. -/
def InOrder (frames : List PtyTerminalFrame) : Prop :=
  frames.Pairwise fun a b => a.terminalSeq.getD 0 ≤ b.terminalSeq.getD 0

theorem inOrder_sortFrames (frames : List PtyTerminalFrame) : InOrder (sortFrames frames) := by
  have : IsTrans PtyTerminalFrame fun a b => a.terminalSeq.getD 0 ≤ b.terminalSeq.getD 0 :=
    ⟨fun _ _ _ => le_trans⟩
  have : Std.Total fun a b : PtyTerminalFrame => a.terminalSeq.getD 0 ≤ b.terminalSeq.getD 0 :=
    ⟨fun _ _ => le_total _ _⟩
  exact (List.pairwise_insertionSort _ frames).sublist (List.destutter_sublist _ _)

/-! ### Feeding the mirror -/

section InStep

variable (width : Char → Option (Fin 3)) (size : PtySize)

/-- **The mirror and what it has accepted**: events one after the other, and snapshots. -/
structure InStep (log : List CacheOp) (mirror : SupervisorTerminalMirror)
    (pending : List PtyTerminalFrame) (accepted : List (ℕ × PtyTerminalFrame)) : Prop where
  seen : Seen width size log mirror
  accepted_next : ∀ prev frame, (prev, frame) ∈ accepted → ∀ seq, frame.terminalSeq = some seq →
    seq = prev + 1
  pending_le : ∀ frame ∈ pending, ∀ seq, frame.terminalSeq = some seq →
    seq ≤ mirror.currentTerminalSeq

/-- A frame that the mirror may be given: one that it has, the next event or a snapshot. -/
def Fitting (log : List CacheOp) (mirror : SupervisorTerminalMirror) (frame : PtyTerminalFrame) :
    Prop :=
  (∃ seq, frame.terminalSeq = some seq ∧ seq ≤ mirror.currentTerminalSeq) ∨
    IsEvent log (mirror.currentTerminalSeq + 1) frame ∨
    ∃ (base : ℕ) (c : SupervisorTerminalCache), base ≤ log.length ∧
      exec (SupervisorTerminalCache.step width) (.new size) (log.take base) = some c ∧
      frame = .snapshot base c.size c.snapshotOutput

/-- What a frame reaches. -/
def PtyTerminalFrame.reaches : PtyTerminalFrame → ℕ
  | snapshot base _ _ => base
  | output seq _ | resize seq _ | exit seq _ => seq

variable {width size} {log : List CacheOp} {mirror : SupervisorTerminalMirror}
  {pending : List PtyTerminalFrame} {accepted : List (ℕ × PtyTerminalFrame)}

theorem PtyTerminalFrame.reaches_eq {frame : PtyTerminalFrame} {seq : ℕ}
    (h : frame.terminalSeq = some seq) : frame.reaches = seq := by
  cases frame <;> cases h <;> rfl

/-- What is queued for the clients of the daemon is not newer than the mirror. -/
theorem le_of_mem_enqueue {mirror' : SupervisorTerminalMirror} {frame : PtyTerminalFrame}
    (hpending : ∀ frame ∈ pending, ∀ seq, frame.terminalSeq = some seq →
      seq ≤ mirror'.currentTerminalSeq)
    (hframe : ∀ seq, frame.terminalSeq = some seq → seq ≤ mirror'.currentTerminalSeq) :
    ∀ frame' ∈ enqueueDaemonTerminalFrame pending mirror' frame, ∀ seq,
      frame'.terminalSeq = some seq → seq ≤ mirror'.currentTerminalSeq := by
  intro frame' hmem
  rw [enqueueDaemonTerminalFrame] at hmem
  split at hmem
  · rcases List.mem_append.mp hmem with hold | hnew
    · exact hpending frame' hold
    · rw [List.mem_singleton.mp hnew]
      exact hframe
  · -- the queue was too long and is replaced by a snapshot
    have hsnapshot := List.mem_singleton.mp (List.mem_of_mem_filter hmem)
    rw [hsnapshot]
    exact nofun

/-- The mirror is given a frame that fits. -/
theorem Seen.apply (h : Seen width size log mirror) {frame : PtyTerminalFrame}
    (hframe : Fitting width size log mirror frame) :
    ∃ mirror' applied, mirror.applyFrame width frame = some (mirror', applied) ∧
      Seen width size log mirror' ∧ mirror.currentTerminalSeq ≤ mirror'.currentTerminalSeq ∧
      frame.reaches ≤ mirror'.currentTerminalSeq ∧ (applied = false → mirror' = mirror) ∧
      (applied = true → ∀ seq, frame.terminalSeq = some seq →
        seq = mirror.currentTerminalSeq + 1) := by
  rcases hframe with ⟨seq, hseq, hle⟩ | hevent | ⟨base, c, hbase, hc, rfl⟩
  · have hstale : frame.Stale mirror.currentTerminalSeq := by
      cases frame <;> cases hseq <;> exact hle
    refine ⟨mirror, false, SupervisorTerminalMirror.applyFrame_of_stale hstale, h, le_rfl, ?_,
      fun _ => rfl, nofun⟩
    rwa [PtyTerminalFrame.reaches_eq hseq]
  · obtain ⟨mirror', happly, hcurrent, hseen⟩ := h.next hevent
    have hseq := hevent.terminalSeq_eq
    refine ⟨mirror', true, happly, hseen, by omega, ?_, nofun, fun _ seq hseq' => ?_⟩
    · rw [PtyTerminalFrame.reaches_eq hseq, hcurrent]
    · exact Option.some.inj (hseq'.symm.trans hseq)
  · obtain ⟨mirror', applied, happly, hle, hbase', hsame, hseen⟩ := h.snapshot hbase hc
    exact ⟨mirror', applied, happly, hseen, hle, hbase', hsame, fun _ => nofun⟩

/-- **One frame**: the mirror, the queue and the record of what was accepted. -/
theorem InStep.applyAndEnqueue {w : IpcResume}
    (h : InStep width size w.log w.mirror w.pending w.accepted) {frame : PtyTerminalFrame}
    (hframe : Fitting width size w.log w.mirror frame) :
    ∃ mirror pending accepted,
      w.applyAndEnqueue width frame = some { w with mirror, pending, accepted } ∧
        InStep width size w.log mirror pending accepted ∧
        w.mirror.currentTerminalSeq ≤ mirror.currentTerminalSeq ∧
        frame.reaches ≤ mirror.currentTerminalSeq := by
  obtain ⟨mirror, applied, happly, hseen, hle, hreaches, hsame, hnext⟩ := h.seen.apply hframe
  cases applied with
  | false =>
    obtain rfl := hsame rfl
    exact ⟨w.mirror, w.pending, w.accepted, by simp [IpcResume.applyAndEnqueue, happly], h, le_rfl,
      hreaches⟩
  | true =>
    refine ⟨mirror, enqueueDaemonTerminalFrame w.pending mirror frame,
      w.accepted ++ [(w.mirror.currentTerminalSeq, frame)],
      by simp [IpcResume.applyAndEnqueue, happly], ⟨hseen, ?_, ?_⟩, hle, hreaches⟩
    · intro prev frame' hmem
      rcases List.mem_append.mp hmem with hold | hnew
      · exact h.accepted_next prev frame' hold
      · cases List.mem_singleton.mp hnew
        exact hnext rfl
    · refine le_of_mem_enqueue (fun frame' hmem seq hseq => ?_) fun seq hseq => ?_
      · exact (h.pending_le frame' hmem seq hseq).trans hle
      · rwa [PtyTerminalFrame.reaches_eq hseq] at hreaches

theorem InStep.snoc (h : InStep width size log mirror pending accepted) (op : CacheOp) :
    InStep width size (log ++ [op]) mirror pending accepted :=
  { h with seen := h.seen.snoc op }

end InStep

end Termd.Pty
