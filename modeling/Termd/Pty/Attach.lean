import Termd.Pty.Answers
import Termd.Pty.Supervisor

/-!
# Terminal attach streams

A terminal that attaches is registered and told what it has missed under one lock. From then on every
event is put into its queue, until the queue refuses one: then it is removed. A task of its own writes
the answer, then what has piled up in the queue, and then the queue as it fills, with heartbeats in
between.

## Main definitions

* `BoundedOutput`: a queue with a budget of messages and bytes
* `TerminalConnection`: the queue, the task and what it has written
* `Attaches`: the supervisor and all terminal connections
* `TerminalConnection.GapFree`: the stream of one connection

## Main results

* `Attaches.gapFree_of_run`: every stream of every run
-/

namespace Termd.Pty

open Screen

/-! ### Queues -/

def supervisorOutputQueueMaxMessages : ℕ := 128

def supervisorOutputQueueMaxBytes : ℕ := 8 * 1024 * 1024

structure SupervisorOutputQueueUsage where
  messages : ℕ := 0
  bytes : ℕ := 0

namespace SupervisorOutputQueueUsage

def reserve (usage : SupervisorOutputQueueUsage) (retainedBytes : ℕ) :
    Option SupervisorOutputQueueUsage :=
  let messages := usage.messages + 1
  let bytes := usage.bytes + retainedBytes
  if supervisorOutputQueueMaxMessages < messages ∨ supervisorOutputQueueMaxBytes < bytes then none
  else some { messages, bytes }

/-- A reservation is dropped. -/
def release (usage : SupervisorOutputQueueUsage) (retainedBytes : ℕ) : SupervisorOutputQueueUsage where
  messages := usage.messages - 1
  bytes := usage.bytes - retainedBytes

end SupervisorOutputQueueUsage

/-- `bounded_supervisor_output_channel`: the values with the bytes that are reserved for them, the
budget, whether something was refused, and whether the receiver is alive. -/
structure BoundedOutput (α : Type) where
  queue : List (α × ℕ) := []
  usage : SupervisorOutputQueueUsage := {}
  overflow : Bool := false
  receiver : Bool := true

namespace BoundedOutput

variable {α : Type} (q : BoundedOutput α)

def trySend (value : α) (retainedBytes : ℕ) : BoundedOutput α × Bool :=
  match q.usage.reserve retainedBytes with
  | none => ({ q with overflow := true }, false)
  | some usage =>
    if ¬q.receiver ∨ supervisorOutputQueueMaxMessages ≤ q.queue.length then
      ({ q with overflow := true }, false)
    else ({ q with queue := q.queue ++ [(value, retainedBytes)], usage }, true)

/-- `recv` and `try_recv`, when something is in the queue. -/
def recv : Option (α × BoundedOutput α) :=
  match q.queue with
  | [] => none
  | (value, retainedBytes) :: queue =>
    some (value, { q with queue, usage := q.usage.release retainedBytes })

/-- The values in the queue. -/
def values : List α := q.queue.map Prod.fst

variable {q} {q' : BoundedOutput α}

/-- **A queue takes a value at its end**, or refuses it and is what it was. -/
theorem trySend_cases (value : α) (retainedBytes : ℕ) :
    (q.trySend value retainedBytes).2 = true ∧
        (q.trySend value retainedBytes).1.values = q.values ++ [value] ∨
      (q.trySend value retainedBytes).2 = false ∧
        (q.trySend value retainedBytes).1.values = q.values := by
  rw [trySend]
  split
  · exact .inr ⟨rfl, rfl⟩
  · split
    · exact .inr ⟨rfl, rfl⟩
    · exact .inl ⟨rfl, by simp [values]⟩

theorem recv_eq_some {value : α} (h : q.recv = some (value, q')) : q.values = value :: q'.values := by
  rw [recv] at h
  split at h <;> cases h
  rename_i heq
  simp [values, heq]

theorem recv_receiver {value : α} (h : q.recv = some (value, q')) : q'.receiver = q.receiver := by
  rw [recv] at h
  split at h <;> cases h
  rfl

/-- A queue whose receiver is gone refuses everything. -/
theorem receiver_of_trySend {value : α} {retainedBytes : ℕ}
    (h : (q.trySend value retainedBytes).2 = true) : q.receiver = true := by
  rw [trySend] at h
  split at h
  · cases h
  · split at h
    · cases h
    · rename_i hroom
      simpa using (not_or.mp hroom).1

end BoundedOutput

/-! ### Connections -/

inductive SupervisorTerminalServerFrame
  | attachSync (baseSeq : ℕ) (snapshot : SupervisorSnapshotPayload) (frames : List PtyTerminalFrame)
  | terminalFrame (frame : PtyTerminalFrame)
  | heartbeatPing (nonce : String)
  | close (reason : String)
deriving DecidableEq

/-- How far the task of a connection is. -/
inductive AttachPhase
  | absent
  /-- The bootstrap frame was read. -/
  | bootstrap
  /-- The terminal is registered, and the answer is to be written. -/
  | registered (baseSeq : ℕ) (sync : SupervisorTerminalServerFrame)
  /-- `drain_terminal_attach_frames_after_sync`, with what was collected. -/
  | draining (baseSeq : ℕ) (delayed : List SupervisorTerminalServerFrame)
  /-- What was collected is to be written. -/
  | flushing (delayed : List SupervisorTerminalServerFrame)
  /-- The loop. -/
  | live
  /-- The task is done and the terminal is to be removed. -/
  | ending
  | closed
deriving DecidableEq

structure TerminalConnection where
  phase : AttachPhase := .absent
  lastTerminalSeq : Option ℕ := none
  attachId : Option ℕ := none
  queue : BoundedOutput SupervisorTerminalServerFrame := {}
  pendingHeartbeatNonce : Option String := none
  /-- What was written to the client. -/
  written : List SupervisorTerminalServerFrame := []
  /-- The event that the queue refused. -/
  refused : Option ℕ := none

/-- `terminal_seq` -/
def PtyTerminalFrame.terminalSeq : PtyTerminalFrame → Option ℕ
  | snapshot .. => none
  | output seq _ | resize seq _ | exit seq _ => some seq

/-- `terminal_frame_retained_bytes` -/
def PtyTerminalFrame.retainedBytes : PtyTerminalFrame → ℕ
  | snapshot _ _ data | output _ data => data.length
  | resize .. | exit .. => 1

structure Attaches where
  state : SupervisorState
  connections : ℕ → TerminalConnection := fun _ => {}
  /-- The events that were recorded. -/
  log : List CacheOp := []

inductive AttachOp
  /-- A client connects and names the last event that it has. -/
  | bootstrap (connection : ℕ) (lastTerminalSeq : Option ℕ)
  /-- `register_terminal_attach` and the answer, under one lock. -/
  | register (connection : ℕ) (processId : Option ℕ)
  /-- An event is recorded and broadcast, under one lock; some controllers may refuse it. -/
  | record (op : CacheOp) (closed : List ℕ)
  | writeSync (connection : ℕ)
  /-- One `try_recv` of the drain. -/
  | drain (connection : ℕ)
  /-- One frame that was collected is written. -/
  | flush (connection : ℕ)
  /-- One frame of the queue is written, in the loop. -/
  | outbound (connection : ℕ)
  /-- The heartbeat interval ticks. -/
  | tick (connection : ℕ) (nonce : String)
  | pong (connection : ℕ) (nonce : String)
  /-- The heartbeat interval ticks when the last heartbeat was not answered in time. -/
  | heartbeatTimeout (connection : ℕ)
  /-- The queue has refused a frame. -/
  | overflow (connection : ℕ)
  /-- The client leaves, or reading or writing fails. -/
  | leave (connection : ℕ)
  /-- `remove_terminal_attach` at the end of the task. -/
  | remove (connection : ℕ)

namespace Attaches

variable (w : Attaches)

def setConnection (i : ℕ) (connection : TerminalConnection) : Attaches :=
  { w with connections := Function.update w.connections i connection }

/-- The terminal is registered under its id. -/
def registered (i : ℕ) : Bool :=
  (w.connections i).attachId.any fun attachId => w.state.terminalAttaches attachId = some i

/-- The queue of a connection is offered a frame. -/
def offer (frame : PtyTerminalFrame) (i : ℕ) :
    BoundedOutput SupervisorTerminalServerFrame × Bool :=
  (w.connections i).queue.trySend (.terminalFrame frame) frame.retainedBytes

/-- `broadcast_terminal_frame`, for the terminals. -/
def broadcastTerminalFrame (frame : PtyTerminalFrame) : Attaches :=
  { w with
    connections := fun i =>
      if w.registered i then
        { w.connections i with
          queue := (w.offer frame i).1
          refused := if (w.offer frame i).2 then (w.connections i).refused else frame.terminalSeq }
      else w.connections i
    state := { w.state with
      terminalAttaches := fun attachId =>
        (w.state.terminalAttaches attachId).filter fun i => (w.offer frame i).2 } }

/-- One lock, one read or one write. -/
def step (width : Char → Option (Fin 3)) (w : Attaches) : AttachOp → Option Attaches
  | .bootstrap i lastTerminalSeq =>
    if (w.connections i).phase ≠ .absent then none
    else some (w.setConnection i { phase := .bootstrap, lastTerminalSeq })
  | .register i processId =>
    let connection := w.connections i
    if connection.phase ≠ .bootstrap then none
    else
      let (state, attachId) := w.state.registerTerminalAttach i
      let snapshot : SupervisorSnapshotPayload :=
        ⟨state.terminal.size, processId, state.exited, []⟩
      let (baseSeq, frames) := state.terminal.terminalSnapshotOrTail connection.lastTerminalSeq
      some (setConnection { w with state } i
        { connection with
          attachId := some attachId
          phase := .registered baseSeq (.attachSync baseSeq snapshot frames) })
  | .record op closed => do
    let (state, frame) ← w.state.record width op
    return broadcastTerminalFrame
      { w with state := state.removeClosed closed, log := w.log ++ [op] } frame
  | .writeSync i =>
    let connection := w.connections i
    match connection.phase with
    | .registered baseSeq sync =>
      some (w.setConnection i
        { connection with phase := .draining baseSeq [], written := connection.written ++ [sync] })
    | _ => none
  | .drain i =>
    let connection := w.connections i
    match connection.phase with
    | .draining baseSeq delayed =>
      match connection.queue.recv with
      | none => some (w.setConnection i { connection with phase := .flushing delayed })
      | some (frame, queue) =>
        let covered := match frame with
          | .terminalFrame frame => frame.terminalSeq.any (· ≤ baseSeq)
          | _ => false
        let delayed := if covered then delayed else delayed ++ [frame]
        some (w.setConnection i { connection with queue, phase := .draining baseSeq delayed })
    | _ => none
  | .flush i =>
    let connection := w.connections i
    match connection.phase with
    | .flushing [] => some (w.setConnection i { connection with phase := .live })
    | .flushing (frame :: delayed) =>
      some (w.setConnection i
        { connection with phase := .flushing delayed, written := connection.written ++ [frame] })
    | _ => none
  | .outbound i =>
    let connection := w.connections i
    if connection.phase ≠ .live then none
    else match connection.queue.recv with
      | none => none
      | some (frame, queue) =>
        some (w.setConnection i
          { connection with queue, written := connection.written ++ [frame] })
  | .tick i nonce =>
    let connection := w.connections i
    if connection.phase ≠ .live then none
    else if connection.pendingHeartbeatNonce.isSome then some w
    else some (w.setConnection i
      { connection with
        pendingHeartbeatNonce := some nonce
        written := connection.written ++ [.heartbeatPing nonce] })
  | .pong i nonce =>
    let connection := w.connections i
    if connection.phase ≠ .live then none
    else if connection.pendingHeartbeatNonce = some nonce then
      some (w.setConnection i { connection with pendingHeartbeatNonce := none })
    else some w
  | .heartbeatTimeout i =>
    let connection := w.connections i
    if connection.phase ≠ .live ∨ connection.pendingHeartbeatNonce.isNone then none
    else some (w.setConnection i
      { connection with
        phase := .ending, written := connection.written ++ [.close "heartbeat_timeout"] })
  | .overflow i =>
    let connection := w.connections i
    if connection.phase ≠ .live ∨ ¬connection.queue.overflow then none
    else some (w.setConnection i
      { connection with
        phase := .ending, written := connection.written ++ [.close "slow_consumer"] })
  | .leave i =>
    let connection := w.connections i
    if connection.attachId.isNone ∨ connection.phase = .closed then none
    else some (w.setConnection i { connection with phase := .ending })
  | .remove i =>
    let connection := w.connections i
    match connection.phase, connection.attachId with
    | .ending, some attachId =>
      some (setConnection { w with state := w.state.removeTerminalAttach attachId } i
        { connection with phase := .closed, queue := { connection.queue with receiver := false } })
    | _, _ => none

end Attaches

/-! ### The events after a base -/

/-- The events `base + 1, …, base + n` of a run. -/
def eventsAfter (log : List CacheOp) (base n : ℕ) : List PtyTerminalFrame :=
  (((recorded log).drop base).take n).map TerminalEvent.toTerminalFrame

@[simp] theorem eventsAfter_zero (log : List CacheOp) (base : ℕ) : eventsAfter log base 0 = [] := rfl

@[simp] theorem terminalSeq_toTerminalFrame (event : TerminalEvent) :
    event.toTerminalFrame.terminalSeq = some event.terminalSeq := by
  cases event <;> rfl

/-- A later event changes nothing before it. -/
theorem eventsAfter_snoc {log : List CacheOp} {base n : ℕ} (h : base + n ≤ log.length)
    (op : CacheOp) : eventsAfter (log ++ [op]) base n = eventsAfter log base n := by
  rw [eventsAfter, eventsAfter, recorded_snoc,
    List.drop_append_of_le_length (by simp; omega),
    List.take_append_of_le_length (by simp; omega)]

/-- The next event. -/
theorem eventsAfter_succ {log : List CacheOp} {base n : ℕ} (h : base + n = log.length)
    (op : CacheOp) :
    eventsAfter (log ++ [op]) base (n + 1) =
      eventsAfter log base n ++ [(op.event (log.length + 1)).toTerminalFrame] := by
  rw [eventsAfter, eventsAfter, recorded_snoc, List.drop_append_of_le_length (by simp; omega),
    List.take_of_length_le (by simp; omega), List.take_of_length_le (by simp; omega),
    List.map_append]
  rfl

/-- **The numbers of the events** are consecutive. -/
theorem terminalSeq_eventsAfter {log : List CacheOp} {base n : ℕ} (h : base + n ≤ log.length) :
    (eventsAfter log base n).map PtyTerminalFrame.terminalSeq =
      (List.range' (base + 1) n).map some := by
  refine List.ext_getElem (by simp [eventsAfter]; omega) fun k hk _ => ?_
  simp only [eventsAfter, List.map_map, List.length_map, List.length_take, List.length_drop,
    length_recorded] at hk
  simp [eventsAfter, recorded]
  omega

theorem lt_of_mem_eventsAfter {log : List CacheOp} {base n seq : ℕ} {frame : PtyTerminalFrame}
    (h : base + n ≤ log.length) (hmem : frame ∈ eventsAfter log base n)
    (hseq : frame.terminalSeq = some seq) : base < seq ∧ seq ≤ base + n := by
  have hmem' := List.mem_map_of_mem (f := PtyTerminalFrame.terminalSeq) hmem
  rw [terminalSeq_eventsAfter h, hseq] at hmem'
  simp at hmem'
  omega

/-- A prefix of the events is given by its length. -/
theorem eventsAfter_of_append {log : List CacheOp} {base n : ℕ} {l₁ l₂ : List PtyTerminalFrame}
    (h : l₁ ++ l₂ = eventsAfter log base n) : l₁ = eventsAfter log base (min l₁.length n) := by
  have htake : l₁ = (eventsAfter log base n).take l₁.length := by rw [← h, List.take_left]
  conv_lhs => rw [htake]
  rw [eventsAfter, eventsAfter, ← List.map_take, List.take_take]

/-! ### Streams -/

/-- Where a client is after a frame: a snapshot sets its position, and an event is of use when it is
the next one. -/
def PtyTerminalFrame.advance (position : Option ℕ) : PtyTerminalFrame → Option ℕ
  | snapshot base _ _ => some base
  | output seq _ | resize seq _ | exit seq _ => if position.map (· + 1) = some seq then some seq else none

namespace SupervisorTerminalServerFrame

/-- The event that is sent. -/
def live : SupervisorTerminalServerFrame → Option PtyTerminalFrame
  | terminalFrame frame => some frame
  | _ => none

/-- A live event or a heartbeat. -/
def isPlain : SupervisorTerminalServerFrame → Bool
  | terminalFrame _ | heartbeatPing _ => true
  | _ => false

@[simp] theorem live_attachSync (base : ℕ) (snapshot : SupervisorSnapshotPayload)
    (frames : List PtyTerminalFrame) : (attachSync base snapshot frames).live = none := rfl

@[simp] theorem live_terminalFrame (frame : PtyTerminalFrame) :
    (terminalFrame frame).live = some frame := rfl

@[simp] theorem live_heartbeatPing (nonce : String) : (heartbeatPing nonce).live = none := rfl

@[simp] theorem live_close (reason : String) : (close reason).live = none := rfl

end SupervisorTerminalServerFrame

/-- **The answer to a client** that has seen `last`: it is the answer of the journal after `base` events
and brings the client there. -/
structure Brings (width : Char → Option (Fin 3)) (size : PtySize) (log : List CacheOp)
    (last : Option ℕ) (base : ℕ) (frames : List PtyTerminalFrame) : Prop where
  le : base ≤ log.length
  answer : Ensures (exec (SupervisorTerminalCache.step width) (.new size) (log.take base)) fun c =>
    c.terminalSnapshotOrTail last = (base, frames)
  position : frames.foldl PtyTerminalFrame.advance last = some base

/-- **A stream without gaps**: first the answer, then the events after it and heartbeats, and at most
one reason why the connection ends. -/
structure GapFree (width : Char → Option (Fin 3)) (size : PtySize) (log : List CacheOp)
    (connection : TerminalConnection) : Prop where
  written_eq : connection.written = [] ∨ ∃ base snapshot frames rest ends n,
    connection.written = .attachSync base snapshot frames :: (rest ++ ends) ∧
      Brings width size log connection.lastTerminalSeq base frames ∧
      (∀ frame ∈ rest, frame.isPlain) ∧ (ends = [] ∨ ∃ reason, ends = [.close reason]) ∧
      base + n ≤ log.length ∧
      rest.filterMap SupervisorTerminalServerFrame.live = eventsAfter log base n ∧
      (rest.filterMap SupervisorTerminalServerFrame.live).map PtyTerminalFrame.terminalSeq =
        (List.range' (base + 1) n).map some
  refused_lt : ∀ refused, connection.refused = some refused →
    ∀ frame ∈ connection.written.filterMap SupervisorTerminalServerFrame.live,
      ∀ seq, frame.terminalSeq = some seq → seq < refused

/-- Consecutive events bring a client from one end of them to the other. -/
theorem foldl_advance {frames : List PtyTerminalFrame} {base n : ℕ}
    (h : frames.map PtyTerminalFrame.terminalSeq = (List.range' (base + 1) n).map some) :
    frames.foldl PtyTerminalFrame.advance (some base) = some (base + n) := by
  induction frames generalizing base n with
  | nil =>
    obtain rfl : n = 0 := by simpa using h.symm
    rfl
  | cons frame frames ih =>
    cases n with
    | zero => simp at h
    | succ n =>
      obtain ⟨hseq, hrest⟩ := List.cons.inj h
      have hadvance : frame.advance (some base) = some (base + 1) := by
        cases frame with
        | snapshot => cases hseq
        | output => simp_all [PtyTerminalFrame.terminalSeq, PtyTerminalFrame.advance]
        | resize => simp_all [PtyTerminalFrame.terminalSeq, PtyTerminalFrame.advance]
        | exit => simp_all [PtyTerminalFrame.terminalSeq, PtyTerminalFrame.advance]
      rw [List.foldl_cons, hadvance, ih hrest]
      congr 1
      omega

/-- **Every answer brings the client** to the last event. -/
theorem brings_answer {width : Char → Option (Fin 3)} {size : PtySize} {log : List CacheOp}
    {c : SupervisorTerminalCache} (hc : exec (SupervisorTerminalCache.step width) (.new size) log = some c)
    (last : Option ℕ) :
    Brings width size log last (c.terminalSnapshotOrTail last).1 (c.terminalSnapshotOrTail last).2 := by
  have hexact : JournalExact width size log c := by
    obtain ⟨c', hc', hexact⟩ := SupervisorTerminalCache.exact_of_run width size log
    rwa [Option.some.inj (hc.symm.trans hc')]
  have hbase := hexact.current_eq last
  rw [hbase]
  refine ⟨le_rfl, ⟨c, by rwa [List.take_length], by rw [← hbase]⟩, ?_⟩
  by_cases hlast : last = some log.length
  · rw [(hexact.empty_iff last).mpr hlast, hlast]
    rfl
  · rcases (hexact.tail_or_snapshot last hlast).or with htail | hsnapshot
    · obtain ⟨seen, rfl, hlt, -, hframes⟩ := htail
      have hevents : (c.terminalSnapshotOrTail (some seen)).2 =
          eventsAfter log seen (log.length - seen) := by
        rw [hframes, eventsAfter, List.take_of_length_le (by simp)]
      rw [hevents, foldl_advance (terminalSeq_eventsAfter (by omega))]
      congr 1
      omega
    · rw [hsnapshot]
      rfl

theorem Brings.snoc {width : Char → Option (Fin 3)} {size : PtySize} {log : List CacheOp}
    {last : Option ℕ} {base : ℕ} {frames : List PtyTerminalFrame}
    (h : Brings width size log last base frames) (op : CacheOp) :
    Brings width size (log ++ [op]) last base frames := by
  refine ⟨by have := h.le; simp; omega, ?_, h.position⟩
  rw [List.take_append_of_le_length h.le]
  exact h.answer

/-! ### What a connection keeps -/

namespace AttachPhase

/-- What was collected and is not written yet. -/
def delayed : AttachPhase → List SupervisorTerminalServerFrame
  | draining _ delayed | flushing delayed => delayed
  | _ => []

def isOver : AttachPhase → Bool
  | ending | closed => true
  | _ => false

/-- What has been written, up to live events and heartbeats, in each phase. -/
def Agrees (base : ℕ) (sync : SupervisorTerminalServerFrame)
    (written : List SupervisorTerminalServerFrame) : AttachPhase → Prop
  | absent | bootstrap => False
  | registered base' sync' => base' = base ∧ sync' = sync ∧ written = []
  | draining base' _ => base' = base ∧ ∃ rest, written = sync :: rest ∧ ∀ frame ∈ rest, frame.isPlain
  | flushing _ | live => ∃ rest, written = sync :: rest ∧ ∀ frame ∈ rest, frame.isPlain
  | ending | closed => written = [] ∨ ∃ rest ends, written = sync :: (rest ++ ends) ∧
      (∀ frame ∈ rest, frame.isPlain) ∧ (ends = [] ∨ ∃ reason, ends = [.close reason])

end AttachPhase

namespace TerminalConnection

variable (width : Char → Option (Fin 3)) (size : PtySize)

/-- Everything that was written or will be, unless the connection ends before. -/
def stream (connection : TerminalConnection) : List SupervisorTerminalServerFrame :=
  connection.written ++
    if connection.phase.isOver then [] else connection.phase.delayed ++ connection.queue.values

/-- **The invariant of a connection** that was answered with `base` and has been given `n` events. -/
structure Serves (log : List CacheOp) (registered : Bool) (connection : TerminalConnection)
    (base n : ℕ) (sync : SupervisorTerminalServerFrame) : Prop where
  answer : ∃ snapshot frames, sync = .attachSync base snapshot frames ∧
    Brings width size log connection.lastTerminalSeq base frames
  le : base + n ≤ log.length
  stream_eq : connection.stream.filterMap SupervisorTerminalServerFrame.live = eventsAfter log base n
  agrees : connection.phase.Agrees base sync connection.written
  plain : ∀ frame ∈ connection.phase.delayed ++ connection.queue.values, ∃ event,
    frame = .terminalFrame event
  refused_lt : ∀ refused, connection.refused = some refused → base + n < refused
  registered_eq : registered = true → connection.refused = none ∧
    (connection.phase.isOver = false → base + n = log.length)

/-- A connection before it is registered. -/
structure Fresh (connection : TerminalConnection) : Prop where
  phase_eq : connection.phase = .absent ∨ connection.phase = .bootstrap
  attachId_eq : connection.attachId = none
  queue_eq : connection.queue.values = []
  written_eq : connection.written = []
  refused_eq : connection.refused = none

def Served (log : List CacheOp) (registered : Bool) (connection : TerminalConnection) : Prop :=
  connection.Fresh ∨ ∃ base n sync, connection.Serves width size log registered base n sync

variable {width size} {log : List CacheOp} {registered : Bool} {connection : TerminalConnection}
  {base n : ℕ} {sync : SupervisorTerminalServerFrame}

theorem agrees_cases {phase : AttachPhase} {written : List SupervisorTerminalServerFrame}
    (h : phase.Agrees base sync written) :
    written = [] ∨ ∃ rest ends, written = sync :: (rest ++ ends) ∧
      (∀ frame ∈ rest, frame.isPlain) ∧ (ends = [] ∨ ∃ reason, ends = [.close reason]) := by
  have hplain : (∃ rest, written = sync :: rest ∧ ∀ frame ∈ rest, frame.isPlain = true) →
      ∃ rest ends, written = sync :: (rest ++ ends) ∧
        (∀ frame ∈ rest, frame.isPlain = true) ∧ (ends = [] ∨ ∃ reason, ends = [.close reason]) := by
    rintro ⟨rest, hwritten, hplain⟩
    exact ⟨rest, [], by rw [List.append_nil, hwritten], hplain, .inl rfl⟩
  cases phase with
  | absent => exact h.elim
  | bootstrap => exact h.elim
  | registered base' sync' => exact .inl h.2.2
  | draining base' delayed => exact .inr (hplain h.2)
  | flushing delayed => exact .inr (hplain h)
  | live => exact .inr (hplain h)
  | ending => exact h
  | closed => exact h

/-- What was written is the beginning of the stream. -/
theorem Serves.written_eq (h : connection.Serves width size log registered base n sync) :
    ∃ m ≤ n, connection.written.filterMap SupervisorTerminalServerFrame.live =
      eventsAfter log base m := by
  have hstream := h.stream_eq
  rw [stream, List.filterMap_append] at hstream
  exact ⟨_, Nat.min_le_right .., eventsAfter_of_append hstream⟩

theorem Served.gapFree (h : connection.Served width size log registered) :
    GapFree width size log connection := by
  rcases h with hfresh | ⟨base, n, sync, hserves⟩
  · exact ⟨.inl hfresh.written_eq, fun refused hrefused => nomatch hfresh.refused_eq ▸ hrefused⟩
  · obtain ⟨m, hm, hlive⟩ := hserves.written_eq
    have hle := hserves.le
    refine ⟨?_, fun refused hrefused frame hframe seq hseq => ?_⟩
    · rcases agrees_cases hserves.agrees with hnil | ⟨rest, ends, hwritten, hplain, hends⟩
      · exact .inl hnil
      · obtain ⟨snapshot, frames, rfl, hbrings⟩ := hserves.answer
        have hrest : rest.filterMap SupervisorTerminalServerFrame.live = eventsAfter log base m := by
          rw [← hlive, hwritten]
          rcases hends with rfl | ⟨reason, rfl⟩
          · simp [List.filterMap_cons]
          · simp [List.filterMap_cons]
        refine .inr ⟨base, snapshot, frames, rest, ends, m, hwritten, hbrings, hplain, hends, by omega,
          hrest, ?_⟩
        rw [hrest, terminalSeq_eventsAfter (by omega)]
    · rw [hlive] at hframe
      have hseq' := lt_of_mem_eventsAfter (by omega) hframe hseq
      have hlt := hserves.refused_lt refused hrefused
      omega

/-! ### What one step does to a connection -/

theorem Serves.unregister (h : connection.Serves width size log registered base n sync) :
    connection.Serves width size log false base n sync :=
  { h with registered_eq := nofun }

/-- A step that only moves frames from the queue towards the client, or writes a heartbeat. -/
theorem Serves.move (h : connection.Serves width size log registered base n sync)
    {connection' : TerminalConnection}
    (hlast : connection'.lastTerminalSeq = connection.lastTerminalSeq)
    (hrefused : connection'.refused = connection.refused)
    (hover : connection.phase.isOver = false)
    (hstream : connection'.stream.filterMap SupervisorTerminalServerFrame.live =
      connection.stream.filterMap SupervisorTerminalServerFrame.live)
    (hagrees : connection'.phase.Agrees base sync connection'.written)
    (hplain : ∀ frame ∈ connection'.phase.delayed ++ connection'.queue.values,
      frame ∈ connection.phase.delayed ++ connection.queue.values) :
    connection'.Serves width size log registered base n sync where
  answer := by
    rw [hlast]
    exact h.answer
  le := h.le
  stream_eq := hstream.trans h.stream_eq
  agrees := hagrees
  plain frame hframe := h.plain frame (hplain frame hframe)
  refused_lt := by
    rw [hrefused]
    exact h.refused_lt
  registered_eq hregistered := by
    rw [hrefused]
    exact ⟨(h.registered_eq hregistered).1, fun _ => (h.registered_eq hregistered).2 hover⟩

/-- What waits in the queue comes after the answer. -/
theorem Serves.lt_of_pending (h : connection.Serves width size log registered base n sync)
    (hover : connection.phase.isOver = false) {event : PtyTerminalFrame} {seq : ℕ}
    (hmem : .terminalFrame event ∈ connection.phase.delayed ++ connection.queue.values)
    (hseq : event.terminalSeq = some seq) : base < seq := by
  have hevent : event ∈ eventsAfter log base n := by
    rw [← h.stream_eq, stream, hover, List.mem_filterMap]
    exact ⟨_, List.mem_append_right _ hmem, rfl⟩
  exact (lt_of_mem_eventsAfter h.le hevent hseq).1

/-- The answer is written. -/
theorem Serves.writeSync (h : connection.Serves width size log registered base n sync)
    {base' : ℕ} {sync' : SupervisorTerminalServerFrame}
    (hphase : connection.phase = .registered base' sync') :
    Serves width size log registered
      { connection with phase := .draining base' [], written := connection.written ++ [sync'] }
      base n sync := by
  have hagrees := h.agrees
  rw [hphase] at hagrees
  obtain ⟨rfl, rfl, hwritten⟩ := hagrees
  obtain ⟨snapshot, frames, rfl, -⟩ := h.answer
  refine h.move rfl rfl (by rw [hphase]; rfl) ?_ ⟨rfl, [], by rw [hwritten]; rfl, nofun⟩ ?_
  · simp [stream, hphase, AttachPhase.isOver, AttachPhase.delayed, List.filterMap_cons]
  · simp [hphase, AttachPhase.delayed]

/-- One frame is collected: it is not covered by the answer. -/
theorem Serves.drain (h : connection.Serves width size log registered base n sync)
    {base' : ℕ} {delayed : List SupervisorTerminalServerFrame}
    (hphase : connection.phase = .draining base' delayed) {frame : SupervisorTerminalServerFrame}
    {queue : BoundedOutput SupervisorTerminalServerFrame}
    (hrecv : connection.queue.recv = some (frame, queue)) :
    ∃ event, frame = .terminalFrame event ∧ event.terminalSeq.any (· ≤ base') = false ∧
      Serves width size log registered
        { connection with queue, phase := .draining base' (delayed ++ [frame]) } base n sync := by
  have hvalues := BoundedOutput.recv_eq_some hrecv
  have hmem : frame ∈ connection.phase.delayed ++ connection.queue.values := by
    rw [hvalues]
    exact List.mem_append_right _ List.mem_cons_self
  have hover : connection.phase.isOver = false := by rw [hphase]; rfl
  obtain ⟨event, rfl⟩ := h.plain frame hmem
  have hagrees := h.agrees
  rw [hphase] at hagrees
  obtain ⟨rfl, rest, hwritten, hplain⟩ := hagrees
  refine ⟨event, rfl, ?_, h.move rfl rfl hover ?_ ⟨rfl, rest, hwritten, hplain⟩ ?_⟩
  · cases hseq : event.terminalSeq with
    | none => rfl
    | some seq => simpa using h.lt_of_pending hover hmem hseq
  · simp [stream, hphase, AttachPhase.isOver, AttachPhase.delayed, hvalues]
  · simp [hphase, AttachPhase.delayed, hvalues]

/-- The queue is empty. -/
theorem Serves.drained (h : connection.Serves width size log registered base n sync)
    {base' : ℕ} {delayed : List SupervisorTerminalServerFrame}
    (hphase : connection.phase = .draining base' delayed) :
    Serves width size log registered { connection with phase := .flushing delayed } base n sync := by
  have hagrees := h.agrees
  rw [hphase] at hagrees
  refine h.move rfl rfl (by rw [hphase]; rfl) ?_ hagrees.2 ?_
  · simp [stream, hphase, AttachPhase.isOver, AttachPhase.delayed]
  · simp [hphase, AttachPhase.delayed]

/-- One frame that was collected is written. -/
theorem Serves.flush (h : connection.Serves width size log registered base n sync)
    {frame : SupervisorTerminalServerFrame} {delayed : List SupervisorTerminalServerFrame}
    (hphase : connection.phase = .flushing (frame :: delayed)) :
    Serves width size log registered
      { connection with phase := .flushing delayed, written := connection.written ++ [frame] }
      base n sync := by
  have hagrees := h.agrees
  rw [hphase] at hagrees
  obtain ⟨rest, hwritten, hplain⟩ := hagrees
  obtain ⟨event, rfl⟩ := h.plain frame (by rw [hphase]; exact List.mem_cons_self)
  refine h.move rfl rfl (by rw [hphase]; rfl) ?_ ⟨rest ++ [.terminalFrame event], ?_, ?_⟩ ?_
  · simp [stream, hphase, AttachPhase.isOver, AttachPhase.delayed]
  · rw [hwritten]
    rfl
  · simpa [or_imp, forall_and, SupervisorTerminalServerFrame.isPlain] using hplain
  · simp [hphase, AttachPhase.delayed]
    grind

/-- Everything that was collected is written. -/
theorem Serves.flushed (h : connection.Serves width size log registered base n sync)
    (hphase : connection.phase = .flushing []) :
    Serves width size log registered { connection with phase := .live } base n sync := by
  have hagrees := h.agrees
  rw [hphase] at hagrees
  refine h.move rfl rfl (by rw [hphase]; rfl) ?_ hagrees ?_
  · simp [stream, hphase, AttachPhase.isOver, AttachPhase.delayed]
  · simp [hphase, AttachPhase.delayed]

/-- One frame of the queue is written. -/
theorem Serves.outbound (h : connection.Serves width size log registered base n sync)
    (hphase : connection.phase = .live) {frame : SupervisorTerminalServerFrame}
    {queue : BoundedOutput SupervisorTerminalServerFrame}
    (hrecv : connection.queue.recv = some (frame, queue)) :
    Serves width size log registered
      { connection with queue, written := connection.written ++ [frame] } base n sync := by
  have hvalues := BoundedOutput.recv_eq_some hrecv
  have hagrees := h.agrees
  rw [hphase] at hagrees
  obtain ⟨rest, hwritten, hplain⟩ := hagrees
  obtain ⟨event, rfl⟩ := h.plain frame
    (by rw [hvalues]; exact List.mem_append_right _ List.mem_cons_self)
  refine h.move rfl rfl (by rw [hphase]; rfl) ?_ ?_ ?_
  · simp [stream, hphase, AttachPhase.isOver, AttachPhase.delayed, hvalues]
  · rw [hphase, hwritten]
    refine ⟨rest ++ [.terminalFrame event], rfl, ?_⟩
    simpa [or_imp, forall_and, SupervisorTerminalServerFrame.isPlain] using hplain
  · simp [hphase, AttachPhase.delayed, hvalues]
    grind

/-- A heartbeat is written. -/
theorem Serves.tick (h : connection.Serves width size log registered base n sync)
    (hphase : connection.phase = .live) (nonce : String) :
    Serves width size log registered
      { connection with
        pendingHeartbeatNonce := some nonce
        written := connection.written ++ [.heartbeatPing nonce] } base n sync := by
  have hagrees := h.agrees
  rw [hphase] at hagrees
  obtain ⟨rest, hwritten, hplain⟩ := hagrees
  refine h.move rfl rfl (by rw [hphase]; rfl) ?_ ?_ fun _ hframe => hframe
  · simp [stream, hphase, AttachPhase.isOver, AttachPhase.delayed, List.filterMap_cons]
  · rw [hphase, hwritten]
    refine ⟨rest ++ [.heartbeatPing nonce], rfl, ?_⟩
    simpa [or_imp, forall_and, SupervisorTerminalServerFrame.isPlain] using hplain

/-- A step after which nothing more is written. -/
theorem Serves.finish (h : connection.Serves width size log registered base n sync)
    (connection' : TerminalConnection)
    (hlast : connection'.lastTerminalSeq = connection.lastTerminalSeq)
    (hrefused : connection'.refused = connection.refused)
    (hover : connection'.phase.isOver = true)
    (hqueue : connection'.queue.values = connection.queue.values)
    (hwritten : connection'.written = connection.written ∨
      connection.phase = .live ∧ ∃ reason, connection'.written = connection.written ++ [.close reason]) :
    ∃ m, connection'.Serves width size log registered base m sync := by
  obtain ⟨m, hm, hlive⟩ := h.written_eq
  have hle := h.le
  have hdelayed : connection'.phase.delayed = [] := by
    cases hphase : connection'.phase <;> simp_all [AttachPhase.isOver, AttachPhase.delayed]
  have hagrees : connection'.written = [] ∨ ∃ rest ends, connection'.written = sync :: (rest ++ ends) ∧
      (∀ frame ∈ rest, frame.isPlain) ∧ (ends = [] ∨ ∃ reason, ends = [.close reason]) := by
    rcases hwritten with hsame | ⟨hphase, reason, hclose⟩
    · rw [hsame]
      exact agrees_cases h.agrees
    · obtain ⟨rest, hrest, hplain⟩ : ∃ rest, connection.written = sync :: rest ∧
          ∀ frame ∈ rest, frame.isPlain = true := by
        have := h.agrees
        rwa [hphase] at this
      exact .inr ⟨rest, [.close reason], by rw [hclose, hrest, List.cons_append], hplain,
        .inr ⟨reason, rfl⟩⟩
  refine ⟨m, ?_, by omega, ?_, ?_, ?_, ?_, ?_⟩
  · rw [hlast]
    exact h.answer
  · rw [stream, hover, if_pos rfl, List.append_nil, ← hlive]
    rcases hwritten with hsame | ⟨-, reason, hclose⟩
    · rw [hsame]
    · rw [hclose, List.filterMap_append]
      exact List.append_nil _
  · cases hphase : connection'.phase <;> simp [hphase, AttachPhase.isOver] at hover
    · exact hagrees
    · exact hagrees
  · intro frame hframe
    rw [hdelayed, hqueue, List.nil_append] at hframe
    exact h.plain frame (List.mem_append_right _ hframe)
  · intro refused hr
    have := h.refused_lt refused (hrefused ▸ hr)
    omega
  · intro hregistered
    rw [hrefused, hover]
    exact ⟨(h.registered_eq hregistered).1, nofun⟩

/-- The terminal is registered and its answer is made. -/
theorem Fresh.register (h : connection.Fresh) {frames : List PtyTerminalFrame}
    (hbrings : Brings width size log connection.lastTerminalSeq log.length frames)
    (attachId : Option ℕ) (snapshot : SupervisorSnapshotPayload) :
    Serves width size log true
      { connection with
        attachId, phase := .registered log.length (.attachSync log.length snapshot frames) }
      log.length 0 (.attachSync log.length snapshot frames) where
  answer := ⟨snapshot, frames, rfl, hbrings⟩
  le := le_rfl
  stream_eq := by
    simp [stream, AttachPhase.isOver, AttachPhase.delayed, h.written_eq, h.queue_eq]
  agrees := ⟨rfl, rfl, h.written_eq⟩
  plain := by simp [AttachPhase.delayed, h.queue_eq]
  refused_lt := by simp [h.refused_eq]
  registered_eq _ := ⟨h.refused_eq, fun _ => rfl⟩

/-- An event is recorded that the connection is not offered. -/
theorem Serves.record_unregistered (h : connection.Serves width size log false base n sync)
    (op : CacheOp) : connection.Serves width size (log ++ [op]) false base n sync where
  answer := by
    obtain ⟨snapshot, frames, hsync, hbrings⟩ := h.answer
    exact ⟨snapshot, frames, hsync, hbrings.snoc op⟩
  le := by
    have := h.le
    rw [List.length_append, List.length_singleton]
    omega
  stream_eq := by
    rw [eventsAfter_snoc h.le]
    exact h.stream_eq
  agrees := h.agrees
  plain := h.plain
  refused_lt := h.refused_lt
  registered_eq := nofun

/-- An event is recorded that the queue refuses. -/
theorem Serves.record_refused (h : connection.Serves width size log true base n sync) (op : CacheOp)
    {queue : BoundedOutput SupervisorTerminalServerFrame}
    (hqueue : queue.values = connection.queue.values) :
    Serves width size (log ++ [op]) false { connection with queue, refused := some (log.length + 1) }
      base n sync := by
  have hrecord := h.unregister.record_unregistered op
  refine ⟨hrecord.answer, hrecord.le, ?_, h.agrees, ?_, ?_, nofun⟩
  · rw [← hrecord.stream_eq, stream, stream, hqueue]
  · rw [hqueue]
    exact h.plain
  · rintro refused ⟨⟩
    have := h.le
    omega

/-- An event is recorded that the queue takes. -/
theorem Serves.record_accepted (h : connection.Serves width size log true base n sync) (op : CacheOp)
    {queue : BoundedOutput SupervisorTerminalServerFrame}
    (hqueue : queue.values = connection.queue.values ++
      [.terminalFrame (op.event (log.length + 1)).toTerminalFrame]) :
    ∃ m, Serves width size (log ++ [op]) true { connection with queue } base m sync := by
  have hrecord := h.unregister.record_unregistered op
  obtain ⟨hrefused, hall⟩ := h.registered_eq rfl
  have hplain : ∀ frame ∈ connection.phase.delayed ++ queue.values, ∃ event,
      frame = .terminalFrame event := by
    intro frame hframe
    rw [hqueue, ← List.append_assoc] at hframe
    rcases List.mem_append.mp hframe with hold | hnew
    · exact h.plain frame hold
    · exact ⟨_, List.mem_singleton.mp hnew⟩
  have hnone : ∀ refused, connection.refused = some refused → False := fun refused hsome =>
    nomatch hrefused.symm.trans hsome
  cases hover : connection.phase.isOver with
  | true =>
    -- nothing of the queue will be written any more
    refine ⟨n, hrecord.answer, hrecord.le, ?_, h.agrees, hplain,
      fun refused hsome => (hnone refused hsome).elim, fun _ => ⟨hrefused, fun h' => ?_⟩⟩
    · rw [← hrecord.stream_eq]
      simp [stream, hover]
    · exact nomatch hover.symm.trans h'
  | false =>
    have hlength := hall hover
    refine ⟨n + 1, hrecord.answer, ?_, ?_, h.agrees, hplain,
      fun refused hsome => (hnone refused hsome).elim, fun _ => ⟨hrefused, fun _ => ?_⟩⟩
    · rw [List.length_append, List.length_singleton]
      omega
    · rw [eventsAfter_succ hlength, ← h.stream_eq]
      simp [stream, hover, hqueue]
    · rw [List.length_append, List.length_singleton]
      omega

/-- **One event** that is recorded and offered to a connection that is registered. -/
theorem Served.record (h : connection.Served width size log registered) (op : CacheOp)
    (hregistered : registered = true → connection.attachId.isSome) :
    let frame := (op.event (log.length + 1)).toTerminalFrame
    let offer := connection.queue.trySend (.terminalFrame frame) frame.retainedBytes
    Served width size (log ++ [op]) (registered && offer.2)
      (if registered then
        { connection with
          queue := offer.1, refused := if offer.2 then connection.refused else frame.terminalSeq }
      else connection) := by
  intro frame offer
  rcases h with hfresh | ⟨base, n, sync, hserves⟩
  · have hno : registered = false := by
      by_contra hyes
      have := hregistered (by simpa using hyes)
      rw [hfresh.attachId_eq] at this
      cases this
    rw [hno]
    exact .inl hfresh
  · cases hr : registered with
    | false =>
      subst hr
      exact .inr ⟨base, n, sync, hserves.record_unregistered op⟩
    | true =>
      subst hr
      rcases connection.queue.trySend_cases (.terminalFrame frame) frame.retainedBytes with
        ⟨haccepted, hvalues⟩ | ⟨hrefused, hvalues⟩
      · obtain ⟨m, hm⟩ := hserves.record_accepted op hvalues
        refine .inr ⟨base, m, sync, ?_⟩
        simpa [offer, haccepted] using hm
      · refine .inr ⟨base, n, sync, ?_⟩
        simpa [offer, hrefused, frame] using hserves.record_refused op hvalues

end TerminalConnection

namespace Attaches

open TerminalConnection

/-- The supervisor when it starts. -/
def new (size : PtySize) (cleanupCapability : Option (List UInt8)) : Attaches where
  state := .new size cleanupCapability

variable (width : Char → Option (Fin 3)) (size : PtySize)

/-- **The invariant of every run.** -/
structure Invariant (w : Attaches) : Prop where
  run_eq : exec (SupervisorTerminalCache.step width) (.new size) w.log = some w.state.terminal
  owner_eq : ∀ attachId i, w.state.terminalAttaches attachId = some i →
    (w.connections i).attachId = some attachId
  served : ∀ i, (w.connections i).Served width size w.log (w.registered i)

variable {width size} {w w' : Attaches}

theorem invariant_new (cleanupCapability : Option (List UInt8)) :
    (new size cleanupCapability).Invariant width size :=
  ⟨rfl, nofun, fun _ => .inl ⟨.inl rfl, rfl, rfl, rfl, rfl⟩⟩

theorem registered_iff {i : ℕ} : w.registered i = true ↔
    ∃ attachId, (w.connections i).attachId = some attachId ∧
      w.state.terminalAttaches attachId = some i := by
  simp [registered, Option.any_eq_true]

/-- Who takes an event stays registered. -/
theorem registered_broadcastTerminalFrame (frame : PtyTerminalFrame) (i : ℕ) :
    (w.broadcastTerminalFrame frame).registered i = (w.registered i && (w.offer frame i).2) := by
  have hid : ((w.broadcastTerminalFrame frame).connections i).attachId =
      (w.connections i).attachId := by
    simp only [broadcastTerminalFrame]
    split <;> rfl
  rw [Bool.eq_iff_iff, Bool.and_eq_true, registered_iff, registered_iff, hid]
  simp only [broadcastTerminalFrame, Option.filter_eq_some_iff]
  constructor
  · rintro ⟨attachId, hattach, hmem, hoffer⟩
    exact ⟨⟨attachId, hattach, hmem⟩, hoffer⟩
  · rintro ⟨⟨attachId, hattach, hmem⟩, hoffer⟩
    exact ⟨attachId, hattach, hmem, hoffer⟩

/-- A connection that is still registered, or is not any more. -/
theorem served_of_imp {log : List CacheOp} {registered registered' : Bool}
    {connection : TerminalConnection} (h : connection.Served width size log registered)
    (himp : registered' = true → registered = true) :
    connection.Served width size log registered' := by
  rcases h with hfresh | ⟨base, n, sync, hserves⟩
  · exact .inl hfresh
  · refine .inr ⟨base, n, sync, ?_⟩
    exact { hserves with registered_eq := fun h' => hserves.registered_eq (himp h') }

/-- A step of one connection, which may take away registrations of others. -/
theorem Invariant.update (h : w.Invariant width size) {i : ℕ} {state : SupervisorState}
    {connection : TerminalConnection} (hterminal : state.terminal = w.state.terminal)
    (hothers : ∀ attachId j, j ≠ i → state.terminalAttaches attachId = some j →
      w.state.terminalAttaches attachId = some j)
    (hown : ∀ attachId, state.terminalAttaches attachId = some i →
      connection.attachId = some attachId)
    (hserved : connection.Served width size w.log
      (connection.attachId.any fun attachId => state.terminalAttaches attachId = some i)) :
    (Attaches.setConnection { w with state } i connection).Invariant width size := by
  refine ⟨h.run_eq.trans (congrArg some hterminal.symm), fun attachId j hmem => ?_, fun j => ?_⟩
  · by_cases hj : j = i
    · subst hj
      simpa [Attaches.setConnection] using hown attachId hmem
    · simpa [Attaches.setConnection, hj] using h.owner_eq attachId j (hothers attachId j hj hmem)
  · by_cases hj : j = i
    · subst hj
      simp only [registered, Attaches.setConnection, Function.update_self]
      exact hserved
    · have hserved' : ((Attaches.setConnection { w with state } i connection).connections j).Served
          width size w.log (w.registered j) := by
        simpa [Attaches.setConnection, hj] using h.served j
      refine served_of_imp hserved' ?_
      simp only [registered_iff, Attaches.setConnection, Function.update_of_ne hj]
      rintro ⟨attachId, hid, hmem⟩
      exact ⟨attachId, hid, hothers attachId j hj hmem⟩

/-- A step of one connection that leaves the state alone. -/
theorem Invariant.setConnection (h : w.Invariant width size) {i : ℕ} {connection : TerminalConnection}
    (hid : connection.attachId = (w.connections i).attachId)
    (hserved : connection.Served width size w.log (w.registered i)) :
    (w.setConnection i connection).Invariant width size :=
  h.update rfl (fun _ _ _ hmem => hmem) (fun attachId hmem => hid.trans (h.owner_eq attachId i hmem))
    (by rwa [hid])

/-- A connection that was not answered yet. -/
theorem Invariant.fresh (h : w.Invariant width size) {i : ℕ}
    (hphase : (w.connections i).phase = .absent ∨ (w.connections i).phase = .bootstrap) :
    (w.connections i).Fresh := by
  rcases h.served i with hfresh | ⟨base, n, sync, hserves⟩
  · exact hfresh
  · have hagrees := hserves.agrees
    rcases hphase with hphase | hphase
    · rw [hphase] at hagrees
      exact hagrees.elim
    · rw [hphase] at hagrees
      exact hagrees.elim

/-- A connection that was answered. -/
theorem Invariant.serves (h : w.Invariant width size) {i : ℕ} {attachId : ℕ}
    (hid : (w.connections i).attachId = some attachId) :
    ∃ base n sync, (w.connections i).Serves width size w.log (w.registered i) base n sync := by
  rcases h.served i with hfresh | hserves
  · exact nomatch hfresh.attachId_eq.symm.trans hid
  · exact hserves

/-- A step of one connection that was answered. -/
theorem Invariant.keep (h : w.Invariant width size) {i : ℕ} {phase : AttachPhase}
    (hphase : (w.connections i).phase = phase) (hfresh : phase ≠ .absent ∧ phase ≠ .bootstrap)
    {connection : TerminalConnection} (hid : connection.attachId = (w.connections i).attachId)
    (hserves : ∀ base n sync,
      (w.connections i).Serves width size w.log (w.registered i) base n sync →
        ∃ m, connection.Serves width size w.log (w.registered i) base m sync) :
    (w.setConnection i connection).Invariant width size := by
  refine h.setConnection hid ?_
  rcases h.served i with hold | ⟨base, n, sync, hold⟩
  · rcases hold.phase_eq with habsent | hbootstrap
    · exact absurd (hphase.symm.trans habsent) hfresh.1
    · exact absurd (hphase.symm.trans hbootstrap) hfresh.2
  · obtain ⟨m, hm⟩ := hserves base n sync hold
    exact .inr ⟨base, m, sync, hm⟩

/-! ### What one step keeps -/

theorem Invariant.register (h : w.Invariant width size) {i : ℕ} {processId : Option ℕ}
    (hstep : step width w (.register i processId) = some w') : w'.Invariant width size := by
  simp only [step] at hstep
  split at hstep <;> cases hstep
  rename_i hphase
  rw [not_not] at hphase
  have hfresh := h.fresh (.inr hphase)
  have hbrings := brings_answer h.run_eq (w.connections i).lastTerminalSeq
  have hbase : (w.state.terminal.terminalSnapshotOrTail (w.connections i).lastTerminalSeq).1 =
      w.log.length := by
    obtain ⟨c, hc, hexact⟩ := SupervisorTerminalCache.exact_of_run width size w.log
    obtain rfl : c = w.state.terminal := Option.some.inj (hc.symm.trans h.run_eq)
    exact hexact.current_eq _
  rw [hbase] at hbrings
  refine h.update rfl (fun attachId j hj hmem => ?_) (fun attachId hmem => ?_) (.inr ?_)
  · -- a registration under an id that is used again is replaced
    by_cases hnew : attachId = w.state.nextTerminalAttachId
    · subst hnew
      exact absurd (by simpa [SupervisorState.registerTerminalAttach] using hmem) hj.symm
    · simpa [SupervisorState.registerTerminalAttach, hnew] using hmem
  · by_cases hnew : attachId = w.state.nextTerminalAttachId
    · rw [hnew]
      rfl
    · have hold : w.state.terminalAttaches attachId = some i := by
        simpa [SupervisorState.registerTerminalAttach, hnew] using hmem
      exact nomatch hfresh.attachId_eq.symm.trans (h.owner_eq attachId i hold)
  · have hserves := hfresh.register hbrings (some w.state.nextTerminalAttachId)
      ⟨w.state.terminal.size, processId, w.state.exited, []⟩
    rw [← hbase] at hserves
    exact ⟨_, 0, _, { hserves with registered_eq := fun _ => hserves.registered_eq rfl }⟩

theorem Invariant.record (h : w.Invariant width size) {op : CacheOp} {closed : List ℕ}
    (hstep : step width w (.record op closed) = some w') : w'.Invariant width size := by
  simp only [step, Option.bind_eq_bind, Option.bind_eq_some_iff, Option.pure_def,
    Option.some.injEq] at hstep
  obtain ⟨⟨state, frame⟩, hrecord, rfl⟩ := hstep
  have hcall := SupervisorState.record_eq_some hrecord
  have hattaches : (state.removeClosed closed).terminalAttaches = w.state.terminalAttaches := by
    rw [SupervisorState.removeClosed_terminalAttaches,
      SupervisorState.record_terminalAttaches hrecord]
  have hframe : frame = (op.event (w.log.length + 1)).toTerminalFrame := by
    obtain ⟨c, hc, hfollows⟩ := SupervisorTerminalCache.follows_of_run width size w.log
    obtain rfl : c = w.state.terminal := Option.some.inj (hc.symm.trans h.run_eq)
    obtain ⟨r, hr, -, hr₂⟩ := hfollows.call op
    rw [← hr₂, Option.some.inj (hr.symm.trans hcall)]
  set next : Attaches := { w with state := state.removeClosed closed, log := w.log ++ [op] }
    with hnext
  have hregistered (i : ℕ) : next.registered i = w.registered i := by
    rw [registered, registered, hnext]
    simp only [hattaches]
  refine ⟨?_, fun attachId i hmem => ?_, fun i => ?_⟩
  · change exec _ _ (w.log ++ [op]) = some (state.removeClosed closed).terminal
    rw [exec_snoc, h.run_eq, Option.bind_some, SupervisorTerminalCache.step, hcall,
      SupervisorState.removeClosed_terminal]
    rfl
  · simp only [broadcastTerminalFrame, Option.filter_eq_some_iff] at hmem ⊢
    have hid := h.owner_eq attachId i (by rw [← hattaches]; exact hmem.1)
    split
    · exact hid
    · exact hid
  · rw [registered_broadcastTerminalFrame, hregistered]
    have hserved := (h.served i).record op fun hyes => by
      obtain ⟨attachId, hid, -⟩ := registered_iff.mp hyes
      rw [hid]
      rfl
    simp only [broadcastTerminalFrame, hregistered, offer, hframe]
    exact hserved

/-- **What every step keeps.** -/
theorem Invariant.step (h : w.Invariant width size) {op : AttachOp}
    (hstep : Attaches.step width w op = some w') : w'.Invariant width size := by
  cases op with
  | bootstrap i lastTerminalSeq =>
    simp only [Attaches.step] at hstep
    split at hstep <;> cases hstep
    rename_i hphase
    have hfresh := h.fresh (.inl (not_not.mp hphase))
    exact h.setConnection hfresh.attachId_eq.symm (.inl ⟨.inr rfl, rfl, rfl, rfl, rfl⟩)
  | register i processId => exact h.register hstep
  | record op closed => exact h.record hstep
  | writeSync i =>
    simp only [Attaches.step] at hstep
    split at hstep <;> cases hstep
    rename_i hphase
    exact h.keep hphase ⟨nofun, nofun⟩ rfl fun base n sync hserves => ⟨n, hserves.writeSync hphase⟩
  | drain i =>
    simp only [Attaches.step] at hstep
    split at hstep <;> try cases hstep
    rename_i hphase
    split at hstep
    · cases hstep
      exact h.keep hphase ⟨nofun, nofun⟩ rfl fun base n sync hserves => ⟨n, hserves.drained hphase⟩
    · rename_i hrecv
      cases hstep
      refine h.keep hphase ⟨nofun, nofun⟩ rfl fun base n sync hserves => ⟨n, ?_⟩
      obtain ⟨event, rfl, hcovered, hserves'⟩ := hserves.drain hphase hrecv
      simpa [hcovered] using hserves'
  | flush i =>
    simp only [Attaches.step] at hstep
    split at hstep <;> cases hstep
    · rename_i hphase
      exact h.keep hphase ⟨nofun, nofun⟩ rfl fun base n sync hserves => ⟨n, hserves.flushed hphase⟩
    · rename_i hphase
      exact h.keep hphase ⟨nofun, nofun⟩ rfl fun base n sync hserves => ⟨n, hserves.flush hphase⟩
  | outbound i =>
    simp only [Attaches.step] at hstep
    split at hstep
    · cases hstep
    rename_i hphase
    rw [not_not] at hphase
    split at hstep <;> cases hstep
    rename_i hrecv
    exact h.keep hphase ⟨nofun, nofun⟩ rfl fun base n sync hserves =>
      ⟨n, hserves.outbound hphase hrecv⟩
  | tick i nonce =>
    simp only [Attaches.step] at hstep
    split at hstep
    · cases hstep
    rename_i hphase
    rw [not_not] at hphase
    split at hstep <;> cases hstep
    · exact h
    · exact h.keep hphase ⟨nofun, nofun⟩ rfl fun base n sync hserves =>
        ⟨n, hserves.tick hphase nonce⟩
  | pong i nonce =>
    simp only [Attaches.step] at hstep
    split at hstep
    · cases hstep
    rename_i hphase
    rw [not_not] at hphase
    split at hstep <;> cases hstep
    · refine h.keep hphase ⟨nofun, nofun⟩ rfl fun base n sync hserves => ⟨n, ?_⟩
      exact hserves.move rfl rfl (by rw [hphase]; rfl) rfl hserves.agrees fun _ hframe => hframe
    · exact h
  | heartbeatTimeout i =>
    simp only [Attaches.step] at hstep
    split at hstep <;> cases hstep
    rename_i hphase
    rw [not_or, not_not] at hphase
    exact h.keep hphase.1 ⟨nofun, nofun⟩ rfl fun base n sync hserves =>
      hserves.finish _ rfl rfl rfl rfl (.inr ⟨hphase.1, _, rfl⟩)
  | overflow i =>
    simp only [Attaches.step] at hstep
    split at hstep <;> cases hstep
    rename_i hphase
    rw [not_or, not_not] at hphase
    exact h.keep hphase.1 ⟨nofun, nofun⟩ rfl fun base n sync hserves =>
      hserves.finish _ rfl rfl rfl rfl (.inr ⟨hphase.1, _, rfl⟩)
  | leave i =>
    simp only [Attaches.step] at hstep
    split at hstep <;> cases hstep
    rename_i hid
    rw [not_or, Option.isNone_iff_eq_none] at hid
    obtain ⟨attachId, hattach⟩ := Option.ne_none_iff_exists'.mp hid.1
    obtain ⟨base, n, sync, hserves⟩ := h.serves hattach
    obtain ⟨m, hm⟩ := hserves.finish { w.connections i with phase := .ending } rfl rfl rfl rfl
      (.inl rfl)
    exact h.setConnection rfl (.inr ⟨base, m, sync, hm⟩)
  | remove i =>
    simp only [Attaches.step] at hstep
    split at hstep <;> cases hstep
    rename_i attachId hphase hid
    obtain ⟨base, n, sync, hserves⟩ := h.serves hid
    obtain ⟨m, hm⟩ := hserves.finish
      { w.connections i with
        phase := .closed, queue := { (w.connections i).queue with receiver := false } }
      rfl rfl rfl rfl (.inl rfl)
    -- the id may belong to a later terminal, which then is removed instead
    have hsub : ∀ attachId' j,
        (w.state.removeTerminalAttach attachId).terminalAttaches attachId' = some j →
          w.state.terminalAttaches attachId' = some j := by
      intro attachId' j hmem
      by_cases heq : attachId' = attachId
      · subst heq
        simp [SupervisorState.removeTerminalAttach] at hmem
      · simpa [SupervisorState.removeTerminalAttach, heq] using hmem
    refine h.update rfl (fun attachId' j _ hmem => hsub attachId' j hmem)
      (fun attachId' hmem => h.owner_eq attachId' i (hsub attachId' i hmem))
      (served_of_imp (.inr ⟨base, m, sync, hm⟩) fun hyes => ?_)
    simp [hid, SupervisorState.removeTerminalAttach] at hyes

/-- **Every stream is free of gaps**, whatever the order in which events are recorded and
connections are served, refused and removed. -/
theorem gapFree_of_run (width : Char → Option (Fin 3)) (size : PtySize)
    (cleanupCapability : Option (List UInt8)) (ops : List AttachOp) (w : Attaches)
    (hrun : exec (Attaches.step width) (new size cleanupCapability) ops = some w) (i : ℕ) :
    GapFree width size w.log (w.connections i) :=
  have hinvariant : w.Invariant width size :=
    exec_induction (fun _ _ _ h hstep => h.step hstep) (invariant_new cleanupCapability) hrun
  (hinvariant.served i).gapFree

/-- The child exits between the answer and the loop, and the client still has the event. -/
theorem gapFree_of_exit_before_sync : ∃ w,
    exec (Attaches.step fun _ => some 1) (new ⟨2, 4, 0, 0⟩ none)
      [.bootstrap 0 (some 0), .register 0 none, .record (.exit (some 0)) [], .writeSync 0, .drain 0,
        .drain 0, .flush 0, .flush 0, .tick 0 "a"] = some w ∧
      (w.connections 0).written =
        [.attachSync 0 ⟨⟨2, 4, 0, 0⟩, none, false, []⟩ [], .terminalFrame (.exit 1 (some 0)),
          .heartbeatPing "a"] ∧
      GapFree (fun _ => some 1) ⟨2, 4, 0, 0⟩ w.log (w.connections 0) := by
  refine ⟨_, rfl, by decide, ?_⟩
  exact gapFree_of_run _ _ none [.bootstrap 0 (some 0), .register 0 none,
    .record (.exit (some 0)) [], .writeSync 0, .drain 0, .drain 0, .flush 0, .flush 0, .tick 0 "a"] _
    rfl 0

end Attaches

end Termd.Pty
