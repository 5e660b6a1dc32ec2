import Termd.Pty.Attach

/-!
# From the child to the terminal log

What the child writes passes through five hands before it is recorded: the kernel's buffer, the thread
that reads the PTY, its queue, the chunks that the session has taken from the queue, and the batch of
the output pump. The exit watcher polls the child and records its exit on its own. Pump and watcher
take the same two locks, and nothing orders what they do under them.

A drain takes at most half of what the queue may hold. What the reader sends during a drain could as
well have been sent before or after it, so that `read` is one step.

## Main definitions

* `NonBlockingPortablePtySession.read`: the session's side of the queue
* `ReaderPhase`, `PumpPhase`, `WatcherPhase`: how far the reader, the pump and the watcher are
* `OutputPath`, `OutputPath.step`: the child, the three of them and the state
* `OutputPath.Complete`: the log holds every byte, and all of them before the exit
* `OutputPath.settled`: the guard of the step that goes wrong

## Main results

* `OutputPath.complete_iff_settled`: the runs in which the log is complete
-/

namespace Termd.Pty

/-! ### The session -/

def readerChunkBytes : ℕ := 16 * 1024

def readyOutputDrainMaxChunks : ℕ := 64

def readyOutputDrainMaxBytes : ℕ := 1024 * 1024

def outputQueueMaxMessages : ℕ := 128

def outputQueueMaxBytes : ℕ := 8 * 1024 * 1024

/-- What the reader sends: a chunk, or the error that ended it. -/
abbrev OutputMessage := Except String (List UInt8)

structure NonBlockingPortablePtySession where
  outputRx : List OutputMessage := []
  /-- How often `output_signal_tx` was sent to. -/
  outputSignal : ℕ := 0
  pendingOutput : List (List UInt8) := []
  pendingOutputBytes : ℕ := 0
  pendingError : Option String := none

namespace NonBlockingPortablePtySession

/-- The loop of `drain_ready_output`, with the messages that are in the queue. -/
def drainLoop (session : NonBlockingPortablePtySession) (chunks bytes : ℕ) :
    List OutputMessage → NonBlockingPortablePtySession
  | [] => { session with outputRx := [] }
  | message :: rx =>
    if readyOutputDrainMaxChunks ≤ chunks ∨ readyOutputDrainMaxBytes ≤ bytes then
      { session with outputRx := message :: rx }
    else if outputQueueMaxMessages ≤ session.pendingOutput.length ∨
        outputQueueMaxBytes - readerChunkBytes < session.pendingOutputBytes then
      { session with outputRx := message :: rx }
    else match message with
      | .ok chunk =>
        if chunk ≠ [] then
          drainLoop { session with
            pendingOutputBytes := session.pendingOutputBytes + chunk.length
            pendingOutput := session.pendingOutput ++ [chunk] } (chunks + 1) (bytes + chunk.length) rx
        else drainLoop session chunks bytes rx
      | .error error => { session with outputRx := rx, pendingError := some error }

variable (session : NonBlockingPortablePtySession)

def drainReadyOutput : NonBlockingPortablePtySession :=
  if session.pendingError.isSome then session else session.drainLoop 0 0 session.outputRx

def signalPendingOutput : NonBlockingPortablePtySession :=
  { session with outputSignal := session.outputSignal + 1 }

/-- What `read` does after its drain. -/
def takeOutput (bufferLen : ℕ) : NonBlockingPortablePtySession × OutputMessage :=
  match session.pendingOutput with
  | [] =>
    match session.pendingError with
    | some error => ({ session with pendingError := none }, .error error)
    | none => (session, .ok [])
  | chunk :: pending =>
    let bytes := session.pendingOutputBytes - chunk.length
    let remaining := chunk.drop bufferLen
    let session := if remaining ≠ [] then
        { session with
          pendingOutput := remaining :: pending
          pendingOutputBytes := bytes + remaining.length }
      else { session with pendingOutput := pending, pendingOutputBytes := bytes }
    let session := if session.pendingOutput ≠ [] ∨ session.pendingError.isSome then
        session.signalPendingOutput
      else session
    (session, .ok (chunk.take bufferLen))

/-- `read`, with what it puts into a buffer of the given length. -/
def read (bufferLen : ℕ) : NonBlockingPortablePtySession × OutputMessage :=
  if bufferLen = 0 then (session, .ok []) else session.drainReadyOutput.takeOutput bufferLen

end NonBlockingPortablePtySession

/-! ### The tasks -/

def supervisorOutputPumpChunkBytes : ℕ := 64 * 1024

def supervisorOutputPumpMaxChunksPerTick : ℕ := 64

def supervisorOutputPumpMaxBytesPerTick : ℕ := 4 * 1024 * 1024

/-- How far `read_pty_output` is. -/
inductive ReaderPhase
  | reading
  | sending (message : OutputMessage)
  /-- The message was sent; an error was the `last` one. -/
  | signalling (last : Bool)
  | ended
deriving DecidableEq

/-- How far `supervisor_output_pump` is. -/
inductive PumpPhase
  /-- At the head of the loop of `drain_supervisor_output`. -/
  | draining (chunks bytes : ℕ) (batch : List UInt8)
  /-- In `publish_supervisor_output_batch`, before it has the state lock. -/
  | publishing (batch : List UInt8) (next : PumpPhase)
  /-- Waits for the signal to change. -/
  | idle
deriving DecidableEq

namespace PumpPhase

/-- `extend_from_slice`, and what follows it in the loop. -/
def extend (chunks bytes : ℕ) (batch buffer : List UInt8) : PumpPhase :=
  if supervisorOutputPumpChunkBytes ≤ (batch ++ buffer).length then
    .publishing (batch ++ buffer) (.draining chunks bytes [])
  else .draining chunks bytes (batch ++ buffer)

/-- What `drain_supervisor_output` does with the result of `read`. -/
def received (chunks bytes : ℕ) (batch : List UInt8) : Except String (List UInt8) → PumpPhase
  | .error _ | .ok [] => .publishing batch .idle
  | .ok buffer =>
    let chunks := chunks + 1
    let bytes := bytes + buffer.length
    if supervisorOutputPumpChunkBytes < batch.length + buffer.length then
      .publishing batch (extend chunks bytes [] buffer)
    else extend chunks bytes batch buffer

end PumpPhase

structure PtyExitStatus where
  exitCode : UInt32
  signal : Option String

namespace PtyExitStatus

/-- The code that the exit watcher records. -/
def code (status : PtyExitStatus) : Option Int32 :=
  if status.signal.isNone then some status.exitCode.toInt32 else none

end PtyExitStatus

/-- How far `supervisor_exit_watcher` is. -/
inductive WatcherPhase
  | polling
  /-- `try_wait` returned a status, and the state lock is not taken yet. -/
  | recording (code : Option Int32)
  | ended
deriving DecidableEq

/-- The child, the tasks and the state. -/
structure OutputPath where
  /-- All that the child has written. -/
  written : List UInt8 := []
  /-- What the reader has not read of it. -/
  kernel : List UInt8 := []
  exitStatus : Option PtyExitStatus := none
  reader : ReaderPhase := .reading
  /-- The data of all chunks that the reader has sent. -/
  delivered : List UInt8 := []
  session : NonBlockingPortablePtySession := {}
  pump : PumpPhase := .draining 0 0 []
  /-- How many of the signals the pump has seen. -/
  seen : ℕ := 0
  watcher : WatcherPhase := .polling
  state : SupervisorState
  /-- What was recorded in the state. -/
  log : List CacheOp := []

inductive OutputOp
  | write (bytes : List UInt8)
  | exit (status : PtyExitStatus)
  /-- `reader.read` returns that many bytes. -/
  | readPty (n : ℕ)
  | readEof
  | readError (error : String)
  /-- `output_tx.send` returns. -/
  | send
  /-- `output_signal_tx.send` -/
  | signal
  /-- The pump reads under the session lock, or finds that its tick is over. -/
  | drain
  /-- The pump records its batch under the state lock. -/
  | publish
  /-- `output_signal.changed` returns. -/
  | changed
  | tryWait
  | tryWaitError
  | recordExit
  /-- A request resizes the terminal. -/
  | resize (size : PtySize)

namespace OutputPath

variable (w : OutputPath)

def new (size : PtySize) (cleanupCapability : Option (List UInt8)) : OutputPath where
  state := .new size cleanupCapability

def record (width : Char → Option (Fin 3)) (op : CacheOp) : Option OutputPath := do
  let (state, _) ← w.state.record width op
  return { w with state, log := w.log ++ [op] }

/-- A step of the child or of one of the tasks. -/
def step (width : Char → Option (Fin 3)) (w : OutputPath) : OutputOp → Option OutputPath
  | .write bytes =>
    if w.exitStatus.isSome then none
    else some { w with written := w.written ++ bytes, kernel := w.kernel ++ bytes }
  | .exit status =>
    if w.exitStatus.isSome then none else some { w with exitStatus := some status }
  | .readPty n =>
    if w.reader = .reading ∧ 0 < n ∧ n ≤ readerChunkBytes ∧ n ≤ w.kernel.length then
      some { w with reader := .sending (.ok (w.kernel.take n)), kernel := w.kernel.drop n }
    else none
  | .readEof =>
    if w.reader = .reading ∧ w.kernel = [] ∧ w.exitStatus.isSome then
      some { w with reader := .ended }
    else none
  | .readError error =>
    if w.reader = .reading then some { w with reader := .sending (.error error) } else none
  | .send =>
    match w.reader with
    | .sending message =>
      if outputQueueMaxMessages ≤ w.session.outputRx.length then none
      else
        let session := { w.session with outputRx := w.session.outputRx ++ [message] }
        match message with
        | .ok chunk => some { w with
            session, reader := .signalling false, delivered := w.delivered ++ chunk }
        | .error _ => some { w with session, reader := .signalling true }
    | _ => none
  | .signal =>
    match w.reader with
    | .signalling last => some { w with
        session := { w.session with outputSignal := w.session.outputSignal + 1 }
        reader := if last then .ended else .reading }
    | _ => none
  | .drain =>
    match w.pump with
    | .draining chunks bytes batch =>
      if supervisorOutputPumpMaxChunksPerTick ≤ chunks ∨
          supervisorOutputPumpMaxBytesPerTick ≤ bytes then
        some { w with pump := .publishing batch (.draining 0 0 []) }
      else
        let (session, result) := w.session.read supervisorOutputPumpChunkBytes
        some { w with session, pump := .received chunks bytes batch result }
    | _ => none
  | .publish =>
    match w.pump with
    | .publishing batch next =>
      if batch = [] then some { w with pump := next }
      else record { w with pump := next } width (.output batch)
    | _ => none
  | .changed =>
    if w.pump = .idle ∧ w.seen ≠ w.session.outputSignal then
      some { w with seen := w.session.outputSignal, pump := .draining 0 0 [] }
    else none
  | .tryWait =>
    if w.watcher = .polling then
      match w.exitStatus with
      | some status => some { w with watcher := .recording status.code }
      | none => some w
    else none
  | .tryWaitError => if w.watcher = .polling then some { w with watcher := .ended } else none
  | .recordExit =>
    match w.watcher with
    | .recording code => record { w with watcher := .ended } width (.exit code)
    | _ => none
  | .resize size => w.record width (.resize size)

end OutputPath

/-! ### The client -/

/-- What `termctl` makes of a terminal frame; `ended` is `End`. -/
inductive TerminalStreamEvent
  | output (data : List UInt8)
  | ended

def queueTerminalFrame : PtyTerminalFrame → List TerminalStreamEvent
  | .snapshot _ _ data | .output _ data => if data ≠ [] then [.output data] else []
  | .resize .. => []
  | .exit .. => [.ended]

/-- What `termctl` writes to its standard output before it returns. -/
def printed : List TerminalStreamEvent → List UInt8
  | [] => []
  | .output data :: events => data ++ printed events
  | .ended :: _ => []

namespace TerminalEvent

/-- The data of an output event. -/
def outputData : TerminalEvent → List UInt8
  | output _ bytes => bytes
  | resize .. | exit .. => []

def isExit : TerminalEvent → Bool
  | exit .. => true
  | output .. | resize .. => false

end TerminalEvent

/-- What is in the hands of the reader. -/
def ReaderPhase.held : ReaderPhase → List UInt8
  | .sending (.ok chunk) => chunk
  | .sending (.error _) | .reading | .signalling _ | .ended => []

/-- What is in the hands of the pump. -/
def PumpPhase.held : PumpPhase → List UInt8
  | .draining _ _ batch => batch
  | .publishing batch next => batch ++ next.held
  | .idle => []

/-- The data of a message. -/
def messageData : OutputMessage → List UInt8
  | .ok chunk => chunk
  | .error _ => []

/-- What the session has, or can take from the queue. -/
def NonBlockingPortablePtySession.held (session : NonBlockingPortablePtySession) : List UInt8 :=
  session.pendingOutput.flatten ++ session.outputRx.flatMap messageData

namespace OutputPath

variable (w : OutputPath)

/-- The bytes of the child that are not recorded yet, in order. -/
def inFlight : List UInt8 := w.pump.held ++ w.session.held ++ w.reader.held ++ w.kernel

/-- The data of the output events, in the order of their sequence numbers. -/
def outputs : List UInt8 := (recorded w.log).flatMap TerminalEvent.outputData

/-- What a client prints that is sent every event. -/
def clientOutput : List UInt8 :=
  printed ((recorded w.log).flatMap fun event => queueTerminalFrame event.toTerminalFrame)

/-- **The log is complete and ends with the exit.** -/
structure Complete (width : Char → Option (Fin 3)) (size : PtySize) : Prop where
  follows : w.state.terminal.Follows width size w.log
  outputs_prefix : w.outputs <+: w.delivered
  outputs_eq : w.reader = .ended → w.pump = .idle → w.seen = w.session.outputSignal →
    w.outputs = w.delivered
  exit_unique : (recorded w.log).countP TerminalEvent.isExit ≤ 1
  output_before_exit : ∀ seq bytes exitSeq code, .output seq bytes ∈ recorded w.log →
    .exit exitSeq code ∈ recorded w.log → seq < exitSeq
  received_all : ∀ exitSeq code, .exit exitSeq code ∈ recorded w.log → w.clientOutput = w.written

/-- **The guard**: the exit is recorded when no byte is in flight. -/
def settled : OutputOp → Bool
  | .recordExit => w.inFlight = []
  | _ => true

end OutputPath

/-! ### What the session does with the bytes -/

namespace NonBlockingPortablePtySession

variable {session session' : NonBlockingPortablePtySession}

/-- What the session knows of the bytes that it holds; an error is the last message. -/
structure Sane (session : NonBlockingPortablePtySession) : Prop where
  bytes_eq : session.pendingOutputBytes = session.pendingOutput.flatten.length
  nil_notMem : [] ∉ session.pendingOutput
  error_last : ∀ front error back, session.outputRx = front ++ .error error :: back → back = []
  error_taken : session.pendingError.isSome → session.outputRx = []

/-- The reader has sent no error. -/
structure Clean (session : NonBlockingPortablePtySession) : Prop where
  pendingError_eq : session.pendingError = none
  error_notMem : ∀ error, .error error ∉ session.outputRx

/-- What `drain_ready_output` does. -/
structure Drains (session session' : NonBlockingPortablePtySession) : Prop where
  sane : session'.Sane
  held_eq : session'.held = session.held
  signal_eq : session'.outputSignal = session.outputSignal
  emptied : session'.pendingOutput = [] → session'.outputRx = []
  clean : session.Clean → session'.Clean

theorem drains_drainLoop {rx : List OutputMessage} {chunks bytes : ℕ}
    (h : Sane { session with outputRx := rx }) (herror : session.pendingError = none)
    (hlimit : session.pendingOutput = [] → chunks = 0 ∧ bytes = 0) :
    Drains { session with outputRx := rx } (session.drainLoop chunks bytes rx) := by
  induction rx generalizing session chunks bytes with
  | nil => exact ⟨h, rfl, rfl, fun _ => rfl, id⟩
  | cons message rx ih =>
    rw [drainLoop.eq_def]
    dsimp only
    split_ifs with htick hqueue
    · refine ⟨h, rfl, rfl, fun hpending => ?_, id⟩
      obtain ⟨rfl, rfl⟩ := hlimit hpending
      simp [readyOutputDrainMaxChunks, readyOutputDrainMaxBytes] at htick
    · refine ⟨h, rfl, rfl, fun hpending => ?_, id⟩
      have hbytes := h.bytes_eq
      simp only at hpending hbytes
      simp [hbytes, hpending, outputQueueMaxMessages, outputQueueMaxBytes,
        readerChunkBytes] at hqueue
    · -- the tail of the queue is as well formed as the queue
      have hlast : ∀ front error back, rx = front ++ .error error :: back → back = [] :=
        fun front error back hrx => h.error_last (message :: front) error back (by rw [hrx]; rfl)
      cases message with
      | ok chunk =>
        dsimp only
        split_ifs with hchunk
        · have hsane : Sane { session with
              outputRx := rx
              pendingOutputBytes := session.pendingOutputBytes + chunk.length
              pendingOutput := session.pendingOutput ++ [chunk] } := by
            refine ⟨?_, ?_, hlast, fun hsome => ?_⟩
            · have hbytes : session.pendingOutputBytes = session.pendingOutput.flatten.length :=
                h.bytes_eq
              rw [hbytes, List.flatten_append, List.length_append, List.flatten_singleton]
            · simpa [Ne.symm hchunk] using h.nil_notMem
            · simp [herror] at hsome
          have hdrains := @ih { session with
              pendingOutputBytes := session.pendingOutputBytes + chunk.length
              pendingOutput := session.pendingOutput ++ [chunk] }
            (chunks + 1) (bytes + chunk.length) hsane herror (by simp)
          refine ⟨hdrains.sane, hdrains.held_eq.trans ?_, hdrains.signal_eq, hdrains.emptied,
            fun hclean => hdrains.clean ⟨herror, fun error hmem => ?_⟩⟩
          · simp [held, messageData]
          · exact hclean.error_notMem error (List.mem_cons_of_mem _ hmem)
        · obtain rfl : chunk = [] := not_not.mp hchunk
          have hsane : Sane { session with outputRx := rx } :=
            ⟨h.bytes_eq, h.nil_notMem, hlast, fun hsome => by simp [herror] at hsome⟩
          have hdrains := ih hsane herror hlimit
          refine ⟨hdrains.sane, hdrains.held_eq, hdrains.signal_eq, hdrains.emptied,
            fun hclean => hdrains.clean ⟨herror, fun error hmem => ?_⟩⟩
          exact hclean.error_notMem error (List.mem_cons_of_mem _ hmem)
      | error error =>
        obtain rfl : rx = [] := h.error_last [] error rx rfl
        refine ⟨⟨h.bytes_eq, h.nil_notMem, hlast, fun _ => rfl⟩, rfl, rfl, fun _ => rfl,
          fun hclean => ?_⟩
        exact absurd List.mem_cons_self (hclean.error_notMem error)

/-- What is sent while no error was sent keeps errors last. -/
theorem Sane.push (h : session.Sane) (hclean : session.Clean) (message : OutputMessage) :
    Sane { session with outputRx := session.outputRx ++ [message] } := by
  refine ⟨h.bytes_eq, h.nil_notMem, fun front error back hrx => ?_, fun herror => ?_⟩
  · obtain rfl | ⟨back, last, rfl⟩ := List.eq_nil_or_concat back
    · rfl
    · rw [List.concat_eq_append, ← List.cons_append, ← List.append_assoc] at hrx
      obtain ⟨hrx, -⟩ := List.append_inj' hrx rfl
      exact absurd (by simp [hrx]) (hclean.error_notMem error)
  · simp [hclean.pendingError_eq] at herror

theorem held_push (session : NonBlockingPortablePtySession) (message : OutputMessage) :
    held { session with outputRx := session.outputRx ++ [message] } =
      session.held ++ messageData message := by
  simp [held]

theorem Sane.drains (h : session.Sane) : session.Drains session.drainReadyOutput := by
  rw [drainReadyOutput]
  split_ifs with herror
  · exact ⟨h, rfl, rfl, fun _ => h.error_taken herror, id⟩
  · exact drains_drainLoop h (by simpa using herror) fun _ => ⟨rfl, rfl⟩

/-- **What `read` does**: what it returns comes first of what the session held, and it returns
nothing only when the session holds nothing. -/
structure Reads (session session' : NonBlockingPortablePtySession) (result : OutputMessage) :
    Prop where
  sane : session'.Sane
  held_eq : session.held = messageData result ++ session'.held
  held_eq_nil : messageData result = [] → session'.held = []
  signal_le : session.outputSignal ≤ session'.outputSignal
  clean : session.Clean → session'.Clean

theorem Sane.reads (h : session.Sane) (bufferLen : ℕ) (hlen : 0 < bufferLen) :
    session.Reads (session.read bufferLen).1 (session.read bufferLen).2 := by
  have hdrains := h.drains
  rw [read, if_neg hlen.ne', takeOutput]
  generalize session.drainReadyOutput = drained at hdrains
  dsimp only
  split
  · rename_i hpending
    have hheld : drained.held = [] := by simp [held, hpending, hdrains.emptied hpending]
    split
    · rename_i error herror
      refine ⟨⟨hdrains.sane.bytes_eq, hdrains.sane.nil_notMem, hdrains.sane.error_last, nofun⟩,
        ?_, fun _ => hheld, hdrains.signal_eq.ge, fun hclean => ?_⟩
      · exact hdrains.held_eq.symm
      · exact ⟨rfl, (hdrains.clean hclean).error_notMem⟩
    · exact ⟨hdrains.sane, hdrains.held_eq.symm, fun _ => hheld, hdrains.signal_eq.ge,
        hdrains.clean⟩
  · rename_i chunk pending hpending
    have hchunk : chunk ≠ [] := by
      rintro rfl
      exact hdrains.sane.nil_notMem (by simp [hpending])
    have hbytes := hdrains.sane.bytes_eq
    have hnil := hdrains.sane.nil_notMem
    rw [hpending] at hbytes hnil
    rw [List.flatten_cons, List.length_append] at hbytes
    -- what is left of the session before it signals
    generalize hleft : (if chunk.drop bufferLen ≠ [] then
      ({ drained with
        pendingOutput := chunk.drop bufferLen :: pending
        pendingOutputBytes := drained.pendingOutputBytes - chunk.length +
          (chunk.drop bufferLen).length } : NonBlockingPortablePtySession)
      else { drained with
        pendingOutput := pending
        pendingOutputBytes := drained.pendingOutputBytes - chunk.length }) = left
    have hreads : session.Reads left (.ok (chunk.take bufferLen)) := by
      have htake : chunk.take bufferLen ≠ [] := by simp [hchunk, hlen.ne']
      have hheld : session.held =
          chunk ++ (pending.flatten ++ drained.outputRx.flatMap messageData) := by
        rw [← hdrains.held_eq, held, hpending, List.flatten_cons, List.append_assoc]
      rw [← hleft]
      split_ifs with hrest
      · refine ⟨⟨?_, ?_, hdrains.sane.error_last, hdrains.sane.error_taken⟩, ?_,
          fun hdata => absurd hdata htake, hdrains.signal_eq.ge, fun hclean =>
            ⟨(hdrains.clean hclean).pendingError_eq, (hdrains.clean hclean).error_notMem⟩⟩
        · rw [List.flatten_cons, List.length_append]
          dsimp only
          omega
        · exact List.not_mem_cons_of_ne_of_not_mem (Ne.symm hrest) (List.not_mem_of_not_mem_cons hnil)
        · rw [hheld, messageData, held, List.flatten_cons, List.append_assoc,
            ← List.append_assoc (chunk.take bufferLen), List.take_append_drop]
      · refine ⟨⟨?_, List.not_mem_of_not_mem_cons hnil, hdrains.sane.error_last,
          hdrains.sane.error_taken⟩, ?_, fun hdata => absurd hdata htake, hdrains.signal_eq.ge,
          fun hclean =>
            ⟨(hdrains.clean hclean).pendingError_eq, (hdrains.clean hclean).error_notMem⟩⟩
        · dsimp only
          omega
        · have hall : chunk.take bufferLen = chunk :=
            List.take_of_length_le (List.drop_eq_nil_iff.mp (not_not.mp hrest))
          rw [hheld, messageData, held, hall]
    split_ifs
    · exact ⟨⟨hreads.sane.bytes_eq, hreads.sane.nil_notMem, hreads.sane.error_last,
        hreads.sane.error_taken⟩, hreads.held_eq, hreads.held_eq_nil,
        hreads.signal_le.trans (Nat.le_succ _), fun hclean => ⟨(hreads.clean hclean).pendingError_eq,
          (hreads.clean hclean).error_notMem⟩⟩
    · exact hreads

end NonBlockingPortablePtySession

/-! ### What the reader and the pump do with the bytes -/

/-- The reader may send another message. -/
def ReaderPhase.mayRead : ReaderPhase → Bool
  | .reading | .sending _ | .signalling false => true
  | .signalling true | .ended => false

/-- The pump waits for a signal before it reads again. -/
def PumpPhase.idles : PumpPhase → Bool
  | .draining .. => false
  | .publishing _ next => next.idles
  | .idle => true

namespace PumpPhase

variable {chunks bytes : ℕ} {batch buffer : List UInt8} {result : OutputMessage}

@[simp] theorem held_extend : (extend chunks bytes batch buffer).held = batch ++ buffer := by
  rw [extend]
  split_ifs <;> simp [held]

@[simp] theorem idles_extend : (extend chunks bytes batch buffer).idles = false := by
  rw [extend]
  split_ifs <;> rfl

theorem held_received : (received chunks bytes batch result).held = batch ++ messageData result := by
  rw [received.eq_def]
  split
  · simp [held, messageData]
  · simp [held, messageData]
  · dsimp only
    split_ifs <;> simp [held, messageData]

/-- The pump idles only when it was given nothing. -/
theorem messageData_of_idles (h : (received chunks bytes batch result).idles) :
    messageData result = [] := by
  rw [received.eq_def] at h
  split at h
  · rfl
  · rfl
  · dsimp only at h
    split_ifs at h <;> simp [idles] at h

end PumpPhase

theorem terminalSeq_le_of_mem_recorded {ops : List CacheOp} {event : TerminalEvent}
    (h : event ∈ recorded ops) : event.terminalSeq ≤ ops.length := by
  induction ops using List.reverseRecOn with
  | nil => simp at h
  | append_singleton ops op ih =>
    rw [recorded_snoc, List.mem_append, List.mem_singleton] at h
    rw [List.length_append, List.length_singleton]
    obtain h | rfl := h
    · exact (ih h).trans (Nat.le_succ _)
    · exact (terminalSeq_event ..).le

/-! ### No byte is lost -/

namespace OutputPath

variable {width : Char → Option (Fin 3)} {size : PtySize} {w w' : OutputPath} {op : OutputOp}

/-- **The invariant of every run**: each byte is in one hand, in the order in which it was written,
and a pump that idles while there is something to read has a signal to see. -/
structure Carried (width : Char → Option (Fin 3)) (size : PtySize) (w : OutputPath) : Prop where
  follows : w.state.terminal.Follows width size w.log
  sane : w.session.Sane
  clean : w.reader.mayRead → w.session.Clean
  delivered_eq : w.delivered = w.outputs ++ (w.pump.held ++ w.session.held)
  written_eq : w.written = w.delivered ++ (w.reader.held ++ w.kernel)
  seen_le : w.seen ≤ w.session.outputSignal
  signalled : w.pump.idles → w.session.held ≠ [] →
    w.seen < w.session.outputSignal ∨ ∃ last, w.reader = .signalling last
  exited : ∀ code, w.watcher = .recording code → w.exitStatus.isSome
  exit_free : w.watcher ≠ .ended → ∀ event ∈ recorded w.log, ¬event.isExit
  exit_unique : (recorded w.log).countP TerminalEvent.isExit ≤ 1
  exit_exited : ∀ event ∈ recorded w.log, event.isExit → w.exitStatus.isSome

theorem carried_new (cleanupCapability : Option (List UInt8)) :
    (new size cleanupCapability).Carried width size where
  follows := SupervisorTerminalCache.follows_new
  sane := ⟨rfl, nofun, by simp [new], nofun⟩
  clean _ := ⟨rfl, nofun⟩
  delivered_eq := rfl
  written_eq := rfl
  seen_le := le_rfl
  signalled := nofun
  exited := nofun
  exit_free _ := nofun
  exit_unique := Nat.zero_le 1
  exit_exited := nofun

theorem Carried.written_eq_outputs (h : w.Carried width size) :
    w.written = w.outputs ++ w.inFlight := by
  rw [h.written_eq, h.delivered_eq, inFlight]
  simp only [List.append_assoc]

theorem Carried.outputs_eq (h : w.Carried width size) (hreader : w.reader = .ended)
    (hpump : w.pump = .idle) (hseen : w.seen = w.session.outputSignal) :
    w.outputs = w.delivered := by
  have hheld : w.session.held = [] := by
    by_contra hheld
    obtain hlt | ⟨last, hlast⟩ := h.signalled (by rw [hpump]; rfl) hheld
    · exact hlt.ne hseen
    · exact nomatch hlast.symm.trans hreader
  rw [h.delivered_eq, hpump, hheld, PumpPhase.held, List.append_nil, List.append_nil]

theorem outputs_of_snoc {op : CacheOp} (hlog : w'.log = w.log ++ [op]) :
    w'.outputs = w.outputs ++ (op.event (w.log.length + 1)).outputData := by
  simp [outputs, hlog, recorded_snoc]

/-- What `record` does. -/
theorem record_eq_some {op : CacheOp} (hrecord : w.record width op = some w')
    (h : w.state.terminal.Follows width size w.log) :
    ∃ state, state.terminal.Follows width size (w.log ++ [op]) ∧
      w' = { w with state, log := w.log ++ [op] } := by
  simp only [record, Option.bind_eq_bind, Option.bind_eq_some_iff, Option.pure_def,
    Option.some.injEq] at hrecord
  obtain ⟨⟨state, frame⟩, hstate, rfl⟩ := hrecord
  obtain ⟨r, hr, hfollows, -⟩ := h.call op
  have hterminal := SupervisorState.record_eq_some hstate
  rw [hr, Option.some.injEq] at hterminal
  rw [hterminal] at hfollows
  exact ⟨state, hfollows, rfl⟩

/-- **Recording an event** that is not an exit: the bytes of the event leave the pump. -/
theorem Carried.record (h : w.Carried width size) (op : CacheOp) {pump : PumpPhase}
    (hexit : ∀ seq, ¬(op.event seq).isExit)
    (hheld : w.pump.held = (op.event (w.log.length + 1)).outputData ++ pump.held)
    (hidles : pump.idles → w.pump.idles)
    {state : SupervisorState} (hstate : state.terminal.Follows width size (w.log ++ [op])) :
    Carried width size { w with pump, state, log := w.log ++ [op] } := by
  have hmem : ∀ event ∈ recorded (w.log ++ [op]), event.isExit → event ∈ recorded w.log := by
    intro event hevent htrue
    rw [recorded_snoc, List.mem_append, List.mem_singleton] at hevent
    obtain hevent | rfl := hevent
    · exact hevent
    · exact absurd htrue (hexit _)
  refine { h with
    follows := hstate
    delivered_eq := ?_
    signalled := fun hpump => h.signalled (hidles hpump)
    exit_free := fun hwatcher event hevent htrue =>
      h.exit_free hwatcher event (hmem event hevent htrue) htrue
    exit_unique := ?_
    exit_exited := fun event hevent htrue => h.exit_exited event (hmem event hevent htrue) htrue }
  · have houtputs : outputs { w with pump, state, log := w.log ++ [op] } = _ := outputs_of_snoc rfl
    rw [houtputs]
    refine h.delivered_eq.trans ?_
    rw [hheld]
    simp only [List.append_assoc]
  · dsimp only
    rw [recorded_snoc, List.countP_append, List.countP_singleton, if_neg (hexit _), Nat.add_zero]
    exact h.exit_unique

/-- `reader.read` returns: what leaves the kernel's buffer is in the reader's hands. -/
theorem Carried.read (h : w.Carried width size) (hreading : w.reader = .reading)
    {reader : ReaderPhase} {kernel : List UInt8} (hheld : reader.held ++ kernel = w.kernel) :
    Carried width size { w with reader, kernel } := by
  have hwritten := h.written_eq
  rw [hreading] at hwritten
  refine { h with
    clean := fun _ => h.clean (by rw [hreading]; rfl)
    written_eq := hwritten.trans (congrArg (w.delivered ++ ·) hheld.symm)
    signalled := fun hidles hsession => (h.signalled hidles hsession).imp_right ?_ }
  rintro ⟨last, hlast⟩
  exact nomatch hlast.symm.trans hreading

theorem Carried.send (h : w.Carried width size) (hstep : step width w .send = some w') :
    w'.Carried width size := by
  simp only [OutputPath.step] at hstep
  split at hstep
  · rename_i message hreader
    have hclean : w.session.Clean := h.clean (by rw [hreader]; rfl)
    have hsane := h.sane.push hclean message
    have hheld := NonBlockingPortablePtySession.held_push w.session message
    have hwritten := h.written_eq
    rw [hreader] at hwritten
    split_ifs at hstep
    cases message with
    | ok chunk =>
      obtain rfl := Option.some.inj hstep
      refine { h with
        sane := hsane
        clean := fun _ => ⟨hclean.pendingError_eq, fun error hmem => ?_⟩
        delivered_eq := ?_
        written_eq := ?_
        signalled := fun _ _ => .inr ⟨false, rfl⟩ }
      · obtain hmem | hmem := List.mem_append.mp hmem
        · exact hclean.error_notMem error hmem
        · cases List.mem_singleton.mp hmem
      · refine (congrArg (· ++ chunk) h.delivered_eq).trans ?_
        rw [hheld]
        simp only [messageData, List.append_assoc]
        rfl
      · refine hwritten.trans ?_
        simp only [ReaderPhase.held, List.append_assoc, List.nil_append]
    | error error =>
      obtain rfl := Option.some.inj hstep
      refine { h with
        sane := hsane
        clean := nofun
        delivered_eq := ?_
        written_eq := hwritten
        signalled := fun _ _ => .inr ⟨true, rfl⟩ }
      refine h.delivered_eq.trans ?_
      rw [hheld, messageData, List.append_nil]
      rfl
  · cases hstep

theorem Carried.signal (h : w.Carried width size) (hstep : step width w .signal = some w') :
    w'.Carried width size := by
  simp only [OutputPath.step] at hstep
  split at hstep
  · rename_i last hreader
    obtain rfl := Option.some.inj hstep
    have hwritten := h.written_eq
    rw [hreader] at hwritten
    refine { h with
      sane := ⟨h.sane.bytes_eq, h.sane.nil_notMem, h.sane.error_last, h.sane.error_taken⟩
      clean := fun hread => ?_
      delivered_eq := h.delivered_eq
      written_eq := ?_
      seen_le := h.seen_le.trans (Nat.le_succ _)
      signalled := fun _ _ => .inl (Nat.lt_succ_of_le h.seen_le) }
    · cases last with
      | false =>
        have hclean := h.clean (by rw [hreader]; rfl)
        exact ⟨hclean.pendingError_eq, hclean.error_notMem⟩
      | true => cases hread
    · cases last <;> exact hwritten
  · cases hstep

theorem Carried.drain (h : w.Carried width size) (hstep : step width w .drain = some w') :
    w'.Carried width size := by
  simp only [OutputPath.step] at hstep
  split at hstep
  · rename_i chunks bytes batch hpump
    have hdelivered := h.delivered_eq
    rw [hpump] at hdelivered
    split_ifs at hstep
    · obtain rfl := Option.some.inj hstep
      refine { h with delivered_eq := hdelivered.trans ?_, signalled := nofun }
      simp only [PumpPhase.held, List.append_nil]
      rfl
    · obtain rfl := Option.some.inj hstep
      have hreads : w.session.Reads _ _ :=
        h.sane.reads supervisorOutputPumpChunkBytes (by decide)
      refine { h with
        sane := hreads.sane
        clean := fun hread => hreads.clean (h.clean hread)
        delivered_eq := hdelivered.trans ?_
        seen_le := h.seen_le.trans hreads.signal_le
        signalled := fun hidles hheld => ?_ }
      · dsimp only
        rw [PumpPhase.held_received, PumpPhase.held, hreads.held_eq]
        simp only [List.append_assoc]
        rfl
      · exact absurd (hreads.held_eq_nil (PumpPhase.messageData_of_idles hidles)) hheld
  · cases hstep

theorem Carried.publish (h : w.Carried width size) (hstep : step width w .publish = some w') :
    w'.Carried width size := by
  simp only [OutputPath.step] at hstep
  split at hstep
  · rename_i batch next hpump
    split_ifs at hstep with hbatch
    · obtain rfl := Option.some.inj hstep
      refine { h with
        delivered_eq := h.delivered_eq.trans ?_
        signalled := fun hidles => h.signalled (by rw [hpump]; exact hidles) }
      rw [hpump, PumpPhase.held, hbatch, List.nil_append]
      rfl
    · obtain ⟨state, hstate, rfl⟩ := record_eq_some hstep h.follows
      refine h.record (.output batch) (fun _ => Bool.false_ne_true) ?_ (fun hidles => ?_) hstate
      · rw [hpump]
        rfl
      · rw [hpump]
        exact hidles
  · cases hstep

theorem Carried.recordExit (h : w.Carried width size)
    (hstep : step width w .recordExit = some w') : w'.Carried width size := by
  simp only [OutputPath.step] at hstep
  split at hstep
  · rename_i code hwatcher
    obtain ⟨state, hstate, rfl⟩ := record_eq_some hstep h.follows
    have hfree : ∀ event ∈ recorded w.log, ¬event.isExit :=
      h.exit_free fun hended => nomatch hwatcher.symm.trans hended
    refine { h with
      follows := hstate
      delivered_eq := ?_
      exited := nofun
      exit_free := fun hended => absurd rfl hended
      exit_unique := ?_
      exit_exited := fun event hevent hexit => h.exited code hwatcher }
    · refine h.delivered_eq.trans (congrArg (· ++ _) ?_)
      exact ((outputs_of_snoc rfl).trans (List.append_nil _)).symm
    · dsimp only
      rw [recorded_snoc, List.countP_append, List.countP_eq_zero.mpr hfree]
      exact le_rfl
  · cases hstep

/-- **A step** loses no byte. -/
theorem Carried.step (h : w.Carried width size) (hstep : step width w op = some w') :
    w'.Carried width size := by
  cases op with
  | write bytes =>
    simp only [OutputPath.step] at hstep
    split_ifs at hstep
    obtain rfl := Option.some.inj hstep
    refine { h with written_eq := (congrArg (· ++ bytes) h.written_eq).trans ?_ }
    simp only [List.append_assoc]
  | exit status =>
    simp only [OutputPath.step] at hstep
    split_ifs at hstep
    obtain rfl := Option.some.inj hstep
    exact { h with exited := fun _ _ => rfl, exit_exited := fun _ _ _ => rfl }
  | readPty n =>
    simp only [OutputPath.step] at hstep
    split_ifs at hstep with hread
    obtain rfl := Option.some.inj hstep
    exact h.read hread.1 (List.take_append_drop n w.kernel)
  | readEof =>
    simp only [OutputPath.step] at hstep
    split_ifs at hstep with hread
    obtain rfl := Option.some.inj hstep
    exact h.read hread.1 rfl
  | readError error =>
    simp only [OutputPath.step] at hstep
    split_ifs at hstep with hreading
    obtain rfl := Option.some.inj hstep
    exact h.read hreading rfl
  | send => exact h.send hstep
  | signal => exact h.signal hstep
  | drain => exact h.drain hstep
  | publish => exact h.publish hstep
  | changed =>
    simp only [OutputPath.step] at hstep
    split_ifs at hstep with hchanged
    obtain rfl := Option.some.inj hstep
    have hdelivered := h.delivered_eq
    rw [hchanged.1] at hdelivered
    exact { h with delivered_eq := hdelivered, seen_le := le_rfl, signalled := nofun }
  | tryWait =>
    simp only [OutputPath.step] at hstep
    split_ifs at hstep with hpolling
    split at hstep
    · rename_i status hstatus
      obtain rfl := Option.some.inj hstep
      refine { h with
        exited := fun _ _ => Option.isSome_of_eq_some hstatus
        exit_free := fun _ => h.exit_free (by rw [hpolling]; exact nofun) }
    · exact Option.some.inj hstep ▸ h
  | tryWaitError =>
    simp only [OutputPath.step] at hstep
    split_ifs at hstep
    obtain rfl := Option.some.inj hstep
    exact { h with exited := nofun, exit_free := fun hended => absurd rfl hended }
  | recordExit => exact h.recordExit hstep
  | resize size =>
    obtain ⟨state, hstate, rfl⟩ := record_eq_some hstep h.follows
    exact h.record (.resize size) (fun _ => Bool.false_ne_true) rfl id hstate

/-! ### Nothing follows the exit -/

/-- A client prints all output up to the exit. -/
theorem printed_queue_append {events : List TerminalEvent} (h : ∀ event ∈ events, ¬event.isExit)
    (rest : List TerminalStreamEvent) :
    printed (events.flatMap (fun event => queueTerminalFrame event.toTerminalFrame) ++ rest) =
      events.flatMap TerminalEvent.outputData ++ printed rest := by
  induction events with
  | nil => rfl
  | cons event events ih =>
    obtain ⟨hevent, hevents⟩ := List.forall_mem_cons.mp h
    rw [List.flatMap_cons, List.flatMap_cons, List.append_assoc, List.append_assoc, ← ih hevents]
    cases event with
    | output seq bytes =>
      by_cases hbytes : bytes = [] <;>
        simp [queueTerminalFrame, TerminalEvent.toTerminalFrame, TerminalEvent.outputData, printed,
          hbytes]
    | resize seq size => rfl
    | exit seq code => exact absurd rfl hevent

/-- **What a step can do** to the log and to what the child has written. -/
theorem step_cases (hstep : step width w op = some w')
    (h : w.state.terminal.Follows width size w.log) :
    (w.exitStatus = none ∨ w'.written = w.written) ∧
      (w'.log = w.log ∨
        (∃ size, w'.log = w.log ++ [.resize size]) ∨
        (∃ batch next, w.pump = .publishing batch next ∧ batch ≠ [] ∧
          w'.log = w.log ++ [.output batch]) ∨
        ∃ code, op = .recordExit ∧ w.watcher = .recording code ∧
          w'.log = w.log ++ [.exit code]) := by
  cases op with
  | write bytes =>
    simp only [OutputPath.step] at hstep
    split_ifs at hstep with hexited
    obtain rfl := Option.some.inj hstep
    exact ⟨.inl (by simpa using hexited), .inl rfl⟩
  | send =>
    simp only [OutputPath.step] at hstep
    split at hstep
    · split_ifs at hstep
      split at hstep <;>
      · obtain rfl := Option.some.inj hstep
        exact ⟨.inr rfl, .inl rfl⟩
    · cases hstep
  | signal =>
    simp only [OutputPath.step] at hstep
    split at hstep
    · obtain rfl := Option.some.inj hstep
      exact ⟨.inr rfl, .inl rfl⟩
    · cases hstep
  | drain =>
    simp only [OutputPath.step] at hstep
    split at hstep
    · split_ifs at hstep <;>
      · obtain rfl := Option.some.inj hstep
        exact ⟨.inr rfl, .inl rfl⟩
    · cases hstep
  | publish =>
    simp only [OutputPath.step] at hstep
    split at hstep
    · rename_i batch next hpump
      split_ifs at hstep with hbatch
      · obtain rfl := Option.some.inj hstep
        exact ⟨.inr rfl, .inl rfl⟩
      · obtain ⟨state, -, rfl⟩ := record_eq_some hstep h
        exact ⟨.inr rfl, .inr (.inr (.inl ⟨batch, next, hpump, hbatch, rfl⟩))⟩
    · cases hstep
  | tryWait =>
    simp only [OutputPath.step] at hstep
    split_ifs at hstep
    split at hstep <;>
    · obtain rfl := Option.some.inj hstep
      exact ⟨.inr rfl, .inl rfl⟩
  | recordExit =>
    simp only [OutputPath.step] at hstep
    split at hstep
    · rename_i code hwatcher
      obtain ⟨state, -, rfl⟩ := record_eq_some hstep h
      exact ⟨.inr rfl, .inr (.inr (.inr ⟨code, rfl, hwatcher, rfl⟩))⟩
    · cases hstep
  | resize size =>
    obtain ⟨state, -, rfl⟩ := record_eq_some hstep h
    exact ⟨.inr rfl, .inr (.inl ⟨size, rfl⟩)⟩
  | exit | readPty | readEof | readError | changed | tryWaitError =>
    simp only [OutputPath.step] at hstep
    split_ifs at hstep
    obtain rfl := Option.some.inj hstep
    exact ⟨.inr rfl, .inl rfl⟩

/-- **The invariant of the allowed runs**: after the exit no byte is in flight. -/
structure Settled (width : Char → Option (Fin 3)) (size : PtySize) (w : OutputPath) : Prop
    extends Carried width size w where
  inFlight_eq : ∀ event ∈ recorded w.log, event.isExit → w.inFlight = []
  output_before_exit : ∀ seq bytes exitSeq code, .output seq bytes ∈ recorded w.log →
    .exit exitSeq code ∈ recorded w.log → seq < exitSeq
  received_all : ∀ exitSeq code, .exit exitSeq code ∈ recorded w.log → w.clientOutput = w.written

theorem Settled.complete (h : w.Settled width size) : w.Complete width size where
  follows := h.follows
  outputs_prefix := ⟨_, h.delivered_eq.symm⟩
  outputs_eq := h.toCarried.outputs_eq
  exit_unique := h.exit_unique
  output_before_exit := h.output_before_exit
  received_all := h.received_all

theorem settled_new (cleanupCapability : Option (List UInt8)) :
    (new size cleanupCapability).Settled width size where
  toCarried := carried_new cleanupCapability
  inFlight_eq := nofun
  output_before_exit := nofun
  received_all := nofun

/-- What is in flight changes only when something is written or recorded. -/
theorem Carried.inFlight_eq_inFlight (h : w.Carried width size) (h' : w'.Carried width size)
    (hwritten : w'.written = w.written) (houtputs : w'.outputs = w.outputs) :
    w'.inFlight = w.inFlight := by
  have heq := h'.written_eq_outputs.symm.trans (hwritten.trans h.written_eq_outputs)
  rw [houtputs] at heq
  exact List.append_cancel_left heq

/-- Steps that record nothing, or a resize. -/
theorem Settled.keep (h : w.Settled width size) (h' : w'.Carried width size)
    (hwritten : w.exitStatus = none ∨ w'.written = w.written)
    (hevents : ∀ event ∈ recorded w'.log, event ∈ recorded w.log ∨ event.isResize)
    (houtputs : w'.outputs = w.outputs) (hclient : w'.clientOutput = w.clientOutput) :
    w'.Settled width size := by
  have hmem : ∀ event ∈ recorded w'.log, event.isExit → event ∈ recorded w.log := by
    intro event hevent hexit
    refine (hevents event hevent).resolve_right fun hresize => ?_
    cases event <;> simp_all [TerminalEvent.isExit, TerminalEvent.isResize]
  have hsame : ∀ event ∈ recorded w.log, event.isExit → w'.written = w.written := by
    intro event hevent hexit
    refine hwritten.resolve_left fun hnone => ?_
    simpa [hnone] using h.exit_exited event hevent hexit
  refine { h' with inFlight_eq := ?_, output_before_exit := ?_, received_all := ?_ }
  · intro event hevent hexit
    have hevent := hmem event hevent hexit
    rw [h.toCarried.inFlight_eq_inFlight h' (hsame event hevent hexit) houtputs]
    exact h.inFlight_eq event hevent hexit
  · intro seq bytes exitSeq code houtput hexit
    refine h.output_before_exit seq bytes exitSeq code ?_ (hmem _ hexit rfl)
    exact (hevents _ houtput).resolve_right Bool.false_ne_true
  · intro exitSeq code hexit
    have hexit := hmem _ hexit rfl
    rw [hclient, hsame _ hexit rfl]
    exact h.received_all exitSeq code hexit

theorem clientOutput_of_exit {code : Option Int32}
    (hfree : ∀ event ∈ recorded w.log, ¬event.isExit) (hlog : w'.log = w.log ++ [.exit code]) :
    w'.clientOutput = w.outputs := by
  rw [clientOutput, hlog, recorded_snoc, List.flatMap_append, List.flatMap_singleton,
    printed_queue_append hfree]
  exact List.append_nil _

/-- What holds when the exit watcher records the exit. -/
theorem Carried.of_recording (h : w.Carried width size) {code : Option Int32}
    (hwatcher : w.watcher = .recording code) :
    (∀ event ∈ recorded w.log, ¬event.isExit) ∧ w.exitStatus ≠ none := by
  refine ⟨h.exit_free fun hended => (nomatch hwatcher.symm.trans hended), fun hnone => ?_⟩
  simpa [hnone] using h.exited code hwatcher

/-- **An allowed step** records nothing after the exit. -/
theorem Settled.step (h : w.Settled width size) (hguard : w.settled op)
    (hstep : step width w op = some w') : w'.Settled width size := by
  have h' := h.toCarried.step hstep
  obtain ⟨hwritten, hlog | ⟨size, hlog⟩ | ⟨batch, next, hpump, hbatch, hlog⟩ |
    ⟨code, rfl, hwatcher, hlog⟩⟩ := step_cases hstep h.follows
  · refine h.keep h' hwritten (fun event hevent => .inl ?_) ?_ ?_
    · rwa [hlog] at hevent
    · rw [outputs, outputs, hlog]
    · rw [clientOutput, clientOutput, hlog]
  · refine h.keep h' hwritten (fun event hevent => ?_) ?_ ?_
    · rw [hlog, recorded_snoc, List.mem_append, List.mem_singleton] at hevent
      refine hevent.imp_right ?_
      rintro rfl
      rfl
    · exact (outputs_of_snoc hlog).trans (List.append_nil _)
    · simp [clientOutput, hlog, recorded_snoc, CacheOp.event, TerminalEvent.toTerminalFrame,
        queueTerminalFrame]
  · -- the batch is in flight, so that no exit was recorded
    have hfree : ∀ event ∈ recorded w'.log, ¬event.isExit := by
      intro event hevent hexit
      rw [hlog, recorded_snoc, List.mem_append, List.mem_singleton] at hevent
      obtain hevent | rfl := hevent
      · have hnil := h.inFlight_eq event hevent hexit
        simp [inFlight, hpump, PumpPhase.held, hbatch] at hnil
      · cases hexit
    exact { h' with
      inFlight_eq := fun event hevent hexit => absurd hexit (hfree event hevent)
      output_before_exit := fun _ _ _ _ _ hexit => absurd rfl (hfree _ hexit)
      received_all := fun _ _ hexit => absurd rfl (hfree _ hexit) }
  · obtain ⟨hfree, hexited⟩ := h.toCarried.of_recording hwatcher
    have hwritten := hwritten.resolve_left hexited
    have hnil : w.inFlight = [] := of_decide_eq_true hguard
    have houtputs : w'.outputs = w.outputs := (outputs_of_snoc hlog).trans (List.append_nil _)
    refine { h' with inFlight_eq := ?_, output_before_exit := ?_, received_all := ?_ }
    · intro event hevent hexit
      rw [h.toCarried.inFlight_eq_inFlight h' hwritten houtputs, hnil]
    · intro seq bytes exitSeq exitCode houtput hexit
      rw [hlog, recorded_snoc, List.mem_append, List.mem_singleton] at houtput hexit
      obtain houtput | houtput := houtput
      · obtain hexit | hexit := hexit
        · exact absurd rfl (hfree _ hexit)
        · obtain ⟨rfl, -⟩ := TerminalEvent.exit.inj hexit
          exact Nat.lt_succ_of_le (terminalSeq_le_of_mem_recorded houtput)
      · cases houtput
    · intro exitSeq exitCode _
      rw [clientOutput_of_exit hfree hlog, hwritten, h.written_eq_outputs, hnil,
        List.append_nil]

/-- A step that is not allowed records the exit before bytes that are in flight. -/
theorem Settled.not_complete (h : w.Settled width size) (hguard : ¬w.settled op)
    (hstep : OutputPath.step width w op = some w') : ¬w'.Complete width size := by
  intro hcomplete
  obtain rfl : op = .recordExit := by
    cases op with
    | recordExit => rfl
    | _ => exact absurd rfl hguard
  obtain ⟨code, hwatcher, hlog, hwritten⟩ : ∃ code, w.watcher = .recording code ∧
      w'.log = w.log ++ [.exit code] ∧ w'.written = w.written := by
    simp only [OutputPath.step] at hstep
    split at hstep
    · rename_i code hwatcher
      obtain ⟨state, -, rfl⟩ := record_eq_some hstep h.follows
      exact ⟨code, hwatcher, rfl, rfl⟩
    · cases hstep
  obtain ⟨hfree, -⟩ := h.toCarried.of_recording hwatcher
  have hexit : .exit (w.log.length + 1) code ∈ recorded w'.log := by
    rw [hlog, recorded_snoc]
    exact List.mem_append_right _ List.mem_cons_self
  have hreceived := hcomplete.received_all _ _ hexit
  rw [clientOutput_of_exit hfree hlog, hwritten, h.written_eq_outputs] at hreceived
  exact hguard (decide_eq_true (List.self_eq_append_right.mp hreceived))

/-- **The log is complete throughout a run exactly when the exit is never recorded before a byte that
is in flight.** -/
theorem complete_iff_settled (width : Char → Option (Fin 3)) (size : PtySize)
    (cleanupCapability : Option (List UInt8)) (ops : List OutputOp) (w : OutputPath)
    (hrun : exec (step width) (new size cleanupCapability) ops = some w) :
    (∀ front back w, ops = front ++ back →
      exec (step width) (new size cleanupCapability) front = some w → w.Complete width size) ↔
      Along (step width) (fun w op => w.settled op) (new size cleanupCapability) ops :=
  forall_reached_iff_along (fun _ h => h.complete) (fun _ _ _ h => h.step)
    (fun _ _ _ h => h.not_complete) (settled_new cleanupCapability) hrun

/-- The pump records the last byte, and then the watcher the exit. -/
theorem complete_of_exit_after_pump : ∃ w,
    exec (step fun _ => some 1) (new ⟨2, 4, 0, 0⟩ none)
      [.write [0x61], .exit ⟨0, none⟩, .readPty 1, .send, .signal, .readEof, .drain, .drain,
        .publish, .tryWait, .recordExit] = some w ∧
      w.log = [.output [0x61], .exit (some 0)] ∧ w.Complete (fun _ => some 1) ⟨2, 4, 0, 0⟩ := by
  let ops : List OutputOp := [.write [0x61], .exit ⟨0, none⟩, .readPty 1, .send, .signal, .readEof,
    .drain, .drain, .publish, .tryWait, .recordExit]
  have hrun : (decide (Along (step fun _ => some 1) (fun w op => w.settled op = true)
      (new ⟨2, 4, 0, 0⟩ none) ops) &&
      (exec (step fun _ => some 1) (new ⟨2, 4, 0, 0⟩ none) ops).any fun w =>
        decide (w.log = [.output [0x61], .exit (some 0)])) = true := by
    decide +kernel
  rw [Bool.and_eq_true, decide_eq_true_eq] at hrun
  obtain ⟨w, hw, hlog⟩ := (Option.any_eq_true ..).mp hrun.2
  refine ⟨w, hw, of_decide_eq_true hlog, ?_⟩
  exact (complete_iff_settled _ _ none ops w hw).mpr hrun.1 ops [] w (List.append_nil ops).symm hw

/-- The watcher finds that the child has exited before the reader has read the last byte. -/
theorem not_complete_of_exit_before_pump :
    ¬∀ (width : Char → Option (Fin 3)) (size : PtySize) (cleanupCapability : Option (List UInt8))
      (ops : List OutputOp) (w : OutputPath),
      exec (step width) (new size cleanupCapability) ops = some w → w.Complete width size := by
  intro h
  let ops : List OutputOp := [.write [0x61], .exit ⟨0, none⟩, .tryWait, .recordExit, .readPty 1,
    .send, .signal, .drain, .drain, .publish]
  have hrun : ((exec (step fun _ => some 1) (new ⟨2, 4, 0, 0⟩ none) ops).any fun w =>
      decide (w.log = [.exit (some 0), .output [0x61]])) = true := by
    decide +kernel
  obtain ⟨w, hw, hlog⟩ := (Option.any_eq_true ..).mp hrun
  have hlog := of_decide_eq_true hlog
  have hcomplete := h _ _ none ops w hw
  have hlt : 2 < 1 := hcomplete.output_before_exit 2 [0x61] 1 (some 0)
    (by rw [hlog]; decide) (by rw [hlog]; decide)
  exact absurd hlt (by decide)

end OutputPath

end Termd.Pty
