import Mathlib.Data.List.Nodup
import Termd.Library.Transition

/-!
# The terminal opens of a browser client

A page has one terminal at a time. Each open supersedes the one before: the promise of that one is
rejected, its socket is closed, and a generation that was counted up tells its late events from
those of the new socket. The frames that come before the acknowledgement of an open are kept until
it is there, and are handed out after it with the frames that follow.

An open is numbered by its call, and its socket by the same number. What an event leads to at once
runs before the next event, so it is one step. A socket that was closed delivers no message.

## Main definitions

* `TerminalSocket`: a socket of the transport, from the request for its token on
* `V070Client`: the client with the terminal part of its transport
* `V070Client.openTerminal`, `handleTerminal`, `handleTerminalClose`: what the calls and events do
* `V070Client.Isolated`: opens that do not mix
* `V070Client.Supersedes`: what ends an open that waits

## Main results

* `V070Client.Opens.step`, `V070Client.Sockets.step`: what a step keeps
* `V070Client.isolated_of_run`: the opens over every run
-/

namespace Termd.Browser.Terminal

/-- A message of the daemon; a frame is the bytes of a binary message. -/
inductive TerminalMessage (F : Type*)
  /-- `terminal.created` or `terminal.attached` -/
  | acknowledged (session : ℕ)
  | error (code : Option String)
  | other
  | frame (bytes : F)

/-- What `receiveInner` hands out. -/
inductive Envelope (F : Type*)
  | attachFrame (session : ℕ) (bytes : F)
  | error (code : String)

inductive WorkspaceCommand
  | create
  | attach (session : ℕ)

/-- The session that an open waits for, if it is known. -/
def WorkspaceCommand.sessionId : WorkspaceCommand → Option ℕ
  | .create => none
  | .attach session => some session

structure PendingTerminalOpen where
  call : ℕ
  sessionId : Option ℕ
  /-- The open of `reconnectWithRefreshedToken`, which interrupts the receivers when it fails. -/
  refreshed : Bool

inductive SocketPhase
  | token
  | connecting
  /-- Closed before it was open; its error is still to come. -/
  | closing
  | opened
deriving DecidableEq

structure TerminalSocket where
  id : ℕ
  generation : ℕ
  refreshed : Bool
  phase : SocketPhase := .token

/-- The client and its transport; the last four fields are only recorded. -/
structure V070Client (F : Type*) where
  isClosed : Bool := false
  terminalSessionId : Option ℕ := none
  terminalOpen : Option PendingTerminalOpen := none
  pendingTerminalFrames : List F := []
  receiveQueue : List (Envelope F) := []
  receiveWaiters : List ℕ := []
  /-- `WorkspaceTransport` -/
  terminal : Option ℕ := none
  terminalOpening : Option ℕ := none
  terminalGeneration : ℕ := 0
  sockets : List TerminalSocket := []
  nextCall : ℕ := 0
  /-- The promises of `openTerminal` that are settled, with the session or the error. -/
  settled : List (ℕ × Except String ℕ) := []
  received : List (ℕ × TerminalMessage F) := []
  enqueued : List (ℕ × Envelope F) := []
  /-- What `receiveInner` has handed out, and to which call. -/
  handed : List (ℕ × Envelope F) := []

variable {F : Type*}

namespace V070Client

variable (s : V070Client F)

/-! ### Promises and the queue -/

def interruptReceiveWaiters : V070Client F := { s with receiveWaiters := [] }

/-- `resolve`; a promise that is settled stays as it is. -/
def resolveOpen (call session : ℕ) : V070Client F :=
  if call ∈ s.settled.map Prod.fst then s
  else { s with settled := s.settled ++ [(call, .ok session)] }

/-- `reject`, and what `reconnectWithRefreshedToken` does when its open fails. -/
def rejectOpen (call : ℕ) (refreshed : Bool) (error : String) : V070Client F :=
  if call ∈ s.settled.map Prod.fst then s
  else
    let s := { s with settled := s.settled ++ [(call, .error error)] }
    if refreshed then s.interruptReceiveWaiters else s

def enqueue (id : ℕ) (envelope : Envelope F) : V070Client F :=
  let s := { s with enqueued := s.enqueued ++ [(id, envelope)] }
  match s.receiveWaiters with
  | waiter :: waiters => { s with
      receiveWaiters := waiters, handed := s.handed ++ [(waiter, envelope)] }
  | [] => { s with receiveQueue := s.receiveQueue ++ [envelope] }

def receiveInner (call : ℕ) : V070Client F :=
  match s.receiveQueue with
  | envelope :: queue => { s with
      receiveQueue := queue, handed := s.handed ++ [(call, envelope)] }
  | [] => { s with receiveWaiters := s.receiveWaiters ++ [call] }

def resetTerminalState (error : String) : V070Client F :=
  let s := { s with terminalSessionId := none, pendingTerminalFrames := [] }
  match s.terminalOpen with
  | none => s
  | some pending => rejectOpen { s with terminalOpen := none } pending.call pending.refreshed error

/-! ### The transport -/

/-- `closeTerminal`: a socket that is open is gone, and one that is connecting will fail. -/
def closeTerminal : V070Client F :=
  { s with
    terminalGeneration := s.terminalGeneration + 1
    terminal := none
    terminalOpening := none
    sockets := (s.sockets.filter fun socket =>
        socket.phase ≠ .opened || s.terminal ≠ some socket.id).map fun socket =>
      if socket.phase = .connecting && s.terminalOpening = some socket.id then
        { socket with phase := .closing }
      else socket }

def setPhase (id : ℕ) (phase : SocketPhase) : V070Client F :=
  { s with sockets := s.sockets.map fun socket =>
      if socket.id = id then { socket with phase } else socket }

def removeSocket (id : ℕ) : V070Client F :=
  { s with sockets := s.sockets.filter fun socket => socket.id ≠ id }

/-- The promise of the transport is rejected, and with it that of the open. -/
def openRejected (socket : TerminalSocket) (error : String) : V070Client F :=
  let s :=
    if s.terminalOpen.any fun pending => pending.call = socket.id then
      { s with terminalOpen := none, pendingTerminalFrames := [] }
    else s
  s.rejectOpen socket.id socket.refreshed error

/-- An opening that failed. -/
def failOpening (socket : TerminalSocket) (error : String) : V070Client F :=
  let s := s.removeSocket socket.id
  if socket.generation ≠ s.terminalGeneration then s.openRejected socket "stale_connection"
  else openRejected { s with terminalOpening := none } socket error

/-- The socket is created, and its opening is noted unless another open came in between. -/
def created (socket : TerminalSocket) : V070Client F :=
  if socket.generation ≠ s.terminalGeneration then s.setPhase socket.id .closing
  else { s.setPhase socket.id .connecting with terminalOpening := some socket.id }

/-- The rest of `openTerminal` of the transport, when the socket is open. -/
def socketOpened (socket : TerminalSocket) : V070Client F :=
  let s := { s with
    terminalOpening := if s.terminalOpening = some socket.id then none else s.terminalOpening }
  if socket.generation ≠ s.terminalGeneration then
    (s.removeSocket socket.id).openRejected socket "stale_connection"
  else { s.setPhase socket.id .opened with terminal := some socket.id }

/-! ### Calls -/

/-- `openTerminal`; a call gets the next number. -/
def openTerminal (command : WorkspaceCommand) (refreshed : Bool) : V070Client F :=
  if s.isClosed then
    rejectOpen { s with nextCall := s.nextCall + 1 } s.nextCall refreshed "connection_closed"
  else
    let call := s.nextCall
    let s := (s.resetTerminalState "stale_connection").closeTerminal
    { s with
      terminalOpen := some { call, sessionId := command.sessionId, refreshed }
      sockets := s.sockets ++ [{ id := call, generation := s.terminalGeneration, refreshed }]
      nextCall := call + 1 }

/-- The part of `detachSession` and of `closeSession` about the terminal. -/
def detachSession (session : ℕ) : V070Client F :=
  if s.terminalSessionId = some session ||
      s.terminalOpen.any fun pending => pending.sessionId = some session then
    (s.resetTerminalState "connection_closed").closeTerminal
  else s

def close : V070Client F :=
  if s.isClosed then s
  else
    let s := resetTerminalState { s with isClosed := true } "connection_closed"
    s.closeTerminal.interruptReceiveWaiters

/-- The part of `reconnectWithRefreshedToken` about the terminal. -/
def reconnectWithRefreshedToken : V070Client F :=
  if s.isClosed then s
  else match s.terminalSessionId with
  | none => s
  | some session => s.openTerminal (.attach session) true

/-! ### Events -/

/-- `handleTerminal`; the socket is only recorded. -/
def handleTerminal (id : ℕ) : TerminalMessage F → V070Client F
  | .acknowledged session =>
    match s.terminalOpen with
    | none => s
    | some pending =>
      if s.isClosed then s
      else
        let s' := resolveOpen { s with
          terminalSessionId := some session
          terminalOpen := none
          pendingTerminalFrames := [] } pending.call session
        s.pendingTerminalFrames.foldl (fun s bytes => s.enqueue id (.attachFrame session bytes)) s'
  | .error code =>
    let error := code.getD "terminal_error"
    match s.terminalOpen with
    | some pending => rejectOpen { s with terminalOpen := none, pendingTerminalFrames := [] }
        pending.call pending.refreshed error
    | none => s.enqueue id (.error error)
  | .other => s
  | .frame bytes =>
    match s.terminalSessionId with
    | some session => s.enqueue id (.attachFrame session bytes)
    | none =>
      if s.terminalOpen.isSome then
        { s with pendingTerminalFrames := s.pendingTerminalFrames ++ [bytes] }
      else s

def handleTerminalClose : V070Client F :=
  if s.isClosed then s
  else
    let hadTerminal := s.terminalSessionId.isSome || s.terminalOpen.isSome
    let s := s.resetTerminalState "connection_closed"
    if hadTerminal then s.interruptReceiveWaiters else s

/-- A message of a socket, which is handled if the socket is the one of the transport. -/
def socketMessage (socket : TerminalSocket) (m : TerminalMessage F) : V070Client F :=
  let s := { s with received := s.received ++ [(socket.id, m)] }
  if socket.generation ≠ s.terminalGeneration then s
  else if s.terminal ≠ some socket.id && s.terminalOpening ≠ some socket.id then s
  else s.handleTerminal socket.id m

def socketClosed (socket : TerminalSocket) : V070Client F :=
  let s := s.removeSocket socket.id
  if socket.generation ≠ s.terminalGeneration || s.terminal ≠ some socket.id then s
  else handleTerminalClose { s with terminal := none }

end V070Client

/-- What the page and its network do. -/
inductive Op (F : Type*)
  | openTerminal (command : WorkspaceCommand)
  | detachSession (session : ℕ)
  | close
  | tokenRefreshed
  | receiveInner (call : ℕ)
  | interruptReceiveWaiters
  /-- The token for a socket is there, or there is none. -/
  | token (id : ℕ) (result : Except String Unit)
  | opened (id : ℕ)
  /-- The socket has an error or is closed while it is opened. -/
  | openFailed (id : ℕ)
  | message (id : ℕ) (m : TerminalMessage F)
  | closed (id : ℕ)

def receivedFrame (call : ℕ) : ℕ × TerminalMessage F → Option F
  | (id, .frame bytes) => if id = call then some bytes else none
  | _ => none

def enqueuedFrame (call : ℕ) : ℕ × Envelope F → Option F
  | (id, .attachFrame _ bytes) => if id = call then some bytes else none
  | _ => none

namespace V070Client

variable (s : V070Client F)

/-- The socket of an event that can happen in the phases that are given. -/
def socket (id : ℕ) (phases : List SocketPhase) : Option TerminalSocket :=
  s.sockets.find? fun socket => socket.id = id && socket.phase ∈ phases

def step : Op F → Option (V070Client F)
  | .openTerminal command => some (s.openTerminal command false)
  | .detachSession session => some (s.detachSession session)
  | .close => some s.close
  | .tokenRefreshed => some s.reconnectWithRefreshedToken
  | .receiveInner call => some (s.receiveInner call)
  | .interruptReceiveWaiters => some s.interruptReceiveWaiters
  | .token id (.ok ()) => (s.socket id [.token]).map s.created
  | .token id (.error error) => (s.socket id [.token]).map fun socket => s.failOpening socket error
  | .opened id => (s.socket id [.connecting]).map s.socketOpened
  | .openFailed id => (s.socket id [.connecting, .closing]).map fun socket =>
      s.failOpening socket "terminal websocket failed to open"
  | .message id m => (s.socket id [.opened]).map fun socket => s.socketMessage socket m
  | .closed id => (s.socket id [.opened]).map s.socketClosed

/-! ### What is claimed -/

/-- The frames that came over the socket of an open. -/
def framesReceived (call : ℕ) : List F :=
  s.received.filterMap (receivedFrame call)

/-- The frames of an open that were handed out, or are to be. -/
def framesEnqueued (call : ℕ) : List F :=
  s.enqueued.filterMap (enqueuedFrame call)

/-- Opens that do not mix. -/
structure Isolated : Prop where
  once : (s.settled.map Prod.fst).Nodup
  /-- An open resolves with what came over its own socket. -/
  own : ∀ call session, (call, Except.ok session) ∈ s.settled →
    (call, TerminalMessage.acknowledged session) ∈ s.received
  /-- Only the last open can be pending. -/
  superseded : ∀ call < s.nextCall, call ∈ s.settled.map Prod.fst ∨ call + 1 = s.nextCall ∧
    s.isClosed = false ∧ ∃ pending, s.terminalOpen = some pending ∧ pending.call = call
  prefixes : ∀ call, s.framesEnqueued call <+: s.framesReceived call
  complete : ∀ session, s.terminalSessionId = some session → ∃ call, s.terminal = some call ∧
    (call, Except.ok session) ∈ s.settled ∧ s.framesEnqueued call = s.framesReceived call
  attributed : ∀ call session bytes, (call, Envelope.attachFrame session bytes) ∈ s.enqueued →
    (call, Except.ok session) ∈ s.settled
  ordered : (s.enqueued.map Prod.fst).Pairwise (· ≤ ·)
  handed : s.handed.map Prod.snd ++ s.receiveQueue = s.enqueued.map Prod.snd

/-- What ends an open that waits: a newer open, the close of the client, or that the session which it
is to attach is detached or closed. -/
def Supersedes : Op F → Prop
  | .openTerminal _ | .close => True
  | .tokenRefreshed => s.terminalSessionId.isSome = true
  | .detachSession session =>
    ∃ pending, s.terminalOpen = some pending ∧ pending.sessionId = some session
  | _ => False

/-! ### The transport -/

/-- What the transport goes by. -/
def transport : List TerminalSocket × ℕ × ℕ × Bool × Option ℕ :=
  (s.sockets, s.nextCall, s.terminalGeneration, s.isClosed, s.terminal)

/-- A socket of the present generation is that of the last open, and an open one is the terminal. -/
structure Sockets : Prop where
  ids : (s.sockets.map TerminalSocket.id).Nodup
  old : ∀ socket ∈ s.sockets, socket.id < s.nextCall
  past : ∀ socket ∈ s.sockets, socket.generation ≤ s.terminalGeneration
  current : ∀ socket ∈ s.sockets, socket.generation = s.terminalGeneration →
    socket.id + 1 = s.nextCall ∧ s.isClosed = false
  opened : ∀ socket ∈ s.sockets, socket.phase = .opened →
    socket.generation = s.terminalGeneration ∧ s.terminal = some socket.id

variable {s} {t : V070Client F}

theorem Sockets.initial : Sockets ({} : V070Client F) where
  ids := List.nodup_nil
  old := by simp
  past := by simp
  current := by simp
  opened := by simp

theorem Sockets.of_transport (h : s.Sockets) (heq : t.transport = s.transport) : t.Sockets := by
  cases s
  cases t
  simp only [transport, Prod.mk.injEq] at heq
  obtain ⟨rfl, rfl, rfl, rfl, rfl⟩ := heq
  exact ⟨h.ids, h.old, h.past, h.current, h.opened⟩

theorem rejectOpen_eq (s : V070Client F) (call : ℕ) (refreshed : Bool) (error : String) :
    ∃ waiters, s.rejectOpen call refreshed error = { s with
      settled := if call ∈ s.settled.map Prod.fst then s.settled
        else s.settled ++ [(call, .error error)]
      receiveWaiters := waiters } := by
  unfold rejectOpen
  split
  · exact ⟨_, rfl⟩
  · cases refreshed with
    | false => exact ⟨_, rfl⟩
    | true => exact ⟨_, rfl⟩

theorem enqueue_eq (s : V070Client F) (id : ℕ) (envelope : Envelope F) :
    ∃ queue waiters handed, s.enqueue id envelope = { s with
      enqueued := s.enqueued ++ [(id, envelope)]
      receiveQueue := queue
      receiveWaiters := waiters
      handed := handed } := by
  unfold enqueue
  dsimp only
  split
  · exact ⟨_, _, _, rfl⟩
  · exact ⟨_, _, _, rfl⟩

theorem foldl_enqueue_eq (s : V070Client F) (id session : ℕ) (frames : List F) :
    ∃ queue waiters handed,
      frames.foldl (fun s bytes => s.enqueue id (.attachFrame session bytes)) s = { s with
        enqueued := s.enqueued ++ frames.map fun bytes => (id, .attachFrame session bytes)
        receiveQueue := queue
        receiveWaiters := waiters
        handed := handed } := by
  induction frames generalizing s with
  | nil =>
    refine ⟨s.receiveQueue, s.receiveWaiters, s.handed, ?_⟩
    rw [List.map_nil, List.append_nil]
    rfl
  | cons bytes frames ih =>
    obtain ⟨_, _, _, heq⟩ := enqueue_eq s id (.attachFrame session bytes)
    obtain ⟨queue, waiters, handed, heq'⟩ := ih (s.enqueue id (.attachFrame session bytes))
    refine ⟨queue, waiters, handed, ?_⟩
    rw [List.foldl_cons, heq', heq]
    dsimp only
    rw [List.append_assoc]
    rfl

/-- What is left of a terminal that is given up. -/
theorem resetTerminalState_eq (s : V070Client F) (error : String) :
    ∃ waiters settled, s.resetTerminalState error = { s with
      terminalSessionId := none
      pendingTerminalFrames := []
      terminalOpen := none
      settled := settled
      receiveWaiters := waiters } ∧
    ((s.terminalOpen = none ∧ settled = s.settled) ∨ ∃ pending, s.terminalOpen = some pending ∧
      settled = if pending.call ∈ s.settled.map Prod.fst then s.settled
        else s.settled ++ [(pending.call, .error error)]) := by
  unfold resetTerminalState
  dsimp only
  split
  · rename_i hnone
    refine ⟨s.receiveWaiters, s.settled, ?_, .inl ⟨hnone, rfl⟩⟩
    cases s
    obtain rfl : _ = none := hnone
    rfl
  · rename_i pending hsome
    obtain ⟨waiters, heq⟩ := rejectOpen_eq { s with
      terminalSessionId := none, pendingTerminalFrames := [], terminalOpen := none }
      pending.call pending.refreshed error
    exact ⟨waiters, _, heq, .inr ⟨pending, hsome, rfl⟩⟩

theorem transport_rejectOpen (call : ℕ) (refreshed : Bool) (error : String) :
    (s.rejectOpen call refreshed error).transport = s.transport := by
  obtain ⟨_, heq⟩ := rejectOpen_eq s call refreshed error
  rw [heq]
  rfl

theorem transport_resetTerminalState (error : String) :
    (s.resetTerminalState error).transport = s.transport := by
  obtain ⟨_, _, heq, -⟩ := resetTerminalState_eq s error
  rw [heq]
  rfl

theorem transport_openRejected (socket : TerminalSocket) (error : String) :
    (s.openRejected socket error).transport = s.transport := by
  unfold openRejected
  split
  · exact transport_rejectOpen _ _ _
  · exact transport_rejectOpen _ _ _

theorem transport_enqueue (id : ℕ) (envelope : Envelope F) :
    (s.enqueue id envelope).transport = s.transport := by
  obtain ⟨_, _, _, heq⟩ := enqueue_eq s id envelope
  rw [heq]
  rfl

theorem transport_resolveOpen (call session : ℕ) :
    (s.resolveOpen call session).transport = s.transport := by
  unfold resolveOpen
  split <;> rfl

theorem transport_handleTerminal (id : ℕ) (m : TerminalMessage F) :
    (s.handleTerminal id m).transport = s.transport := by
  cases m with
  | acknowledged session =>
    dsimp only [handleTerminal]
    split
    · rfl
    · split
      · rfl
      · obtain ⟨_, _, _, heq⟩ := foldl_enqueue_eq (resolveOpen { s with
          terminalSessionId := some session
          terminalOpen := none
          pendingTerminalFrames := [] } _ session) id session s.pendingTerminalFrames
        rw [heq]
        exact transport_resolveOpen _ _
  | error code =>
    dsimp only [handleTerminal]
    split
    · exact transport_rejectOpen _ _ _
    · exact transport_enqueue _ _
  | other => rfl
  | frame bytes =>
    dsimp only [handleTerminal]
    split
    · exact transport_enqueue _ _
    · split <;> rfl

theorem transport_handleTerminalClose : s.handleTerminalClose.transport = s.transport := by
  unfold handleTerminalClose
  split
  · rfl
  · dsimp only
    split
    · exact transport_resetTerminalState _
    · exact transport_resetTerminalState _

/-- The generation is counted up, so no socket has it any more, and none is open. -/
theorem Sockets.closeTerminal (h : s.Sockets) :
    s.closeTerminal.Sockets ∧
      ∀ socket ∈ s.closeTerminal.sockets,
        socket.generation ≠ s.closeTerminal.terminalGeneration := by
  -- each socket that is left is one that was there, perhaps in another phase
  have hkept : ∀ socket ∈ s.closeTerminal.sockets, ∃ before ∈ s.sockets,
      socket.id = before.id ∧ socket.generation = before.generation ∧ socket.phase ≠ .opened := by
    intro socket hsocket
    obtain ⟨before, hbefore, rfl⟩ := List.mem_map.mp hsocket
    obtain ⟨hmem, hrest⟩ := List.mem_filter.mp hbefore
    have hphase : before.phase ≠ .opened := by
      intro hopened
      have hterminal := (h.opened before hmem hopened).2
      simp [hopened, hterminal] at hrest
    refine ⟨before, hmem, ?_⟩
    split
    · exact ⟨rfl, rfl, nofun⟩
    · exact ⟨rfl, rfl, hphase⟩
  have hnone : ∀ socket ∈ s.closeTerminal.sockets,
      socket.generation ≠ s.closeTerminal.terminalGeneration := by
    intro socket hsocket heq
    obtain ⟨before, hmem, -, hgeneration, -⟩ := hkept socket hsocket
    have hle := h.past before hmem
    rw [← hgeneration, heq] at hle
    exact Nat.not_succ_le_self _ hle
  refine ⟨⟨?_, ?_, ?_, ?_, ?_⟩, hnone⟩
  · have hids : s.closeTerminal.sockets.map TerminalSocket.id =
        (s.sockets.filter fun socket =>
          socket.phase ≠ .opened || s.terminal ≠ some socket.id).map TerminalSocket.id := by
      rw [V070Client.closeTerminal, List.map_map]
      refine List.map_congr_left fun socket _ => ?_
      rw [Function.comp_apply]
      split <;> rfl
    rw [hids]
    exact h.ids.sublist (List.filter_sublist.map _)
  · intro socket hsocket
    obtain ⟨before, hmem, hid, -⟩ := hkept socket hsocket
    exact hid ▸ h.old before hmem
  · intro socket hsocket
    obtain ⟨before, hmem, -, hgeneration, -⟩ := hkept socket hsocket
    exact hgeneration ▸ Nat.le_succ_of_le (h.past before hmem)
  · exact fun socket hsocket heq => absurd heq (hnone socket hsocket)
  · intro socket hsocket hopened
    obtain ⟨_, -, -, -, hphase⟩ := hkept socket hsocket
    exact absurd hopened hphase

theorem Sockets.removeSocket (h : s.Sockets) (id : ℕ) : (s.removeSocket id).Sockets where
  ids := h.ids.sublist (List.filter_sublist.map _)
  old := fun socket hsocket => h.old socket (List.mem_of_mem_filter hsocket)
  past := fun socket hsocket => h.past socket (List.mem_of_mem_filter hsocket)
  current := fun socket hsocket => h.current socket (List.mem_of_mem_filter hsocket)
  opened := fun socket hsocket => h.opened socket (List.mem_of_mem_filter hsocket)

/-- A socket in another phase; if it is open, it is the terminal. -/
theorem Sockets.setPhase (h : s.Sockets) {socket : TerminalSocket} (hmem : socket ∈ s.sockets)
    (phase : SocketPhase) {terminal : Option ℕ}
    (hother : terminal = s.terminal ∨ socket.generation = s.terminalGeneration ∧
      terminal = some socket.id)
    (hopened : phase = .opened →
      socket.generation = s.terminalGeneration ∧ terminal = some socket.id) :
    Sockets { s.setPhase socket.id phase with terminal := terminal } := by
  have hset : ∀ after ∈ (s.setPhase socket.id phase).sockets,
      after = { socket with phase := phase } ∨ after ∈ s.sockets ∧ after.id ≠ socket.id := by
    intro after hafter
    obtain ⟨before, hbefore, rfl⟩ := List.mem_map.mp hafter
    split
    · rename_i hid
      exact .inl (List.inj_on_of_nodup_map h.ids hbefore hmem hid ▸ rfl)
    · rename_i hid
      exact .inr ⟨hbefore, hid⟩
  constructor
  case ids =>
    have hids : (s.setPhase socket.id phase).sockets.map TerminalSocket.id =
        s.sockets.map TerminalSocket.id := by
      rw [V070Client.setPhase, List.map_map]
      refine List.map_congr_left fun before _ => ?_
      rw [Function.comp_apply]
      split <;> rfl
    exact hids ▸ h.ids
  case old =>
    intro after hafter
    rcases hset after hafter with rfl | ⟨hafter, -⟩
    · exact h.old socket hmem
    · exact h.old after hafter
  case past =>
    intro after hafter
    rcases hset after hafter with rfl | ⟨hafter, -⟩
    · exact h.past socket hmem
    · exact h.past after hafter
  case current =>
    intro after hafter
    rcases hset after hafter with rfl | ⟨hafter, -⟩
    · exact h.current socket hmem
    · exact h.current after hafter
  case opened =>
    intro after hafter hphase
    rcases hset after hafter with rfl | ⟨hafter, hne⟩
    · exact hopened hphase
    · have hbefore := h.opened after hafter hphase
      refine ⟨hbefore.1, ?_⟩
      rcases hother with hsame | ⟨hgeneration, -⟩
      · exact hsame.trans hbefore.2
      · -- two sockets of the present generation would be one
        have heq := (h.current after hafter hbefore.1).1.trans
          (h.current socket hmem hgeneration).1.symm
        exact absurd (Nat.succ.inj heq) hne

theorem Sockets.failOpening (h : s.Sockets) (socket : TerminalSocket) (error : String) :
    (s.failOpening socket error).Sockets := by
  have hremoved := h.removeSocket socket.id
  unfold V070Client.failOpening
  dsimp only
  split
  · exact hremoved.of_transport (transport_openRejected _ _)
  · exact hremoved.of_transport (transport_openRejected _ _)

theorem Sockets.created (h : s.Sockets) {socket : TerminalSocket} (hmem : socket ∈ s.sockets) :
    (s.created socket).Sockets := by
  unfold V070Client.created
  split
  · exact h.setPhase hmem .closing (.inl rfl) nofun
  · exact (h.setPhase hmem .connecting (.inl rfl) nofun).of_transport rfl

theorem Sockets.socketOpened (h : s.Sockets) {socket : TerminalSocket}
    (hmem : socket ∈ s.sockets) : (s.socketOpened socket).Sockets := by
  unfold V070Client.socketOpened
  dsimp only
  split
  · refine Sockets.of_transport ?_ (transport_openRejected _ _)
    exact (h.removeSocket socket.id).of_transport rfl
  · rename_i hgeneration
    rw [not_not] at hgeneration
    have hset := h.setPhase hmem .opened (.inr ⟨hgeneration, rfl⟩) fun _ => ⟨hgeneration, rfl⟩
    exact hset.of_transport rfl

theorem Sockets.openTerminal (h : s.Sockets) (command : WorkspaceCommand) (refreshed : Bool) :
    (s.openTerminal command refreshed).Sockets := by
  unfold V070Client.openTerminal
  split
  · rename_i hclosed
    refine Sockets.of_transport ?_ (transport_rejectOpen _ _ _)
    -- a client that is closed has no socket of the present generation
    refine ⟨h.ids, fun socket hsocket => Nat.lt_succ_of_lt (h.old socket hsocket), h.past, ?_,
      h.opened⟩
    intro socket hsocket hgeneration
    cases hclosed.symm.trans (h.current socket hsocket hgeneration).2
  · rename_i hopen
    rw [Bool.not_eq_true] at hopen
    have hreset := h.of_transport (transport_resetTerminalState "stale_connection")
    obtain ⟨hclosed, hnone⟩ := hreset.closeTerminal
    have htransport := transport_resetTerminalState (s := s) "stale_connection"
    simp only [transport, Prod.mk.injEq] at htransport
    obtain ⟨-, hnext, -, hisClosed, -⟩ := htransport
    -- the sockets that are left are older than the call, whose number the new one takes
    have hold : ∀ socket ∈ (s.resetTerminalState "stale_connection").closeTerminal.sockets,
        socket.id < s.nextCall := by
      intro socket hsocket
      have hlt : socket.id < (s.resetTerminalState "stale_connection").nextCall :=
        hclosed.old socket hsocket
      rw [hnext] at hlt
      exact hlt
    refine ⟨?_, ?_, ?_, ?_, ?_⟩
    · rw [List.map_append, List.nodup_append]
      refine ⟨hclosed.ids, List.nodup_singleton _, ?_⟩
      intro id hid id' hid' heq
      obtain ⟨socket, hsocket, rfl⟩ := List.mem_map.mp hid
      obtain rfl := List.mem_singleton.mp hid'
      exact Nat.ne_of_lt (hold socket hsocket) heq
    all_goals intro socket hsocket; rcases List.mem_append.mp hsocket with hsocket | hsocket
    · exact Nat.lt_succ_of_lt (hold socket hsocket)
    · obtain rfl := List.mem_singleton.mp hsocket
      exact Nat.lt_succ_self _
    · exact hclosed.past socket hsocket
    · obtain rfl := List.mem_singleton.mp hsocket
      exact Nat.le_refl _
    · exact fun hgeneration => absurd hgeneration (hnone socket hsocket)
    · obtain rfl := List.mem_singleton.mp hsocket
      exact fun _ => ⟨rfl, hisClosed.trans hopen⟩
    · exact hclosed.opened socket hsocket
    · obtain rfl := List.mem_singleton.mp hsocket
      nofun

theorem Sockets.close (h : s.Sockets) : s.close.Sockets := by
  unfold V070Client.close
  split
  · exact h
  · obtain ⟨_, _, heq, -⟩ := resetTerminalState_eq { s with isClosed := true } "connection_closed"
    dsimp only
    rw [heq]
    obtain ⟨hclosed, hnone⟩ := h.closeTerminal
    refine ⟨hclosed.ids, hclosed.old, hclosed.past, ?_, hclosed.opened⟩
    exact fun socket hsocket hgeneration => absurd hgeneration (hnone socket hsocket)

theorem Sockets.socketClosed (h : s.Sockets) (socket : TerminalSocket) :
    (s.socketClosed socket).Sockets := by
  have hremoved := h.removeSocket socket.id
  unfold V070Client.socketClosed
  dsimp only
  split
  · exact hremoved
  · rename_i hterminal
    rw [Bool.or_eq_true, not_or, decide_eq_true_eq, decide_eq_true_eq, not_not,
      not_not] at hterminal
    refine Sockets.of_transport ?_ transport_handleTerminalClose
    refine ⟨hremoved.ids, hremoved.old, hremoved.past, hremoved.current, ?_⟩
    intro other hother hopened
    -- an open socket is the terminal, and that one is gone
    have hid := (hremoved.opened other hother hopened).2.symm.trans hterminal.2
    have hne := of_decide_eq_true (List.mem_filter.mp hother).2
    exact absurd (Option.some.inj hid) hne

theorem socket_spec {id : ℕ} {phases : List SocketPhase} {socket : TerminalSocket}
    (h : s.socket id phases = some socket) :
    socket ∈ s.sockets ∧ socket.id = id ∧ socket.phase ∈ phases := by
  have hfound := List.find?_some h
  rw [Bool.and_eq_true, decide_eq_true_eq, decide_eq_true_eq] at hfound
  exact ⟨List.mem_of_find?_eq_some h, hfound⟩

theorem Sockets.step (h : s.Sockets) {op : Op F} (hs : s.step op = some t) : t.Sockets := by
  cases op with
  | openTerminal command => exact Option.some.inj hs ▸ h.openTerminal command false
  | detachSession session =>
    obtain rfl := Option.some.inj hs
    unfold V070Client.detachSession
    split
    · exact (h.of_transport (transport_resetTerminalState _)).closeTerminal.1
    · exact h
  | close => exact Option.some.inj hs ▸ h.close
  | tokenRefreshed =>
    obtain rfl := Option.some.inj hs
    unfold V070Client.reconnectWithRefreshedToken
    split
    · exact h
    · split
      · exact h
      · exact h.openTerminal _ _
  | receiveInner call =>
    obtain rfl := Option.some.inj hs
    unfold V070Client.receiveInner
    split
    · exact h.of_transport rfl
    · exact h.of_transport rfl
  | interruptReceiveWaiters => exact Option.some.inj hs ▸ h.of_transport rfl
  | token id result =>
    cases result with
    | ok value =>
      obtain ⟨socket, hsocket, rfl⟩ := Option.map_eq_some_iff.mp hs
      exact h.created (socket_spec hsocket).1
    | error error =>
      obtain ⟨socket, hsocket, rfl⟩ := Option.map_eq_some_iff.mp hs
      exact h.failOpening socket error
  | opened id =>
    obtain ⟨socket, hsocket, rfl⟩ := Option.map_eq_some_iff.mp hs
    exact h.socketOpened (socket_spec hsocket).1
  | openFailed id =>
    obtain ⟨socket, hsocket, rfl⟩ := Option.map_eq_some_iff.mp hs
    exact h.failOpening socket _
  | message id m =>
    obtain ⟨socket, hsocket, rfl⟩ := Option.map_eq_some_iff.mp hs
    unfold V070Client.socketMessage
    dsimp only
    split
    · exact h.of_transport rfl
    · split
      · exact h.of_transport rfl
      · exact h.of_transport (transport_handleTerminal socket.id m)
  | closed id =>
    obtain ⟨socket, hsocket, rfl⟩ := Option.map_eq_some_iff.mp hs
    exact h.socketClosed socket

/-! ### The opens -/

variable (s) in
/-- The last open is pending, or it has its session, or it is over; those before are over. -/
structure Opens : Prop where
  fresh : ∀ call ∈ s.settled.map Prod.fst, call < s.nextCall
  heard : ∀ p ∈ s.received, p.1 < s.nextCall
  told : ∀ p ∈ s.enqueued, p.1 < s.nextCall
  once : (s.settled.map Prod.fst).Nodup
  own : ∀ call session, (call, Except.ok session) ∈ s.settled →
    (call, TerminalMessage.acknowledged session) ∈ s.received
  superseded : ∀ call < s.nextCall, call ∈ s.settled.map Prod.fst ∨
    ∃ pending, s.terminalOpen = some pending ∧ pending.call = call
  waiting : ∀ pending, s.terminalOpen = some pending → pending.call + 1 = s.nextCall ∧
    pending.call ∉ s.settled.map Prod.fst ∧ s.isClosed = false ∧ s.terminalSessionId = none ∧
    s.framesEnqueued pending.call = [] ∧
    s.framesReceived pending.call = s.pendingTerminalFrames
  attached : ∀ session, s.terminalSessionId = some session → s.isClosed = false ∧
    ∃ call, call + 1 = s.nextCall ∧ s.terminal = some call ∧
      (call, Except.ok session) ∈ s.settled ∧ s.framesEnqueued call = s.framesReceived call
  prefixes : ∀ call, s.framesEnqueued call <+: s.framesReceived call
  attributed : ∀ call session bytes, (call, Envelope.attachFrame session bytes) ∈ s.enqueued →
    (call, Except.ok session) ∈ s.settled
  ordered : (s.enqueued.map Prod.fst).Pairwise (· ≤ ·)

theorem Opens.initial : Opens ({} : V070Client F) where
  fresh := by simp
  heard := by simp
  told := by simp
  once := List.nodup_nil
  own := by simp
  superseded := by simp
  waiting := by simp
  attached := by simp
  prefixes := fun _ => List.nil_prefix
  attributed := by simp
  ordered := .nil

/-- The fields that the opens are about. -/
def opens (s : V070Client F) : Bool × Option ℕ × Option PendingTerminalOpen × List F × Option ℕ ×
    ℕ × List (ℕ × Except String ℕ) × List (ℕ × TerminalMessage F) × List (ℕ × Envelope F) :=
  (s.isClosed, s.terminalSessionId, s.terminalOpen, s.pendingTerminalFrames, s.terminal,
    s.nextCall, s.settled, s.received, s.enqueued)

theorem Opens.of_opens (h : s.Opens) (heq : t.opens = s.opens) : t.Opens := by
  cases s
  cases t
  simp only [opens, Prod.mk.injEq] at heq
  obtain ⟨rfl, rfl, rfl, rfl, rfl, rfl, rfl, rfl, rfl⟩ := heq
  exact ⟨h.fresh, h.heard, h.told, h.once, h.own, h.superseded, h.waiting, h.attached, h.prefixes,
    h.attributed, h.ordered⟩

theorem Opens.once_append (h : s.Opens) {call : ℕ} (hcall : call ∉ s.settled.map Prod.fst)
    (result : Except String ℕ) : ((s.settled ++ [(call, result)]).map Prod.fst).Nodup := by
  rw [List.map_append]
  refine List.nodup_append.mpr ⟨h.once, List.nodup_singleton _, ?_⟩
  intro call' hcall' other hother heq
  obtain rfl : other = call := List.mem_singleton.mp hother
  exact hcall (heq ▸ hcall')

theorem mem_of_ok_mem {settled : List (ℕ × Except String ℕ)} {call call' session : ℕ}
    {error : String} (h : (call, Except.ok session) ∈ settled ++ [(call', .error error)]) :
    (call, Except.ok session) ∈ settled := by
  rcases List.mem_append.mp h with h | h
  · exact h
  · cases List.mem_singleton.mp h

/-- The last open is given up: a promise that was pending is rejected. -/
theorem Opens.giveUp (h : s.Opens) {settled : List (ℕ × Except String ℕ)}
    (hsettled : s.terminalOpen = none ∧ settled = s.settled ∨ ∃ pending error,
      s.terminalOpen = some pending ∧ settled = s.settled ++ [(pending.call, .error error)])
    (isClosed : Bool) (waiters : List ℕ) :
    Opens { s with
      isClosed := isClosed
      terminalSessionId := none
      pendingTerminalFrames := []
      terminalOpen := none
      settled := settled
      receiveWaiters := waiters } := by
  rcases hsettled with ⟨hnone, rfl⟩ | ⟨pending, error, hsome, rfl⟩
  -- every open was over already
  · refine ⟨h.fresh, h.heard, h.told, h.once, h.own, ?_, nofun, nofun, h.prefixes, h.attributed,
      h.ordered⟩
    intro call hcall
    rcases h.superseded call hcall with hmem | ⟨pending, hsome, -⟩
    · exact .inl hmem
    · cases hnone.symm.trans hsome
  · obtain ⟨hlast, hunsettled, -⟩ := h.waiting pending hsome
    refine ⟨?_, h.heard, h.told, ?_, ?_, ?_, nofun, nofun, h.prefixes, ?_, h.ordered⟩
    · rw [List.map_append]
      exact List.forall_mem_append.mpr
        ⟨h.fresh, List.forall_mem_singleton.mpr (hlast ▸ Nat.lt_succ_self _)⟩
    · exact h.once_append hunsettled _
    · exact fun call session hcall => h.own call session (mem_of_ok_mem hcall)
    · intro call hcall
      rw [List.map_append]
      rcases h.superseded call hcall with hmem | ⟨pending', hsome', rfl⟩
      · exact .inl (List.mem_append_left _ hmem)
      · obtain rfl := Option.some.inj (hsome.symm.trans hsome')
        exact .inl (List.mem_append_right _ (List.mem_singleton_self _))
    · exact fun call session bytes hcall =>
        List.mem_append_left _ (h.attributed call session bytes hcall)

/-- A reset leaves neither a session nor an open. -/
theorem Opens.resetTerminalState (h : s.Opens) (isClosed : Bool) (error : String) :
    ∃ waiters settled,
      V070Client.resetTerminalState { s with isClosed := isClosed } error = { s with
        isClosed := isClosed
        terminalSessionId := none
        pendingTerminalFrames := []
        terminalOpen := none
        settled := settled
        receiveWaiters := waiters } ∧
      Opens { s with
        isClosed := isClosed
        terminalSessionId := none
        pendingTerminalFrames := []
        terminalOpen := none
        settled := settled
        receiveWaiters := waiters } := by
  obtain ⟨waiters, settled, heq, hsettled⟩ :=
    resetTerminalState_eq { s with isClosed := isClosed } error
  refine ⟨waiters, settled, heq, h.giveUp ?_ isClosed waiters⟩
  rcases hsettled with hnone | ⟨pending, hsome, rfl⟩
  · exact .inl hnone
  · exact .inr ⟨pending, error, hsome, if_neg (h.waiting pending hsome).2.1⟩

/-- Without a session and an open the terminal and the mark of a close do not matter. -/
theorem Opens.over (h : s.Opens) (hopen : s.terminalOpen = none)
    (hsession : s.terminalSessionId = none) (isClosed : Bool) (terminal : Option ℕ) :
    Opens { s with isClosed := isClosed, terminal := terminal } := by
  refine ⟨h.fresh, h.heard, h.told, h.once, h.own, h.superseded, ?_, ?_, h.prefixes, h.attributed,
    h.ordered⟩
  · intro pending hsome
    cases hopen.symm.trans hsome
  · intro session hsome
    cases hsession.symm.trans hsome

theorem Opens.detachSession (h : s.Opens) (session : ℕ) : (s.detachSession session).Opens := by
  unfold V070Client.detachSession
  split
  · obtain ⟨_, _, heq, hopens⟩ := h.resetTerminalState s.isClosed "connection_closed"
    have heq' : s.resetTerminalState "connection_closed" = _ := heq
    rw [heq']
    exact (hopens.over rfl rfl s.isClosed none).of_opens rfl
  · exact h

theorem Opens.close (h : s.Opens) : s.close.Opens := by
  unfold V070Client.close
  split
  · exact h
  · obtain ⟨_, _, heq, hopens⟩ := h.resetTerminalState true "connection_closed"
    dsimp only
    rw [heq]
    exact (hopens.over rfl rfl true none).of_opens rfl

/-- The close of the terminal's socket: nothing is left of its open. -/
theorem Opens.handleTerminalClose (h : s.Opens) :
    (V070Client.handleTerminalClose { s with terminal := none }).Opens := by
  unfold V070Client.handleTerminalClose
  split
  · rename_i hclosed
    refine ⟨h.fresh, h.heard, h.told, h.once, h.own, h.superseded, h.waiting, ?_, h.prefixes,
      h.attributed, h.ordered⟩
    intro session hsome
    cases hclosed.symm.trans (h.attached session hsome).1
  · obtain ⟨waiters, settled, heq, hsettled⟩ :=
      resetTerminalState_eq { s with terminal := none } "connection_closed"
    have hgiven : s.terminalOpen = none ∧ settled = s.settled ∨ ∃ pending error,
        s.terminalOpen = some pending ∧ settled = s.settled ++ [(pending.call, .error error)] := by
      rcases hsettled with hnone | ⟨pending, hsome, rfl⟩
      · exact .inl hnone
      · exact .inr ⟨pending, _, hsome, if_neg (h.waiting pending hsome).2.1⟩
    have hover := (h.giveUp hgiven s.isClosed waiters).over rfl rfl s.isClosed none
    dsimp only
    rw [heq]
    split
    · exact hover.of_opens rfl
    · exact hover.of_opens rfl

/-- A call that is not settled and has no entry yet. -/
theorem Opens.framesReceived_eq_nil (h : s.Opens) {call : ℕ} (hnew : s.nextCall ≤ call) :
    s.framesReceived call = [] := by
  refine List.filterMap_eq_nil_iff.mpr ?_
  rintro ⟨id, m⟩ hmem
  have hlt := h.heard _ hmem
  cases m with
  | frame bytes => exact if_neg (by dsimp only at hlt; omega)
  | acknowledged session => rfl
  | error code => rfl
  | other => rfl

theorem Opens.framesEnqueued_eq_nil (h : s.Opens) {call : ℕ} (hnew : s.nextCall ≤ call) :
    s.framesEnqueued call = [] :=
  List.prefix_nil.mp (h.framesReceived_eq_nil hnew ▸ h.prefixes call)

theorem Opens.openTerminal (h : s.Opens) (command : WorkspaceCommand) (refreshed : Bool) :
    (s.openTerminal command refreshed).Opens := by
  have hunsettled : s.nextCall ∉ s.settled.map Prod.fst :=
    fun hmem => Nat.lt_irrefl _ (h.fresh _ hmem)
  unfold V070Client.openTerminal
  split
  · rename_i hclosed
    obtain ⟨waiters, heq⟩ :=
      rejectOpen_eq { s with nextCall := s.nextCall + 1 } s.nextCall refreshed "connection_closed"
    rw [heq, if_neg hunsettled]
    -- nothing is pending or attached in a client that is closed
    have hnone : s.terminalOpen = none := by
      refine Option.eq_none_iff_forall_ne_some.mpr fun pending hsome => ?_
      cases hclosed.symm.trans (h.waiting pending hsome).2.2.1
    have hsession : s.terminalSessionId = none := by
      refine Option.eq_none_iff_forall_ne_some.mpr fun session hsome => ?_
      cases hclosed.symm.trans (h.attached session hsome).1
    refine ⟨?_, ?_, ?_, ?_, ?_, ?_, ?_, ?_, h.prefixes, ?_, h.ordered⟩
    · rw [List.map_append]
      exact List.forall_mem_append.mpr ⟨fun call hcall => Nat.lt_succ_of_lt (h.fresh call hcall),
        List.forall_mem_singleton.mpr (Nat.lt_succ_self _)⟩
    · exact fun p hp => Nat.lt_succ_of_lt (h.heard p hp)
    · exact fun p hp => Nat.lt_succ_of_lt (h.told p hp)
    · exact h.once_append hunsettled _
    · exact fun call session hcall => h.own call session (mem_of_ok_mem hcall)
    · intro call hcall
      rw [List.map_append]
      rcases Nat.lt_succ_iff_lt_or_eq.mp hcall with hcall | rfl
      · rcases h.superseded call hcall with hmem | ⟨pending, hsome, -⟩
        · exact .inl (List.mem_append_left _ hmem)
        · cases hnone.symm.trans hsome
      · exact .inl (List.mem_append_right _ (List.mem_singleton_self _))
    · intro pending hsome
      cases hnone.symm.trans hsome
    · intro session hsome
      cases hsession.symm.trans hsome
    · exact fun call session bytes hcall =>
        List.mem_append_left _ (h.attributed call session bytes hcall)
  · rename_i hopen
    rw [Bool.not_eq_true] at hopen
    obtain ⟨_, settled, heq, hopens⟩ := h.resetTerminalState s.isClosed "stale_connection"
    have heq' : s.resetTerminalState "stale_connection" = _ := heq
    dsimp only
    rw [heq']
    refine ⟨?_, ?_, ?_, hopens.once, hopens.own, ?_, ?_, nofun, hopens.prefixes, hopens.attributed,
      hopens.ordered⟩
    · exact fun call hcall => Nat.lt_succ_of_lt (hopens.fresh call hcall)
    · exact fun p hp => Nat.lt_succ_of_lt (hopens.heard p hp)
    · exact fun p hp => Nat.lt_succ_of_lt (hopens.told p hp)
    · intro call hcall
      rcases Nat.lt_succ_iff_lt_or_eq.mp hcall with hcall | rfl
      · rcases hopens.superseded call hcall with hmem | ⟨pending, hsome, -⟩
        · exact .inl hmem
        · cases hsome
      · exact .inr ⟨_, rfl, rfl⟩
    · -- the call is new, so nothing was settled, received or handed out for it
      intro pending hpending
      obtain rfl := Option.some.inj hpending
      refine ⟨rfl, ?_, hopen, rfl, ?_, ?_⟩
      · exact fun hmem => Nat.lt_irrefl _ (hopens.fresh _ hmem)
      · exact hopens.framesEnqueued_eq_nil (Nat.le_refl _)
      · exact hopens.framesReceived_eq_nil (Nat.le_refl _)

/-! ### Messages -/

theorem framesReceived_append (s : V070Client F) (id : ℕ) (m : TerminalMessage F) (call : ℕ) :
    framesReceived { s with received := s.received ++ [(id, m)] } call =
      s.framesReceived call ++ (receivedFrame call (id, m)).toList := by
  rw [framesReceived, framesReceived, List.filterMap_append]
  cases h : receivedFrame call (id, m) <;> simp [h]

theorem filterMap_attachFrames (id session : ℕ) (frames : List F) (call : ℕ) :
    (frames.map fun bytes => (id, Envelope.attachFrame session bytes)).filterMap
      (enqueuedFrame call) = if id = call then frames else [] := by
  rw [List.filterMap_map]
  split
  · rename_i hid
    exact (List.filterMap_congr fun bytes _ => if_pos hid).trans List.filterMap_some
  · rename_i hid
    exact List.filterMap_eq_nil_iff.mpr fun bytes _ => if_neg hid

/-- A message that changes nothing but that it was received. -/
theorem Opens.hear (h : s.Opens) {id : ℕ} (hid : id < s.nextCall) {m : TerminalMessage F}
    (hm : s.terminalOpen = none ∧ s.terminalSessionId = none ∨
      ∀ call, receivedFrame call (id, m) = none) :
    Opens { s with received := s.received ++ [(id, m)] } := by
  have hsame (hany : s.terminalOpen.isSome = true ∨ s.terminalSessionId.isSome = true) (call : ℕ) :
      framesReceived { s with received := s.received ++ [(id, m)] } call =
        s.framesReceived call := by
    rcases hm with ⟨hopen, hsession⟩ | hm
    -- a frame is only dropped when there is no open that it could belong to
    · rw [hopen, hsession] at hany
      rcases hany with hany | hany <;> cases hany
    · rw [framesReceived_append, hm, Option.toList_none, List.append_nil]
  refine ⟨h.fresh, ?_, h.told, h.once, ?_, h.superseded, ?_, ?_, ?_, h.attributed, h.ordered⟩
  · exact List.forall_mem_append.mpr ⟨h.heard, List.forall_mem_singleton.mpr hid⟩
  · exact fun call session hcall => List.mem_append_left _ (h.own call session hcall)
  · intro pending hsome
    rw [hsame (.inl (congrArg Option.isSome hsome))]
    exact h.waiting pending hsome
  · intro session hsome
    obtain ⟨hopen, call, hcall, hterminal, hmem, hall⟩ := h.attached session hsome
    refine ⟨hopen, call, hcall, hterminal, hmem, ?_⟩
    rw [hsame (.inr (congrArg Option.isSome hsome))]
    exact hall
  · intro call
    rw [framesReceived_append]
    exact (h.prefixes call).trans (List.prefix_append _ _)

/-- A frame that is kept until the acknowledgement. -/
theorem Opens.keep (h : s.Opens) {id : ℕ} (hid : id + 1 = s.nextCall) (bytes : F)
    (hsession : s.terminalSessionId = none) :
    Opens { s with
      received := s.received ++ [(id, .frame bytes)]
      pendingTerminalFrames := s.pendingTerminalFrames ++ [bytes] } := by
  refine ⟨h.fresh, ?_, h.told, h.once, ?_, h.superseded, ?_, ?_, ?_, h.attributed, h.ordered⟩
  · exact List.forall_mem_append.mpr
      ⟨h.heard, List.forall_mem_singleton.mpr (hid ▸ Nat.lt_succ_self _)⟩
  · exact fun call session hcall => List.mem_append_left _ (h.own call session hcall)
  · intro pending hsome
    obtain ⟨hlast, hunsettled, hopen, hnone, htold, hheard⟩ := h.waiting pending hsome
    obtain rfl : id = pending.call := Nat.succ.inj (hid.trans hlast.symm)
    refine ⟨hlast, hunsettled, hopen, hnone, htold, ?_⟩
    refine (framesReceived_append s pending.call (.frame bytes) pending.call).trans ?_
    rw [hheard, receivedFrame, if_pos rfl]
    rfl
  · intro session hsome
    cases hsession.symm.trans hsome
  · intro call
    have heq := framesReceived_append s id (.frame bytes) call
    exact heq ▸ (h.prefixes call).trans (List.prefix_append _ _)

/-- What is handed out belongs to the last open. -/
theorem Opens.ordered_append (h : s.Opens) {id : ℕ} (hid : id + 1 = s.nextCall)
    (envelopes : List (Envelope F)) :
    ((s.enqueued ++ envelopes.map fun envelope => (id, envelope)).map Prod.fst).Pairwise
      (· ≤ ·) := by
  have hlast : (envelopes.map fun envelope => (id, envelope)).map Prod.fst =
      List.replicate envelopes.length id := by
    rw [List.map_map, ← List.map_const']
    rfl
  rw [List.map_append, hlast]
  refine List.pairwise_append.mpr ⟨h.ordered, ?_, ?_⟩
  · exact List.pairwise_replicate.mpr (.inr (Nat.le_refl _))
  · intro before hbefore after hafter
    obtain ⟨p, hp, rfl⟩ := List.mem_map.mp hbefore
    obtain rfl := List.eq_of_mem_replicate hafter
    have hlt := h.told p hp
    omega

/-- An error that is handed out, as no open is pending. -/
theorem Opens.tellError (h : s.Opens) {id : ℕ} (hid : id + 1 = s.nextCall) (error : String) :
    (s.enqueue id (.error error)).Opens := by
  obtain ⟨_, _, _, heq⟩ := enqueue_eq s id (.error error)
  have hsame (call : ℕ) : (s.enqueued ++ [(id, Envelope.error error)]).filterMap
      (enqueuedFrame call) =
      s.framesEnqueued call := by
    rw [List.filterMap_append]
    exact List.append_nil _
  rw [heq]
  refine ⟨h.fresh, h.heard, ?_, h.once, h.own, h.superseded, ?_, ?_, ?_, ?_, ?_⟩
  · exact List.forall_mem_append.mpr
      ⟨h.told, List.forall_mem_singleton.mpr (hid ▸ Nat.lt_succ_self _)⟩
  · intro pending hsome
    rw [framesEnqueued, hsame]
    exact h.waiting pending hsome
  · intro session hsome
    obtain ⟨hopen, call, hcall, hterminal, hmem, hall⟩ := h.attached session hsome
    refine ⟨hopen, call, hcall, hterminal, hmem, ?_⟩
    rw [framesEnqueued, hsame]
    exact hall
  · intro call
    rw [framesEnqueued, hsame]
    exact h.prefixes call
  · intro call session bytes hmem
    rcases List.mem_append.mp hmem with hmem | hmem
    · exact h.attributed call session bytes hmem
    · cases List.mem_singleton.mp hmem
  · exact h.ordered_append hid [.error error]

/-- Frames of a session that are handed out, the acknowledgement before them included. -/
theorem Opens.tell (h : s.Opens) {id session : ℕ} (hid : id + 1 = s.nextCall)
    (hopen : s.isClosed = false) (hterminal : s.terminal = some id) {m : TerminalMessage F}
    {settled : List (ℕ × Except String ℕ)}
    (hsettled : settled = s.settled ∧ (id, Except.ok session) ∈ s.settled ∨
      settled = s.settled ++ [(id, .ok session)] ∧ id ∉ s.settled.map Prod.fst ∧
        m = .acknowledged session)
    {frames : List F} (hframes : s.framesEnqueued id ++ frames =
      s.framesReceived id ++ (receivedFrame id (id, m)).toList)
    (kept : List F) (queue : List (Envelope F)) (waiters : List ℕ)
    (handed : List (ℕ × Envelope F)) :
    Opens { s with
      received := s.received ++ [(id, m)]
      terminalSessionId := some session
      terminalOpen := none
      pendingTerminalFrames := kept
      settled := settled
      enqueued := s.enqueued ++ frames.map fun bytes => (id, .attachFrame session bytes)
      receiveQueue := queue
      receiveWaiters := waiters
      handed := handed } := by
  have hlt : id < s.nextCall := hid ▸ Nat.lt_succ_self _
  have hmem : (id, Except.ok session) ∈ settled := by
    rcases hsettled with ⟨rfl, hmem⟩ | ⟨rfl, -, -⟩
    · exact hmem
    · exact List.mem_append_right _ (List.mem_singleton_self _)
  have hsub : s.settled ⊆ settled := by
    rcases hsettled with ⟨rfl, -⟩ | ⟨rfl, -, -⟩
    · exact List.Subset.refl _
    · exact List.subset_append_left _ _
  have htold (call : ℕ) : (s.enqueued ++ frames.map fun bytes =>
      (id, Envelope.attachFrame session bytes)).filterMap (enqueuedFrame call) =
        s.framesEnqueued call ++ if id = call then frames else [] := by
    rw [List.filterMap_append, filterMap_attachFrames]
    rfl
  have hheard (call : ℕ) : (s.received ++ [(id, m)]).filterMap (receivedFrame call) =
      s.framesReceived call ++ (receivedFrame call (id, m)).toList :=
    framesReceived_append s id m call
  -- of the last open everything is handed out, of the others what was before
  have hall : (s.enqueued ++ frames.map fun bytes =>
      (id, Envelope.attachFrame session bytes)).filterMap (enqueuedFrame id) =
        (s.received ++ [(id, m)]).filterMap (receivedFrame id) := by
    rw [htold, hheard, if_pos rfl]
    exact hframes
  refine ⟨?_, ?_, ?_, ?_, ?_, ?_, nofun, ?_, ?_, ?_, ?_⟩
  · intro call hcall
    rcases hsettled with ⟨rfl, -⟩ | ⟨rfl, -, -⟩
    · exact h.fresh call hcall
    · rw [List.map_append] at hcall
      exact List.forall_mem_append.mpr ⟨h.fresh, List.forall_mem_singleton.mpr hlt⟩ call hcall
  · exact List.forall_mem_append.mpr ⟨h.heard, List.forall_mem_singleton.mpr hlt⟩
  · intro p hp
    rcases List.mem_append.mp hp with hp | hp
    · exact h.told p hp
    · obtain ⟨bytes, -, rfl⟩ := List.mem_map.mp hp
      exact hlt
  · rcases hsettled with ⟨rfl, -⟩ | ⟨rfl, hunsettled, -⟩
    · exact h.once
    · exact h.once_append hunsettled _
  · intro call session' hcall
    rcases hsettled with ⟨rfl, -⟩ | ⟨rfl, -, rfl⟩
    · exact List.mem_append_left _ (h.own call session' hcall)
    · rcases List.mem_append.mp hcall with hcall | hcall
      · exact List.mem_append_left _ (h.own call session' hcall)
      · cases List.mem_singleton.mp hcall
        exact List.mem_append_right _ (List.mem_singleton_self _)
  · intro call hcall
    left
    rcases h.superseded call hcall with hcall | ⟨pending, hsome, rfl⟩
    · exact List.map_subset _ hsub hcall
    · have hlast := (h.waiting pending hsome).1
      have hcall : pending.call = id := Nat.succ.inj (hlast.trans hid.symm)
      rw [hcall]
      exact List.mem_map_of_mem (f := Prod.fst) hmem
  · intro session' hsome
    obtain rfl := Option.some.inj hsome
    exact ⟨hopen, id, hid, hterminal, hmem, hall⟩
  · intro call
    by_cases hcall : id = call
    · subst hcall
      exact ⟨[], (List.append_nil _).trans hall⟩
    · rw [framesEnqueued, framesReceived, htold, hheard, if_neg hcall, List.append_nil]
      exact (h.prefixes call).trans (List.prefix_append _ _)
  · intro call session' bytes hcall
    rcases List.mem_append.mp hcall with hcall | hcall
    · exact hsub (h.attributed call session' bytes hcall)
    · obtain ⟨bytes', -, heq⟩ := List.mem_map.mp hcall
      cases heq
      exact hmem
  · have hordered := h.ordered_append hid (frames.map (Envelope.attachFrame session))
    rw [List.map_map] at hordered
    exact hordered

/-- A message that the terminal's socket has received, and what the client does about it. -/
theorem Opens.handleTerminal (h : s.Opens) {id : ℕ} (hid : id + 1 = s.nextCall)
    (hopen : s.isClosed = false) (hterminal : s.terminal = some id) (m : TerminalMessage F) :
    (V070Client.handleTerminal { s with received := s.received ++ [(id, m)] } id m).Opens := by
  have hlt : id < s.nextCall := hid ▸ Nat.lt_succ_self _
  cases m with
  | acknowledged session =>
    have hheard := h.hear hlt (m := .acknowledged session) (.inr fun _ => rfl)
    dsimp only [V070Client.handleTerminal]
    split
    · exact hheard
    · rename_i pending hsome
      obtain ⟨hlast, hunsettled, -, -, htold, hframes⟩ := h.waiting pending hsome
      -- the open that is pending is that of the socket: both are the last
      have hcall : pending.call = id := Nat.succ.inj (hlast.trans hid.symm)
      rw [if_neg (by rw [hopen]; exact Bool.false_ne_true), resolveOpen, if_neg hunsettled]
      obtain ⟨queue, waiters, handed, heq⟩ := foldl_enqueue_eq { s with
        received := s.received ++ [(id, .acknowledged session)]
        terminalSessionId := some session
        terminalOpen := none
        pendingTerminalFrames := []
        settled := s.settled ++ [(pending.call, .ok session)] } id session s.pendingTerminalFrames
      refine heq ▸ h.tell hid hopen hterminal
        (.inr ⟨by rw [hcall], hcall ▸ hunsettled, rfl⟩) ?_ [] queue waiters handed
      rw [hcall] at htold hframes
      rw [htold, hframes]
      exact (List.append_nil _).symm
  | error code =>
    have hheard := h.hear hlt (m := .error code) (.inr fun _ => rfl)
    dsimp only [V070Client.handleTerminal]
    split
    · rename_i pending hsome
      obtain ⟨waiters, heq⟩ := rejectOpen_eq { s with
        received := s.received ++ [(id, .error code)]
        terminalOpen := none
        pendingTerminalFrames := [] } pending.call pending.refreshed (code.getD "terminal_error")
      obtain ⟨-, hunsettled, -, hnone, -⟩ := h.waiting pending hsome
      have hgiven := hheard.giveUp (.inr ⟨pending, code.getD "terminal_error", hsome, rfl⟩)
        s.isClosed waiters
      rw [heq, if_neg hunsettled]
      refine hgiven.of_opens ?_
      rw [opens, opens, hnone]
    · exact hheard.tellError hid _
  | other => exact h.hear hlt (.inr fun _ => rfl)
  | frame bytes =>
    dsimp only [V070Client.handleTerminal]
    split
    · rename_i session hsession
      obtain ⟨-, call, hlast, -, hmem, hall⟩ := h.attached session hsession
      have hcall : call = id := Nat.succ.inj (hlast.trans hid.symm)
      rw [hcall] at hmem hall
      have hnone : s.terminalOpen = none := by
        refine Option.eq_none_iff_forall_ne_some.mpr fun pending hsome => ?_
        cases hsession.symm.trans (h.waiting pending hsome).2.2.2.1
      obtain ⟨queue, waiters, handed, heq⟩ := enqueue_eq
        { s with received := s.received ++ [(id, .frame bytes)] } id (.attachFrame session bytes)
      have hframes : s.framesEnqueued id ++ [bytes] =
          s.framesReceived id ++ (receivedFrame id (id, .frame bytes)).toList := by
        rw [hall, receivedFrame, if_pos rfl]
        rfl
      have htold := h.tell hid hopen hterminal (.inl ⟨rfl, hmem⟩) hframes s.pendingTerminalFrames
        queue waiters handed
      rw [heq]
      refine htold.of_opens ?_
      rw [opens, opens, hsession, hnone]
      rfl
    · rename_i hsession
      -- before the acknowledgement a frame is kept, and without an open it is dropped
      split
      · exact h.keep hid bytes hsession
      · rename_i hnone
        rw [Bool.not_eq_true, Option.isSome_eq_false_iff, Option.isNone_iff_eq_none] at hnone
        exact h.hear hlt (.inl ⟨hnone, hsession⟩)

/-- An opening that failed ends its open, unless that is over already. -/
theorem Opens.openRejected (h : s.Opens) {socket : TerminalSocket} (hlt : socket.id < s.nextCall)
    (error : String) : (s.openRejected socket error).Opens := by
  unfold V070Client.openRejected
  dsimp only
  split
  · rename_i hany
    obtain ⟨pending, hsome, hcall⟩ := (Option.any_eq_true ..).mp hany
    have hcall : pending.call = socket.id := of_decide_eq_true hcall
    obtain ⟨-, hunsettled, -, hnone, -⟩ := h.waiting pending hsome
    obtain ⟨waiters, heq⟩ := rejectOpen_eq { s with
      terminalOpen := none, pendingTerminalFrames := [] } socket.id socket.refreshed error
    have hgiven := h.giveUp (.inr ⟨pending, error, hsome, rfl⟩) s.isClosed waiters
    rw [heq, if_neg (hcall ▸ hunsettled)]
    refine hgiven.of_opens ?_
    rw [opens, opens, hnone, hcall]
  · rename_i hany
    obtain ⟨waiters, heq⟩ := rejectOpen_eq s socket.id socket.refreshed error
    rw [heq]
    rcases h.superseded socket.id hlt with hsettled | ⟨pending, hsome, hcall⟩
    · rw [if_pos hsettled]
      exact h.of_opens rfl
    · rw [hsome, Option.any_some, decide_eq_true_eq] at hany
      exact absurd hcall hany

theorem Opens.failOpening (h : s.Opens) {socket : TerminalSocket} (hlt : socket.id < s.nextCall)
    (error : String) : (s.failOpening socket error).Opens := by
  unfold V070Client.failOpening
  dsimp only
  split
  · exact Opens.openRejected (s := s.removeSocket socket.id) (h.of_opens rfl) hlt _
  · exact Opens.openRejected (s := { s.removeSocket socket.id with terminalOpening := none })
      (h.of_opens rfl) hlt _

theorem Opens.socketOpened (h : s.Opens) (hsockets : s.Sockets) {socket : TerminalSocket}
    (hmem : socket ∈ s.sockets) : (s.socketOpened socket).Opens := by
  unfold V070Client.socketOpened
  dsimp only
  split
  · refine Opens.openRejected (s := removeSocket { s with terminalOpening := _ } socket.id)
      (h.of_opens rfl) (hsockets.old socket hmem) _
  · rename_i hgeneration
    rw [not_not] at hgeneration
    have hlast := (hsockets.current socket hmem hgeneration).1
    refine ⟨h.fresh, h.heard, h.told, h.once, h.own, h.superseded, h.waiting, ?_, h.prefixes,
      h.attributed, h.ordered⟩
    intro session hsome
    obtain ⟨hopen, call, hcall, -, hrest⟩ := h.attached session hsome
    have hid : socket.id = call := Nat.succ.inj (hlast.trans hcall.symm)
    exact ⟨hopen, call, hcall, congrArg some hid, hrest⟩

theorem Opens.step (h : s.Opens) (hsockets : s.Sockets) {op : Op F} (hs : s.step op = some t) :
    t.Opens := by
  cases op with
  | openTerminal command => exact Option.some.inj hs ▸ h.openTerminal command false
  | detachSession session => exact Option.some.inj hs ▸ h.detachSession session
  | close => exact Option.some.inj hs ▸ h.close
  | tokenRefreshed =>
    obtain rfl := Option.some.inj hs
    unfold V070Client.reconnectWithRefreshedToken
    split
    · exact h
    · split
      · exact h
      · exact h.openTerminal _ _
  | receiveInner call =>
    obtain rfl := Option.some.inj hs
    unfold V070Client.receiveInner
    split
    · exact h.of_opens rfl
    · exact h.of_opens rfl
  | interruptReceiveWaiters => exact Option.some.inj hs ▸ h.of_opens rfl
  | token id result =>
    cases result with
    | ok value =>
      obtain ⟨socket, hsocket, rfl⟩ := Option.map_eq_some_iff.mp hs
      unfold V070Client.created
      split
      · exact h.of_opens rfl
      · exact h.of_opens rfl
    | error error =>
      obtain ⟨socket, hsocket, rfl⟩ := Option.map_eq_some_iff.mp hs
      exact h.failOpening (hsockets.old socket (socket_spec hsocket).1) error
  | opened id =>
    obtain ⟨socket, hsocket, rfl⟩ := Option.map_eq_some_iff.mp hs
    exact h.socketOpened hsockets (socket_spec hsocket).1
  | openFailed id =>
    obtain ⟨socket, hsocket, rfl⟩ := Option.map_eq_some_iff.mp hs
    exact h.failOpening (hsockets.old socket (socket_spec hsocket).1) _
  | message id m =>
    obtain ⟨socket, hsocket, rfl⟩ := Option.map_eq_some_iff.mp hs
    obtain ⟨hmem, -, hphase⟩ := socket_spec hsocket
    -- an open socket passes both checks of the transport
    obtain ⟨hgeneration, hterminal⟩ := hsockets.opened socket hmem (List.mem_singleton.mp hphase)
    obtain ⟨hlast, hopen⟩ := hsockets.current socket hmem hgeneration
    unfold V070Client.socketMessage
    dsimp only
    rw [if_neg (not_not.mpr hgeneration), if_neg (by simp [hterminal])]
    exact h.handleTerminal hlast hopen hterminal m
  | closed id =>
    obtain ⟨socket, hsocket, rfl⟩ := Option.map_eq_some_iff.mp hs
    unfold V070Client.socketClosed
    dsimp only
    split
    · exact h.of_opens rfl
    · exact Opens.handleTerminalClose (s := s.removeSocket socket.id) (h.of_opens rfl)

/-! ### What is handed out -/

variable (s) in
/-- What was handed out and what is left is all that was told; who waits has nothing left. -/
structure Queue : Prop where
  handed : s.handed.map Prod.snd ++ s.receiveQueue = s.enqueued.map Prod.snd
  waiting : s.receiveWaiters ≠ [] → s.receiveQueue = []

theorem Queue.of_waiters (h : s.Queue) (hhanded : t.handed = s.handed)
    (hqueue : t.receiveQueue = s.receiveQueue) (henqueued : t.enqueued = s.enqueued)
    (hwaiters : t.receiveWaiters = s.receiveWaiters ∨ t.receiveWaiters = []) : t.Queue := by
  constructor
  case handed =>
    rw [hhanded, hqueue, henqueued]
    exact h.handed
  case waiting =>
    intro hne
    rw [hqueue]
    rcases hwaiters with hsame | hnone
    · exact h.waiting (hsame ▸ hne)
    · exact absurd hnone hne

/-- What a call or an event leaves: the promises that are settled stay so, and the queue is kept. -/
structure Keeps (s t : V070Client F) : Prop where
  settled : s.settled <+: t.settled
  queue : s.Queue → t.Queue

theorem Keeps.refl (s : V070Client F) : Keeps s s := ⟨List.prefix_rfl, id⟩

theorem Keeps.trans {u : V070Client F} (h : Keeps s t) (h' : Keeps t u) : Keeps s u :=
  ⟨h.settled.trans h'.settled, fun hqueue => h'.queue (h.queue hqueue)⟩

theorem Keeps.of_fields (hsettled : t.settled = s.settled) (hhanded : t.handed = s.handed)
    (hqueue : t.receiveQueue = s.receiveQueue) (henqueued : t.enqueued = s.enqueued)
    (hwaiters : t.receiveWaiters = s.receiveWaiters ∨ t.receiveWaiters = []) : Keeps s t where
  settled := hsettled ▸ List.prefix_rfl
  queue h := h.of_waiters hhanded hqueue henqueued hwaiters

theorem keeps_enqueue (id : ℕ) (envelope : Envelope F) : Keeps s (s.enqueue id envelope) := by
  constructor
  case settled =>
    obtain ⟨_, _, _, heq⟩ := enqueue_eq s id envelope
    exact heq ▸ List.prefix_rfl
  case queue =>
    intro h
    unfold V070Client.enqueue
    dsimp only
    split
    · rename_i waiter waiters hwaiters
      have hnil : s.receiveQueue = [] := h.waiting (by rw [hwaiters]; exact List.cons_ne_nil _ _)
      refine ⟨?_, fun _ => hnil⟩
      have hhanded := h.handed
      rw [hnil, List.append_nil] at hhanded
      rw [List.map_append, hhanded, hnil, List.append_nil, List.map_append]
      rfl
    · rename_i hwaiters
      refine ⟨?_, fun hne => absurd hwaiters hne⟩
      rw [← List.append_assoc, h.handed, List.map_append]
      rfl

theorem keeps_receiveInner (call : ℕ) : Keeps s (s.receiveInner call) := by
  unfold V070Client.receiveInner
  split
  · rename_i envelope queue hqueue
    refine ⟨List.prefix_rfl, fun h => ⟨?_, fun hne => ?_⟩⟩
    · rw [← h.handed, hqueue, List.map_append, List.append_assoc]
      rfl
    · cases hqueue.symm.trans (h.waiting hne)
  · rename_i hqueue
    exact ⟨List.prefix_rfl, fun h => ⟨h.handed, fun _ => hqueue⟩⟩

theorem keeps_rejectOpen (call : ℕ) (refreshed : Bool) (error : String) :
    Keeps s (s.rejectOpen call refreshed error) := by
  unfold V070Client.rejectOpen
  split
  · exact .refl s
  · cases refreshed with
    | false => exact ⟨List.prefix_append _ _, fun h => h.of_waiters rfl rfl rfl (.inl rfl)⟩
    | true => exact ⟨List.prefix_append _ _, fun h => h.of_waiters rfl rfl rfl (.inr rfl)⟩

theorem keeps_resetTerminalState (error : String) : Keeps s (s.resetTerminalState error) := by
  unfold V070Client.resetTerminalState
  dsimp only
  split
  · exact .of_fields rfl rfl rfl rfl (.inl rfl)
  · refine .trans (t := { s with
      terminalSessionId := none
      pendingTerminalFrames := []
      terminalOpen := none }) ?_ (keeps_rejectOpen _ _ _)
    exact .of_fields rfl rfl rfl rfl (.inl rfl)

theorem keeps_openRejected (socket : TerminalSocket) (error : String) :
    Keeps s (s.openRejected socket error) := by
  unfold V070Client.openRejected
  dsimp only
  split
  · refine .trans ?_ (keeps_rejectOpen _ _ _)
    exact .of_fields rfl rfl rfl rfl (.inl rfl)
  · exact keeps_rejectOpen _ _ _

theorem keeps_failOpening (socket : TerminalSocket) (error : String) :
    Keeps s (s.failOpening socket error) := by
  unfold V070Client.failOpening
  dsimp only
  split
  · refine .trans ?_ (keeps_openRejected _ _)
    exact .of_fields rfl rfl rfl rfl (.inl rfl)
  · refine .trans ?_ (keeps_openRejected _ _)
    exact .of_fields rfl rfl rfl rfl (.inl rfl)

theorem keeps_openTerminal (command : WorkspaceCommand) (refreshed : Bool) :
    Keeps s (s.openTerminal command refreshed) := by
  unfold V070Client.openTerminal
  split
  · refine .trans ?_ (keeps_rejectOpen _ _ _)
    exact .of_fields rfl rfl rfl rfl (.inl rfl)
  · exact (keeps_resetTerminalState _).trans (.of_fields rfl rfl rfl rfl (.inl rfl))

theorem keeps_foldl_enqueue (id session : ℕ) (frames : List F) :
    Keeps s (frames.foldl (fun s bytes => s.enqueue id (.attachFrame session bytes)) s) := by
  induction frames generalizing s with
  | nil => exact .refl s
  | cons bytes frames ih => exact (keeps_enqueue id _).trans ih

theorem keeps_handleTerminal (id : ℕ) (m : TerminalMessage F) : Keeps s (s.handleTerminal id m) := by
  cases m with
  | acknowledged session =>
    dsimp only [V070Client.handleTerminal]
    split
    · exact .refl s
    · split
      · exact .refl s
      · refine .trans ?_ (keeps_foldl_enqueue _ _ _)
        unfold resolveOpen
        split
        · exact .of_fields rfl rfl rfl rfl (.inl rfl)
        · exact ⟨List.prefix_append _ _, fun h => h.of_waiters rfl rfl rfl (.inl rfl)⟩
  | error code =>
    dsimp only [V070Client.handleTerminal]
    split
    · refine .trans ?_ (keeps_rejectOpen _ _ _)
      exact .of_fields rfl rfl rfl rfl (.inl rfl)
    · exact keeps_enqueue _ _
  | other => exact .refl s
  | frame bytes =>
    dsimp only [V070Client.handleTerminal]
    split
    · exact keeps_enqueue _ _
    · split
      · exact .of_fields rfl rfl rfl rfl (.inl rfl)
      · exact .refl s

theorem Keeps.step {op : Op F} (hs : s.step op = some t) : Keeps s t := by
  cases op with
  | openTerminal command => exact Option.some.inj hs ▸ keeps_openTerminal command false
  | detachSession session =>
    obtain rfl := Option.some.inj hs
    unfold V070Client.detachSession
    split
    · exact (keeps_resetTerminalState _).trans (.of_fields rfl rfl rfl rfl (.inl rfl))
    · exact .refl s
  | close =>
    obtain rfl := Option.some.inj hs
    unfold V070Client.close
    split
    · exact .refl s
    · have hclosed : Keeps s { s with isClosed := true } := .of_fields rfl rfl rfl rfl (.inl rfl)
      refine (hclosed.trans (keeps_resetTerminalState "connection_closed")).trans ?_
      exact .of_fields rfl rfl rfl rfl (.inr rfl)
  | tokenRefreshed =>
    obtain rfl := Option.some.inj hs
    unfold V070Client.reconnectWithRefreshedToken
    split
    · exact .refl s
    · split
      · exact .refl s
      · exact keeps_openTerminal _ _
  | receiveInner call => exact Option.some.inj hs ▸ keeps_receiveInner call
  | interruptReceiveWaiters =>
    exact Option.some.inj hs ▸ .of_fields rfl rfl rfl rfl (.inr rfl)
  | token id result =>
    cases result with
    | ok value =>
      obtain ⟨socket, -, rfl⟩ := Option.map_eq_some_iff.mp hs
      unfold V070Client.created
      split
      · exact .of_fields rfl rfl rfl rfl (.inl rfl)
      · exact .of_fields rfl rfl rfl rfl (.inl rfl)
    | error error =>
      obtain ⟨socket, -, rfl⟩ := Option.map_eq_some_iff.mp hs
      exact keeps_failOpening socket error
  | opened id =>
    obtain ⟨socket, -, rfl⟩ := Option.map_eq_some_iff.mp hs
    unfold V070Client.socketOpened
    dsimp only
    split
    · refine .trans ?_ (keeps_openRejected _ _)
      exact .of_fields rfl rfl rfl rfl (.inl rfl)
    · exact .of_fields rfl rfl rfl rfl (.inl rfl)
  | openFailed id =>
    obtain ⟨socket, -, rfl⟩ := Option.map_eq_some_iff.mp hs
    exact keeps_failOpening socket _
  | message id m =>
    obtain ⟨socket, -, rfl⟩ := Option.map_eq_some_iff.mp hs
    have hheard : Keeps s { s with received := s.received ++ [(socket.id, m)] } :=
      .of_fields rfl rfl rfl rfl (.inl rfl)
    unfold V070Client.socketMessage
    dsimp only
    split
    · exact hheard
    · split
      · exact hheard
      · exact hheard.trans (keeps_handleTerminal _ _)
  | closed id =>
    obtain ⟨socket, -, rfl⟩ := Option.map_eq_some_iff.mp hs
    unfold V070Client.socketClosed
    dsimp only
    split
    · exact .of_fields rfl rfl rfl rfl (.inl rfl)
    · have hremoved : Keeps s { s.removeSocket socket.id with terminal := none } :=
        .of_fields rfl rfl rfl rfl (.inl rfl)
      unfold V070Client.handleTerminalClose
      split
      · exact hremoved
      · have hreset := hremoved.trans (keeps_resetTerminalState "connection_closed")
        dsimp only
        split
        · exact hreset.trans (.of_fields rfl rfl rfl rfl (.inr rfl))
        · exact hreset

theorem Opens.isolated (h : s.Opens) (hqueue : s.Queue) : s.Isolated where
  once := h.once
  own := h.own
  superseded := by
    intro call hcall
    refine (h.superseded call hcall).imp_right ?_
    rintro ⟨pending, hsome, rfl⟩
    obtain ⟨hlast, -, hopen, -⟩ := h.waiting pending hsome
    exact ⟨hlast, hopen, pending, hsome, rfl⟩
  prefixes := h.prefixes
  complete := by
    intro session hsome
    obtain ⟨-, call, -, hrest⟩ := h.attached session hsome
    exact ⟨call, hrest⟩
  attributed := h.attributed
  ordered := h.ordered
  handed := hqueue.handed

/-! ### Every run -/

/-- A reset rejects the open that waits. -/
theorem Opens.settled_reset (h : s.Opens) {pending : PendingTerminalOpen}
    (hsome : s.terminalOpen = some pending) (isClosed : Bool) (error : String) :
    (pending.call, Except.error error) ∈
      (V070Client.resetTerminalState { s with isClosed := isClosed } error).settled := by
  obtain ⟨_, settled, heq, hsettled⟩ := resetTerminalState_eq { s with isClosed := isClosed } error
  rcases hsettled with ⟨hnone, -⟩ | ⟨pending', hsome', rfl⟩
  · cases hnone.symm.trans hsome
  · obtain rfl := Option.some.inj (hsome.symm.trans hsome')
    rw [heq, if_neg (h.waiting pending hsome).2.1]
    exact List.mem_append_right _ (List.mem_singleton_self _)

/-- **A promise that waits is rejected** by what ends its open. -/
theorem Opens.rejected (h : s.Opens) {op : Op F} (hs : s.step op = some t) (hop : s.Supersedes op)
    {call : ℕ} (hcall : call < s.nextCall) (hunsettled : call ∉ s.settled.map Prod.fst) :
    ∃ error, (call, Except.error error) ∈ t.settled := by
  rcases h.superseded call hcall with hsettled | ⟨pending, hsome, rfl⟩
  · exact absurd hsettled hunsettled
  obtain ⟨-, -, hopen, hnone, -⟩ := h.waiting pending hsome
  have hreset := h.settled_reset hsome
  cases op with
  | openTerminal command =>
    obtain rfl := Option.some.inj hs
    unfold V070Client.openTerminal
    rw [if_neg (by rw [hopen]; exact Bool.false_ne_true)]
    exact ⟨_, hreset s.isClosed _⟩
  | close =>
    obtain rfl := Option.some.inj hs
    unfold V070Client.close
    rw [if_neg (by rw [hopen]; exact Bool.false_ne_true)]
    exact ⟨_, hreset true _⟩
  | tokenRefreshed =>
    -- an open does not wait where a session is attached
    have hsession : s.terminalSessionId.isSome = true := hop
    rw [hnone] at hsession
    cases hsession
  | detachSession session =>
    obtain ⟨pending', hsome', hsession⟩ := hop
    obtain rfl := Option.some.inj (hsome.symm.trans hsome')
    obtain rfl := Option.some.inj hs
    unfold V070Client.detachSession
    rw [if_pos (by simp [hsome, hsession])]
    exact ⟨_, hreset s.isClosed _⟩
  | receiveInner | interruptReceiveWaiters | token | opened | openFailed | message | closed =>
    exact hop.elim

/-- A session is attached, and another one before its frames have come; the frame that comes before
the acknowledgement of the second open is handed out after it. -/
def switched : List (Op ℕ) :=
  [.receiveInner 0, .openTerminal (.attach 7), .token 0 (.ok ()), .opened 0,
    .message 0 (.acknowledged 7), .message 0 (.frame 70), .openTerminal (.attach 8),
    .openTerminal .create, .token 1 (.ok ()), .token 2 (.ok ()), .openFailed 1, .opened 2,
    .message 2 (.frame 90), .message 2 (.acknowledged 9), .message 2 (.frame 91), .receiveInner 1]

theorem keeps_of_run {ops : List (Op F)} (hrun : exec step s ops = some t) : Keeps s t :=
  exec_induction (I := Keeps s) (fun _ _ _ h hs => h.trans (.step hs)) (.refl s) hrun

theorem opens_of_run {ops : List (Op F)} (hrun : exec step {} ops = some s) : s.Opens := by
  have hboth : s.Sockets ∧ s.Opens := by
    refine exec_induction (I := fun s => s.Sockets ∧ s.Opens) ?_
      ⟨Sockets.initial, Opens.initial⟩ hrun
    rintro s op t ⟨hsockets, hopens⟩ hs
    exact ⟨hsockets.step hs, hopens.step hsockets hs⟩
  exact hboth.2

/-- **Opens do not mix.** In every run each promise of an open is settled once, by its own socket if
it resolves, and as soon as another open has begun; the frames that are handed out are, open by
open, those of its socket from the first on, without a gap while it has the terminal. A promise that
waits is rejected by a newer open, by the close, and by a detach of the session it is to attach. -/
theorem isolated_of_run {ops : List (Op F)} (hrun : exec step {} ops = some s) :
    s.Isolated ∧ ∀ before op after s₀, ops = before ++ op :: after →
      exec step {} before = some s₀ → s₀.Supersedes op →
        ∀ call < s₀.nextCall, call ∉ s₀.settled.map Prod.fst →
          ∃ error, (call, Except.error error) ∈ s.settled := by
  refine ⟨(opens_of_run hrun).isolated ((keeps_of_run hrun).queue ⟨rfl, fun _ => rfl⟩), ?_⟩
  rintro before op after s₀ rfl hbefore hop call hcall hunsettled
  rw [exec_append, hbefore, Option.bind_some] at hrun
  obtain ⟨s₁, hs, hafter⟩ := Option.bind_eq_some_iff.mp hrun
  obtain ⟨error, herror⟩ := (opens_of_run hbefore).rejected hs hop hcall hunsettled
  exact ⟨error, (keeps_of_run hafter).settled.subset herror⟩

/-- The open in the middle is rejected, and the last one has both of its frames. -/
theorem isolated_of_switched : ∃ s : V070Client ℕ, exec step {} switched = some s ∧ s.Isolated ∧
    s.settled.map Prod.fst = [0, 1, 2] ∧ s.framesEnqueued 2 = [90, 91] ∧
      s.terminalSessionId = some 9 ∧ ∃ error, (1, Except.error error) ∈ s.settled := by
  have h : ((exec step {} switched).any fun s : V070Client ℕ =>
      s.settled.map Prod.fst = [0, 1, 2] && s.framesEnqueued 2 = [90, 91] &&
        s.terminalSessionId = some 9) = true := by
    decide +kernel
  have hmiddle : ((exec step {} (switched.take 7)).any fun s : V070Client ℕ =>
      s.nextCall = 2 && s.settled.map Prod.fst = [0]) = true := by
    decide +kernel
  obtain ⟨s, hs, hend⟩ := (Option.any_eq_true ..).mp h
  obtain ⟨s₀, hs₀, hwaits⟩ := (Option.any_eq_true ..).mp hmiddle
  simp only [Bool.and_eq_true, decide_eq_true_eq] at hend hwaits
  obtain ⟨hisolated, hrejected⟩ := isolated_of_run hs
  refine ⟨s, hs, hisolated, hend.1.1, hend.1.2, hend.2, ?_⟩
  refine hrejected (switched.take 7) (.openTerminal .create) (switched.drop 8) s₀ rfl hs₀ trivial 1
    ?_ ?_
  · rw [hwaits.1]
    exact Nat.one_lt_two
  · rw [hwaits.2]
    decide

/-- An open is left alone by a detach of another session. -/
theorem not_rejected_of_detach :
    ¬∀ (before after : List (Op ℕ)) (session : ℕ) (s₀ s : V070Client ℕ),
      exec step {} before = some s₀ →
      exec step {} (before ++ .detachSession session :: after) = some s →
        ∀ call < s₀.nextCall, call ∉ s₀.settled.map Prod.fst →
          ∃ error, (call, Except.error error) ∈ s.settled := by
  intro h
  obtain ⟨error, herror⟩ := h [.openTerminal (.attach 7)]
    [.token 0 (.ok ()), .opened 0, .message 0 (.acknowledged 7)] 8 _ _ rfl rfl 0 Nat.one_pos
      List.not_mem_nil
  cases List.mem_singleton.mp herror

end V070Client

end Termd.Browser.Terminal
