import Termd.Library.FiniteMap

/-!
# Relay rooms

A relay room holds the connections of one daemon: its control line, the pending and paired
clients, and the data pipes the daemon dialled back. Clients may send before their data pipe
arrives; such frames wait in a bounded buffer of the client, under a byte budget of the room.

The outcome of a `try_send` on a control queue belongs to the environment, so every operation
that sends takes it as an argument. What an operation does to the outside is returned as a
multiset of effects: the maps of the source are hash maps, and their iteration order is not
part of the model. The subtractions on the byte counter are recorded among the effects.

## Main definitions

* `PrePairBuffer.push`, `PrePairBuffer.drain`: the buffer of a client
* `ConnectionEndpoint`: a registered connection
* `RelayRoom`: the connections of one daemon
* `RelayRoom.closeClients`, `RelayRoom.clearDaemonControlAndDependents`,
  `RelayRoom.closeClientTransport`: the ways connections leave a room
* `RelayRoom.bufferClientFrame`, `RelayRoom.drainPrePairClientFrames`: buffering and flushing
-/

namespace Termd.Relay

/-- Connection ids are `u64` values; wrapping of the counter is out of scope. -/
abbrev ConnectionId := ℕ

/-- Instants, in nanoseconds. -/
abbrev Instant := ℕ

/-- The public identity of a daemon, a UUID. -/
structure ServerId where
  uuid : BitVec 128
deriving DecidableEq

structure Nonce where
  value : String
deriving DecidableEq

structure RelayClientId where
  value : ConnectionId
deriving DecidableEq

/-- The sending half of an endpoint, named by the pump it belongs to. -/
structure FrameSender where
  pump : ℕ
deriving DecidableEq

inductive ConnectionRole
  | daemonControl
  | daemonData
  | client
deriving DecidableEq

inductive RelayRouteKind
  | legacy
  | metadata
  | terminal
  | http
deriving DecidableEq

/-- A business frame, forwarded as it is. -/
inductive OpaqueFrame
  | text (value : String)
  | binary (value : List UInt8)
deriving DecidableEq

def OpaqueFrame.len : OpaqueFrame → ℕ
  | .text value => value.utf8ByteSize
  | .binary value => value.length

/-- The largest `usize`. -/
def usizeMax : ℕ := 2 ^ 64 - 1

/-- `usize::saturating_add`. -/
def saturatingAdd (a b : ℕ) : ℕ := min (a + b) usizeMax

theorem saturatingAdd_of_le {a b : ℕ} (h : a + b ≤ usizeMax) : saturatingAdd a b = a + b :=
  min_eq_left h

theorem saturatingAdd_le_iff {a b n : ℕ} (hn : n < usizeMax) :
    saturatingAdd a b ≤ n ↔ a + b ≤ n := by
  unfold saturatingAdd
  omega

def PENDING_CLIENTS_PER_ROOM_LIMIT : ℕ := 64
def PRE_PAIR_CLIENT_BUFFER_MAX_FRAMES : ℕ := 256
def PRE_PAIR_CLIENT_BUFFER_MAX_BYTES : ℕ := 4 * 1024 * 1024
def PRE_PAIR_ROOM_BUFFER_MAX_BYTES : ℕ := PRE_PAIR_CLIENT_BUFFER_MAX_BYTES * 2

/-- The lifecycle messages of the control line. -/
inductive RelayControlEnvelope
  | openData (clientId : RelayClientId) (dataToken : Nonce) (routeKind : RelayRouteKind)
      (accessToken : Option String)
  | clientDisconnected (clientId : RelayClientId)
  | dataReady
deriving DecidableEq

/-- The outcome of a `try_send` on a bounded queue. -/
inductive TrySend
  | ok
  | full
  | closed
deriving DecidableEq

/-- What a registry operation does outside the rooms. `releaseBytes held released` records a
`saturating_sub` of `released` from a byte counter that holds `held`. -/
inductive RelayEffect
  | requestClose (sender : FrameSender)
  | notifyWaiters (client : ConnectionId)
  | sendControl (sender : FrameSender) (envelope : RelayControlEnvelope) (outcome : TrySend)
  | releaseBytes (held released : ℕ)
deriving DecidableEq

/-! ## The pre-pair buffer -/

/-- The frames a client sent before its data pipe took over, with their total length. -/
structure PrePairBuffer where
  frames : List OpaqueFrame := []
  bytes : ℕ := 0
deriving DecidableEq

namespace PrePairBuffer

/-- `push`: the buffer with the frame queued, or `none` when the frame is refused. -/
def push (b : PrePairBuffer) (frame : OpaqueFrame) : Option PrePairBuffer :=
  if b.frames.length ≥ PRE_PAIR_CLIENT_BUFFER_MAX_FRAMES ∨
      saturatingAdd b.bytes frame.len > PRE_PAIR_CLIENT_BUFFER_MAX_BYTES then
    none
  else
    some { frames := b.frames ++ [frame], bytes := saturatingAdd b.bytes frame.len }

def isEmpty (b : PrePairBuffer) : Bool := b.frames.isEmpty

/-- `drain`: the emptied buffer and the frames it held. -/
def drain (b : PrePairBuffer) : PrePairBuffer × List OpaqueFrame :=
  ({ frames := [], bytes := 0 }, b.frames)

/-- The total length of a list of frames. -/
def framesLen (frames : List OpaqueFrame) : ℕ := (frames.map OpaqueFrame.len).sum

/-- The byte count is the total length of the frames, and both limits hold. -/
structure Accounted (b : PrePairBuffer) : Prop where
  bytes_eq : b.bytes = framesLen b.frames
  frames_le : b.frames.length ≤ PRE_PAIR_CLIENT_BUFFER_MAX_FRAMES
  bytes_le : b.bytes ≤ PRE_PAIR_CLIENT_BUFFER_MAX_BYTES

theorem accounted_empty : Accounted {} :=
  ⟨rfl, Nat.zero_le _, Nat.zero_le _⟩

theorem push_eq_some {b b' : PrePairBuffer} {frame : OpaqueFrame} (h : b.push frame = some b') :
    b'.frames = b.frames ++ [frame] ∧ b'.bytes = b.bytes + frame.len ∧
      b'.frames.length ≤ PRE_PAIR_CLIENT_BUFFER_MAX_FRAMES ∧
      b'.bytes ≤ PRE_PAIR_CLIENT_BUFFER_MAX_BYTES := by
  have hmax : PRE_PAIR_CLIENT_BUFFER_MAX_BYTES < usizeMax := by decide
  unfold push at h
  split_ifs at h with hfull
  rw [not_or, not_le, not_lt, saturatingAdd_le_iff hmax] at hfull
  obtain rfl := Option.some.inj h
  have hadd : saturatingAdd b.bytes frame.len = b.bytes + frame.len :=
    saturatingAdd_of_le (hfull.2.trans hmax.le)
  refine ⟨rfl, hadd, ?_, ?_⟩
  · simpa [Nat.succ_le_iff] using hfull.1
  · simpa [hadd] using hfull.2

theorem Accounted.push {b b' : PrePairBuffer} {frame : OpaqueFrame} (hb : b.Accounted)
    (h : b.push frame = some b') : b'.Accounted := by
  obtain ⟨hframes, hbytes, hlen, hle⟩ := push_eq_some h
  refine ⟨?_, hlen, hle⟩
  rw [hbytes, hframes, hb.bytes_eq]
  simp [framesLen]

end PrePairBuffer

/-! ## Endpoints -/

/-- A registered connection. Only clients carry a data token and a pre-pair buffer. -/
structure ConnectionEndpoint where
  id : ConnectionId
  sender : FrameSender
  dataToken : Option Nonce
  pairedDaemonDataId : Option ConnectionId
  pairedClientId : Option ConnectionId
  prePairBuffer : PrePairBuffer
  prePairFlushInProgress : Bool
  createdAt : Instant
  pairedAt : Option Instant
deriving DecidableEq

namespace ConnectionEndpoint

def new (id : ConnectionId) (sender : FrameSender) (now : Instant) : ConnectionEndpoint where
  id := id
  sender := sender
  dataToken := none
  pairedDaemonDataId := none
  pairedClientId := none
  prePairBuffer := {}
  prePairFlushInProgress := false
  createdAt := now
  pairedAt := none

def newClient (id : ConnectionId) (sender : FrameSender) (dataToken : Nonce) (now : Instant) :
    ConnectionEndpoint :=
  { new id sender now with dataToken := some dataToken }

def newDaemonData (id : ConnectionId) (sender : FrameSender) (clientId : ConnectionId)
    (now : Instant) : ConnectionEndpoint :=
  { new id sender now with pairedClientId := some clientId }

end ConnectionEndpoint

/-- What the log of a closed client reports. -/
structure ClientPairLogContext where
  waitMs : ℕ
  paired : Bool
  prePairFrames : ℕ
  prePairBytes : ℕ

/-- A duration of nanoseconds in milliseconds, capped at `u64::MAX`. -/
def durationMsSaturated (duration : ℕ) : ℕ := min (duration / 1000000) (2 ^ 64 - 1)

def clientPairLogContext (client : ConnectionEndpoint) (now : Instant) : ClientPairLogContext where
  waitMs := durationMsSaturated (now - client.createdAt)
  paired := client.pairedDaemonDataId.isSome
  prePairFrames := client.prePairBuffer.frames.length
  prePairBytes := client.prePairBuffer.bytes

structure ClientCloseOutcome where
  removed : Bool := false
  notifiedDataPipe : Bool := false
  pairSummary : Option ClientPairLogContext := none

/-! ## Rooms -/

/-- The connections of one daemon. -/
structure RelayRoom where
  daemonControl : Option ConnectionEndpoint := none
  routeGeneration : Option Nonce := none
  daemonData : FiniteMap ConnectionId ConnectionEndpoint := ∅
  clients : FiniteMap ConnectionId ConnectionEndpoint := ∅
  prePairClientBytes : ℕ := 0

namespace RelayRoom

def isEmpty (room : RelayRoom) : Bool :=
  room.daemonControl.isNone && decide (room.daemonData = ∅) && decide (room.clients = ∅)

/-- `close_clients`: every client and every data pipe is told to close and leaves. Each data
pipe is closed once, either with its client or in the final drain. -/
def closeClients (room : RelayRoom) : RelayRoom × Multiset RelayEffect :=
  ({ room with clients := ∅, daemonData := ∅, prePairClientBytes := 0 },
    room.daemonData.entries.map (fun e => .requestClose e.2.sender) +
      room.clients.entries.map (fun e => .notifyWaiters e.1) +
      room.clients.entries.map (fun e => .requestClose e.2.sender))

/-- `clear_daemon_control_and_dependents`: the control line is what keeps a daemon online; with
it go all clients and data pipes. -/
def clearDaemonControlAndDependents (room : RelayRoom) : RelayRoom × Multiset RelayEffect :=
  let closed := { room with daemonControl := none, routeGeneration := none }.closeClients
  (closed.1,
    (room.daemonControl.elim 0 fun control => {.requestClose control.sender}) + closed.2)

/-- `release_client_pre_pair_bytes`, with the subtraction it makes. -/
def releaseClientPrePairBytes (room : RelayRoom) (client : ConnectionEndpoint) :
    RelayRoom × Multiset RelayEffect :=
  ({ room with prePairClientBytes := room.prePairClientBytes - client.prePairBuffer.bytes },
    {.releaseBytes room.prePairClientBytes client.prePairBuffer.bytes})

/-- `close_client_transport`: a client leaves with its buffered bytes, and takes the data pipe
it is paired with along. -/
def closeClientTransport (room : RelayRoom) (clientId : ConnectionId) (now : Instant) :
    RelayRoom × ClientCloseOutcome × Multiset RelayEffect :=
  match room.clients.lookup clientId with
  | none => (room, {}, 0)
  | some client =>
    let summary := clientPairLogContext client now
    let released :=
      { room with clients := room.clients.erase clientId }.releaseClientPrePairBytes client
    let notified : Multiset RelayEffect :=
      released.2 + {.notifyWaiters clientId} + {.requestClose client.sender}
    match client.pairedDaemonDataId.bind fun dataId => room.daemonData.lookup dataId with
    | none =>
      (released.1, { removed := true, notifiedDataPipe := false, pairSummary := some summary },
        notified)
    | some daemonData =>
      ({ released.1 with
          daemonData := (client.pairedDaemonDataId.elim released.1.daemonData
            fun dataId => released.1.daemonData.erase dataId) },
        { removed := true, notifiedDataPipe := true, pairSummary := some summary },
        notified + {.requestClose daemonData.sender})

/-- `buffer_client_frame`: the room with the frame buffered, or `none` when it is refused. -/
def bufferClientFrame (room : RelayRoom) (clientId : ConnectionId) (frame : OpaqueFrame) :
    Option RelayRoom :=
  match room.clients.lookup clientId with
  | none => none
  | some client =>
    if saturatingAdd room.prePairClientBytes frame.len > PRE_PAIR_ROOM_BUFFER_MAX_BYTES then
      none
    else
      (client.prePairBuffer.push frame).map fun buffer =>
        { room with
          clients := room.clients.insert clientId { client with prePairBuffer := buffer }
          prePairClientBytes := saturatingAdd room.prePairClientBytes frame.len }

/-- `drain_pre_pair_client_frames`: the frames of a client's buffer, taken out. -/
def drainPrePairClientFrames (room : RelayRoom) (clientId : ConnectionId) :
    Option (RelayRoom × List OpaqueFrame × Multiset RelayEffect) :=
  (room.clients.lookup clientId).map fun client =>
    let drained := client.prePairBuffer.drain
    ({ room with
        clients := room.clients.insert clientId { client with prePairBuffer := drained.1 }
        prePairClientBytes := room.prePairClientBytes - client.prePairBuffer.bytes },
      drained.2,
      {.releaseBytes room.prePairClientBytes client.prePairBuffer.bytes})

/-- `notify_client_disconnected_to_control`: a control line that cannot take a lifecycle message
is cleared with all its dependents. -/
def notifyClientDisconnectedToControl (room : RelayRoom) (clientId : ConnectionId)
    (control : FrameSender → TrySend) : RelayRoom × Multiset RelayEffect :=
  match room.daemonControl with
  | none => (room, 0)
  | some daemonControl =>
    let outcome := control daemonControl.sender
    let sent : Multiset RelayEffect :=
      {.sendControl daemonControl.sender (.clientDisconnected ⟨clientId⟩) outcome}
    if outcome = .ok then
      (room, sent)
    else
      let cleared := room.clearDaemonControlAndDependents
      (cleared.1, sent + cleared.2)

theorem bufferClientFrame_eq_some {room room' : RelayRoom} {clientId : ConnectionId}
    {frame : OpaqueFrame} (h : room.bufferClientFrame clientId frame = some room') :
    ∃ client, room.clients.lookup clientId = some client ∧
      ∃ buffer, (client.prePairBuffer.push frame = some buffer ∧
        room.prePairClientBytes + frame.len ≤ PRE_PAIR_ROOM_BUFFER_MAX_BYTES) ∧
      { room with
        clients := room.clients.insert clientId { client with prePairBuffer := buffer }
        prePairClientBytes := room.prePairClientBytes + frame.len } = room' := by
  have hmax : PRE_PAIR_ROOM_BUFFER_MAX_BYTES < usizeMax := by decide
  unfold bufferClientFrame at h
  cases hc : room.clients.lookup clientId with
  | none => simp [hc] at h
  | some client =>
    simp only [hc] at h
    split_ifs at h with hfull
    rw [not_lt, saturatingAdd_le_iff hmax] at hfull
    obtain ⟨buffer, hpush, rfl⟩ := Option.map_eq_some_iff.mp h
    exact ⟨client, rfl, buffer, ⟨hpush, hfull⟩,
      by rw [saturatingAdd_of_le (hfull.trans hmax.le)]⟩

theorem drainPrePairClientFrames_eq_some {room room' : RelayRoom} {clientId : ConnectionId}
    {frames : List OpaqueFrame} {effects : Multiset RelayEffect}
    (h : room.drainPrePairClientFrames clientId = some (room', frames, effects)) :
    ∃ client, room.clients.lookup clientId = some client ∧
      { room with
        clients := room.clients.insert clientId { client with prePairBuffer := {} }
        prePairClientBytes := room.prePairClientBytes - client.prePairBuffer.bytes } = room' ∧
      frames = client.prePairBuffer.frames ∧
      effects = {.releaseBytes room.prePairClientBytes client.prePairBuffer.bytes} := by
  obtain ⟨client, hc, he⟩ := Option.map_eq_some_iff.mp h
  obtain ⟨rfl, rfl, rfl⟩ : _ ∧ _ ∧ _ := by simpa using he
  exact ⟨client, hc, rfl, rfl, rfl⟩

/-- `pending_client_count`: the clients still waiting for their data pipe. -/
def pendingClientCount (room : RelayRoom) : ℕ :=
  FiniteMap.count (fun client => client.pairedDaemonDataId.isNone) room.clients

end RelayRoom

end Termd.Relay
