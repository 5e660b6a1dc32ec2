import Termd.Library.Transition
import Termd.Relay.Room

/-!
# The relay registry

The registry maps a daemon's identity to its room and hands out connection ids. Its operations
run under one mutex; a forwarding operation looks its target up under the mutex, sends without
it, and takes it again to clean up after a failed send. `RelaySystem` is the registry seen as a
transition system: every label is one critical section, with arbitrary arguments and an
arbitrary outcome of the sends it makes, so that every interleaving of the operations of any
number of connections is a run.

## Main definitions

* `RelayRegistry.registerTransport`, `RelayRegistry.unregister`,
  `RelayRegistry.closePendingClientIfUnpaired`, `RelayRegistry.closeServer`
* `RelayRegistry.forwardClientLookup`, `RelayRegistry.forwardDaemonDataLookup`: the targets of
  `forward_from`
* `RelayRegistry.bufferUnpairedClientFrame`, `RelayRegistry.takePrePairClientFrames`
* `RelayOp`, `RelaySystem.step`: the critical sections as a transition system
-/

namespace Termd.Relay

inductive RouteRole
  | client
  | daemonControl
  | daemonData
  | daemonMux
deriving DecidableEq

inductive RelayAdmissionPayload
  | daemon (token : String)
  | pairTicket (token : String)
  | device (deviceId : BitVec 128) (nonce : Nonce) (timestampMs : ℕ) (signature : String)
deriving DecidableEq

/-- The first message of a connection, decoded. -/
structure RoutePrelude where
  serverId : ServerId
  routeRole : RouteRole
  connectionRole : ConnectionRole
  admission : Option RelayAdmissionPayload
  routeGeneration : Option Nonce
  clientId : Option RelayClientId
  dataToken : Option Nonce
deriving DecidableEq

structure ConnectionRegistration where
  serverId : ServerId
  role : ConnectionRole
  id : ConnectionId
  routeGeneration : Option Nonce
  pairedClientId : Option ConnectionId
deriving DecidableEq

structure ForwardReport where
  attempted : ℕ
  delivered : ℕ
  dropped : ℕ
deriving DecidableEq

namespace ForwardReport

def ignored : ForwardReport := ⟨0, 0, 0⟩
def deliveredOne : ForwardReport := ⟨1, 1, 0⟩
def droppedOne : ForwardReport := ⟨1, 0, 1⟩

end ForwardReport

inductive RelayError
  | daemonRouteGenerationRequired
  | daemonControlOffline
  | daemonControlBusy
  | pendingClientLimitExceeded
  | daemonDataRouteInvalid
  | daemonDataRouteRejected
  | admissionRequired
  | admissionRejected

/-! ## Registration, room by room -/

namespace RelayRoom

/-- A control line takes the room over: a stale one is closed with its dependents. -/
def registerDaemonControl (room : RelayRoom) (id : ConnectionId) (sender : FrameSender)
    (routeGeneration : Option Nonce) (now : Instant) : RelayRoom × Multiset RelayEffect :=
  let replaced := { room with daemonControl := some (.new id sender now) }
  match room.daemonControl with
  | none => ({ replaced with routeGeneration := routeGeneration }, 0)
  | some staleControl =>
    let closed := replaced.closeClients
    ({ closed.1 with routeGeneration := routeGeneration },
      {.requestClose staleControl.sender} + closed.2)

/-- A data pipe is accepted for the pending client whose token it presents, under the current
route generation. Frames already buffered keep the client in its flushing phase. -/
def registerDaemonData (room : RelayRoom) (id : ConnectionId) (prelude : RoutePrelude)
    (sender : FrameSender) (now : Instant) :
    Except RelayError (RelayRoom × Multiset RelayEffect) :=
  if room.routeGeneration.any fun current => prelude.routeGeneration ≠ some current then
    .error .daemonDataRouteRejected
  else
    match prelude.clientId, prelude.dataToken with
    | some clientId, some dataToken =>
      match room.clients.lookup clientId.value with
      | none => .error .daemonDataRouteRejected
      | some client =>
        if client.dataToken ≠ some dataToken ∨ client.pairedDaemonDataId.isSome then
          .error .daemonDataRouteRejected
        else
          .ok
            ({ room with
                clients := room.clients.insert clientId.value
                  { client with
                    pairedDaemonDataId := some id
                    pairedAt := some now
                    prePairFlushInProgress := !client.prePairBuffer.isEmpty }
                daemonData := room.daemonData.insert id
                  (.newDaemonData id sender clientId.value now) },
              {.notifyWaiters clientId.value})
    | _, _ => .error .daemonDataRouteInvalid

/-- The data token of a client: a fresh UUID and the client's connection id. -/
def clientDataToken (uuid : String) (id : ConnectionId) : Nonce :=
  ⟨"relay-data-" ++ uuid ++ "-" ++ toString id⟩

/-- The room with a new client in it. -/
def insertClient (room : RelayRoom) (id : ConnectionId) (sender : FrameSender)
    (dataToken : Nonce) (now : Instant) : RelayRoom :=
  { room with clients := room.clients.insert id (.newClient id sender dataToken now) }

theorem pendingClientCount_insertClient {room : RelayRoom} {id : ConnectionId}
    (hid : room.clients.lookup id = none) (sender : FrameSender) (dataToken : Nonce)
    (now : Instant) : (room.insertClient id sender dataToken now).pendingClientCount =
      1 + room.pendingClientCount := by
  unfold pendingClientCount FiniteMap.count insertClient
  rw [FiniteMap.total_insert_of_lookup_none _ hid]
  rfl

/-- A client enters the room before the daemon is told to dial back; it leaves again when the
control queue does not take the message. -/
def registerClient (room : RelayRoom) (id : ConnectionId) (sender : FrameSender)
    (routeKind : RelayRouteKind) (accessToken : Option String) (uuid : String) (now : Instant)
    (control : FrameSender → TrySend) :
    RelayRoom × Except RelayError Unit × Multiset RelayEffect :=
  if room.pendingClientCount ≥ PENDING_CLIENTS_PER_ROOM_LIMIT then
    (room, .error .pendingClientLimitExceeded, 0)
  else
    match room.daemonControl with
    | none => (room, .error .daemonControlOffline, 0)
    | some daemonControl =>
      let dataToken := clientDataToken uuid id
      let entered := room.insertClient id sender dataToken now
      if entered.pendingClientCount > PENDING_CLIENTS_PER_ROOM_LIMIT then
        let closed := entered.closeClientTransport id now
        (closed.1, .error .pendingClientLimitExceeded, closed.2.2)
      else
        let outcome := control daemonControl.sender
        let sent : Multiset RelayEffect :=
          {.sendControl daemonControl.sender (.openData ⟨id⟩ dataToken routeKind accessToken)
            outcome}
        match outcome with
        | .ok => (entered, .ok (), sent)
        | .full =>
          let closed := entered.closeClientTransport id now
          (closed.1, .error .daemonControlBusy, sent + closed.2.2)
        | .closed =>
          let closed := entered.closeClientTransport id now
          let cleared := closed.1.clearDaemonControlAndDependents
          (cleared.1, .error .daemonControlOffline, sent + closed.2.2 + cleared.2)

/-- The cleanup shared by the ways a client is closed from the relay's side: the client leaves,
and the daemon is told over the control line when no data pipe could tell it. -/
def closeClientAndNotify (room : RelayRoom) (clientId : ConnectionId) (now : Instant)
    (control : FrameSender → TrySend) :
    RelayRoom × ClientCloseOutcome × Multiset RelayEffect :=
  let close := room.closeClientTransport clientId now
  if close.2.1.removed && !close.2.1.notifiedDataPipe then
    let notified := close.1.notifyClientDisconnectedToControl clientId control
    (notified.1, close.2.1, close.2.2 + notified.2)
  else
    close

/-- A data pipe leaves, and closes the client it is paired with. -/
def unregisterDaemonData (room : RelayRoom) (registration : ConnectionRegistration)
    (now : Instant) : RelayRoom × Multiset RelayEffect :=
  match room.daemonData.lookup registration.id with
  | none => (room, 0)
  | some data =>
    let removed := { room with daemonData := room.daemonData.erase registration.id }
    let closedData : Multiset RelayEffect := {.requestClose data.sender}
    match (data.pairedClientId <|> registration.pairedClientId).bind fun clientId =>
        (removed.clients.lookup clientId).map fun client => (clientId, client) with
    | none => (removed, closedData)
    | some (clientId, client) =>
      if client.pairedDaemonDataId = some registration.id then
        let closed := removed.closeClientTransport clientId now
        (closed.1, closedData + closed.2.2)
      else
        (removed, closedData)

end RelayRoom

/-! ## The registry -/

/-- The rooms of the relay, by daemon. -/
abbrev Rooms := FiniteMap ServerId RelayRoom

structure RelayRegistry where
  rooms : Rooms := ∅
  nextConnectionId : ℕ := 0

namespace RelayRegistry

def removeRoomIfEmpty (rooms : Rooms) (serverId : ServerId) : Rooms :=
  if (rooms.lookup serverId).any RelayRoom.isEmpty then rooms.erase serverId else rooms

def roomCount (rooms : Rooms) : ℕ := rooms.keys.card

/-- `close_server`: the room is dropped with everything in it. -/
def closeServer (rooms : Rooms) (serverId : ServerId) : Rooms × Bool × Multiset RelayEffect :=
  match rooms.lookup serverId with
  | none => (rooms, false, 0)
  | some room => (rooms.erase serverId, true, room.clearDaemonControlAndDependents.2)

/-- What an accepted registration returns. -/
def registrationOf (rooms : Rooms) (id : ConnectionId) (prelude : RoutePrelude) :
    ConnectionRegistration where
  serverId := prelude.serverId
  role := prelude.connectionRole
  id := id
  routeGeneration :=
    ((rooms.lookup prelude.serverId).bind fun room => room.routeGeneration) <|>
      prelude.routeGeneration
  pairedClientId :=
    if prelude.connectionRole = .daemonData then
      prelude.clientId.map fun clientId => clientId.value
    else none

/-- `register_transport` past the draw of the connection id: the critical section. A refused
registration leaves the rooms as the refusing branch left them. -/
def registerTransport (rooms : Rooms) (id : ConnectionId) (prelude : RoutePrelude)
    (sender : FrameSender) (routeKind : RelayRouteKind) (accessToken : Option String)
    (uuid : String) (now : Instant) (control : FrameSender → TrySend) :
    Rooms × Except RelayError ConnectionRegistration × Multiset RelayEffect :=
  if prelude.connectionRole ≠ .client ∧ prelude.routeGeneration = none then
    (rooms, .error .daemonRouteGenerationRequired, 0)
  else
    match prelude.connectionRole with
    | .daemonControl =>
      let room := (rooms.lookup prelude.serverId).getD {}
      let result := room.registerDaemonControl id sender prelude.routeGeneration now
      let rooms := rooms.insert prelude.serverId result.1
      (rooms, .ok (registrationOf rooms id prelude), result.2)
    | .daemonData =>
      match rooms.lookup prelude.serverId with
      | none => (rooms, .error .daemonControlOffline, 0)
      | some room =>
        match room.registerDaemonData id prelude sender now with
        | .error error => (rooms, .error error, 0)
        | .ok result =>
          let rooms := rooms.insert prelude.serverId result.1
          (rooms, .ok (registrationOf rooms id prelude), result.2)
    | .client =>
      match rooms.lookup prelude.serverId with
      | none => (rooms, .error .daemonControlOffline, 0)
      | some room =>
        let result := room.registerClient id sender routeKind accessToken uuid now control
        let rooms := rooms.insert prelude.serverId result.1
        match result.2.1 with
        | .error error => (rooms, .error error, result.2.2)
        | .ok () => (rooms, .ok (registrationOf rooms id prelude), result.2.2)

/-- An operation on an existing room, with the cleanup of a room it leaves empty. -/
def updateRoom (rooms : Rooms) (serverId : ServerId)
    (f : RelayRoom → RelayRoom × Multiset RelayEffect) : Rooms × Multiset RelayEffect :=
  match rooms.lookup serverId with
  | none => (rooms, 0)
  | some room =>
    (removeRoomIfEmpty (rooms.insert serverId (f room).1) serverId, (f room).2)

/-- `unregister`. A stale control line leaves the room alone. -/
def unregister (rooms : Rooms) (registration : ConnectionRegistration) (now : Instant)
    (control : FrameSender → TrySend) : Rooms × Multiset RelayEffect :=
  updateRoom rooms registration.serverId fun room =>
    match registration.role with
    | .daemonControl =>
      if room.daemonControl.any fun daemon => daemon.id = registration.id then
        room.clearDaemonControlAndDependents
      else (room, 0)
    | .daemonData => room.unregisterDaemonData registration now
    | .client =>
      let closed := room.closeClientAndNotify registration.id now control
      (closed.1, closed.2.2)

/-- `close_pending_client_if_unpaired`, run at a client's pairing deadline. -/
def closePendingClientIfUnpaired (rooms : Rooms) (registration : ConnectionRegistration)
    (now : Instant) (control : FrameSender → TrySend) :
    Rooms × Option ClientPairLogContext × Multiset RelayEffect :=
  if registration.role ≠ .client then (rooms, none, 0)
  else
    match (rooms.lookup registration.serverId).bind fun room =>
        (room.clients.lookup registration.id).map fun client => (room, client) with
    | none => (rooms, none, 0)
    | some (room, client) =>
      if client.pairedDaemonDataId.isSome then (rooms, none, 0)
      else
        let closed := room.closeClientAndNotify registration.id now control
        (removeRoomIfEmpty (rooms.insert registration.serverId closed.1) registration.serverId,
          if closed.2.1.removed then closed.2.1.pairSummary else none, closed.2.2)

/-! ## Forwarding -/

/-- What `forward_client_to_daemon_data` decides while it holds the mutex. -/
inductive ClientForward
  | report (report : ForwardReport)
  | buffer
  | send (daemonDataId : ConnectionId) (sender : FrameSender)

/-- The first critical section of `forward_client_to_daemon_data`. -/
def forwardClientLookup (rooms : Rooms) (registration : ConnectionRegistration) : ClientForward :=
  match rooms.lookup registration.serverId with
  | none => .report .ignored
  | some room =>
    match room.clients.lookup registration.id with
    | none => .report .droppedOne
    | some client =>
      if client.prePairFlushInProgress then .buffer
      else
        match client.pairedDaemonDataId with
        | none => .buffer
        | some dataId =>
          match room.daemonData.lookup dataId with
          | none => .report .droppedOne
          | some daemonData => .send daemonData.id daemonData.sender

/-- What `forward_daemon_data_to_client` decides while it holds the mutex. -/
inductive DataForward
  | report (report : ForwardReport)
  | send (clientId : ConnectionId) (sender : FrameSender)
deriving DecidableEq

/-- The first critical section of `forward_daemon_data_to_client`. -/
def forwardDaemonDataLookup (rooms : Rooms) (registration : ConnectionRegistration) :
    DataForward :=
  match rooms.lookup registration.serverId with
  | none => .report .ignored
  | some room =>
    match room.daemonData.lookup registration.id with
    | none => .report .droppedOne
    | some daemonData =>
      match daemonData.pairedClientId with
      | none => .report .droppedOne
      | some clientId =>
        match room.clients.lookup clientId with
        | none => .report .droppedOne
        | some client =>
          if client.pairedDaemonDataId ≠ some registration.id then .report .droppedOne
          else .send clientId client.sender

/-- The cleanup after a failed send to a data pipe, of `forward_client_to_daemon_data` and of
`close_client_after_daemon_data_send_failure`. -/
def closeClientAfterDaemonDataSendFailure (rooms : Rooms)
    (registration : ConnectionRegistration) (daemonDataId : ConnectionId) (now : Instant) :
    Rooms × ForwardReport × Multiset RelayEffect :=
  let result := updateRoom rooms registration.serverId fun room =>
    if (room.daemonData.lookup daemonDataId).any fun endpoint => endpoint.id = daemonDataId then
      let closed := room.closeClientTransport registration.id now
      (closed.1, closed.2.2)
    else (room, 0)
  (result.1, .droppedOne, result.2)

/-- The cleanup after a failed send to a client, of `forward_daemon_data_to_client` and of
`close_client_after_pre_pair_flush_failure`. -/
def closeClientAfterSendFailure (rooms : Rooms) (registration : ConnectionRegistration)
    (clientId : ConnectionId) (now : Instant) (control : FrameSender → TrySend) :
    Rooms × Multiset RelayEffect :=
  updateRoom rooms registration.serverId fun room =>
    let closed := room.closeClientAndNotify clientId now control
    (closed.1, closed.2.2)

/-- `buffer_unpaired_client_frame`: the second critical section of a client's frame. A frame
that is refused closes the client. -/
def bufferUnpairedClientFrame (rooms : Rooms) (registration : ConnectionRegistration)
    (frame : OpaqueFrame) (now : Instant) (control : FrameSender → TrySend) :
    Rooms × ForwardReport × Multiset RelayEffect :=
  match rooms.lookup registration.serverId with
  | none => (rooms, .droppedOne, 0)
  | some room =>
    match room.bufferClientFrame registration.id frame with
    | some buffered => (rooms.insert registration.serverId buffered, .deliveredOne, 0)
    | none =>
      let closed := room.closeClientAndNotify registration.id now control
      (removeRoomIfEmpty (rooms.insert registration.serverId closed.1) registration.serverId,
        .droppedOne, closed.2.2)

/-- `take_pre_pair_client_frames`: the buffered frames of the paired client. An empty buffer
ends its flushing phase. -/
def takePrePairClientFrames (rooms : Rooms) (registration : ConnectionRegistration)
    (clientId : ConnectionId) :
    Option (Rooms × List OpaqueFrame × FrameSender × Multiset RelayEffect) :=
  (rooms.lookup registration.serverId).bind fun room =>
  (room.daemonData.lookup registration.id).bind fun daemonData =>
  (room.clients.lookup clientId).bind fun client =>
    if client.pairedDaemonDataId ≠ some registration.id then none
    else
      (room.drainPrePairClientFrames clientId).map fun (drained, frames, effects) =>
        let flushed :=
          if frames.isEmpty then
            { drained with
              clients := (drained.clients.lookup clientId).elim drained.clients fun client =>
                if client.pairedDaemonDataId = some registration.id then
                  drained.clients.insert clientId { client with prePairFlushInProgress := false }
                else drained.clients }
          else drained
        (rooms.insert registration.serverId flushed, frames, daemonData.sender, effects)

/-- What `take_pre_pair_client_frames` finds and leaves. -/
theorem takePrePairClientFrames_eq_some {rooms rooms' : Rooms}
    {registration : ConnectionRegistration} {clientId : ConnectionId}
    {frames : List OpaqueFrame} {sender : FrameSender} {effects : Multiset RelayEffect}
    (h : takePrePairClientFrames rooms registration clientId =
      some (rooms', frames, sender, effects)) :
    ∃ room data client, rooms.lookup registration.serverId = some room ∧
      room.daemonData.lookup registration.id = some data ∧ data.sender = sender ∧
      room.clients.lookup clientId = some client ∧
      client.pairedDaemonDataId = some registration.id ∧
      frames = client.prePairBuffer.frames ∧
      effects = {.releaseBytes room.prePairClientBytes client.prePairBuffer.bytes} ∧
      rooms' = rooms.insert registration.serverId
        { room with
          clients := room.clients.insert clientId
            { client with
              prePairBuffer := {}
              prePairFlushInProgress := !frames.isEmpty && client.prePairFlushInProgress }
          prePairClientBytes := room.prePairClientBytes - client.prePairBuffer.bytes } := by
  unfold takePrePairClientFrames at h
  obtain ⟨room, hroom, h⟩ := Option.bind_eq_some_iff.mp h
  obtain ⟨data, hdata, h⟩ := Option.bind_eq_some_iff.mp h
  obtain ⟨client, hclient, h⟩ := Option.bind_eq_some_iff.mp h
  split_ifs at h with hpaired
  obtain ⟨⟨drained, taken, released⟩, hdrain, h⟩ := Option.map_eq_some_iff.mp h
  obtain ⟨rfl, rfl, rfl, rfl⟩ : _ ∧ _ ∧ _ ∧ _ := by simpa using h
  obtain ⟨client', hclient', rfl, rfl, rfl⟩ := RelayRoom.drainPrePairClientFrames_eq_some hdrain
  obtain rfl : client = client' := Option.some.inj (hclient.symm.trans hclient')
  rw [ne_eq, not_not] at hpaired
  refine ⟨room, data, client, hroom, hdata, rfl, hclient, hpaired, rfl, rfl, ?_⟩
  congr 1
  split_ifs with hempty
  · simp [hpaired, hempty, Finmap.insert_insert]
  · have hkeep : client.prePairBuffer.frames.isEmpty = false := by simpa using hempty
    simp only [hkeep, Bool.not_false, Bool.true_and]

end RelayRegistry

/-! ## The registry as a transition system -/

/-- The critical sections of the registry. `draw` is the atomic increment of the connection id
counter, which `register_transport` makes before it takes the mutex. -/
inductive RelayOp
  | draw
  | register (id : ConnectionId) (prelude : RoutePrelude) (sender : FrameSender)
      (routeKind : RelayRouteKind) (accessToken : Option String) (uuid : String) (now : Instant)
      (control : FrameSender → TrySend)
  | unregister (registration : ConnectionRegistration) (now : Instant)
      (control : FrameSender → TrySend)
  | closePendingClientIfUnpaired (registration : ConnectionRegistration) (now : Instant)
      (control : FrameSender → TrySend)
  | closeServer (serverId : ServerId)
  | closeClientAfterDaemonDataSendFailure (registration : ConnectionRegistration)
      (daemonDataId : ConnectionId) (now : Instant)
  | closeClientAfterSendFailure (registration : ConnectionRegistration)
      (clientId : ConnectionId) (now : Instant) (control : FrameSender → TrySend)
  | bufferUnpairedClientFrame (registration : ConnectionRegistration) (frame : OpaqueFrame)
      (now : Instant) (control : FrameSender → TrySend)
  | takePrePairClientFrames (registration : ConnectionRegistration) (clientId : ConnectionId)

/-- The registry with what its history has left behind: the ids drawn and not yet registered,
all ids drawn, the accepted registrations, and the effects. -/
structure RelaySystem where
  registry : RelayRegistry := {}
  drawn : List ConnectionId := []
  allocated : List ConnectionId := []
  accepted : List (RoutePrelude × ConnectionRegistration) := []
  effects : Multiset RelayEffect := 0

namespace RelaySystem

/-- The rooms of a system. -/
abbrev rooms (s : RelaySystem) : Rooms := s.registry.rooms

/-- The system with other rooms, after some effects. -/
def update (s : RelaySystem) (rooms : Rooms) (effects : Multiset RelayEffect) : RelaySystem :=
  { s with
    registry := { s.registry with rooms := rooms }
    effects := s.effects + effects }

/-- One critical section. A registration needs an id that was drawn for it. -/
def step (s : RelaySystem) : RelayOp → Option RelaySystem
  | .draw =>
    let id := s.registry.nextConnectionId + 1
    some { s with
      registry := { s.registry with nextConnectionId := id }
      drawn := id :: s.drawn
      allocated := id :: s.allocated }
  | .register id prelude sender routeKind accessToken uuid now control =>
    if id ∈ s.drawn then
      let result := RelayRegistry.registerTransport s.rooms id prelude sender routeKind
        accessToken uuid now control
      some { s.update result.1 result.2.2 with
        drawn := s.drawn.erase id
        accepted :=
          match result.2.1 with
          | .ok registration => (prelude, registration) :: s.accepted
          | .error _ => s.accepted }
    else none
  | .unregister registration now control =>
    let result := RelayRegistry.unregister s.rooms registration now control
    some (s.update result.1 result.2)
  | .closePendingClientIfUnpaired registration now control =>
    let result := RelayRegistry.closePendingClientIfUnpaired s.rooms registration now control
    some (s.update result.1 result.2.2)
  | .closeServer serverId =>
    let result := RelayRegistry.closeServer s.rooms serverId
    some (s.update result.1 result.2.2)
  | .closeClientAfterDaemonDataSendFailure registration daemonDataId now =>
    let result := RelayRegistry.closeClientAfterDaemonDataSendFailure s.rooms registration
      daemonDataId now
    some (s.update result.1 result.2.2)
  | .closeClientAfterSendFailure registration clientId now control =>
    let result := RelayRegistry.closeClientAfterSendFailure s.rooms registration clientId now
      control
    some (s.update result.1 result.2)
  | .bufferUnpairedClientFrame registration frame now control =>
    let result := RelayRegistry.bufferUnpairedClientFrame s.rooms registration frame now control
    some (s.update result.1 result.2.2)
  | .takePrePairClientFrames registration clientId =>
    match RelayRegistry.takePrePairClientFrames s.rooms registration clientId with
    | none => some s
    | some result => some (s.update result.1 result.2.2.2)

/-- The states a fresh registry can reach. -/
def Reachable (s : RelaySystem) : Prop := ∃ ops, exec step {} ops = some s

end RelaySystem

end Termd.Relay
