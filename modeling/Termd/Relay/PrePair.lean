import Termd.Relay.Pairing

/-!
# Frames of a client before and after pairing

A client may send before its data pipe is there. The relay buffers such frames, and the data
pipe flushes them once it has registered. The client's reader decides under the mutex whether a
frame is buffered or sent directly, and buffers it in a second critical section; the pipe may
register and finish its flush in between. A frame buffered then is stranded, and frames sent
directly overtake it.

`PrePairSystem` is the room of one client with its reader and its data pipe, where every
critical section and every send is one step. Frames keep their order in every run in which a
buffering step finds the client as the reader left it: not paired yet, or still flushing.

## Main definitions

* `PrePairSetup`: the connections of the room
* `PrePairSystem.step`: the steps of the reader, of the data pipe and of the surroundings
* `PrePairSystem.BuffersInTime`: the condition on a buffering step
* `PrePairSystem.Ordered`: the invariant that accepted frames are sent, then held by the flush,
  then buffered

## Main results

* `PrePairSystem.fifo_iff_buffersInTime`: first in, first out, without loss, throughout a run
  exactly when its buffering steps are in time
* `PrePairSystem.lateBuffer_breaks_fifo`: a run in which a late buffering step strands a frame
-/

namespace Termd.Relay

/-! ## Connections that leave -/

/-- The room has lost connections, and nothing else happened to them. -/
structure RelayRoom.Sub (room' room : RelayRoom) : Prop where
  clients : ∀ c client, room'.clients.lookup c = some client →
    room.clients.lookup c = some client
  data : ∀ d data, room'.daemonData.lookup d = some data → room.daemonData.lookup d = some data

/-- Every room has lost connections only. -/
def RoomsSub (rooms' rooms : Rooms) : Prop :=
  ∀ serverId room', rooms'.lookup serverId = some room' →
    ∃ room, rooms.lookup serverId = some room ∧ room'.Sub room

namespace RelayRoom

theorem Sub.refl (room : RelayRoom) : room.Sub room := ⟨fun _ _ h => h, fun _ _ h => h⟩

theorem Sub.trans {a b c : RelayRoom} (hab : a.Sub b) (hbc : b.Sub c) : a.Sub c :=
  ⟨fun x e h => hbc.clients x e (hab.clients x e h), fun x e h => hbc.data x e (hab.data x e h)⟩

theorem closeClientTransport_sub (room : RelayRoom) (c : ConnectionId) (now : Instant) :
    (room.closeClientTransport c now).1.Sub room := by
  cases hc : room.clients.lookup c with
  | none => rw [closeClientTransport_of_lookup_none hc]; exact Sub.refl room
  | some client =>
    rw [closeClientTransport_fst hc]
    refine ⟨fun c' e h => (FiniteMap.lookup_erase_eq_some.mp h).2, fun d data h => ?_⟩
    cases hp : client.pairedDaemonDataId with
    | none => simpa [hp] using h
    | some d' =>
      simp only [hp, Option.elim_some] at h
      exact (FiniteMap.lookup_erase_eq_some.mp h).2

theorem clearDaemonControl_sub (room : RelayRoom) :
    room.clearDaemonControlAndDependents.1.Sub room :=
  ⟨fun _ _ h => (nomatch h), fun _ _ h => (nomatch h)⟩

theorem closeClientAndNotify_sub (room : RelayRoom) (c : ConnectionId) (now : Instant)
    (control : FrameSender → TrySend) : (room.closeClientAndNotify c now control).1.Sub room := by
  have hclose := room.closeClientTransport_sub c now
  unfold closeClientAndNotify
  dsimp only
  split_ifs with hr
  · refine Sub.trans ?_ hclose
    unfold notifyClientDisconnectedToControl
    split
    · exact Sub.refl _
    · dsimp only
      split_ifs
      · exact Sub.refl _
      · exact clearDaemonControl_sub _
  · exact hclose

theorem unregisterDaemonData_sub (room : RelayRoom) (registration : ConnectionRegistration)
    (now : Instant) : (room.unregisterDaemonData registration now).1.Sub room := by
  have hremoved : ({ room with
      daemonData := room.daemonData.erase registration.id } : RelayRoom).Sub room :=
    ⟨fun _ _ h => h, fun _ _ h => (FiniteMap.lookup_erase_eq_some.mp h).2⟩
  unfold unregisterDaemonData
  cases hd : room.daemonData.lookup registration.id with
  | none => exact Sub.refl room
  | some data =>
    dsimp only
    split
    · exact hremoved
    · split_ifs
      · exact (closeClientTransport_sub _ _ now).trans hremoved
      · exact hremoved

/-- A client that is closed from the relay's side is gone. -/
theorem closeClientAndNotify_clients (room : RelayRoom) (c : ConnectionId) (now : Instant)
    (control : FrameSender → TrySend) :
    (room.closeClientAndNotify c now control).1.clients.lookup c = none := by
  have hgone : (room.closeClientTransport c now).1.clients.lookup c = none := by
    cases hc : room.clients.lookup c with
    | none => rw [closeClientTransport_of_lookup_none hc]; exact hc
    | some client => rw [closeClientTransport_fst hc]; exact Finmap.lookup_erase c _
  unfold closeClientAndNotify
  dsimp only
  split_ifs with hr
  · unfold notifyClientDisconnectedToControl
    split
    · exact hgone
    · dsimp only
      split_ifs
      · exact hgone
      · rfl
  · exact hgone

end RelayRoom

theorem RoomsSub.refl (rooms : Rooms) : RoomsSub rooms rooms :=
  fun _ room h => ⟨room, h, RelayRoom.Sub.refl room⟩

theorem RoomsSub.erase (rooms : Rooms) (serverId : ServerId) :
    RoomsSub (rooms.erase serverId) rooms :=
  fun _ room h => ⟨room, (FiniteMap.lookup_erase_eq_some.mp h).2, RelayRoom.Sub.refl room⟩

/-- A room that lost connections, with the cleanup of a room left empty. -/
theorem RoomsSub.removeRoomIfEmpty {rooms : Rooms} {serverId : ServerId} {room room' : RelayRoom}
    (hroom : rooms.lookup serverId = some room) (hsub : room'.Sub room) :
    RoomsSub (RelayRegistry.removeRoomIfEmpty (rooms.insert serverId room') serverId) rooms := by
  unfold RelayRegistry.removeRoomIfEmpty
  split_ifs
  · rw [FiniteMap.erase_insert_self]
    exact RoomsSub.erase rooms serverId
  · intro serverId' room'' h
    rcases FiniteMap.lookup_insert_eq_some.mp h with ⟨rfl, rfl⟩ | ⟨-, h⟩
    · exact ⟨room, hroom, hsub⟩
    · exact ⟨room'', h, RelayRoom.Sub.refl room''⟩

theorem RoomsSub.updateRoom {rooms : Rooms} {serverId : ServerId}
    {f : RelayRoom → RelayRoom × Multiset RelayEffect} (hf : ∀ room, (f room).1.Sub room) :
    RoomsSub (RelayRegistry.updateRoom rooms serverId f).1 rooms := by
  unfold RelayRegistry.updateRoom
  cases hroom : rooms.lookup serverId with
  | none => exact RoomsSub.refl rooms
  | some room => exact RoomsSub.removeRoomIfEmpty hroom (hf room)

theorem unregister_sub (rooms : Rooms) (registration : ConnectionRegistration) (now : Instant)
    (control : FrameSender → TrySend) :
    RoomsSub (RelayRegistry.unregister rooms registration now control).1 rooms := by
  refine RoomsSub.updateRoom fun room => ?_
  cases registration.role with
  | daemonControl =>
    dsimp only
    split_ifs
    · exact room.clearDaemonControl_sub
    · exact RelayRoom.Sub.refl room
  | daemonData => exact room.unregisterDaemonData_sub registration now
  | client => exact room.closeClientAndNotify_sub registration.id now control

theorem closePendingClientIfUnpaired_sub (rooms : Rooms) (registration : ConnectionRegistration)
    (now : Instant) (control : FrameSender → TrySend) :
    RoomsSub (RelayRegistry.closePendingClientIfUnpaired rooms registration now control).1
      rooms := by
  unfold RelayRegistry.closePendingClientIfUnpaired
  split_ifs
  · exact RoomsSub.refl rooms
  split
  · exact RoomsSub.refl rooms
  · rename_i room client hfound
    obtain ⟨room, hroom, hclient⟩ := Option.bind_eq_some_iff.mp hfound
    obtain ⟨hclient, rfl⟩ : room.clients.lookup registration.id = some client ∧ room = _ := by
      simpa using hclient
    split_ifs
    · exact RoomsSub.refl rooms
    · exact RoomsSub.removeRoomIfEmpty hroom (room.closeClientAndNotify_sub _ now control)

theorem closeServer_sub (rooms : Rooms) (serverId : ServerId) :
    RoomsSub (RelayRegistry.closeServer rooms serverId).1 rooms := by
  unfold RelayRegistry.closeServer
  split
  · exact RoomsSub.refl rooms
  · exact RoomsSub.erase rooms serverId

/-! ## One client, its reader and its data pipe -/

/-- The connections of the room: its control line, the client, and the id and the sender of the
data pipe that will be dialled back. -/
structure PrePairSetup where
  serverId : ServerId
  controlId : ConnectionId
  controlSender : FrameSender
  routeGeneration : Nonce
  clientId : ConnectionId
  clientSender : FrameSender
  dataToken : Nonce
  dataId : ConnectionId
  dataSender : FrameSender
  now : Instant

namespace PrePairSetup

/-- The registration the client's reader holds. -/
def clientRegistration (P : PrePairSetup) : ConnectionRegistration where
  serverId := P.serverId
  role := .client
  id := P.clientId
  routeGeneration := some P.routeGeneration
  pairedClientId := none

/-- The room just after the client has entered. -/
def room (P : PrePairSetup) : RelayRoom :=
  (({} : RelayRoom).registerDaemonControl P.controlId P.controlSender (some P.routeGeneration)
    P.now).1.insertClient P.clientId P.clientSender P.dataToken P.now

end PrePairSetup

/-- Where the reader of the client is in `forward_client_to_daemon_data`. -/
inductive ClientReader
  | idle
  | buffering (frame : OpaqueFrame)
  | sending (frame : OpaqueFrame) (dataId : ConnectionId) (sender : FrameSender)
  | failed (dataId : ConnectionId)
deriving DecidableEq

/-- Where the data pipe is: not registered, in the loop of `flush_pre_pair_client_frames`, or
past it. -/
inductive FlushLoop
  | unregistered
  | taking (registration : ConnectionRegistration)
  | sending (registration : ConnectionRegistration) (sender : FrameSender)
      (frames : List OpaqueFrame)
  | failed (registration : ConnectionRegistration) (frames : List OpaqueFrame)
  | ended
deriving DecidableEq

/-- The frames the flush has taken out of the buffer and not sent. -/
def FlushLoop.held : FlushLoop → List OpaqueFrame
  | .sending _ _ frames => frames
  | .failed _ frames => frames
  | _ => []

/-- The registration of the data pipe, while the flush runs. -/
def FlushLoop.registration : FlushLoop → Option ConnectionRegistration
  | .taking registration => some registration
  | .sending registration _ _ => some registration
  | .failed registration _ => some registration
  | _ => none

namespace FlushLoop

variable (registration : ConnectionRegistration) (sender : FrameSender)
  (frames : List OpaqueFrame)

@[simp] theorem held_taking : (taking registration).held = [] := rfl
@[simp] theorem held_sending : (sending registration sender frames).held = frames := rfl
@[simp] theorem held_failed : (failed registration frames).held = frames := rfl
@[simp] theorem held_unregistered : unregistered.held = [] := rfl
@[simp] theorem held_ended : ended.held = [] := rfl

@[simp] theorem registration_taking :
    (taking registration).registration = some registration := rfl
@[simp] theorem registration_sending :
    (sending registration sender frames).registration = some registration := rfl
@[simp] theorem registration_ended : ended.registration = none := rfl

end FlushLoop

structure PrePairSystem where
  rooms : Rooms
  reader : ClientReader := .idle
  flush : FlushLoop := .unregistered
  sent : List (FrameSender × OpaqueFrame) := []
  accepted : List OpaqueFrame := []

/-- The steps: `receive`, `buffer`, `trySend` and `cleanUp` are the reader's, `register`, `take`,
`sendData` and `flushFailed` the data pipe's; the others close connections at any time. The
outcome of a send belongs to the environment. -/
inductive PrePairOp
  | receive (frame : OpaqueFrame)
  | buffer (now : Instant) (control : FrameSender → TrySend)
  | trySend (ok : Bool)
  | cleanUp (now : Instant)
  | register (prelude : RoutePrelude) (routeKind : RelayRouteKind) (accessToken : Option String)
      (uuid : String) (now : Instant) (control : FrameSender → TrySend)
  | take
  | sendData (ok : Bool)
  | flushFailed (now : Instant) (control : FrameSender → TrySend)
  | unregister (registration : ConnectionRegistration) (now : Instant)
      (control : FrameSender → TrySend)
  | closePendingClientIfUnpaired (registration : ConnectionRegistration) (now : Instant)
      (control : FrameSender → TrySend)
  | closeServer (serverId : ServerId)

namespace PrePairSystem

/-- The client has entered, and nothing has been sent. -/
def init (P : PrePairSetup) : PrePairSystem where
  rooms := Finmap.insert P.serverId P.room ∅

/-- The client, while it is not closed. -/
def client (P : PrePairSetup) (s : PrePairSystem) : Option ConnectionEndpoint :=
  (s.rooms.lookup P.serverId).bind fun room => room.clients.lookup P.clientId

/-- The frames enqueued on the sender of the data pipe, in order. -/
def enqueued (P : PrePairSetup) (s : PrePairSystem) : List OpaqueFrame :=
  (s.sent.filter fun entry => entry.1 = P.dataSender).map Prod.snd

/-- A frame counts as accepted when its report says it was delivered. -/
def accept (s : PrePairSystem) (frame : OpaqueFrame) (report : ForwardReport) : PrePairSystem :=
  { s with accepted := if report.delivered = 1 then s.accepted ++ [frame] else s.accepted }

/-- One step. -/
def step (P : PrePairSetup) (s : PrePairSystem) : PrePairOp → Option PrePairSystem
  | .receive frame =>
    if s.reader = .idle then
      match RelayRegistry.forwardClientLookup s.rooms P.clientRegistration with
      | .report report => some (s.accept frame report)
      | .buffer => some { s with reader := .buffering frame }
      | .send dataId sender => some { s with reader := .sending frame dataId sender }
    else none
  | .buffer now control =>
    match s.reader with
    | .buffering frame =>
      let result := RelayRegistry.bufferUnpairedClientFrame s.rooms P.clientRegistration frame
        now control
      some { s.accept frame result.2.1 with rooms := result.1, reader := .idle }
    | _ => none
  | .trySend ok =>
    match s.reader with
    | .sending frame dataId sender =>
      if ok then
        some { s.accept frame .deliveredOne with
          reader := .idle
          sent := s.sent ++ [(sender, frame)] }
      else some { s with reader := .failed dataId }
    | _ => none
  | .cleanUp now =>
    match s.reader with
    | .failed dataId =>
      let result := RelayRegistry.closeClientAfterDaemonDataSendFailure s.rooms
        P.clientRegistration dataId now
      some { s with rooms := result.1, reader := .idle }
    | _ => none
  | .register prelude routeKind accessToken uuid now control =>
    if s.flush = .unregistered ∧ prelude.connectionRole = .daemonData then
      let result := RelayRegistry.registerTransport s.rooms P.dataId prelude P.dataSender
        routeKind accessToken uuid now control
      some { s with
        rooms := result.1
        flush :=
          match result.2.1 with
          | .ok registration => .taking registration
          | .error _ => .ended }
    else none
  | .take =>
    match s.flush with
    | .taking registration =>
      match registration.pairedClientId.bind fun clientId =>
          RelayRegistry.takePrePairClientFrames s.rooms registration clientId with
      | none => some { s with flush := .ended }
      | some (rooms, frames, sender, _) =>
        some { s with
          rooms := rooms
          flush := if frames.isEmpty then .ended else .sending registration sender frames }
    | _ => none
  | .sendData ok =>
    match s.flush with
    | .sending registration sender (frame :: frames) =>
      if ok then
        some { s with
          sent := s.sent ++ [(sender, frame)]
          flush :=
            if frames.isEmpty then .taking registration
            else .sending registration sender frames }
      else some { s with flush := .failed registration (frame :: frames) }
    | _ => none
  | .flushFailed now control =>
    match s.flush with
    | .failed registration _ =>
      let rooms := registration.pairedClientId.elim s.rooms fun clientId =>
        (RelayRegistry.closeClientAfterSendFailure s.rooms registration clientId now control).1
      some { s with rooms := rooms, flush := .taking registration }
    | _ => none
  | .unregister registration now control =>
    some { s with rooms := (RelayRegistry.unregister s.rooms registration now control).1 }
  | .closePendingClientIfUnpaired registration now control =>
    some { s with
      rooms :=
        (RelayRegistry.closePendingClientIfUnpaired s.rooms registration now control).1 }
  | .closeServer serverId =>
    some { s with rooms := (RelayRegistry.closeServer s.rooms serverId).1 }

/-- A buffering step whose frame is not refused finds the client as the reader left it: not
paired yet, or flushing. -/
def BuffersInTime (P : PrePairSetup) (s : PrePairSystem) : PrePairOp → Prop
  | .buffer _ _ => ∀ frame room client, s.reader = .buffering frame →
      s.rooms.lookup P.serverId = some room → room.clients.lookup P.clientId = some client →
      room.bufferClientFrame P.clientId frame ≠ none →
      client.pairedDaemonDataId = none ∨ client.prePairFlushInProgress = true
  | _ => True

/-- First in, first out, without loss, while the client is open: what is enqueued on the data
pipe is a prefix of what was accepted, and a paired client whose flush is over has nothing left
in its buffer. -/
def Fifo (P : PrePairSetup) (s : PrePairSystem) : Prop :=
  ∀ client, s.client P = some client →
    s.enqueued P <+: s.accepted ∧
      (client.pairedDaemonDataId.isSome → client.prePairFlushInProgress = false →
        client.prePairBuffer.frames = [])

/-! ## The invariant -/

/-- Where the frames of an open client are: sent, then held by the flush, then buffered. Only a
client whose flush is over is sent to directly, and it has nothing buffered. -/
structure Ordered (P : PrePairSetup) (s : PrePairSystem) (client : ConnectionEndpoint) : Prop where
  sender : ∀ entry ∈ s.sent, entry.1 = P.dataSender
  accepted_eq : s.accepted = s.sent.map Prod.snd ++ s.flush.held ++ client.prePairBuffer.frames
  flushed : client.pairedDaemonDataId ≠ none → client.prePairFlushInProgress = false →
    client.prePairBuffer.frames = [] ∧ s.flush.held = []
  direct : ∀ frame dataId sender, s.reader = .sending frame dataId sender →
    sender = P.dataSender ∧ client.pairedDaemonDataId ≠ none ∧
      client.prePairFlushInProgress = false
  flushing : ∀ registration, s.flush.registration = some registration →
    registration.serverId = P.serverId ∧ registration.pairedClientId = some P.clientId ∧
      client.pairedDaemonDataId ≠ none
  flushSender : ∀ registration sender frames, s.flush = .sending registration sender frames →
    sender = P.dataSender

/-- **The invariant of the system**: the room has the one client and pipes of one sender, and
the frames of the client are in order while it is open. -/
structure Inv (P : PrePairSetup) (s : PrePairSystem) : Prop where
  server : ∀ serverId room, s.rooms.lookup serverId = some room → serverId = P.serverId
  onlyClient : ∀ serverId room c client, s.rooms.lookup serverId = some room →
    room.clients.lookup c = some client → c = P.clientId
  dataSender : ∀ serverId room d data, s.rooms.lookup serverId = some room →
    room.daemonData.lookup d = some data → data.sender = P.dataSender
  ordered : ∀ client, s.client P = some client → Ordered P s client

theorem client_eq_some {P : PrePairSetup} {s : PrePairSystem} {client : ConnectionEndpoint} :
    s.client P = some client ↔ ∃ room, s.rooms.lookup P.serverId = some room ∧
      room.clients.lookup P.clientId = some client :=
  Option.bind_eq_some_iff

variable {P : PrePairSetup} {s s' : PrePairSystem}

theorem inv_init (P : PrePairSetup) : Inv P (init P) := by
  have hroom : ∀ serverId room, (init P).rooms.lookup serverId = some room →
      serverId = P.serverId ∧ room = P.room := by
    intro serverId room h
    rcases FiniteMap.lookup_insert_eq_some.mp h with ⟨h, h'⟩ | ⟨-, h⟩
    · exact ⟨h, h'⟩
    · exact nomatch h
  refine ⟨fun serverId room h => (hroom serverId room h).1, ?_, ?_, ?_⟩
  · intro serverId room c client h hc
    obtain ⟨rfl, rfl⟩ := hroom serverId room h
    rcases FiniteMap.lookup_insert_eq_some.mp hc with ⟨rfl, -⟩ | ⟨-, h⟩
    · rfl
    · exact nomatch h
  · intro serverId room d data h hd
    obtain ⟨rfl, rfl⟩ := hroom serverId room h
    exact nomatch hd
  · intro client hclient
    obtain ⟨room, hr, hc⟩ := client_eq_some.mp hclient
    obtain ⟨-, rfl⟩ := hroom _ room hr
    rcases FiniteMap.lookup_insert_eq_some.mp hc with ⟨-, rfl⟩ | ⟨-, h⟩
    · exact ⟨by simp [init], rfl, fun h => absurd rfl h, by simp [init],
        fun _ h => (nomatch h), by simp [init]⟩
    · exact nomatch h

/-- A step that only loses connections keeps what is said of the rooms. -/
theorem Inv.shrink (hs : Inv P s) (hsub : RoomsSub s'.rooms s.rooms)
    (hordered : ∀ client, s.client P = some client → Ordered P s client →
      s'.client P = some client → Ordered P s' client) : Inv P s' := by
  refine ⟨?_, ?_, ?_, ?_⟩
  · intro serverId room' h
    obtain ⟨room, hroom, -⟩ := hsub serverId room' h
    exact hs.server serverId room hroom
  · intro serverId room' c client h hc
    obtain ⟨room, hroom, hsub⟩ := hsub serverId room' h
    exact hs.onlyClient serverId room c client hroom (hsub.clients c client hc)
  · intro serverId room' d data h hd
    obtain ⟨room, hroom, hsub⟩ := hsub serverId room' h
    exact hs.dataSender serverId room d data hroom (hsub.data d data hd)
  · intro client hclient'
    obtain ⟨room', hroom', hc'⟩ := client_eq_some.mp hclient'
    obtain ⟨room, hroom, hsub⟩ := hsub _ room' hroom'
    have hclient : s.client P = some client :=
      client_eq_some.mpr ⟨room, hroom, hsub.clients _ client hc'⟩
    exact hordered client hclient (hs.ordered client hclient) hclient'

/-- Losing connections moves no frame. -/
theorem Inv.lose (hs : Inv P s) (hsub : RoomsSub s'.rooms s.rooms) (hsent : s'.sent = s.sent)
    (haccepted : s'.accepted = s.accepted) (hflush : s'.flush = s.flush)
    (hreader : ∀ frame dataId sender, s'.reader = .sending frame dataId sender →
      s.reader = .sending frame dataId sender) : Inv P s' := by
  refine hs.shrink hsub fun client _ h _ => ?_
  refine ⟨hsent ▸ h.sender, ?_, hflush ▸ h.flushed, ?_, hflush ▸ h.flushing,
    hflush ▸ h.flushSender⟩
  · rw [haccepted, hsent, hflush]
    exact h.accepted_eq
  · exact fun frame dataId sender hr => h.direct frame dataId sender (hreader _ _ _ hr)

/-- Nothing is promised for a client that is closed. -/
theorem Inv.close (hs : Inv P s) (hsub : RoomsSub s'.rooms s.rooms) (hgone : s'.client P = none) :
    Inv P s' :=
  hs.shrink hsub fun client _ _ h => by rw [hgone] at h; cases h

/-- A client that has left its room is closed. -/
theorem client_removeRoomIfEmpty {rooms : Rooms} {room' : RelayRoom}
    (h : room'.clients.lookup P.clientId = none) :
    ((RelayRegistry.removeRoomIfEmpty (rooms.insert P.serverId room') P.serverId).lookup
      P.serverId).bind (fun room => room.clients.lookup P.clientId) = none := by
  unfold RelayRegistry.removeRoomIfEmpty
  split_ifs
  · rw [Finmap.lookup_erase]
    rfl
  · rw [Finmap.lookup_insert]
    exact h

/-- A step that changes the entry of the client, and adds at most a pipe of the data sender,
keeps what is said of the rooms. -/
theorem Inv.update (hs : Inv P s) {room room' : RelayRoom} {client' : ConnectionEndpoint}
    (hroom : s.rooms.lookup P.serverId = some room)
    (hrooms : s'.rooms = s.rooms.insert P.serverId room')
    (hclients : room'.clients = room.clients.insert P.clientId client')
    (hdata : ∀ d data, room'.daemonData.lookup d = some data →
      room.daemonData.lookup d = some data ∨ data.sender = P.dataSender)
    (hordered : Ordered P s' client') : Inv P s' := by
  have hlookup : ∀ serverId r, s'.rooms.lookup serverId = some r →
      (serverId = P.serverId ∧ r = room') ∨ s.rooms.lookup serverId = some r := by
    intro serverId r h
    rw [hrooms] at h
    exact (FiniteMap.lookup_insert_eq_some.mp h).imp_right And.right
  refine ⟨?_, ?_, ?_, ?_⟩
  · intro serverId r h
    rcases hlookup serverId r h with ⟨rfl, -⟩ | h
    · rfl
    · exact hs.server serverId r h
  · intro serverId r c client h hc
    rcases hlookup serverId r h with ⟨rfl, rfl⟩ | h
    · rw [hclients] at hc
      rcases FiniteMap.lookup_insert_eq_some.mp hc with ⟨rfl, -⟩ | ⟨-, hc⟩
      · rfl
      · exact hs.onlyClient _ room c client hroom hc
    · exact hs.onlyClient serverId r c client h hc
  · intro serverId r d data h hd
    rcases hlookup serverId r h with ⟨rfl, rfl⟩ | h
    · rcases hdata d data hd with hd | hd
      · exact hs.dataSender _ room d data hroom hd
      · exact hd
    · exact hs.dataSender serverId r d data h hd
  · intro client hclient
    obtain ⟨r, hr, hc⟩ := client_eq_some.mp hclient
    rw [hrooms, Finmap.lookup_insert] at hr
    obtain rfl := Option.some.inj hr
    rw [hclients, Finmap.lookup_insert] at hc
    obtain rfl := Option.some.inj hc
    exact hordered

/-! ## The steps of the reader -/

/-- A frame that is neither sent nor buffered is not delivered. -/
theorem forwardClientLookup_eq_report {rooms : Rooms} {registration : ConnectionRegistration}
    {report : ForwardReport}
    (h : RelayRegistry.forwardClientLookup rooms registration = .report report) :
    report.delivered = 0 := by
  unfold RelayRegistry.forwardClientLookup at h
  repeat' split at h
  all_goals first
    | (obtain rfl := RelayRegistry.ClientForward.report.inj h; rfl)
    | cases h

/-- A frame is sent directly only to the pipe of a paired client whose flush is over. -/
theorem forwardClientLookup_eq_send {rooms : Rooms} {registration : ConnectionRegistration}
    {dataId : ConnectionId} {sender : FrameSender}
    (h : RelayRegistry.forwardClientLookup rooms registration = .send dataId sender) :
    ∃ room client d data, rooms.lookup registration.serverId = some room ∧
      room.clients.lookup registration.id = some client ∧
      client.prePairFlushInProgress = false ∧ client.pairedDaemonDataId = some d ∧
      room.daemonData.lookup d = some data ∧ data.sender = sender := by
  unfold RelayRegistry.forwardClientLookup at h
  cases hroom : rooms.lookup registration.serverId with
  | none => simp [hroom] at h
  | some room =>
    simp only [hroom] at h
    cases hc : room.clients.lookup registration.id with
    | none => simp [hc] at h
    | some client =>
      simp only [hc] at h
      split_ifs at h with hflush
      cases hp : client.pairedDaemonDataId with
      | none => simp [hp] at h
      | some d =>
        simp only [hp] at h
        cases hd : room.daemonData.lookup d with
        | none => simp [hd] at h
        | some data =>
          simp only [hd] at h
          obtain ⟨-, rfl⟩ := RelayRegistry.ClientForward.send.inj h
          exact ⟨room, client, d, data, rfl, hc, by simpa using hflush, hp, hd, rfl⟩

theorem accept_of_delivered_ne {frame : OpaqueFrame} {report : ForwardReport}
    (h : report.delivered ≠ 1) : s.accept frame report = s := by
  simp [accept, h]

theorem inv_receive (hs : Inv P s) {frame : OpaqueFrame}
    (h : step P s (.receive frame) = some s') : Inv P s' := by
  simp only [step] at h
  split_ifs at h with hidle
  cases hlookup : RelayRegistry.forwardClientLookup s.rooms P.clientRegistration with
  | report report =>
    simp only [hlookup] at h
    rw [accept_of_delivered_ne (by simp [forwardClientLookup_eq_report hlookup])] at h
    exact Option.some.inj h ▸ hs
  | buffer =>
    simp only [hlookup] at h
    obtain rfl := Option.some.inj h
    exact hs.lose (RoomsSub.refl _) rfl rfl rfl nofun
  | send dataId sender =>
    simp only [hlookup] at h
    obtain rfl := Option.some.inj h
    obtain ⟨room, found, d, data, hroom, hfound, hflush, hpaired, hdata, hsender⟩ :=
      forwardClientLookup_eq_send hlookup
    refine hs.shrink (RoomsSub.refl _) fun client hclient hord _ => ?_
    obtain ⟨room', hroom', hc⟩ := client_eq_some.mp hclient
    obtain rfl : room = room' := Option.some.inj (hroom.symm.trans hroom')
    obtain rfl : found = client := Option.some.inj (hfound.symm.trans hc)
    refine { hord with direct := ?_ }
    intro frame' dataId' sender' hreader
    obtain ⟨-, -, rfl⟩ := ClientReader.sending.inj hreader
    exact ⟨hsender ▸ hs.dataSender _ room d data hroom hdata, by simp [hpaired], hflush⟩

/-- A frame buffered in time goes behind all frames before it. -/
theorem inv_buffer (hs : Inv P s) {now : Instant} {control : FrameSender → TrySend}
    (hintime : BuffersInTime P s (.buffer now control))
    (h : step P s (.buffer now control) = some s') : Inv P s' := by
  simp only [step] at h
  cases hreader : s.reader with
  | buffering frame =>
    simp only [hreader] at h
    obtain rfl := Option.some.inj h
    unfold RelayRegistry.bufferUnpairedClientFrame
    cases hroom : s.rooms.lookup P.clientRegistration.serverId with
    | none =>
      dsimp only
      rw [accept_of_delivered_ne (by simp [ForwardReport.droppedOne])]
      exact hs.lose (RoomsSub.refl _) rfl rfl rfl nofun
    | some room =>
      dsimp only
      cases hbuffered : room.bufferClientFrame P.clientRegistration.id frame with
      | none =>
        -- a refused frame closes the client
        dsimp only
        refine hs.close (RoomsSub.removeRoomIfEmpty hroom
          (room.closeClientAndNotify_sub _ now control)) ?_
        exact client_removeRoomIfEmpty (room.closeClientAndNotify_clients P.clientId now control)
      | some room' =>
        obtain ⟨client, hc, buffer, ⟨hpush, -⟩, rfl⟩ :=
          RelayRoom.bufferClientFrame_eq_some hbuffered
        have hclient : s.client P = some client := client_eq_some.mpr ⟨room, hroom, hc⟩
        have hord := hs.ordered client hclient
        have hframes := (PrePairBuffer.push_eq_some hpush).1
        refine hs.update hroom rfl rfl (fun _ _ h => Or.inl h) ?_
        refine ⟨hord.sender, ?_, ?_, nofun, hord.flushing, hord.flushSender⟩
        · simp [accept, ForwardReport.deliveredOne, hord.accepted_eq, hframes]
        · intro hpaired hflush
          rcases hintime frame room client hreader hroom hc
            (ne_of_eq_of_ne hbuffered (Option.some_ne_none _)) with h | h
          · exact absurd h hpaired
          · rw [h] at hflush
            cases hflush
  | _ => simp [hreader] at h

theorem inv_trySend (hs : Inv P s) {ok : Bool} (h : step P s (.trySend ok) = some s') :
    Inv P s' := by
  simp only [step] at h
  cases hreader : s.reader with
  | sending frame dataId sender =>
    simp only [hreader] at h
    split_ifs at h with hok
    · obtain rfl := Option.some.inj h
      refine hs.shrink (RoomsSub.refl _) fun client _ hord _ => ?_
      obtain ⟨rfl, hpaired, hflush⟩ := hord.direct frame dataId sender hreader
      -- nothing is held or buffered, so the frame is next
      obtain ⟨hbuffer, hheld⟩ := hord.flushed hpaired hflush
      refine ⟨?_, ?_, hord.flushed, nofun, hord.flushing, hord.flushSender⟩
      · intro entry hentry
        rcases List.mem_append.mp hentry with h | h
        · exact hord.sender entry h
        · exact List.mem_singleton.mp h ▸ rfl
      · simp [accept, ForwardReport.deliveredOne, hord.accepted_eq, hbuffer, hheld]
    · obtain rfl := Option.some.inj h
      exact hs.lose (RoomsSub.refl _) rfl rfl rfl nofun
  | _ => simp [hreader] at h

theorem inv_cleanUp (hs : Inv P s) {now : Instant} (h : step P s (.cleanUp now) = some s') :
    Inv P s' := by
  simp only [step] at h
  cases hreader : s.reader with
  | failed dataId =>
    simp only [hreader] at h
    obtain rfl := Option.some.inj h
    refine hs.lose (RoomsSub.updateRoom fun room => ?_) rfl rfl rfl nofun
    split_ifs
    · exact room.closeClientTransport_sub _ now
    · exact RelayRoom.Sub.refl room
  | _ => simp [hreader] at h

/-! ## The steps of the data pipe -/

/-- The registration of a data pipe is refused and changes nothing, or pairs it. -/
theorem registerTransport_daemonData (rooms : Rooms) (id : ConnectionId) {prelude : RoutePrelude}
    (hrole : prelude.connectionRole = .daemonData) (sender : FrameSender)
    (routeKind : RelayRouteKind) (accessToken : Option String) (uuid : String) (now : Instant)
    (control : FrameSender → TrySend) :
    (∃ error, RelayRegistry.registerTransport rooms id prelude sender routeKind accessToken uuid
      now control = (rooms, .error error, 0)) ∨
      ∃ room pair, rooms.lookup prelude.serverId = some room ∧
        room.registerDaemonData id prelude sender now = .ok pair ∧
        RelayRegistry.registerTransport rooms id prelude sender routeKind accessToken uuid now
          control = (rooms.insert prelude.serverId pair.1,
            .ok (RelayRegistry.registrationOf (rooms.insert prelude.serverId pair.1) id prelude),
            pair.2) := by
  by_cases hgeneration : prelude.connectionRole ≠ .client ∧ prelude.routeGeneration = none
  · simp only [RelayRegistry.registerTransport, if_pos hgeneration]
    exact Or.inl ⟨_, rfl⟩
  simp only [RelayRegistry.registerTransport, if_neg hgeneration]
  simp only [hrole]
  cases hroom : rooms.lookup prelude.serverId with
  | none => exact Or.inl ⟨_, rfl⟩
  | some room =>
    dsimp only
    cases hpair : room.registerDaemonData id prelude sender now with
    | error error => exact Or.inl ⟨error, rfl⟩
    | ok pair => exact Or.inr ⟨room, pair, rfl, hpair, rfl⟩

/-- The pipe pairs with the client. Frames already buffered start a flush. -/
theorem inv_register (hs : Inv P s) {prelude : RoutePrelude} {routeKind : RelayRouteKind}
    {accessToken : Option String} {uuid : String} {now : Instant}
    {control : FrameSender → TrySend}
    (h : step P s (.register prelude routeKind accessToken uuid now control) = some s') :
    Inv P s' := by
  simp only [step] at h
  split_ifs at h with hguard
  obtain ⟨hunregistered, hrole⟩ := hguard
  obtain rfl := Option.some.inj h
  have hheld : s.flush.held = [] := by rw [hunregistered]; rfl
  rcases registerTransport_daemonData s.rooms P.dataId hrole P.dataSender routeKind accessToken
    uuid now control with ⟨error, he⟩ | ⟨room, pair, hroom, hpair, he⟩
  · rw [he]
    refine hs.shrink (RoomsSub.refl _) fun client _ hord _ => ?_
    refine ⟨hord.sender, ?_, ?_, hord.direct, nofun, nofun⟩
    · rw [hord.accepted_eq, hheld]; rfl
    · exact fun hp hf => ⟨(hord.flushed hp hf).1, rfl⟩
  · rw [he]
    obtain ⟨c, token, client, hpc, -, hc, -, hpending, -, hafter, -⟩ :=
      registerDaemonData_eq_ok hpair
    obtain rfl : c = P.clientId := hs.onlyClient _ room c client hroom hc
    have hserver : prelude.serverId = P.serverId := hs.server _ room hroom
    rw [hserver] at hroom
    have hord := hs.ordered client (client_eq_some.mpr ⟨room, hroom, hc⟩)
    refine hs.update hroom (by dsimp only; rw [hserver]) (congrArg RelayRoom.clients hafter) ?_ ?_
    · intro d data hd
      rw [hafter] at hd
      rcases FiniteMap.lookup_insert_eq_some.mp hd with ⟨-, rfl⟩ | ⟨-, hd⟩
      · exact Or.inr rfl
      · exact Or.inl hd
    · refine ⟨hord.sender, ?_, fun _ hf => ⟨?_, rfl⟩, ?_, ?_, nofun⟩
      · rw [hord.accepted_eq, hheld]; rfl
      · simpa [PrePairBuffer.isEmpty] using hf
      · -- a reader that sends directly has seen a paired client
        intro frame dataId sender hreader
        exact absurd hpending (hord.direct frame dataId sender hreader).2.1
      · intro registration hreg
        obtain rfl := Option.some.inj hreg
        refine ⟨hserver, ?_, nofun⟩
        simp [RelayRegistry.registrationOf, hrole, hpc]

/-- A round of the flush takes all buffered frames, or ends the flush when there are none. -/
theorem inv_take (hs : Inv P s) (h : step P s .take = some s') : Inv P s' := by
  simp only [step] at h
  cases hflush : s.flush with
  | taking registration =>
    simp only [hflush] at h
    have hheld : s.flush.held = [] := by rw [hflush]; rfl
    cases htake : registration.pairedClientId.bind fun clientId =>
        RelayRegistry.takePrePairClientFrames s.rooms registration clientId with
    | none =>
      simp only [htake] at h
      obtain rfl := Option.some.inj h
      refine hs.shrink (RoomsSub.refl _) fun client _ hord _ => ?_
      refine ⟨hord.sender, ?_, ?_, hord.direct, nofun, nofun⟩
      · rw [hord.accepted_eq, hheld]; rfl
      · exact fun hp hf => ⟨(hord.flushed hp hf).1, rfl⟩
    | some result =>
      obtain ⟨rooms', frames, sender, effects⟩ := result
      simp only [htake] at h
      obtain rfl := Option.some.inj h
      obtain ⟨c, hpc, htake⟩ := Option.bind_eq_some_iff.mp htake
      obtain ⟨room, data, client, hroom, hdata, hsender, hc, hpaired, rfl, -, rfl⟩ :=
        RelayRegistry.takePrePairClientFrames_eq_some htake
      obtain rfl : c = P.clientId := hs.onlyClient _ room c client hroom hc
      have hserver : registration.serverId = P.serverId := hs.server _ room hroom
      have hdsender : sender = P.dataSender := hsender ▸ hs.dataSender _ room _ data hroom hdata
      rw [hserver] at hroom
      have hord := hs.ordered client (client_eq_some.mpr ⟨room, hroom, hc⟩)
      refine hs.update hroom (congrArg (fun serverId => s.rooms.insert serverId _) hserver) rfl
        (fun _ _ h => Or.inl h) ?_
      by_cases hempty : client.prePairBuffer.frames = []
      · -- the flush is over
        refine ⟨hord.sender, ?_, ?_, ?_, ?_, ?_⟩
        · simp [hord.accepted_eq, hheld, hempty]
        · refine fun _ _ => ⟨rfl, ?_⟩
          show FlushLoop.held (if client.prePairBuffer.frames.isEmpty then _ else _) = []
          rw [if_pos (List.isEmpty_iff.mpr hempty)]
          rfl
        · intro frame dataId sender' hreader
          obtain ⟨hs', hp', -⟩ := hord.direct frame dataId sender' hreader
          exact ⟨hs', hp', by simp [hempty]⟩
        · simp [hempty]
        · simp [hempty]
      · -- a nonempty buffer says that the flush was on
        have hon : client.prePairFlushInProgress = true := by
          by_contra hoff
          exact hempty (hord.flushed (by simp [hpaired]) (by simpa using hoff)).1
        refine ⟨hord.sender, ?_, ?_, ?_, ?_, ?_⟩
        · simp [hord.accepted_eq, hheld, hempty]
        · simp [hempty, hon]
        · intro frame dataId sender' hreader
          have := (hord.direct frame dataId sender' hreader).2.2
          rw [hon] at this
          cases this
        · intro registration' hreg
          have hreg' : registration = registration' := by
            simpa [hempty] using hreg
          exact hreg' ▸ ⟨hserver, hpc, by simp [hpaired]⟩
        · intro registration' sender' frames' hsending
          have : sender = sender' := by
            simp only [List.isEmpty_iff, hempty, if_false] at hsending
            exact (FlushLoop.sending.inj hsending).2.1
          exact this ▸ hdsender
  | _ => simp [hflush] at h

/-- The flush sends the frames it holds in order. -/
theorem inv_sendData (hs : Inv P s) {ok : Bool} (h : step P s (.sendData ok) = some s') :
    Inv P s' := by
  simp only [step] at h
  cases hflush : s.flush with
  | sending registration sender frames =>
    cases frames with
    | nil => simp [hflush] at h
    | cons frame frames =>
      have hheld : s.flush.held = frame :: frames := by rw [hflush]; rfl
      have hreg : s.flush.registration = some registration := by rw [hflush]; rfl
      simp only [hflush] at h
      cases ok with
      | true =>
        obtain rfl := Option.some.inj h
        refine hs.shrink (RoomsSub.refl _) fun client _ hord _ => ?_
        obtain rfl : sender = P.dataSender := hord.flushSender _ _ _ hflush
        refine ⟨?_, ?_, ?_, hord.direct, ?_, ?_⟩
        · intro entry hentry
          rcases List.mem_append.mp hentry with h | h
          · exact hord.sender entry h
          · exact List.mem_singleton.mp h ▸ rfl
        · cases frames <;> simp [hord.accepted_eq, hheld]
        · intro hp hf
          have := (hord.flushed hp hf).2
          rw [hheld] at this
          cases this
        · intro registration' hreg'
          have : registration = registration' := by
            cases frames <;> simpa using hreg'
          exact this ▸ hord.flushing registration hreg
        · intro registration' sender' frames' hsending
          cases frames with
          | nil => cases hsending
          | cons f fs => exact (FlushLoop.sending.inj hsending).2.1.symm
      | false =>
        obtain rfl := Option.some.inj h
        refine hs.shrink (RoomsSub.refl _) fun client _ hord _ => ?_
        refine ⟨hord.sender, ?_, ?_, hord.direct, ?_, nofun⟩
        · rw [hord.accepted_eq, hheld]; rfl
        · intro hp hf
          have := (hord.flushed hp hf).2
          rw [hheld] at this
          cases this
        · intro registration' hreg'
          exact hord.flushing registration' (by rw [hflush]; exact hreg')
  | _ => simp [hflush] at h

/-- A failed flush closes the client. -/
theorem inv_flushFailed (hs : Inv P s) {now : Instant} {control : FrameSender → TrySend}
    (h : step P s (.flushFailed now control) = some s') : Inv P s' := by
  simp only [step] at h
  cases hflush : s.flush with
  | failed registration frames =>
    simp only [hflush] at h
    obtain rfl := Option.some.inj h
    have hsub : RoomsSub (registration.pairedClientId.elim s.rooms fun clientId =>
        (RelayRegistry.closeClientAfterSendFailure s.rooms registration clientId now control).1)
        s.rooms := by
      cases registration.pairedClientId with
      | none => exact RoomsSub.refl _
      | some clientId =>
        exact RoomsSub.updateRoom fun room => room.closeClientAndNotify_sub clientId now control
    cases hclient : s.client P with
    | none =>
      refine hs.shrink hsub fun client hc _ _ => ?_
      rw [hclient] at hc
      cases hc
    | some client =>
      obtain ⟨room, hroom, hc⟩ := client_eq_some.mp hclient
      obtain ⟨hserver, hpc, -⟩ := (hs.ordered client hclient).flushing registration
        (by rw [hflush]; rfl)
      refine hs.close hsub ?_
      have hclosed : (RelayRegistry.closeClientAfterSendFailure s.rooms registration P.clientId
          now control).1 = RelayRegistry.removeRoomIfEmpty (s.rooms.insert P.serverId
            (room.closeClientAndNotify P.clientId now control).1) P.serverId := by
        unfold RelayRegistry.closeClientAfterSendFailure RelayRegistry.updateRoom
        rw [hserver, hroom]
      unfold PrePairSystem.client
      simp only [hpc, Option.elim_some, hclosed]
      exact client_removeRoomIfEmpty (room.closeClientAndNotify_clients P.clientId now control)
  | _ => simp [hflush] at h

/-! ## Every run -/

/-- **Every step that buffers in time keeps the invariant.** -/
theorem inv_step (hs : Inv P s) {op : PrePairOp} (hop : BuffersInTime P s op)
    (h : step P s op = some s') : Inv P s' := by
  cases op with
  | receive frame => exact inv_receive hs h
  | buffer now control => exact inv_buffer hs hop h
  | trySend ok => exact inv_trySend hs h
  | cleanUp now => exact inv_cleanUp hs h
  | register prelude routeKind accessToken uuid now control => exact inv_register hs h
  | take => exact inv_take hs h
  | sendData ok => exact inv_sendData hs h
  | flushFailed now control => exact inv_flushFailed hs h
  | unregister registration now control =>
    obtain rfl := Option.some.inj h
    exact hs.lose (unregister_sub s.rooms registration now control) rfl rfl rfl
      fun _ _ _ h => h
  | closePendingClientIfUnpaired registration now control =>
    obtain rfl := Option.some.inj h
    exact hs.lose (closePendingClientIfUnpaired_sub s.rooms registration now control) rfl rfl rfl
      fun _ _ _ h => h
  | closeServer serverId =>
    obtain rfl := Option.some.inj h
    exact hs.lose (closeServer_sub s.rooms serverId) rfl rfl rfl fun _ _ _ h => h

theorem Inv.fifo (hs : Inv P s) : Fifo P s := by
  intro client hclient
  have hord := hs.ordered client hclient
  have henqueued : s.enqueued P = s.sent.map Prod.snd := by
    unfold enqueued
    rw [List.filter_eq_self.mpr fun entry hentry => decide_eq_true (hord.sender entry hentry)]
  refine ⟨?_, fun hpaired hflush => (hord.flushed ?_ hflush).1⟩
  · rw [henqueued, hord.accepted_eq, List.append_assoc]
    exact List.prefix_append _ _
  · exact Option.isSome_iff_ne_none.mp hpaired

/-- A frame buffered too late is stranded: its client is paired, and no flush will come. -/
theorem not_fifo_of_late {op : PrePairOp} (hop : ¬ BuffersInTime P s op)
    (h : step P s op = some s') : ¬ Fifo P s' := by
  intro hfifo
  cases op with
  | buffer now control =>
    simp only [BuffersInTime, not_forall, not_or, Bool.not_eq_true] at hop
    obtain ⟨frame, room, client, hreader, hroom, hc, hbuffers, hpaired, hflush⟩ := hop
    obtain ⟨room', hbuffered⟩ := Option.ne_none_iff_exists'.mp hbuffers
    have hresult : RelayRegistry.bufferUnpairedClientFrame s.rooms P.clientRegistration frame now
        control = (s.rooms.insert P.serverId room', .deliveredOne, 0) := by
      simp only [RelayRegistry.bufferUnpairedClientFrame, PrePairSetup.clientRegistration, hroom,
        hbuffered]
    simp only [step, hreader, hresult] at h
    obtain rfl := Option.some.inj h
    obtain ⟨client', hc', buffer, ⟨hpush, -⟩, rfl⟩ := RelayRoom.bufferClientFrame_eq_some hbuffered
    obtain rfl : client = client' := Option.some.inj (hc.symm.trans hc')
    have hempty := (hfifo { client with prePairBuffer := buffer } (client_eq_some.mpr
      ⟨_, Finmap.lookup_insert _, Finmap.lookup_insert _⟩)).2
      (Option.isSome_iff_ne_none.mpr hpaired) hflush
    rw [(PrePairBuffer.push_eq_some hpush).1] at hempty
    simp at hempty
  | _ => exact hop trivial

/-- **Frames of a client keep their order and none is lost, throughout a run, exactly when its
buffering steps are in time.** -/
theorem fifo_iff_buffersInTime (P : PrePairSetup) {ops : List PrePairOp} {s : PrePairSystem}
    (h : exec (step P) (init P) ops = some s) :
    (∀ ks rest t, ops = ks ++ rest → exec (step P) (init P) ks = some t → Fifo P t) ↔
      Along (step P) (BuffersInTime P) (init P) ops :=
  forall_reached_iff_along (fun _ hs => hs.fifo) (fun _ _ _ hs hop hstep => inv_step hs hop hstep)
    (fun _ _ _ _ hop hstep => not_fifo_of_late hop hstep) (inv_init P) h

/-- A room with one client. -/
def oneClient : PrePairSetup where
  serverId := ⟨7⟩
  controlId := 1
  controlSender := ⟨1⟩
  routeGeneration := ⟨"generation"⟩
  clientId := 2
  clientSender := ⟨2⟩
  dataToken := ⟨"token"⟩
  dataId := 3
  dataSender := ⟨3⟩
  now := 0

/-- The data pipe of `oneClient` registers. -/
def dataPipeRegisters : PrePairOp :=
  .register
    { serverId := ⟨7⟩, routeRole := .daemonData, connectionRole := .daemonData, admission := none,
      routeGeneration := some ⟨"generation"⟩, clientId := some ⟨2⟩, dataToken := some ⟨"token"⟩ }
    .terminal none "uuid" 0 fun _ => .ok

/-- The first frame is buffered before the pipe registers, the second is sent directly. -/
def bufferThenSend : List PrePairOp :=
  [.receive (.binary [1]), .buffer 0 fun _ => .ok, dataPipeRegisters, .take, .sendData true,
    .take, .receive (.binary [2]), .trySend true]

theorem bufferThenSend_fifo :
    ∃ s, exec (step oneClient) (init oneClient) bufferThenSend = some s ∧ Fifo oneClient s ∧
      s.enqueued oneClient = [.binary [1], .binary [2]] := by
  have hintime : Along (step oneClient) (BuffersInTime oneClient) (init oneClient)
      bufferThenSend := by
    refine ⟨trivial, fun s hs => ⟨fun frame room client _ hroom hc _ => Or.inl ?_, fun _ _ => ?_⟩⟩
    · have hpending : ((step oneClient (init oneClient) (.receive (.binary [1]))).bind fun s =>
          (s.client oneClient).map fun client => client.pairedDaemonDataId) = some none := by
        decide +kernel
      rw [hs, Option.bind_some, client_eq_some.mpr ⟨room, hroom, hc⟩] at hpending
      exact Option.some.inj hpending
    · exact ⟨trivial, fun _ _ => ⟨trivial, fun _ _ => ⟨trivial, fun _ _ => ⟨trivial, fun _ _ =>
        ⟨trivial, fun _ _ => ⟨trivial, fun _ _ => trivial⟩⟩⟩⟩⟩⟩
  have hend : (exec (step oneClient) (init oneClient) bufferThenSend).map
      (enqueued oneClient) = some [.binary [1], .binary [2]] := rfl
  obtain ⟨s, hs, henqueued⟩ := Option.map_eq_some_iff.mp hend
  exact ⟨s, hs, (fifo_iff_buffersInTime oneClient hs).mpr hintime bufferThenSend [] s (by simp) hs,
    henqueued⟩

/-- The reader decides to buffer its first frame; the pipe registers and ends its flush; the
frame is buffered, and the next frame is sent directly. -/
def lateBuffer : List PrePairOp :=
  [.receive (.binary [1]), dataPipeRegisters, .take, .buffer 0 fun _ => .ok,
    .receive (.binary [2]), .trySend true]

/-- The flush has ended normally, and the first accepted frame is still in the buffer while the
second one is enqueued. -/
theorem lateBuffer_breaks_fifo :
    ∃ s client, exec (step oneClient) (init oneClient) lateBuffer = some s ∧
      s.client oneClient = some client ∧ client.pairedDaemonDataId = some 3 ∧
      client.prePairFlushInProgress = false ∧ s.flush = .ended ∧
      client.prePairBuffer.frames = [.binary [1]] ∧
      s.accepted = [.binary [1], .binary [2]] ∧ s.enqueued oneClient = [.binary [2]] ∧
      ¬ s.enqueued oneClient <+: s.accepted ∧ ¬ Fifo oneClient s := by
  have hend : ((exec (step oneClient) (init oneClient) lateBuffer).bind fun s =>
      (s.client oneClient).map fun client =>
        (client.pairedDaemonDataId, client.prePairFlushInProgress, s.flush,
          client.prePairBuffer.frames, s.accepted, s.enqueued oneClient)) =
      some (some 3, false, .ended, [.binary [1]], [.binary [1], .binary [2]], [.binary [2]]) :=
    rfl
  obtain ⟨s, hs, hend⟩ := Option.bind_eq_some_iff.mp hend
  obtain ⟨client, hclient, hend⟩ := Option.map_eq_some_iff.mp hend
  simp only [Prod.mk.injEq] at hend
  obtain ⟨hpaired, hflush, hended, hbuffer, haccepted, henqueued⟩ := hend
  have hprefix : ¬ s.enqueued oneClient <+: s.accepted := by
    rw [henqueued, haccepted]
    decide
  exact ⟨s, client, hs, hclient, hpaired, hflush, hended, hbuffer, haccepted, henqueued, hprefix,
    fun hfifo => hprefix (hfifo client hclient).1⟩

end PrePairSystem

end Termd.Relay
