import Termd.Relay.Registry

/-!
# What a critical section does to a room

Every critical section of the registry works on one room. Except for the pairing of a data pipe
it is a sequence of a few elementary room steps, which this module determines once; the
invariants of rooms are then checked step by step. A room step carries the connection id that a
registration drew and has not yet used, and the effects the step has.

An absent room counts as the empty one.

## Main definitions

* `RoomStep`, `RoomSteps`: the elementary room steps and their sequences
* `RoomSection rooms rooms' fresh fresh' effects`: the critical section takes one room along
  room steps and leaves the others alone
* `Pairing rooms rooms' id prelude effects`: the critical section pairs a data pipe

## Main results

* `RoomSteps.invariant`: an invariant of every room step is an invariant of their sequences
* `RelaySystem.step_cases`: a critical section draws an id, or is a sequence of room steps on
  one room, or pairs a data pipe with its client
-/

namespace Termd.Relay

/-- A room with the connection id a registration may still use. -/
abbrev FreshRoom := Option ConnectionId × RelayRoom

/-- The elementary room steps. -/
inductive RoomStep : FreshRoom → Multiset RelayEffect → FreshRoom → Prop
  | takeOver (room : RelayRoom) (id : ConnectionId) (sender : FrameSender)
      (generation : Option Nonce) (now : Instant) (hg : generation ≠ none) :
      RoomStep (some id, room) (room.registerDaemonControl id sender generation now).2
        (none, (room.registerDaemonControl id sender generation now).1)
  | enter (room : RelayRoom) (id : ConnectionId) (sender : FrameSender) (token : Nonce)
      (now : Instant) (hp : room.pendingClientCount < PENDING_CLIENTS_PER_ROOM_LIMIT)
      (hc : room.daemonControl ≠ none) :
      RoomStep (some id, room) 0 (none, room.insertClient id sender token now)
  | clear (fresh : Option ConnectionId) (room : RelayRoom) :
      RoomStep (fresh, room) room.clearDaemonControlAndDependents.2
        (fresh, room.clearDaemonControlAndDependents.1)
  | closeClient (fresh : Option ConnectionId) (room : RelayRoom) (clientId : ConnectionId)
      (now : Instant) :
      RoomStep (fresh, room) (room.closeClientTransport clientId now).2.2
        (fresh, (room.closeClientTransport clientId now).1)
  | leaveData (fresh : Option ConnectionId) (room : RelayRoom)
      (registration : ConnectionRegistration) (now : Instant) :
      RoomStep (fresh, room) (room.unregisterDaemonData registration now).2
        (fresh, (room.unregisterDaemonData registration now).1)
  | buffer (fresh : Option ConnectionId) {room room' : RelayRoom} {clientId : ConnectionId}
      {frame : OpaqueFrame} (h : room.bufferClientFrame clientId frame = some room') :
      RoomStep (fresh, room) 0 (fresh, room')
  | drain (fresh : Option ConnectionId) {room room' : RelayRoom} {clientId : ConnectionId}
      {frames : List OpaqueFrame} {effects : Multiset RelayEffect}
      (h : room.drainPrePairClientFrames clientId = some (room', frames, effects)) :
      RoomStep (fresh, room) effects (fresh, room')
  | endFlush (fresh : Option ConnectionId) {room : RelayRoom} {clientId : ConnectionId}
      {client : ConnectionEndpoint} (h : room.clients.lookup clientId = some client) :
      RoomStep (fresh, room) 0
        (fresh, { room with
          clients := room.clients.insert clientId { client with prePairFlushInProgress := false } })
  | send (fresh : Option ConnectionId) (room : RelayRoom) (sender : FrameSender)
      (envelope : RelayControlEnvelope) (outcome : TrySend) :
      RoomStep (fresh, room) {.sendControl sender envelope outcome} (fresh, room)
  | forget (fresh : Option ConnectionId) {room : RelayRoom} (h : room.isEmpty = true) :
      RoomStep (fresh, room) 0 (fresh, {})

/-- Sequences of room steps, with the effects of all of them. -/
inductive RoomSteps : FreshRoom → Multiset RelayEffect → FreshRoom → Prop
  | refl (a : FreshRoom) : RoomSteps a 0 a
  | snoc {a b c : FreshRoom} {e f : Multiset RelayEffect} :
      RoomSteps a e b → RoomStep b f c → RoomSteps a (e + f) c

namespace RoomSteps

theorem single {a b : FreshRoom} {e : Multiset RelayEffect} (h : RoomStep a e b) :
    RoomSteps a e b := by
  simpa using (refl a).snoc h

theorem trans {a b c : FreshRoom} {e f : Multiset RelayEffect} (h : RoomSteps a e b)
    (h' : RoomSteps b f c) : RoomSteps a (e + f) c := by
  induction h' with
  | refl => simpa using h
  | snoc _ hstep ih => rw [← add_assoc]; exact ih.snoc hstep

/-- **The room rule**: what every room step keeps, every sequence of them keeps. -/
theorem invariant {I : FreshRoom → Prop}
    (hstep : ∀ a e b, RoomStep a e b → I a → I b)
    {a b : FreshRoom} {e : Multiset RelayEffect} (h : RoomSteps a e b) (ha : I a) : I b := by
  induction h with
  | refl => exact ha
  | snoc _ hs ih => exact hstep _ _ _ hs ih

/-- The room rule for what steps do to the outside: a property of every effect of a step from a
room that satisfies an invariant is one of every effect of a sequence. -/
theorem effects {I : FreshRoom → Prop} {Q : RelayEffect → Prop}
    (hstep : ∀ a e b, RoomStep a e b → I a → I b)
    (heffect : ∀ a e b, RoomStep a e b → I a → ∀ x ∈ e, Q x)
    {a b : FreshRoom} {e : Multiset RelayEffect} (h : RoomSteps a e b) (ha : I a) :
    ∀ x ∈ e, Q x := by
  induction h with
  | refl => intro x hx; simp at hx
  | snoc hs hlast ih =>
    intro x hx
    rcases Multiset.mem_add.mp hx with hx | hx
    · exact ih x hx
    · exact heffect _ _ _ hlast (hs.invariant hstep ha) x hx

end RoomSteps

/-! ## The operations of a room -/

section RoomOps

variable (fresh : Option ConnectionId) (room : RelayRoom)

theorem notifyClientDisconnected_steps (clientId : ConnectionId)
    (control : FrameSender → TrySend) :
    RoomSteps (fresh, room) (room.notifyClientDisconnectedToControl clientId control).2
      (fresh, (room.notifyClientDisconnectedToControl clientId control).1) := by
  unfold RelayRoom.notifyClientDisconnectedToControl
  cases hc : room.daemonControl with
  | none => exact RoomSteps.refl _
  | some daemonControl =>
    have hsent := RoomSteps.single (RoomStep.send fresh room daemonControl.sender
      (.clientDisconnected ⟨clientId⟩) (control daemonControl.sender))
    dsimp only
    split_ifs with ho
    · exact hsent
    · exact hsent.snoc (RoomStep.clear fresh room)

theorem closeClientAndNotify_steps (clientId : ConnectionId) (now : Instant)
    (control : FrameSender → TrySend) :
    RoomSteps (fresh, room) (room.closeClientAndNotify clientId now control).2.2
      (fresh, (room.closeClientAndNotify clientId now control).1) := by
  have hclose := RoomSteps.single (RoomStep.closeClient fresh room clientId now)
  unfold RelayRoom.closeClientAndNotify
  dsimp only
  split_ifs with hr
  · exact hclose.trans (notifyClientDisconnected_steps fresh _ clientId control)
  · exact hclose

theorem registerClient_steps (id : ConnectionId) (sender : FrameSender)
    (routeKind : RelayRouteKind) (accessToken : Option String) (uuid : String) (now : Instant)
    (control : FrameSender → TrySend) :
    ∃ fresh', RoomSteps (some id, room)
      (room.registerClient id sender routeKind accessToken uuid now control).2.2
      (fresh', (room.registerClient id sender routeKind accessToken uuid now control).1) := by
  unfold RelayRoom.registerClient
  split_ifs with hlimit
  · exact ⟨some id, RoomSteps.refl _⟩
  cases hc : room.daemonControl with
  | none => exact ⟨some id, RoomSteps.refl _⟩
  | some daemonControl =>
    have henter := RoomSteps.single (RoomStep.enter room id sender
      (RelayRoom.clientDataToken uuid id) now (not_le.mp hlimit) (by simp [hc]))
    dsimp only
    split_ifs with hover
    · exact ⟨none, by simpa using henter.snoc (RoomStep.closeClient none _ id now)⟩
    · have hsent := henter.snoc (RoomStep.send none _ daemonControl.sender
        (.openData ⟨id⟩ (RelayRoom.clientDataToken uuid id) routeKind accessToken)
        (control daemonControl.sender))
      rw [zero_add] at hsent
      refine ⟨none, ?_⟩
      cases ho : control daemonControl.sender with
      | ok => rw [ho] at hsent; exact hsent
      | full =>
        rw [ho] at hsent
        exact hsent.snoc (RoomStep.closeClient none _ id now)
      | closed =>
        rw [ho] at hsent
        exact (hsent.snoc (RoomStep.closeClient none _ id now)).snoc (RoomStep.clear none _)

end RoomOps

/-! ## The critical sections -/

/-- The room of a daemon; an absent room counts as the empty one. -/
def roomAt (rooms : Rooms) (serverId : ServerId) : RelayRoom := (rooms.lookup serverId).getD {}

theorem roomAt_of_lookup {rooms : Rooms} {serverId : ServerId} {room : RelayRoom}
    (h : rooms.lookup serverId = some room) : roomAt rooms serverId = room := by
  simp [roomAt, h]

@[simp] theorem roomAt_insert_self (rooms : Rooms) (serverId : ServerId) (room : RelayRoom) :
    roomAt (rooms.insert serverId room) serverId = room := by
  simp [roomAt]

theorem roomAt_insert_of_ne (rooms : Rooms) {serverId serverId' : ServerId} (room : RelayRoom)
    (h : serverId' ≠ serverId) :
    roomAt (rooms.insert serverId room) serverId' = roomAt rooms serverId' := by
  simp [roomAt, h]

@[simp] theorem roomAt_erase_self (rooms : Rooms) (serverId : ServerId) :
    roomAt (rooms.erase serverId) serverId = {} := by
  simp [roomAt]

theorem roomAt_erase_of_ne (rooms : Rooms) {serverId serverId' : ServerId}
    (h : serverId' ≠ serverId) :
    roomAt (rooms.erase serverId) serverId' = roomAt rooms serverId' := by
  simp [roomAt, h]

/-- The critical section takes one room along room steps and leaves the others alone. -/
def RoomSection (rooms rooms' : Rooms) (fresh fresh' : Option ConnectionId)
    (effects : Multiset RelayEffect) : Prop :=
  ∃ serverId, RoomSteps (fresh, roomAt rooms serverId) effects (fresh', roomAt rooms' serverId) ∧
    ∀ serverId' ≠ serverId, roomAt rooms' serverId' = roomAt rooms serverId'

/-- The critical section pairs the data pipe `id`. -/
def Pairing (rooms rooms' : Rooms) (id : ConnectionId) (prelude : RoutePrelude)
    (effects : Multiset RelayEffect) : Prop :=
  ∃ room room' sender now, rooms.lookup prelude.serverId = some room ∧
    room.registerDaemonData id prelude sender now = .ok (room', effects) ∧
    rooms' = rooms.insert prelude.serverId room'

theorem RoomSection.unchanged (rooms : Rooms) (fresh : Option ConnectionId) :
    RoomSection rooms rooms fresh fresh 0 :=
  ⟨⟨0⟩, RoomSteps.refl _, fun _ _ => rfl⟩

theorem RoomSection.insert {rooms : Rooms} {serverId : ServerId} {room : RelayRoom}
    {fresh fresh' : Option ConnectionId} {effects : Multiset RelayEffect}
    (h : RoomSteps (fresh, roomAt rooms serverId) effects (fresh', room)) :
    RoomSection rooms (rooms.insert serverId room) fresh fresh' effects :=
  ⟨serverId, by rwa [roomAt_insert_self], fun _ hne => roomAt_insert_of_ne rooms room hne⟩

/-- Dropping an empty room is one more room step. -/
theorem RoomSection.removeRoomIfEmpty {rooms : Rooms} {serverId : ServerId} {room : RelayRoom}
    {fresh fresh' : Option ConnectionId} {effects : Multiset RelayEffect}
    (h : RoomSteps (fresh, roomAt rooms serverId) effects (fresh', room)) :
    RoomSection rooms
      (RelayRegistry.removeRoomIfEmpty (rooms.insert serverId room) serverId) fresh fresh'
      effects := by
  unfold RelayRegistry.removeRoomIfEmpty
  split_ifs with hempty
  · have hroom : room.isEmpty = true := by simpa using hempty
    refine ⟨serverId, ?_, fun serverId' hne => ?_⟩
    · rw [roomAt_erase_self]
      simpa using h.snoc (RoomStep.forget fresh' hroom)
    · rw [roomAt_erase_of_ne _ hne, roomAt_insert_of_ne _ _ hne]
  · exact RoomSection.insert h

theorem updateRoom_section {rooms : Rooms} {serverId : ServerId}
    {f : RelayRoom → RelayRoom × Multiset RelayEffect}
    (hf : ∀ room, RoomSteps (none, room) (f room).2 (none, (f room).1)) :
    RoomSection rooms (RelayRegistry.updateRoom rooms serverId f).1 none none
      (RelayRegistry.updateRoom rooms serverId f).2 := by
  unfold RelayRegistry.updateRoom
  cases hroom : rooms.lookup serverId with
  | none => exact RoomSection.unchanged rooms none
  | some room =>
    refine RoomSection.removeRoomIfEmpty ?_
    rw [roomAt_of_lookup hroom]
    exact hf room

theorem unregister_section (rooms : Rooms) (registration : ConnectionRegistration)
    (now : Instant) (control : FrameSender → TrySend) :
    RoomSection rooms (RelayRegistry.unregister rooms registration now control).1 none none
      (RelayRegistry.unregister rooms registration now control).2 := by
  refine updateRoom_section fun room => ?_
  cases registration.role with
  | daemonControl =>
    dsimp only
    split_ifs
    · exact RoomSteps.single (RoomStep.clear none room)
    · exact RoomSteps.refl _
  | daemonData => exact RoomSteps.single (RoomStep.leaveData none room registration now)
  | client => exact closeClientAndNotify_steps none room registration.id now control

theorem closePendingClientIfUnpaired_section (rooms : Rooms)
    (registration : ConnectionRegistration) (now : Instant) (control : FrameSender → TrySend) :
    RoomSection rooms
      (RelayRegistry.closePendingClientIfUnpaired rooms registration now control).1 none none
      (RelayRegistry.closePendingClientIfUnpaired rooms registration now control).2.2 := by
  unfold RelayRegistry.closePendingClientIfUnpaired
  split_ifs with hrole
  · exact RoomSection.unchanged rooms none
  split
  · exact RoomSection.unchanged rooms none
  · rename_i room client hfound
    obtain ⟨room, hroom, hclient⟩ := Option.bind_eq_some_iff.mp hfound
    obtain ⟨hclient, rfl⟩ : room.clients.lookup registration.id = some client ∧ room = _ := by
      simpa using hclient
    split_ifs with hpaired
    · exact RoomSection.unchanged rooms none
    · refine RoomSection.removeRoomIfEmpty ?_
      rw [roomAt_of_lookup hroom]
      exact closeClientAndNotify_steps none room registration.id now control

theorem closeServer_section (rooms : Rooms) (serverId : ServerId) :
    RoomSection rooms (RelayRegistry.closeServer rooms serverId).1 none none
      (RelayRegistry.closeServer rooms serverId).2.2 := by
  unfold RelayRegistry.closeServer
  cases hroom : rooms.lookup serverId with
  | none => exact RoomSection.unchanged rooms none
  | some room =>
    refine ⟨serverId, ?_, fun serverId' hne => roomAt_erase_of_ne rooms hne⟩
    rw [roomAt_of_lookup hroom, roomAt_erase_self]
    exact RoomSteps.single (RoomStep.clear none room)

theorem closeClientAfterDaemonDataSendFailure_section (rooms : Rooms)
    (registration : ConnectionRegistration) (daemonDataId : ConnectionId) (now : Instant) :
    RoomSection rooms
      (RelayRegistry.closeClientAfterDaemonDataSendFailure rooms registration daemonDataId now).1
      none none
      (RelayRegistry.closeClientAfterDaemonDataSendFailure rooms registration daemonDataId
        now).2.2 := by
  refine updateRoom_section fun room => ?_
  dsimp only
  split_ifs
  · exact RoomSteps.single (RoomStep.closeClient none room registration.id now)
  · exact RoomSteps.refl _

theorem closeClientAfterSendFailure_section (rooms : Rooms)
    (registration : ConnectionRegistration) (clientId : ConnectionId) (now : Instant)
    (control : FrameSender → TrySend) :
    RoomSection rooms
      (RelayRegistry.closeClientAfterSendFailure rooms registration clientId now control).1
      none none
      (RelayRegistry.closeClientAfterSendFailure rooms registration clientId now control).2 :=
  updateRoom_section fun room => closeClientAndNotify_steps none room clientId now control

theorem bufferUnpairedClientFrame_section (rooms : Rooms)
    (registration : ConnectionRegistration) (frame : OpaqueFrame) (now : Instant)
    (control : FrameSender → TrySend) :
    RoomSection rooms
      (RelayRegistry.bufferUnpairedClientFrame rooms registration frame now control).1 none none
      (RelayRegistry.bufferUnpairedClientFrame rooms registration frame now control).2.2 := by
  unfold RelayRegistry.bufferUnpairedClientFrame
  cases hroom : rooms.lookup registration.serverId with
  | none => exact RoomSection.unchanged rooms none
  | some room =>
    dsimp only
    cases hbuffer : room.bufferClientFrame registration.id frame with
    | some buffered =>
      refine RoomSection.insert ?_
      rw [roomAt_of_lookup hroom]
      exact RoomSteps.single (RoomStep.buffer none hbuffer)
    | none =>
      refine RoomSection.removeRoomIfEmpty ?_
      rw [roomAt_of_lookup hroom]
      exact closeClientAndNotify_steps none room registration.id now control

theorem takePrePairClientFrames_section {rooms rooms' : Rooms}
    {registration : ConnectionRegistration} {clientId : ConnectionId}
    {frames : List OpaqueFrame} {sender : FrameSender} {effects : Multiset RelayEffect}
    (h : RelayRegistry.takePrePairClientFrames rooms registration clientId =
      some (rooms', frames, sender, effects)) :
    RoomSection rooms rooms' none none effects := by
  unfold RelayRegistry.takePrePairClientFrames at h
  obtain ⟨room, hroom, h⟩ := Option.bind_eq_some_iff.mp h
  obtain ⟨daemonData, hdata, h⟩ := Option.bind_eq_some_iff.mp h
  obtain ⟨client, hclient, h⟩ := Option.bind_eq_some_iff.mp h
  split_ifs at h with hpaired
  obtain ⟨⟨drained, taken, released⟩, hdrain, h⟩ := Option.map_eq_some_iff.mp h
  obtain ⟨rfl, rfl, rfl, rfl⟩ : _ ∧ _ ∧ _ ∧ _ := by simpa using h
  refine RoomSection.insert ?_
  rw [roomAt_of_lookup hroom]
  have hsteps := RoomSteps.single (RoomStep.drain none hdrain)
  split_ifs with hempty
  · cases hfound : drained.clients.lookup clientId with
    | none => exact hsteps
    | some found =>
      simp only [Option.elim_some]
      split_ifs
      · simpa using hsteps.snoc (RoomStep.endFlush none hfound)
      · exact hsteps
  · exact hsteps

/-- A registration takes its room along room steps, or pairs its data pipe and is accepted. -/
theorem registerTransport_section (rooms : Rooms) (id : ConnectionId) (prelude : RoutePrelude)
    (sender : FrameSender) (routeKind : RelayRouteKind) (accessToken : Option String)
    (uuid : String) (now : Instant) (control : FrameSender → TrySend) :
    let result := RelayRegistry.registerTransport rooms id prelude sender routeKind accessToken
      uuid now control
    (∃ fresh', RoomSection rooms result.1 (some id) fresh' result.2.2) ∨
      (Pairing rooms result.1 id prelude result.2.2 ∧ prelude.connectionRole = .daemonData ∧
        ∃ registration, result.2.1 = .ok registration ∧ registration.id = id ∧
          registration.serverId = prelude.serverId ∧ registration.role = .daemonData) := by
  intro result
  by_cases hgeneration : prelude.connectionRole ≠ .client ∧ prelude.routeGeneration = none
  · simp only [result, RelayRegistry.registerTransport, if_pos hgeneration]
    exact Or.inl ⟨some id, RoomSection.unchanged rooms _⟩
  simp only [result, RelayRegistry.registerTransport, if_neg hgeneration]
  cases hrole : prelude.connectionRole with
  | daemonControl =>
    have hg : prelude.routeGeneration ≠ none := fun h => hgeneration ⟨by simp [hrole], h⟩
    exact Or.inl ⟨none, RoomSection.insert
      (RoomSteps.single (RoomStep.takeOver _ id sender prelude.routeGeneration now hg))⟩
  | daemonData =>
    cases hroom : rooms.lookup prelude.serverId with
    | none => exact Or.inl ⟨some id, RoomSection.unchanged rooms _⟩
    | some room =>
      dsimp only
      cases hpair : room.registerDaemonData id prelude sender now with
      | error error => exact Or.inl ⟨some id, RoomSection.unchanged rooms _⟩
      | ok pair =>
        exact Or.inr ⟨⟨room, pair.1, sender, now, hroom, hpair, rfl⟩, rfl, _, rfl, rfl, rfl,
          hrole⟩
  | client =>
    cases hroom : rooms.lookup prelude.serverId with
    | none => exact Or.inl ⟨some id, RoomSection.unchanged rooms _⟩
    | some room =>
      obtain ⟨fresh', hsteps⟩ :=
        registerClient_steps room id sender routeKind accessToken uuid now control
      refine Or.inl ⟨fresh', ?_⟩
      rw [← roomAt_of_lookup hroom] at hsteps
      have hsection := RoomSection.insert hsteps
      rw [roomAt_of_lookup hroom] at hsection
      dsimp only
      split
      · exact hsection
      · exact hsection

/-- An accepted registration carries the id drawn for it, and what its prelude said. -/
theorem registerTransport_eq_ok {rooms : Rooms} {id : ConnectionId} {prelude : RoutePrelude}
    {sender : FrameSender} {routeKind : RelayRouteKind} {accessToken : Option String}
    {uuid : String} {now : Instant} {control : FrameSender → TrySend}
    {registration : ConnectionRegistration}
    (h : (RelayRegistry.registerTransport rooms id prelude sender routeKind accessToken uuid now
      control).2.1 = .ok registration) :
    registration.id = id ∧ registration.serverId = prelude.serverId ∧
      registration.role = prelude.connectionRole := by
  suffices ∃ rooms', RelayRegistry.registrationOf rooms' id prelude = registration by
    obtain ⟨rooms', rfl⟩ := this
    exact ⟨rfl, rfl, rfl⟩
  by_cases hgeneration : prelude.connectionRole ≠ .client ∧ prelude.routeGeneration = none
  · simp [RelayRegistry.registerTransport, if_pos hgeneration] at h
  simp only [RelayRegistry.registerTransport, if_neg hgeneration] at h
  cases hrole : prelude.connectionRole with
  | daemonControl =>
    rw [hrole] at h
    exact ⟨_, Except.ok.inj h⟩
  | daemonData =>
    rw [hrole] at h
    cases hroom : rooms.lookup prelude.serverId with
    | none => simp [hroom] at h
    | some room =>
      simp only [hroom] at h
      cases hpair : room.registerDaemonData id prelude sender now with
      | error error => simp [hpair] at h
      | ok pair =>
        rw [hpair] at h
        exact ⟨_, Except.ok.inj h⟩
  | client =>
    rw [hrole] at h
    cases hroom : rooms.lookup prelude.serverId with
    | none => simp [hroom] at h
    | some room =>
      simp only [hroom] at h
      cases hclient : (room.registerClient id sender routeKind accessToken uuid now
          control).2.1 with
      | error error => simp [hclient] at h
      | ok _ =>
        rw [hclient] at h
        exact ⟨_, Except.ok.inj h⟩

namespace RelaySystem

/-- **What a critical section does**: it draws an id, or takes one room along room steps, or
pairs a data pipe that presented a client's token. -/
theorem step_cases {s s' : RelaySystem} {op : RelayOp} (h : s.step op = some s') :
    (s'.rooms = s.rooms ∧ s'.effects = s.effects ∧ s'.accepted = s.accepted ∧
      s'.registry.nextConnectionId = s.registry.nextConnectionId + 1 ∧
      s'.drawn = (s.registry.nextConnectionId + 1) :: s.drawn ∧
      s'.allocated = (s.registry.nextConnectionId + 1) :: s.allocated) ∨
    (s'.registry.nextConnectionId = s.registry.nextConnectionId ∧ s'.allocated = s.allocated ∧
      ∃ effects, s'.effects = s.effects + effects ∧
        ((RoomSection s.rooms s'.rooms none none effects ∧ s'.drawn = s.drawn ∧
            s'.accepted = s.accepted) ∨
          ∃ id ∈ s.drawn, s'.drawn = s.drawn.erase id ∧
            ((∃ fresh', RoomSection s.rooms s'.rooms (some id) fresh' effects ∧
                (s'.accepted = s.accepted ∨ ∃ prelude registration,
                  s'.accepted = (prelude, registration) :: s.accepted ∧ registration.id = id)) ∨
              ∃ prelude registration, Pairing s.rooms s'.rooms id prelude effects ∧
                prelude.connectionRole = .daemonData ∧
                s'.accepted = (prelude, registration) :: s.accepted ∧ registration.id = id ∧
                registration.serverId = prelude.serverId ∧
                registration.role = .daemonData))) := by
  cases op with
  | draw =>
    obtain rfl := Option.some.inj h
    exact Or.inl ⟨rfl, rfl, rfl, rfl, rfl, rfl⟩
  | register id prelude sender routeKind accessToken uuid now control =>
    simp only [step] at h
    split_ifs at h with hid
    obtain rfl := Option.some.inj h
    refine Or.inr ⟨rfl, rfl, _, rfl, Or.inr ⟨id, hid, rfl, ?_⟩⟩
    rcases registerTransport_section s.rooms id prelude sender routeKind accessToken uuid now
      control with ⟨fresh', hsection⟩ | ⟨hpair, hrole, registration, hok, hreg⟩
    · refine Or.inl ⟨fresh', hsection, ?_⟩
      cases hok : (RelayRegistry.registerTransport s.rooms id prelude sender routeKind
          accessToken uuid now control).2.1 with
      | error error => exact Or.inl rfl
      | ok registration =>
        exact Or.inr ⟨prelude, registration, rfl, (registerTransport_eq_ok hok).1⟩
    · refine Or.inr ⟨prelude, registration, hpair, hrole, ?_, hreg⟩
      simp only [hok]
  | unregister registration now control =>
    obtain rfl := Option.some.inj h
    exact Or.inr ⟨rfl, rfl, _, rfl,
      Or.inl ⟨unregister_section s.rooms registration now control, rfl, rfl⟩⟩
  | closePendingClientIfUnpaired registration now control =>
    obtain rfl := Option.some.inj h
    exact Or.inr ⟨rfl, rfl, _, rfl,
      Or.inl ⟨closePendingClientIfUnpaired_section s.rooms registration now control, rfl, rfl⟩⟩
  | closeServer serverId =>
    obtain rfl := Option.some.inj h
    exact Or.inr ⟨rfl, rfl, _, rfl, Or.inl ⟨closeServer_section s.rooms serverId, rfl, rfl⟩⟩
  | closeClientAfterDaemonDataSendFailure registration daemonDataId now =>
    obtain rfl := Option.some.inj h
    exact Or.inr ⟨rfl, rfl, _, rfl, Or.inl ⟨closeClientAfterDaemonDataSendFailure_section s.rooms
      registration daemonDataId now, rfl, rfl⟩⟩
  | closeClientAfterSendFailure registration clientId now control =>
    obtain rfl := Option.some.inj h
    exact Or.inr ⟨rfl, rfl, _, rfl, Or.inl ⟨closeClientAfterSendFailure_section s.rooms
      registration clientId now control, rfl, rfl⟩⟩
  | bufferUnpairedClientFrame registration frame now control =>
    obtain rfl := Option.some.inj h
    exact Or.inr ⟨rfl, rfl, _, rfl, Or.inl ⟨bufferUnpairedClientFrame_section s.rooms
      registration frame now control, rfl, rfl⟩⟩
  | takePrePairClientFrames registration clientId =>
    simp only [step] at h
    cases htake : RelayRegistry.takePrePairClientFrames s.rooms registration clientId with
    | none =>
      rw [htake] at h
      obtain rfl := Option.some.inj h
      exact Or.inr ⟨rfl, rfl, 0, by simp,
        Or.inl ⟨RoomSection.unchanged s.rooms none, rfl, rfl⟩⟩
    | some result =>
      rw [htake] at h
      obtain rfl := Option.some.inj h
      exact Or.inr ⟨rfl, rfl, _, rfl,
        Or.inl ⟨takePrePairClientFrames_section htake, rfl, rfl⟩⟩

end RelaySystem

end Termd.Relay
