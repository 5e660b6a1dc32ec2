import Termd.Relay.Pairing

/-!
# Empty rooms

A room that an operation leaves empty is dropped from the registry by a separate call. Every
operation makes that call, except the registration of a client that finds the control queue
closed: it clears the room and returns with the empty room still in the map.

## Main definitions

* `RelaySystem.RoomsLive`: no room is empty, so the room count is the number of live daemons
* `RelaySystem.ControlQueueClosed s op`: `op` registers a client of `s` over a closed control
  queue

## Main results

* `RelaySystem.roomsLive_along_iff`: rooms stay live along a run exactly when no step of it
  registers a client over a closed control queue
-/

namespace Termd.Relay

/-- No room of the map is empty. -/
def NoEmptyRoom (rooms : Rooms) : Prop :=
  ∀ serverId room, rooms.lookup serverId = some room → room.isEmpty = false

theorem RelayRoom.isEmpty_eq_true {room : RelayRoom} :
    room.isEmpty = true ↔ room.daemonControl = none ∧ room.daemonData = ∅ ∧ room.clients = ∅ := by
  simp [isEmpty, and_assoc]

/-- A room is empty exactly when it holds no connection. -/
theorem RelayRoom.isEmpty_iff_not_holds {room : RelayRoom} :
    room.isEmpty = true ↔ ∀ id, ¬ room.Holds id := by
  rw [isEmpty_eq_true]
  constructor
  · rintro ⟨hcontrol, hdata, hclients⟩ id (⟨control, hc, -⟩ | h | h)
    · rw [hcontrol] at hc; cases hc
    · rw [hdata] at h; exact Finmap.notMem_empty h
    · rw [hclients] at h; exact Finmap.notMem_empty h
  · intro h
    refine ⟨?_, ?_, ?_⟩
    · cases hc : room.daemonControl with
      | none => rfl
      | some control => exact absurd (Or.inl ⟨control, hc, rfl⟩) (h control.id)
    · refine FiniteMap.eq_empty_of_lookup fun d => Finmap.lookup_eq_none.mpr fun hd => ?_
      exact h d (Or.inr (Or.inl hd))
    · refine FiniteMap.eq_empty_of_lookup fun c => Finmap.lookup_eq_none.mpr fun hc => ?_
      exact h c (Or.inr (Or.inr hc))

/-- A room that holds a connection is not empty. -/
theorem RelayRoom.isEmpty_of_holds {room : RelayRoom} {id : ConnectionId} (h : room.Holds id) :
    room.isEmpty = false := by
  cases he : room.isEmpty with
  | false => rfl
  | true => exact absurd h (isEmpty_iff_not_holds.mp he id)

theorem RelayRoom.isEmpty_of_control {room : RelayRoom} (h : room.daemonControl ≠ none) :
    room.isEmpty = false := by
  obtain ⟨control, hc⟩ := Option.ne_none_iff_exists'.mp h
  exact isEmpty_of_holds (Or.inl ⟨control, hc, rfl⟩)

namespace NoEmptyRoom

variable {rooms : Rooms} (hrooms : NoEmptyRoom rooms)

include hrooms

theorem insert {serverId : ServerId} {room : RelayRoom} (hroom : room.isEmpty = false) :
    NoEmptyRoom (rooms.insert serverId room) := by
  intro serverId' room' h
  rcases FiniteMap.lookup_insert_eq_some.mp h with ⟨-, rfl⟩ | ⟨-, h⟩
  · exact hroom
  · exact hrooms serverId' room' h

theorem erase (serverId : ServerId) : NoEmptyRoom (rooms.erase serverId) :=
  fun serverId' room' h => hrooms serverId' room' (FiniteMap.lookup_erase_eq_some.mp h).2

/-- The cleanup call drops the room if it has become empty. -/
theorem removeRoomIfEmpty (serverId : ServerId) (room : RelayRoom) :
    NoEmptyRoom (RelayRegistry.removeRoomIfEmpty (rooms.insert serverId room) serverId) := by
  unfold RelayRegistry.removeRoomIfEmpty
  split_ifs with hempty
  · rw [FiniteMap.erase_insert_self]
    exact hrooms.erase serverId
  · refine hrooms.insert ?_
    simpa using hempty

theorem updateRoom (serverId : ServerId) (f : RelayRoom → RelayRoom × Multiset RelayEffect) :
    NoEmptyRoom (RelayRegistry.updateRoom rooms serverId f).1 := by
  unfold RelayRegistry.updateRoom
  cases hroom : rooms.lookup serverId with
  | none => exact hrooms
  | some room => exact hrooms.removeRoomIfEmpty serverId _

end NoEmptyRoom

/-! ## The operations -/

theorem closeClientTransport_daemonControl (room : RelayRoom) (c : ConnectionId) (now : Instant) :
    (room.closeClientTransport c now).1.daemonControl = room.daemonControl := by
  cases hc : room.clients.lookup c with
  | none => rw [RelayRoom.closeClientTransport_of_lookup_none hc]
  | some client => rw [RelayRoom.closeClientTransport_fst hc]

/-- The registration of a client keeps the control line, unless its queue is closed. -/
theorem registerClient_daemonControl (room : RelayRoom) (id : ConnectionId) (sender : FrameSender)
    (routeKind : RelayRouteKind) (accessToken : Option String) (uuid : String) (now : Instant)
    {control : FrameSender → TrySend}
    (h : ∀ daemonControl, room.daemonControl = some daemonControl →
      room.pendingClientCount < PENDING_CLIENTS_PER_ROOM_LIMIT →
      control daemonControl.sender ≠ .closed) :
    (room.registerClient id sender routeKind accessToken uuid now control).1 = room ∨
      (room.daemonControl ≠ none ∧
        (room.registerClient id sender routeKind accessToken uuid now control).1.daemonControl =
          room.daemonControl) := by
  unfold RelayRoom.registerClient
  split_ifs with hlimit
  · exact Or.inl rfl
  cases hc : room.daemonControl with
  | none => exact Or.inl rfl
  | some daemonControl =>
    refine Or.inr ⟨nofun, ?_⟩
    dsimp only
    split_ifs with hover
    · exact (closeClientTransport_daemonControl _ id now).trans hc
    · cases ho : control daemonControl.sender with
      | ok => exact hc
      | full => exact (closeClientTransport_daemonControl _ id now).trans hc
      | closed => exact absurd ho (h daemonControl hc (not_le.mp hlimit))

/-- The registration of a client over a closed control queue leaves an empty room. -/
theorem registerClient_of_closed (room : RelayRoom) (id : ConnectionId) (sender : FrameSender)
    (routeKind : RelayRouteKind) (accessToken : Option String) (uuid : String) (now : Instant)
    {control : FrameSender → TrySend} {daemonControl : ConnectionEndpoint}
    (hpending : room.pendingClientCount < PENDING_CLIENTS_PER_ROOM_LIMIT)
    (hc : room.daemonControl = some daemonControl) (ho : control daemonControl.sender = .closed)
    (hid : room.clients.lookup id = none) :
    (room.registerClient id sender routeKind accessToken uuid now control).1.isEmpty = true := by
  have hentered : ¬ (room.insertClient id sender (RelayRoom.clientDataToken uuid id)
      now).pendingClientCount > PENDING_CLIENTS_PER_ROOM_LIMIT := by
    rw [RelayRoom.pendingClientCount_insertClient hid]
    omega
  simp only [RelayRoom.registerClient, if_neg (not_le.mpr hpending), hc, if_neg hentered, ho]
  exact RelayRoom.isEmpty_eq_true.mpr ⟨rfl, rfl, rfl⟩

namespace RelaySystem

/-- No room is empty, and the room count is the number of daemons with a live connection. -/
def RoomsLive (s : RelaySystem) : Prop :=
  NoEmptyRoom s.rooms ∧
    ∀ live : Finset ServerId,
      (∀ serverId, serverId ∈ live ↔ ∃ id, (roomAt s.rooms serverId).Holds id) →
      RelayRegistry.roomCount s.rooms = live.card

/-- The operation registers a client whose control line is there, with room for the client, and
whose control queue turns out to be closed. -/
def ControlQueueClosed (s : RelaySystem) : RelayOp → Prop
  | .register _ prelude _ _ _ _ _ control =>
    prelude.connectionRole = .client ∧
      ∃ room daemonControl, s.rooms.lookup prelude.serverId = some room ∧
        room.pendingClientCount < PENDING_CLIENTS_PER_ROOM_LIMIT ∧
        room.daemonControl = some daemonControl ∧ control daemonControl.sender = .closed
  | _ => False

/-- Without empty rooms, the rooms are the daemons with a live connection. -/
theorem roomsLive_of_noEmptyRoom {s : RelaySystem} (h : NoEmptyRoom s.rooms) : s.RoomsLive := by
  refine ⟨h, fun live hlive => congrArg Finset.card ?_⟩
  ext serverId
  rw [hlive, Finmap.mem_keys]
  constructor
  · intro hmem
    obtain ⟨room, hroom⟩ := Finmap.mem_iff.mp hmem
    have hroom' := h serverId room hroom
    rw [roomAt_of_lookup hroom]
    by_contra hnone
    rw [RelayRoom.isEmpty_iff_not_holds.mpr (not_exists.mp hnone)] at hroom'
    cases hroom'
  · rintro ⟨id, hid⟩
    by_contra hmem
    rw [roomAt, Finmap.lookup_eq_none.mpr hmem] at hid
    exact RelayRoom.not_holds_empty id hid

/-- A registration leaves no empty room, unless it finds a control queue closed. -/
theorem noEmptyRoom_registerTransport {s : RelaySystem} (hs : NoEmptyRoom s.rooms)
    (id : ConnectionId) (prelude : RoutePrelude) (sender : FrameSender)
    (routeKind : RelayRouteKind) (accessToken : Option String) (uuid : String) (now : Instant)
    (control : FrameSender → TrySend)
    (h : ¬ s.ControlQueueClosed
      (.register id prelude sender routeKind accessToken uuid now control)) :
    NoEmptyRoom (RelayRegistry.registerTransport s.rooms id prelude sender routeKind accessToken
      uuid now control).1 := by
  unfold RelayRegistry.registerTransport
  split_ifs with hgeneration
  · exact hs
  cases hrole : prelude.connectionRole with
  | daemonControl =>
    refine hs.insert (RelayRoom.isEmpty_of_control ?_)
    unfold RelayRoom.registerDaemonControl
    split <;> nofun
  | daemonData =>
    cases hroom : s.rooms.lookup prelude.serverId with
    | none => exact hs
    | some room =>
      dsimp only
      cases hpair : room.registerDaemonData id prelude sender now with
      | error error => exact hs
      | ok pair =>
        obtain ⟨c, token, client, -, -, -, -, -, -, hpaired, -⟩ := registerDaemonData_eq_ok hpair
        have hin : pair.1.Holds id := by
          rw [hpaired]
          exact Or.inr (Or.inl (Finmap.mem_insert.mpr (Or.inl rfl)))
        exact hs.insert (RelayRoom.isEmpty_of_holds hin)
  | client =>
    cases hroom : s.rooms.lookup prelude.serverId with
    | none => exact hs
    | some room =>
      have hopen : ∀ daemonControl, room.daemonControl = some daemonControl →
          room.pendingClientCount < PENDING_CLIENTS_PER_ROOM_LIMIT →
          control daemonControl.sender ≠ .closed := fun daemonControl hc hpending ho =>
        h ⟨hrole, room, daemonControl, hroom, hpending, hc, ho⟩
      have hroom' : (room.registerClient id sender routeKind accessToken uuid now
          control).1.isEmpty = false := by
        rcases registerClient_daemonControl room id sender routeKind accessToken uuid now hopen
          with he | ⟨hc, he⟩
        · rw [he]; exact hs _ room hroom
        · exact RelayRoom.isEmpty_of_control (he ▸ hc)
      dsimp only
      split
      · exact hs.insert hroom'
      · exact hs.insert hroom'

/-- **One critical section leaves no empty room**, unless it registers a client over a closed
control queue. -/
theorem noEmptyRoom_step {s s' : RelaySystem} {op : RelayOp} (hs : NoEmptyRoom s.rooms)
    (hop : ¬ s.ControlQueueClosed op) (h : s.step op = some s') : NoEmptyRoom s'.rooms := by
  cases op with
  | draw =>
    obtain rfl := Option.some.inj h
    exact hs
  | register id prelude sender routeKind accessToken uuid now control =>
    simp only [step] at h
    split_ifs at h with hid
    obtain rfl := Option.some.inj h
    exact noEmptyRoom_registerTransport hs id prelude sender routeKind accessToken uuid now
      control hop
  | unregister registration now control =>
    obtain rfl := Option.some.inj h
    exact hs.updateRoom _ _
  | closePendingClientIfUnpaired registration now control =>
    obtain rfl := Option.some.inj h
    show NoEmptyRoom (RelayRegistry.closePendingClientIfUnpaired _ _ _ _).1
    unfold RelayRegistry.closePendingClientIfUnpaired
    split_ifs
    · exact hs
    split
    · exact hs
    · split_ifs
      · exact hs
      · exact hs.removeRoomIfEmpty _ _
  | closeServer serverId =>
    obtain rfl := Option.some.inj h
    show NoEmptyRoom (RelayRegistry.closeServer _ _).1
    unfold RelayRegistry.closeServer
    split
    · exact hs
    · exact hs.erase serverId
  | closeClientAfterDaemonDataSendFailure registration daemonDataId now =>
    obtain rfl := Option.some.inj h
    exact hs.updateRoom _ _
  | closeClientAfterSendFailure registration clientId now control =>
    obtain rfl := Option.some.inj h
    exact hs.updateRoom _ _
  | bufferUnpairedClientFrame registration frame now control =>
    obtain rfl := Option.some.inj h
    show NoEmptyRoom (RelayRegistry.bufferUnpairedClientFrame _ _ _ _ _).1
    unfold RelayRegistry.bufferUnpairedClientFrame
    split
    · exact hs
    · split
      · rename_i hbuffered
        obtain ⟨client, -, buffer, -, rfl⟩ := RelayRoom.bufferClientFrame_eq_some hbuffered
        exact hs.insert (RelayRoom.isEmpty_of_holds
          (Or.inr (Or.inr (Finmap.mem_insert.mpr (Or.inl rfl)))))
      · exact hs.removeRoomIfEmpty _ _
  | takePrePairClientFrames registration clientId =>
    simp only [step] at h
    cases htake : RelayRegistry.takePrePairClientFrames s.rooms registration clientId with
    | none =>
      rw [htake] at h
      exact Option.some.inj h ▸ hs
    | some result =>
      rw [htake] at h
      obtain rfl := Option.some.inj h
      obtain ⟨room, data, client, hroom, hdata, -, -, -, -, -, he⟩ :=
        RelayRegistry.takePrePairClientFrames_eq_some htake
      show NoEmptyRoom result.1
      rw [he]
      exact hs.insert (RelayRoom.isEmpty_of_holds
        (Or.inr (Or.inl (Finmap.mem_of_lookup_eq_some hdata))))

/-- A registration over a closed control queue leaves an empty room behind. -/
theorem not_noEmptyRoom_of_closed {s s' : RelaySystem} {op : RelayOp} (hs : s.Linked)
    (hop : s.ControlQueueClosed op) (h : s.step op = some s') : ¬ NoEmptyRoom s'.rooms := by
  intro hlive
  cases op with
  | register id prelude sender routeKind accessToken uuid now control =>
    obtain ⟨hrole, room, daemonControl, hroom, hpending, hc, ho⟩ := hop
    simp only [step] at h
    split_ifs at h with hid
    obtain rfl := Option.some.inj h
    have hunheld : room.clients.lookup id = none := by
      refine Finmap.lookup_eq_none.mpr fun hmem => ?_
      refine (hs.held prelude.serverId id ?_).2 hid
      exact (roomAt_of_lookup hroom).symm ▸ Or.inr (Or.inr hmem)
    have hempty := registerClient_of_closed room id sender routeKind accessToken uuid now hpending
      hc ho hunheld
    have hafter : (RelayRegistry.registerTransport s.rooms id prelude sender routeKind accessToken
        uuid now control).1.lookup prelude.serverId =
          some (room.registerClient id sender routeKind accessToken uuid now control).1 := by
      simp only [RelayRegistry.registerTransport, hrole, ne_eq, not_true_eq_false, false_and,
        if_false, hroom]
      split <;> exact Finmap.lookup_insert _
    rw [hlive _ _ hafter] at hempty
    cases hempty
  | _ => exact hop.elim

/-- **Rooms stay live along a run exactly when no step of it registers a client over a closed
control queue.** -/
theorem roomsLive_along_iff {ops : List RelayOp} {s : RelaySystem}
    (h : exec step {} ops = some s) :
    (∀ ks rest t, ops = ks ++ rest → exec step {} ks = some t → t.RoomsLive) ↔
      Along step (fun t op => ¬ t.ControlQueueClosed op) {} ops := by
  refine forall_reached_iff_along (I := fun t => t.Linked ∧ NoEmptyRoom t.rooms)
    (fun t ht => roomsLive_of_noEmptyRoom ht.2) ?_ ?_ ⟨linked_init, fun _ _ h => nomatch h⟩ h
  · exact fun t op t' ht hop hstep => ⟨linked_step ht.1 hstep, noEmptyRoom_step ht.2 hop hstep⟩
  · intro t op t' ht hop hstep hlive
    exact not_noEmptyRoom_of_closed ht.1 (not_not.mp hop) hstep hlive.1

theorem dialledBack_roomsLive :
    exec step {} dialBack = some dialledBack ∧ dialledBack.RoomsLive := by
  have hrun : exec step {} dialBack = some dialledBack := rfl
  have hopen : ∀ op ∈ dialBack, ∀ t : RelaySystem, ¬ t.ControlQueueClosed op := by
    intro op hop t
    simp only [dialBack, List.mem_cons, List.not_mem_nil, or_false] at hop
    rcases hop with rfl | rfl | rfl | rfl | rfl | rfl
    all_goals simp [ControlQueueClosed]
  exact ⟨hrun, (roomsLive_along_iff hrun).mpr (along_of_forall_mem hopen) dialBack []
    dialledBack (by simp) hrun⟩

/-- A daemon comes online, and a client enters when the control queue is closed. -/
def closedControl : List RelayOp :=
  let prelude (role : RouteRole) (connectionRole : ConnectionRole) : RoutePrelude :=
    { serverId := ⟨7⟩, routeRole := role, connectionRole := connectionRole, admission := none,
      routeGeneration := some ⟨"generation"⟩, clientId := none, dataToken := none }
  [.draw, .register 1 (prelude .daemonControl .daemonControl) ⟨1⟩ .terminal none "uuid" 0
      fun _ => .ok,
    .draw, .register 2 (prelude .client .client) ⟨2⟩ .terminal none "uuid" 0 fun _ => .closed]

/-- The registration is refused, and the room it emptied is still counted. -/
theorem closedControl_leaves_empty_room :
    ∃ s, exec step {} closedControl = some s ∧
      (s.rooms.lookup ⟨7⟩).map RelayRoom.isEmpty = some true ∧
      RelayRegistry.roomCount s.rooms = 1 ∧ ¬ s.RoomsLive := by
  refine ⟨(exec step {} closedControl).getD {}, rfl, by decide +kernel, by decide +kernel, ?_⟩
  intro hlive
  have hempty : (((exec step {} closedControl).getD {}).rooms.lookup ⟨7⟩).map
      RelayRoom.isEmpty = some true := by decide +kernel
  obtain ⟨room, hroom, he⟩ := Option.map_eq_some_iff.mp hempty
  rw [hlive.1 _ room hroom] at he
  cases he

end RelaySystem

end Termd.Relay
