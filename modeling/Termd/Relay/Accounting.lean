import Termd.Relay.Pairing

/-!
# Byte accounting of the pre-pair buffers

A room keeps the total of its clients' buffered bytes incrementally. The total is exact in every
reachable state, every limit holds, and no subtraction ever takes more than the counter holds,
so the saturating arithmetic of the source never hides an error.

## Main definitions

* `RelayRoom.Accounted`: the counters of a room are exact and within their limits
* `RelayEffect.Exact`: a subtraction from a byte counter does not saturate

## Main results

* `accounted_roomStep`, `exact_roomStep`: room steps keep the counters exact
* `RelaySystem.accounting_of_reachable`: the accounting of every reachable state
-/

namespace Termd.Relay

/-- The bytes a client has buffered. -/
abbrev prePairBytes (client : ConnectionEndpoint) : ℕ := client.prePairBuffer.bytes

/-- A client that waits for its data pipe counts as one. -/
abbrev pendingWeight (client : ConnectionEndpoint) : ℕ :=
  if client.pairedDaemonDataId.isNone then 1 else 0

/-- A subtraction from a byte counter does not saturate. -/
def RelayEffect.Exact : RelayEffect → Prop
  | .releaseBytes held released => released ≤ held
  | _ => True

namespace RelayRoom

/-- **The accounting of a room.** -/
structure Accounted (room : RelayRoom) : Prop where
  buffer : ∀ c client, room.clients.lookup c = some client → client.prePairBuffer.Accounted
  bytes_eq : room.prePairClientBytes = FiniteMap.total prePairBytes room.clients
  bytes_le : room.prePairClientBytes ≤ PRE_PAIR_ROOM_BUFFER_MAX_BYTES
  pending_le : room.pendingClientCount ≤ PENDING_CLIENTS_PER_ROOM_LIMIT

theorem accounted_of_clients_empty {room : RelayRoom} (hclients : room.clients = ∅)
    (hbytes : room.prePairClientBytes = 0) : room.Accounted where
  buffer := by simp [hclients]
  bytes_eq := by simp [hclients, hbytes]
  bytes_le := by simp [hbytes]
  pending_le := by simp [pendingClientCount, hclients]

/-- The accounting reads the clients and their byte counter only. -/
theorem Accounted.congr {room room' : RelayRoom} (hroom : room.Accounted)
    (hclients : room'.clients = room.clients)
    (hbytes : room'.prePairClientBytes = room.prePairClientBytes) : room'.Accounted where
  buffer := by rw [hclients]; exact hroom.buffer
  bytes_eq := by rw [hclients, hbytes]; exact hroom.bytes_eq
  bytes_le := by rw [hbytes]; exact hroom.bytes_le
  pending_le := by unfold pendingClientCount; rw [hclients]; exact hroom.pending_le

/-- What a client has buffered is part of the total of its room. -/
theorem Accounted.bytes_le_room {room : RelayRoom} (hroom : room.Accounted) {c : ConnectionId}
    {client : ConnectionEndpoint} (hc : room.clients.lookup c = some client) :
    client.prePairBuffer.bytes ≤ room.prePairClientBytes := by
  rw [hroom.bytes_eq]
  exact FiniteMap.le_total prePairBytes hc

/-- A client leaves with its bytes. -/
theorem Accounted.closeClientTransport {room : RelayRoom} (hroom : room.Accounted)
    (c : ConnectionId) (now : Instant) : (room.closeClientTransport c now).1.Accounted := by
  cases hc : room.clients.lookup c with
  | none => rw [closeClientTransport_of_lookup_none hc]; exact hroom
  | some client =>
    rw [closeClientTransport_fst hc]
    refine ⟨fun c' client' h => ?_, ?_, ?_, ?_⟩
    · exact hroom.buffer c' client' (FiniteMap.lookup_erase_eq_some.mp h).2
    · show room.prePairClientBytes - client.prePairBuffer.bytes = _
      rw [hroom.bytes_eq, FiniteMap.total_erase prePairBytes hc]
    · exact (Nat.sub_le _ _).trans hroom.bytes_le
    · exact (FiniteMap.total_erase_le pendingWeight room.clients c).trans hroom.pending_le

/-- The subtraction made for a client that leaves is exact. -/
theorem Accounted.exact_closeClientTransport {room : RelayRoom} (hroom : room.Accounted)
    (c : ConnectionId) (now : Instant) :
    ∀ x ∈ (room.closeClientTransport c now).2.2, x.Exact := by
  intro x hx
  cases hc : room.clients.lookup c with
  | none => simp [closeClientTransport_of_lookup_none hc] at hx
  | some client =>
    have hle := hroom.bytes_le_room hc
    simp only [RelayRoom.closeClientTransport, hc, releaseClientPrePairBytes] at hx
    split at hx
    · simp only [Multiset.mem_add, Multiset.mem_singleton] at hx
      rcases hx with (rfl | rfl) | rfl
      · exact hle
      · exact trivial
      · exact trivial
    · simp only [Multiset.mem_add, Multiset.mem_singleton] at hx
      rcases hx with ((rfl | rfl) | rfl) | rfl
      · exact hle
      · exact trivial
      · exact trivial
      · exact trivial

theorem exact_closeClients (room : RelayRoom) : ∀ x ∈ room.closeClients.2, x.Exact := by
  intro x hx
  simp only [closeClients, Multiset.mem_add, Multiset.mem_map] at hx
  rcases hx with (⟨_, -, rfl⟩ | ⟨_, -, rfl⟩) | ⟨_, -, rfl⟩ <;> exact trivial

theorem exact_clearDaemonControl (room : RelayRoom) :
    ∀ x ∈ room.clearDaemonControlAndDependents.2, x.Exact := by
  intro x hx
  rcases Multiset.mem_add.mp hx with hx | hx
  · cases hc : room.daemonControl with
    | none => simp [hc] at hx
    | some control =>
      simp only [hc, Option.elim_some, Multiset.mem_singleton] at hx
      exact hx ▸ trivial
  · exact exact_closeClients _ x hx

/-- Replacing a client by one of the same pairing moves its bytes only. -/
theorem Accounted.insertSame {room : RelayRoom} (hroom : room.Accounted) {c : ConnectionId}
    {client : ConnectionEndpoint} (hc : room.clients.lookup c = some client)
    (new : ConnectionEndpoint) (hbuffer : new.prePairBuffer.Accounted)
    (hpending : pendingWeight new ≤ pendingWeight client) {bytes : ℕ}
    (hbytes : bytes + client.prePairBuffer.bytes =
      room.prePairClientBytes + new.prePairBuffer.bytes)
    (hle : bytes ≤ PRE_PAIR_ROOM_BUFFER_MAX_BYTES) {room' : RelayRoom}
    (hclients' : room'.clients = room.clients.insert c new)
    (hbytes' : room'.prePairClientBytes = bytes) : room'.Accounted := by
  refine ⟨fun c' client' h => ?_, ?_, hbytes' ▸ hle, ?_⟩
  · rw [hclients'] at h
    rcases FiniteMap.lookup_insert_eq_some.mp h with ⟨-, rfl⟩ | ⟨-, h⟩
    · exact hbuffer
    · exact hroom.buffer c' client' h
  · have hsplit := FiniteMap.total_eq_add_erase prePairBytes hc
    rw [hbytes', hclients', FiniteMap.total_insert]
    rw [hroom.bytes_eq, hsplit] at hbytes
    simp only [prePairBytes] at hbytes ⊢
    omega
  · calc room'.pendingClientCount
        = pendingWeight new + FiniteMap.total pendingWeight (room.clients.erase c) := by
          unfold pendingClientCount FiniteMap.count
          rw [hclients', FiniteMap.total_insert]
      _ ≤ pendingWeight client + FiniteMap.total pendingWeight (room.clients.erase c) :=
          Nat.add_le_add_right hpending _
      _ = room.pendingClientCount := (FiniteMap.total_eq_add_erase pendingWeight hc).symm
      _ ≤ PENDING_CLIENTS_PER_ROOM_LIMIT := hroom.pending_le

/-- A new client brings an empty buffer, and enters only below the limit. -/
theorem Accounted.insertClient {room : RelayRoom} (hroom : room.Accounted) {id : ConnectionId}
    (hid : room.clients.lookup id = none)
    (hp : room.pendingClientCount < PENDING_CLIENTS_PER_ROOM_LIMIT) (sender : FrameSender)
    (token : Nonce) (now : Instant) : (room.insertClient id sender token now).Accounted := by
  refine ⟨fun c client h => ?_, ?_, hroom.bytes_le, ?_⟩
  · rcases FiniteMap.lookup_insert_eq_some.mp h with ⟨-, rfl⟩ | ⟨-, h⟩
    · exact PrePairBuffer.accounted_empty
    · exact hroom.buffer c client h
  · show room.prePairClientBytes = FiniteMap.total prePairBytes (room.clients.insert id _)
    rw [FiniteMap.total_insert_of_lookup_none _ hid, hroom.bytes_eq]
    exact (Nat.zero_add _).symm
  · rw [pendingClientCount_insertClient hid]
    omega

end RelayRoom

/-! ## Room steps -/

/-- **Every room step keeps the counters exact.** -/
theorem accounted_roomStep {a b : FreshRoom} {e : Multiset RelayEffect} (h : RoomStep a e b)
    (ha : FreshLinked a) (hroom : a.2.Accounted) : b.2.Accounted := by
  cases h with
  | takeOver room id sender generation now hg =>
    unfold RelayRoom.registerDaemonControl
    cases hc : room.daemonControl with
    | none => exact hroom.congr rfl rfl
    | some stale => exact RelayRoom.accounted_of_clients_empty rfl rfl
  | enter room id sender token now hp hc =>
    refine hroom.insertClient ?_ hp sender token now
    by_contra h
    obtain ⟨client, hclient⟩ := Option.ne_none_iff_exists'.mp h
    exact ha.unheld id rfl (Or.inr (Or.inr (Finmap.mem_of_lookup_eq_some hclient)))
  | clear fresh room => exact RelayRoom.accounted_of_clients_empty rfl rfl
  | closeClient fresh room c now => exact hroom.closeClientTransport c now
  | leaveData fresh room registration now =>
    dsimp only
    rcases RelayRoom.unregisterDaemonData_fst ha.linked registration now with
      he | ⟨c, _, _, _, he⟩
    · rw [he]; exact hroom
    · rw [he]; exact hroom.closeClientTransport c now
  | buffer fresh h =>
    obtain ⟨client, hc, buffer, ⟨hpush, hle⟩, rfl⟩ := RelayRoom.bufferClientFrame_eq_some h
    have hbytes := (PrePairBuffer.push_eq_some hpush).2.1
    refine hroom.insertSame hc { client with prePairBuffer := buffer }
      ((hroom.buffer _ client hc).push hpush) le_rfl ?_ hle rfl rfl
    dsimp only
    omega
  | drain fresh h =>
    obtain ⟨client, hc, rfl, -, -⟩ := RelayRoom.drainPrePairClientFrames_eq_some h
    have hle := hroom.bytes_le_room hc
    refine hroom.insertSame hc { client with prePairBuffer := {} }
      PrePairBuffer.accounted_empty le_rfl ?_ ((Nat.sub_le _ _).trans hroom.bytes_le) rfl rfl
    dsimp only at hle ⊢
    omega
  | @endFlush fresh room c client hc =>
    exact hroom.insertSame hc { client with prePairFlushInProgress := false }
      (hroom.buffer c client hc) le_rfl rfl hroom.bytes_le rfl rfl
  | send => exact hroom
  | forget => exact RelayRoom.accounted_of_clients_empty rfl rfl

/-- **No room step takes more from a counter than it holds.** -/
theorem exact_roomStep {a b : FreshRoom} {e : Multiset RelayEffect} (h : RoomStep a e b)
    (hroom : a.2.Accounted) : ∀ x ∈ e, x.Exact := by
  intro x hx
  cases h with
  | takeOver room id sender generation now hg =>
    unfold RelayRoom.registerDaemonControl at hx
    cases hc : room.daemonControl with
    | none => simp [hc] at hx
    | some stale =>
      simp only [hc] at hx
      rcases Multiset.mem_add.mp hx with hx | hx
      · exact Multiset.mem_singleton.mp hx ▸ trivial
      · exact RelayRoom.exact_closeClients _ x hx
  | enter => simp at hx
  | clear fresh room => exact room.exact_clearDaemonControl x hx
  | closeClient fresh room c now => exact hroom.exact_closeClientTransport c now x hx
  | leaveData fresh room registration now =>
    unfold RelayRoom.unregisterDaemonData at hx
    cases hd : room.daemonData.lookup registration.id with
    | none => simp [hd] at hx
    | some data =>
      have hclosed : ∀ x ∈ ({.requestClose data.sender} : Multiset RelayEffect), x.Exact :=
        fun x hx => Multiset.mem_singleton.mp hx ▸ trivial
      -- the client is closed in the room without the pipe, whose counters are the same
      have hremoved : ({ room with
          daemonData := room.daemonData.erase registration.id } : RelayRoom).Accounted :=
        hroom.congr rfl rfl
      simp only [hd] at hx
      split at hx
      · exact hclosed x hx
      · split_ifs at hx
        · rcases Multiset.mem_add.mp hx with hx | hx
          · exact hclosed x hx
          · exact hremoved.exact_closeClientTransport _ now x hx
        · exact hclosed x hx
  | buffer => simp at hx
  | drain fresh h =>
    obtain ⟨client, hc, -, -, rfl⟩ := RelayRoom.drainPrePairClientFrames_eq_some h
    exact Multiset.mem_singleton.mp hx ▸ hroom.bytes_le_room hc
  | endFlush => simp at hx
  | send => exact Multiset.mem_singleton.mp hx ▸ trivial
  | forget => simp at hx

/-- A pairing moves no bytes, and makes one client less wait. -/
theorem accounted_registerDaemonData {room room' : RelayRoom} {id : ConnectionId}
    {prelude : RoutePrelude} {sender : FrameSender} {now : Instant}
    {effects : Multiset RelayEffect} (hroom : room.Accounted)
    (h : room.registerDaemonData id prelude sender now = .ok (room', effects)) :
    room'.Accounted ∧ ∀ x ∈ effects, x.Exact := by
  obtain ⟨c, token, client, -, -, hc, -, -, -, rfl, rfl⟩ := registerDaemonData_eq_ok h
  refine ⟨?_, fun x hx => Multiset.mem_singleton.mp hx ▸ trivial⟩
  exact hroom.insertSame hc
    { client with
      pairedDaemonDataId := some id
      pairedAt := some now
      prePairFlushInProgress := !client.prePairBuffer.isEmpty }
    (hroom.buffer c client hc) (Nat.zero_le _) rfl hroom.bytes_le rfl rfl

/-! ## Every reachable state -/

theorem accounted_roomSteps {a b : FreshRoom} {e : Multiset RelayEffect} (h : RoomSteps a e b)
    (ha : FreshLinked a) (hroom : a.2.Accounted) : b.2.Accounted ∧ ∀ x ∈ e, x.Exact := by
  have hstep : ∀ a e b, RoomStep a e b → FreshLinked a ∧ a.2.Accounted →
      FreshLinked b ∧ b.2.Accounted := fun _ _ _ hs ha =>
    ⟨linked_roomStep hs ha.1, accounted_roomStep hs ha.1 ha.2⟩
  exact ⟨(h.invariant hstep ⟨ha, hroom⟩).2,
    h.effects hstep (fun _ _ _ hs ha => exact_roomStep hs ha.2) ⟨ha, hroom⟩⟩

namespace RelaySystem

/-- **The accounting invariant of the registry.** -/
structure Accounted (s : RelaySystem) : Prop where
  linked : s.Linked
  room : ∀ serverId, (roomAt s.rooms serverId).Accounted
  effect : ∀ x ∈ s.effects, x.Exact

theorem accounted_init : Accounted {} where
  linked := linked_init
  room := fun _ => RelayRoom.accounted_of_clients_empty rfl rfl
  effect := by simp

/-- A critical section keeps the accounting if it keeps that of the one room it changes. -/
theorem Accounted.change {s s' : RelaySystem} (hs : s.Accounted) (hlinked : s'.Linked)
    (serverId : ServerId) {effects : Multiset RelayEffect}
    (hroom : (roomAt s'.rooms serverId).Accounted)
    (hothers : ∀ serverId' ≠ serverId, roomAt s'.rooms serverId' = roomAt s.rooms serverId')
    (heffects : s'.effects = s.effects + effects) (hexact : ∀ x ∈ effects, x.Exact) :
    s'.Accounted := by
  refine ⟨hlinked, fun serverId' => ?_, fun x hx => ?_⟩
  · by_cases hne : serverId' = serverId
    · exact hne ▸ hroom
    · exact (hothers serverId' hne).symm ▸ hs.room serverId'
  · rw [heffects] at hx
    rcases Multiset.mem_add.mp hx with hx | hx
    · exact hs.effect x hx
    · exact hexact x hx

theorem accounted_step {s s' : RelaySystem} {op : RelayOp} (hs : s.Accounted)
    (h : s.step op = some s') : s'.Accounted := by
  have hlinked' := linked_step hs.linked h
  rcases step_cases h with ⟨hrooms, heffects, -⟩ |
    ⟨-, -, effects, heffects, ⟨⟨serverId, hsteps, hothers⟩, -⟩ |
      ⟨id, hid, -, ⟨fresh', ⟨serverId, hsteps, hothers⟩, -⟩ |
        ⟨prelude, registration, ⟨room, room', sender, now, hroom, hpair, hrooms⟩, -⟩⟩⟩
  · exact ⟨hlinked', hrooms ▸ hs.room, heffects ▸ hs.effect⟩
  · obtain ⟨hroom, hexact⟩ := accounted_roomSteps hsteps
      ⟨hs.linked.room serverId, nofun⟩ (hs.room serverId)
    exact hs.change hlinked' serverId hroom hothers heffects hexact
  · have hunheld : ∀ id', some id = some id' → ¬ (roomAt s.rooms serverId).Holds id' :=
      fun id' hid' hh => (hs.linked.held serverId id' hh).2 (Option.some.inj hid' ▸ hid)
    obtain ⟨hroom, hexact⟩ := accounted_roomSteps hsteps
      ⟨hs.linked.room serverId, hunheld⟩ (hs.room serverId)
    exact hs.change hlinked' serverId hroom hothers heffects hexact
  · have hat := roomAt_of_lookup hroom
    obtain ⟨hroom', hexact⟩ := accounted_registerDaemonData
      (hat ▸ hs.room prelude.serverId) hpair
    refine hs.change hlinked' prelude.serverId ?_ (fun serverId' hne => ?_)
      heffects hexact
    · rw [hrooms, roomAt_insert_self]
      exact hroom'
    · rw [hrooms, roomAt_insert_of_ne _ _ hne]

/-- **Pre-pair byte accounting in every reachable state.** The byte counter of a room is the sum
of its clients' counters, each of these is the total length of the client's queued frames, all
limits hold, and no subtraction made on the way saturated. -/
theorem accounting_of_reachable {s : RelaySystem} (h : s.Reachable) :
    (∀ serverId room, s.rooms.lookup serverId = some room →
      room.prePairClientBytes =
        FiniteMap.total (fun client => client.prePairBuffer.bytes) room.clients ∧
      (∀ c client, room.clients.lookup c = some client →
        client.prePairBuffer.bytes = (client.prePairBuffer.frames.map OpaqueFrame.len).sum ∧
        client.prePairBuffer.frames.length ≤ PRE_PAIR_CLIENT_BUFFER_MAX_FRAMES ∧
        client.prePairBuffer.bytes ≤ PRE_PAIR_CLIENT_BUFFER_MAX_BYTES) ∧
      room.prePairClientBytes ≤ PRE_PAIR_ROOM_BUFFER_MAX_BYTES ∧
      room.pendingClientCount ≤ PENDING_CLIENTS_PER_ROOM_LIMIT) ∧
    ∀ held released, RelayEffect.releaseBytes held released ∈ s.effects → released ≤ held := by
  obtain ⟨ops, hops⟩ := h
  have hs : s.Accounted :=
    exec_induction (fun _ _ _ hs hstep => accounted_step hs hstep) accounted_init hops
  refine ⟨fun serverId room hroom => ?_, fun held released hmem => hs.effect _ hmem⟩
  have hr : room.Accounted := roomAt_of_lookup hroom ▸ hs.room serverId
  refine ⟨hr.bytes_eq, fun c client hc => ?_, hr.bytes_le, hr.pending_le⟩
  have hbuffer := hr.buffer c client hc
  exact ⟨hbuffer.bytes_eq, hbuffer.frames_le, hbuffer.bytes_le⟩

/-- A daemon comes online, a client enters and sends a frame of three bytes, and leaves. -/
def abandonedClient : List RelayOp :=
  let prelude (role : RouteRole) (connectionRole : ConnectionRole) : RoutePrelude :=
    { serverId := ⟨7⟩, routeRole := role, connectionRole := connectionRole, admission := none,
      routeGeneration := some ⟨"generation"⟩, clientId := none, dataToken := none }
  let register (id : ConnectionId) (prelude : RoutePrelude) : RelayOp :=
    .register id prelude ⟨id⟩ .terminal none "uuid" 0 fun _ => .ok
  [.draw, register 1 (prelude .daemonControl .daemonControl),
    .draw, register 2 (prelude .client .client),
    .bufferUnpairedClientFrame ⟨⟨7⟩, .client, 2, none, none⟩ (.binary [1, 2, 3]) 0 fun _ => .ok,
    .unregister ⟨⟨7⟩, .client, 2, none, none⟩ 0 fun _ => .ok]

/-- Three bytes are counted for the room and for its client, and released when the client leaves. -/
theorem abandonedClient_releases :
    ∃ s s' room room', exec step {} abandonedClient.dropLast = some s ∧
      exec step {} abandonedClient = some s' ∧
      s.rooms.lookup ⟨7⟩ = some room ∧ room.prePairClientBytes = 3 ∧
      FiniteMap.total (fun client => client.prePairBuffer.bytes) room.clients = 3 ∧
      s'.rooms.lookup ⟨7⟩ = some room' ∧ room'.prePairClientBytes = 0 ∧
      RelayEffect.releaseBytes 3 3 ∈ s'.effects ∧
      ∀ held released, RelayEffect.releaseBytes held released ∈ s'.effects → released ≤ held := by
  have hwaits : ((exec step {} abandonedClient.dropLast).bind fun s =>
      (s.rooms.lookup ⟨7⟩).map RelayRoom.prePairClientBytes) = some 3 := by decide +kernel
  have hleft : ((exec step {} abandonedClient).bind fun s =>
      (s.rooms.lookup ⟨7⟩).map fun room =>
        (room.prePairClientBytes, decide (RelayEffect.releaseBytes 3 3 ∈ s.effects))) =
          some (0, true) := by decide +kernel
  obtain ⟨s, hs, hwaits⟩ := Option.bind_eq_some_iff.mp hwaits
  obtain ⟨room, hroom, hthree⟩ := Option.map_eq_some_iff.mp hwaits
  obtain ⟨s', hs', hleft⟩ := Option.bind_eq_some_iff.mp hleft
  obtain ⟨room', hroom', hzero⟩ := Option.map_eq_some_iff.mp hleft
  obtain ⟨hzero, hreleased⟩ := Prod.mk.inj hzero
  have hcounted := ((accounting_of_reachable ⟨_, hs⟩).1 ⟨7⟩ room hroom).1
  exact ⟨s, s', room, room', hs, hs', hroom, hthree, hcounted.symm.trans hthree, hroom', hzero,
    of_decide_eq_true hreleased, (accounting_of_reachable ⟨_, hs'⟩).2⟩

end RelaySystem

end Termd.Relay
