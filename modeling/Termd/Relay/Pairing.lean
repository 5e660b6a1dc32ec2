import Termd.Relay.RoomStep

/-!
# Pairing of clients and data pipes

In a room, pairing is a bijection between the paired clients and the data pipes, and a room
without a control line is empty. Connection ids are drawn once and used once: an id is held by
at most one connection, in one role of one room. A frame from a data pipe therefore reaches only
the client whose token the pipe presented when it registered, under the generation of the
control line that is still in place.

## Main definitions

* `RelayRoom.Holds room id`: a connection of the room has the id
* `RelayRoom.Linked`: the links between the clients and the data pipes of a room
* `RelaySystem.Linked`: every room is linked, ids are unique, and every data pipe presented the
  token of its client

## Main results

* `linked_roomStep`, `linked_registerDaemonData`: the links survive every room step and every
  pairing
* `RelaySystem.linked_step`: the invariant survives every critical section
* `RelaySystem.pairing_of_reachable`: what holds of pairing in every reachable state
-/

namespace Termd.Relay

namespace RelayRoom

/-- Some connection of the room has this id. -/
def Holds (room : RelayRoom) (id : ConnectionId) : Prop :=
  (∃ control, room.daemonControl = some control ∧ control.id = id) ∨
    id ∈ room.daemonData ∨ id ∈ room.clients

/-- The id of a connection, in its role. -/
def HoldsAs (room : RelayRoom) : ConnectionRole → ConnectionId → Prop
  | .daemonControl, id => ∃ control, room.daemonControl = some control ∧ control.id = id
  | .daemonData, id => id ∈ room.daemonData
  | .client, id => id ∈ room.clients

/-- **The links of a room**: entries sit at their own id, the three roles have disjoint ids,
pairing is mutual, and without a control line there is nothing. -/
structure Linked (room : RelayRoom) : Prop where
  data_id : ∀ d data, room.daemonData.lookup d = some data → data.id = d
  client_id : ∀ c client, room.clients.lookup c = some client → client.id = c
  control_apart : ∀ control, room.daemonControl = some control →
    control.id ∉ room.daemonData ∧ control.id ∉ room.clients
  data_apart : ∀ d ∈ room.daemonData, d ∉ room.clients
  data_client : ∀ d data, room.daemonData.lookup d = some data →
    ∃ c client, data.pairedClientId = some c ∧ room.clients.lookup c = some client ∧
      client.pairedDaemonDataId = some d
  client_data : ∀ c client d, room.clients.lookup c = some client →
    client.pairedDaemonDataId = some d →
    ∃ data, room.daemonData.lookup d = some data ∧ data.pairedClientId = some c
  offline : room.daemonControl = none →
    room.clients = ∅ ∧ room.daemonData = ∅ ∧ room.routeGeneration = none
  online : room.daemonControl ≠ none → room.routeGeneration ≠ none

theorem linked_empty : Linked {} where
  data_id := by simp
  client_id := by simp
  control_apart := by simp
  data_apart := fun d hd => absurd hd Finmap.notMem_empty
  data_client := by simp
  client_data := by simp
  offline := by simp
  online := by simp

theorem not_holds_empty (id : ConnectionId) : ¬ Holds {} id := by
  rintro (⟨control, hc, -⟩ | h | h)
  · simp at hc
  · exact Finmap.notMem_empty h
  · exact Finmap.notMem_empty h

theorem HoldsAs.holds {room : RelayRoom} {role : ConnectionRole} {id : ConnectionId}
    (h : room.HoldsAs role id) : room.Holds id := by
  cases role with
  | daemonControl => exact Or.inl h
  | daemonData => exact Or.inr (Or.inl h)
  | client => exact Or.inr (Or.inr h)

/-- A connection of a linked room has one role. -/
theorem Linked.role_eq {room : RelayRoom} (hroom : room.Linked) {role role' : ConnectionRole}
    {id : ConnectionId} (h : room.HoldsAs role id) (h' : room.HoldsAs role' id) :
    role = role' := by
  have hcontrol : ∀ role, room.HoldsAs .daemonControl id → room.HoldsAs role id →
      role = .daemonControl := by
    rintro role ⟨control, hc, rfl⟩ hr
    cases role with
    | daemonControl => rfl
    | daemonData => exact absurd hr (hroom.control_apart control hc).1
    | client => exact absurd hr (hroom.control_apart control hc).2
  cases role with
  | daemonControl => exact (hcontrol role' h h').symm
  | daemonData =>
    cases role' with
    | daemonControl => exact hcontrol _ h' h
    | daemonData => rfl
    | client => exact absurd h' (hroom.data_apart id h)
  | client =>
    cases role' with
    | daemonControl => exact hcontrol _ h' h
    | daemonData => exact absurd h (hroom.data_apart id h')
    | client => rfl

/-! ## The shape of a closed client -/

theorem closeClientTransport_of_lookup_none {room : RelayRoom} {c : ConnectionId} {now : Instant}
    (h : room.clients.lookup c = none) : room.closeClientTransport c now = (room, {}, 0) := by
  simp only [closeClientTransport, h]

/-- A closed client leaves with its data pipe and its buffered bytes; nothing else changes. -/
theorem closeClientTransport_fst {room : RelayRoom} {c : ConnectionId} {now : Instant}
    {client : ConnectionEndpoint} (h : room.clients.lookup c = some client) :
    (room.closeClientTransport c now).1 =
      { room with
        clients := room.clients.erase c
        daemonData := client.pairedDaemonDataId.elim room.daemonData fun d =>
          room.daemonData.erase d
        prePairClientBytes := room.prePairClientBytes - client.prePairBuffer.bytes } := by
  simp only [closeClientTransport, h, releaseClientPrePairBytes]
  cases hp : client.pairedDaemonDataId with
  | none => rfl
  | some d =>
    cases hd : room.daemonData.lookup d with
    | none => simp [hd, FiniteMap.erase_of_lookup_none hd]
    | some data => simp [hd]

/-- In a linked room a data pipe leaves exactly as its client does. -/
theorem unregisterDaemonData_fst {room : RelayRoom} (hroom : room.Linked)
    (registration : ConnectionRegistration) (now : Instant) :
    (room.unregisterDaemonData registration now).1 = room ∨
      ∃ c client, room.clients.lookup c = some client ∧
        client.pairedDaemonDataId = some registration.id ∧
        (room.unregisterDaemonData registration now).1 = (room.closeClientTransport c now).1 := by
  cases hd : room.daemonData.lookup registration.id with
  | none => left; simp only [unregisterDaemonData, hd]
  | some data =>
    right
    obtain ⟨c, client, hc, hclient, hpaired⟩ := hroom.data_client _ data hd
    refine ⟨c, client, hclient, hpaired, ?_⟩
    rw [closeClientTransport_fst hclient]
    simp only [unregisterDaemonData, hd, hc, Option.orElse_eq_orElse, Option.orElse_some,
      Option.bind_some, hclient, Option.map_some, if_pos hpaired]
    have hremoved : ({ room with
        daemonData := room.daemonData.erase registration.id } : RelayRoom).clients.lookup c =
          some client := hclient
    refine (closeClientTransport_fst hremoved).trans ?_
    simp [hpaired, FiniteMap.erase_of_lookup_none (Finmap.lookup_erase registration.id _)]

/-! ## The links survive room steps -/

/-- Closing a client cuts exactly its own link. -/
theorem Linked.closeClientTransport {room : RelayRoom} (hroom : room.Linked) (c : ConnectionId)
    (now : Instant) : (room.closeClientTransport c now).1.Linked := by
  cases hc : room.clients.lookup c with
  | none => rw [closeClientTransport_of_lookup_none hc]; exact hroom
  | some client =>
    rw [closeClientTransport_fst hc]
    -- the data pipes that remain are the ones not paired with `c`
    have hkept : ∀ d data,
        (client.pairedDaemonDataId.elim room.daemonData fun d => room.daemonData.erase d).lookup d
          = some data → room.daemonData.lookup d = some data ∧
            client.pairedDaemonDataId ≠ some d := by
      intro d data hd
      cases hp : client.pairedDaemonDataId with
      | none => rw [hp] at hd; exact ⟨hd, by simp⟩
      | some d' =>
        rw [hp] at hd
        obtain ⟨hne, hd⟩ := FiniteMap.lookup_erase_eq_some.mp hd
        exact ⟨hd, fun he => hne (Option.some.inj he).symm⟩
    have hmem : ∀ d, d ∈ (client.pairedDaemonDataId.elim room.daemonData fun d =>
        room.daemonData.erase d) → d ∈ room.daemonData := by
      intro d hd
      obtain ⟨data, hd⟩ := Finmap.mem_iff.mp hd
      exact Finmap.mem_of_lookup_eq_some (hkept d data hd).1
    refine ⟨fun d data hd => hroom.data_id d data (hkept d data hd).1, ?_, ?_, ?_, ?_, ?_, ?_,
      hroom.online⟩
    · intro c' client' hc'
      exact hroom.client_id c' client' (FiniteMap.lookup_erase_eq_some.mp hc').2
    · intro control hcontrol
      obtain ⟨hd, hcl⟩ := hroom.control_apart control hcontrol
      exact ⟨fun h => hd (hmem _ h), fun h => hcl (Finmap.mem_erase.mp h).2⟩
    · intro d hd h
      exact hroom.data_apart d (hmem d hd) (Finmap.mem_erase.mp h).2
    · intro d data hd
      obtain ⟨hd, hne⟩ := hkept d data hd
      obtain ⟨c', client', hpaired, hc', hback⟩ := hroom.data_client d data hd
      refine ⟨c', client', hpaired, FiniteMap.lookup_erase_eq_some.mpr ⟨?_, hc'⟩, hback⟩
      rintro rfl
      rw [hc] at hc'
      exact hne (Option.some.inj hc' ▸ hback)
    · intro c' client' d hc' hback
      obtain ⟨hne, hc'⟩ := FiniteMap.lookup_erase_eq_some.mp hc'
      obtain ⟨data, hd, hpaired⟩ := hroom.client_data c' client' d hc' hback
      refine ⟨data, ?_, hpaired⟩
      -- were `d` the pipe of `c` as well, both clients would be its one partner
      have hother : client.pairedDaemonDataId ≠ some d := by
        intro he
        obtain ⟨data', hd', hpaired'⟩ := hroom.client_data c client d hc he
        rw [hd] at hd'
        obtain rfl := Option.some.inj hd'
        exact hne (Option.some.inj (hpaired.symm.trans hpaired'))
      cases hp : client.pairedDaemonDataId with
      | none => exact hd
      | some d' =>
        exact FiniteMap.lookup_erase_eq_some.mpr
          ⟨fun he => hother (by rw [hp, he]), hd⟩
    · intro hoff
      have hempty := (hroom.offline hoff).1
      rw [hempty, Finmap.lookup_empty] at hc
      cases hc

theorem linked_closeClients {room : RelayRoom}
    (hon : room.daemonControl ≠ none → room.routeGeneration ≠ none)
    (hoff : room.daemonControl = none → room.routeGeneration = none) :
    room.closeClients.1.Linked where
  data_id := by simp [closeClients]
  client_id := by simp [closeClients]
  control_apart := fun _ _ => ⟨Finmap.notMem_empty, Finmap.notMem_empty⟩
  data_apart := fun d hd => absurd hd Finmap.notMem_empty
  data_client := by simp [closeClients]
  client_data := by simp [closeClients]
  offline := fun h => ⟨rfl, rfl, hoff h⟩
  online := hon

/-- Replacing a client by one with the same id and the same pipe keeps the links. -/
theorem Linked.insertSame {room : RelayRoom} (hroom : room.Linked) {c : ConnectionId}
    {client : ConnectionEndpoint} (hc : room.clients.lookup c = some client)
    (client' : ConnectionEndpoint) (hid : client'.id = client.id)
    (hpipe : client'.pairedDaemonDataId = client.pairedDaemonDataId) (bytes : ℕ) :
    Linked { room with clients := room.clients.insert c client', prePairClientBytes := bytes } := by
  have hmem : ∀ c', c' ∈ room.clients.insert c client' ↔ c' ∈ room.clients := by
    intro c'
    rw [Finmap.mem_insert]
    constructor
    · rintro (rfl | h)
      · exact Finmap.mem_of_lookup_eq_some hc
      · exact h
    · exact Or.inr
  -- every entry of the new map has the pipe of an entry of the old one, and conversely
  have hold : ∀ c' e, (room.clients.insert c client').lookup c' = some e →
      ∃ e₀, room.clients.lookup c' = some e₀ ∧ e.id = e₀.id ∧
        e.pairedDaemonDataId = e₀.pairedDaemonDataId := by
    intro c' e he
    rcases FiniteMap.lookup_insert_eq_some.mp he with ⟨rfl, rfl⟩ | ⟨-, he⟩
    · exact ⟨client, hc, hid, hpipe⟩
    · exact ⟨e, he, rfl, rfl⟩
  have hnew : ∀ c' e₀, room.clients.lookup c' = some e₀ →
      ∃ e, (room.clients.insert c client').lookup c' = some e ∧
        e.pairedDaemonDataId = e₀.pairedDaemonDataId := by
    intro c' e₀ he
    by_cases hcc : c' = c
    · subst hcc
      rw [hc] at he
      obtain rfl := Option.some.inj he
      exact ⟨client', Finmap.lookup_insert _, hpipe⟩
    · exact ⟨e₀, by rw [Finmap.lookup_insert_of_ne _ hcc, he], rfl⟩
  refine ⟨hroom.data_id, ?_, ?_, ?_, ?_, ?_, ?_, hroom.online⟩
  · intro c' e he
    obtain ⟨e₀, he₀, hi, -⟩ := hold c' e he
    rw [hi]
    exact hroom.client_id c' e₀ he₀
  · intro control hcontrol
    exact ⟨(hroom.control_apart control hcontrol).1,
      fun h => (hroom.control_apart control hcontrol).2 ((hmem _).mp h)⟩
  · intro d hd h
    exact hroom.data_apart d hd ((hmem d).mp h)
  · intro d data hd
    obtain ⟨c', e₀, hp, he₀, hback⟩ := hroom.data_client d data hd
    obtain ⟨e, he, hpe⟩ := hnew c' e₀ he₀
    exact ⟨c', e, hp, he, hpe.trans hback⟩
  · intro c' e d he hback
    obtain ⟨e₀, he₀, -, hpe⟩ := hold c' e he
    exact hroom.client_data c' e₀ d he₀ (hpe ▸ hback)
  · intro hoff
    rw [(hroom.offline hoff).1, Finmap.lookup_empty] at hc
    cases hc

theorem Linked.insertClient {room : RelayRoom} (hroom : room.Linked) {id : ConnectionId}
    (hid : ¬ room.Holds id) (hcontrol : room.daemonControl ≠ none) (sender : FrameSender)
    (token : Nonce) (now : Instant) : (room.insertClient id sender token now).Linked := by
  have hne : ∀ c e, room.clients.lookup c = some e → c ≠ id := by
    rintro c e he rfl
    exact hid (Or.inr (Or.inr (Finmap.mem_of_lookup_eq_some he)))
  refine ⟨hroom.data_id, ?_, ?_, ?_, ?_, ?_, fun h => absurd h hcontrol, hroom.online⟩
  · intro c e he
    rcases FiniteMap.lookup_insert_eq_some.mp he with ⟨rfl, rfl⟩ | ⟨-, he⟩
    · rfl
    · exact hroom.client_id c e he
  · intro control hc
    refine ⟨(hroom.control_apart control hc).1, fun h => ?_⟩
    rcases Finmap.mem_insert.mp h with h | h
    · exact hid (Or.inl ⟨control, hc, h⟩)
    · exact (hroom.control_apart control hc).2 h
  · intro d hd h
    rcases Finmap.mem_insert.mp h with rfl | h
    · exact hid (Or.inr (Or.inl hd))
    · exact hroom.data_apart d hd h
  · intro d data hd
    obtain ⟨c, e, hp, he, hback⟩ := hroom.data_client d data hd
    exact ⟨c, e, hp, (Finmap.lookup_insert_of_ne _ (hne c e he)).trans he, hback⟩
  · intro c e d he hback
    rcases FiniteMap.lookup_insert_eq_some.mp he with ⟨rfl, rfl⟩ | ⟨-, he⟩
    · cases hback
    · exact hroom.client_data c e d he hback

/-- A control line finds or leaves an otherwise empty room: a stale one took everything with it,
and without one there was nothing. -/
theorem registerDaemonControl_fst {room : RelayRoom} (hroom : room.Linked) (id : ConnectionId)
    (sender : FrameSender) (generation : Option Nonce) (now : Instant) :
    (room.registerDaemonControl id sender generation now).1 =
      { daemonControl := some (.new id sender now), routeGeneration := generation
        clients := ∅, daemonData := ∅
        prePairClientBytes :=
          (room.registerDaemonControl id sender generation now).1.prePairClientBytes } := by
  unfold registerDaemonControl
  cases hc : room.daemonControl with
  | none =>
    obtain ⟨hclients, hdata, -⟩ := hroom.offline hc
    simp [hclients, hdata]
  | some stale => rfl

theorem Linked.registerDaemonControl {room : RelayRoom} (hroom : room.Linked)
    (id : ConnectionId) (sender : FrameSender) {generation : Option Nonce}
    (hg : generation ≠ none) (now : Instant) :
    (room.registerDaemonControl id sender generation now).1.Linked := by
  rw [registerDaemonControl_fst hroom]
  exact ⟨by simp, by simp, fun _ _ => ⟨Finmap.notMem_empty, Finmap.notMem_empty⟩,
    fun d hd => absurd hd Finmap.notMem_empty, by simp, by simp, by simp, fun _ => hg⟩

end RelayRoom

/-! ## Ids, and the origin of data pipes -/

/-- A room step brings in at most the id drawn for it. -/
theorem holds_of_roomStep {a b : FreshRoom} {e : Multiset RelayEffect} (h : RoomStep a e b)
    (ha : a.2.Linked) {id : ConnectionId} (hb : b.2.Holds id) :
    a.2.Holds id ∨ (a.1 = some id ∧ b.1 = none) := by
  have hclose : ∀ (room : RelayRoom) (c : ConnectionId) (now : Instant),
      (room.closeClientTransport c now).1.Holds id → room.Holds id := by
    intro room c now hh
    cases hc : room.clients.lookup c with
    | none => rwa [RelayRoom.closeClientTransport_of_lookup_none hc] at hh
    | some client =>
      rw [RelayRoom.closeClientTransport_fst hc] at hh
      rcases hh with hh | hh | hh
      · exact Or.inl hh
      · refine Or.inr (Or.inl ?_)
        cases hp : client.pairedDaemonDataId with
        | none => simpa [hp] using hh
        | some d =>
          rw [hp] at hh
          exact (Finmap.mem_erase.mp hh).2
      · exact Or.inr (Or.inr (Finmap.mem_erase.mp hh).2)
  have hinsert : ∀ (room : RelayRoom) (c : ConnectionId) (client client' : ConnectionEndpoint),
      room.clients.lookup c = some client → id ∈ room.clients.insert c client' →
      id ∈ room.clients := by
    intro room c client client' hc hh
    rcases Finmap.mem_insert.mp hh with rfl | hh
    · exact Finmap.mem_of_lookup_eq_some hc
    · exact hh
  cases h with
  | takeOver room id' sender generation now hg =>
    simp only [RelayRoom.registerDaemonControl] at hb
    cases hc : room.daemonControl with
    | none =>
      simp only [hc] at hb
      rcases hb with ⟨control, hcontrol, hid⟩ | hb
      · obtain rfl := Option.some.inj hcontrol
        exact Or.inr ⟨congrArg some hid, rfl⟩
      · exact Or.inl (Or.inr hb)
    | some stale =>
      simp only [hc, RelayRoom.closeClients] at hb
      rcases hb with ⟨control, hcontrol, hid⟩ | hb | hb
      · obtain rfl := Option.some.inj hcontrol
        exact Or.inr ⟨congrArg some hid, rfl⟩
      · exact absurd hb Finmap.notMem_empty
      · exact absurd hb Finmap.notMem_empty
  | enter room id' sender token now hp hc =>
    rcases hb with hb | hb | hb
    · exact Or.inl (Or.inl hb)
    · exact Or.inl (Or.inr (Or.inl hb))
    · rcases Finmap.mem_insert.mp hb with rfl | hb
      · exact Or.inr ⟨rfl, rfl⟩
      · exact Or.inl (Or.inr (Or.inr hb))
  | clear fresh room =>
    rcases hb with ⟨control, hcontrol, -⟩ | hb | hb
    · cases hcontrol
    · exact absurd hb Finmap.notMem_empty
    · exact absurd hb Finmap.notMem_empty
  | closeClient fresh room c now => exact Or.inl (hclose room c now hb)
  | leaveData fresh room registration now =>
    rcases RelayRoom.unregisterDaemonData_fst ha registration now with he | ⟨c, _, _, _, he⟩
    · dsimp only at hb
      rw [he] at hb
      exact Or.inl hb
    · dsimp only at hb
      rw [he] at hb
      exact Or.inl (hclose room c now hb)
  | buffer fresh h =>
    rename_i room room' c frame
    obtain ⟨client, hc, buffer, -, rfl⟩ := RelayRoom.bufferClientFrame_eq_some h
    rcases hb with hb | hb | hb
    · exact Or.inl (Or.inl hb)
    · exact Or.inl (Or.inr (Or.inl hb))
    · exact Or.inl (Or.inr (Or.inr (hinsert room c client _ hc hb)))
  | drain fresh h =>
    rename_i room room' c frames
    obtain ⟨client, hc, rfl, -, -⟩ := RelayRoom.drainPrePairClientFrames_eq_some h
    rcases hb with hb | hb | hb
    · exact Or.inl (Or.inl hb)
    · exact Or.inl (Or.inr (Or.inl hb))
    · exact Or.inl (Or.inr (Or.inr (hinsert room c client _ hc hb)))
  | endFlush fresh hc =>
    rename_i room c client
    rcases hb with hb | hb | hb
    · exact Or.inl (Or.inl hb)
    · exact Or.inl (Or.inr (Or.inl hb))
    · exact Or.inl (Or.inr (Or.inr (hinsert room c client _ hc hb)))
  | send => exact Or.inl hb
  | forget => exact absurd hb (RelayRoom.not_holds_empty id)

/-- A room step uses up the drawn id or leaves it. -/
theorem fresh_of_roomStep {a b : FreshRoom} {e : Multiset RelayEffect} (h : RoomStep a e b)
    {id : ConnectionId} (hb : b.1 = some id) : a.1 = some id := by
  cases h <;> first | exact hb | cases hb

/-- A linked room whose drawn id is not held by it. -/
structure FreshLinked (a : FreshRoom) : Prop where
  linked : a.2.Linked
  unheld : ∀ id, a.1 = some id → ¬ a.2.Holds id

/-- **Every room step keeps the links.** -/
theorem linked_roomStep {a b : FreshRoom} {e : Multiset RelayEffect} (h : RoomStep a e b)
    (ha : FreshLinked a) : FreshLinked b := by
  refine ⟨?_, fun id hid hb => ?_⟩
  · obtain ⟨hroom, hunheld⟩ := ha
    cases h with
    | takeOver room id sender generation now hg =>
      exact hroom.registerDaemonControl id sender hg now
    | enter room id sender token now hp hc =>
      exact hroom.insertClient (hunheld id rfl) hc sender token now
    | clear fresh room =>
      exact RelayRoom.linked_closeClients (fun h => absurd rfl h) fun _ => rfl
    | closeClient fresh room c now => exact hroom.closeClientTransport c now
    | leaveData fresh room registration now =>
      dsimp only
      rcases RelayRoom.unregisterDaemonData_fst hroom registration now with he | ⟨c, _, _, _, he⟩
      · rw [he]; exact hroom
      · rw [he]; exact hroom.closeClientTransport c now
    | buffer fresh h =>
      obtain ⟨client, hc, buffer, -, rfl⟩ := RelayRoom.bufferClientFrame_eq_some h
      exact hroom.insertSame hc { client with prePairBuffer := buffer } rfl rfl _
    | drain fresh h =>
      obtain ⟨client, hc, rfl, -, -⟩ := RelayRoom.drainPrePairClientFrames_eq_some h
      exact hroom.insertSame hc { client with prePairBuffer := {} } rfl rfl _
    | @endFlush fresh room c client hc =>
      exact hroom.insertSame hc { client with prePairFlushInProgress := false } rfl rfl _
    | send => exact hroom
    | forget => exact RelayRoom.linked_empty
  · rcases holds_of_roomStep h ha.linked hb with hh | ⟨-, hused⟩
    · exact ha.unheld id (fresh_of_roomStep h hid) hh
    · rw [hused] at hid
      cases hid

/-! ## Pairing a data pipe -/

/-- What an accepted data pipe has presented, and the room it leaves behind. -/
theorem registerDaemonData_eq_ok {room room' : RelayRoom} {id : ConnectionId}
    {prelude : RoutePrelude} {sender : FrameSender} {now : Instant}
    {effects : Multiset RelayEffect}
    (h : room.registerDaemonData id prelude sender now = .ok (room', effects)) :
    ∃ c token client, prelude.clientId = some ⟨c⟩ ∧ prelude.dataToken = some token ∧
      room.clients.lookup c = some client ∧ client.dataToken = some token ∧
      client.pairedDaemonDataId = none ∧
      (∀ generation, room.routeGeneration = some generation →
        prelude.routeGeneration = some generation) ∧
      room' = { room with
        clients := room.clients.insert c
          { client with
            pairedDaemonDataId := some id
            pairedAt := some now
            prePairFlushInProgress := !client.prePairBuffer.isEmpty }
        daemonData := room.daemonData.insert id (.newDaemonData id sender c now) } ∧
      effects = {.notifyWaiters c} := by
  unfold RelayRoom.registerDaemonData at h
  split_ifs at h with hgeneration
  split at h
  · rename_i clientId token hclientId htoken
    cases hc : room.clients.lookup clientId.value with
    | none => simp [hc] at h
    | some client =>
      simp only [hc] at h
      split_ifs at h with hrefused
      rw [not_or, not_not, Bool.not_eq_true, Option.isSome_eq_false_iff,
        Option.isNone_iff_eq_none] at hrefused
      obtain ⟨rfl, rfl⟩ : _ ∧ _ := by simpa using h
      refine ⟨clientId.value, token, client, hclientId, htoken, hc, hrefused.1, hrefused.2, ?_,
        rfl, rfl⟩
      intro generation hg
      simpa [hg] using hgeneration
  · cases h

/-- **Pairing keeps the links**: the new pipe and the pending client become partners. -/
theorem linked_registerDaemonData {room room' : RelayRoom} {id : ConnectionId}
    {prelude : RoutePrelude} {sender : FrameSender} {now : Instant}
    {effects : Multiset RelayEffect} (hroom : room.Linked) (hid : ¬ room.Holds id)
    (h : room.registerDaemonData id prelude sender now = .ok (room', effects)) :
    room'.Linked := by
  obtain ⟨c, token, client, -, -, hc, -, hpending, -, rfl, -⟩ := registerDaemonData_eq_ok h
  have hdata : ∀ d data, room.daemonData.lookup d = some data → d ≠ id := by
    rintro d data hd rfl
    exact hid (Or.inr (Or.inl (Finmap.mem_of_lookup_eq_some hd)))
  have hclients : ∀ c', c' ∈ room.clients.insert c
      { client with
        pairedDaemonDataId := some id
        pairedAt := some now
        prePairFlushInProgress := !client.prePairBuffer.isEmpty } → c' ∈ room.clients := by
    intro c' hc'
    rcases Finmap.mem_insert.mp hc' with rfl | hc'
    · exact Finmap.mem_of_lookup_eq_some hc
    · exact hc'
  refine ⟨?_, ?_, ?_, ?_, ?_, ?_, ?_, hroom.online⟩
  · intro d data hd
    rcases FiniteMap.lookup_insert_eq_some.mp hd with ⟨rfl, rfl⟩ | ⟨-, hd⟩
    · rfl
    · exact hroom.data_id d data hd
  · intro c' e he
    rcases FiniteMap.lookup_insert_eq_some.mp he with ⟨rfl, rfl⟩ | ⟨-, he⟩
    · exact hroom.client_id c' client hc
    · exact hroom.client_id c' e he
  · intro control hcontrol
    obtain ⟨hd, hcl⟩ := hroom.control_apart control hcontrol
    refine ⟨fun h => ?_, fun h => hcl (hclients _ h)⟩
    rcases Finmap.mem_insert.mp h with h | h
    · exact hid (Or.inl ⟨control, hcontrol, h⟩)
    · exact hd h
  · intro d hd hcl
    rcases Finmap.mem_insert.mp hd with rfl | hd
    · exact hid (Or.inr (Or.inr (hclients d hcl)))
    · exact hroom.data_apart d hd (hclients d hcl)
  · intro d data hd
    rcases FiniteMap.lookup_insert_eq_some.mp hd with ⟨rfl, rfl⟩ | ⟨-, hd⟩
    · exact ⟨c, _, rfl, Finmap.lookup_insert _, rfl⟩
    · obtain ⟨c', e, hp, he, hback⟩ := hroom.data_client d data hd
      -- the partner of another pipe is not the pending client
      have hne : c' ≠ c := by
        rintro rfl
        rw [hc] at he
        obtain rfl := Option.some.inj he
        rw [hpending] at hback
        cases hback
      exact ⟨c', e, hp, (Finmap.lookup_insert_of_ne _ hne).trans he, hback⟩
  · intro c' e d he hback
    rcases FiniteMap.lookup_insert_eq_some.mp he with ⟨rfl, rfl⟩ | ⟨-, he⟩
    · obtain rfl := Option.some.inj hback
      exact ⟨_, Finmap.lookup_insert _, rfl⟩
    · obtain ⟨data, hd, hp⟩ := hroom.client_data c' e d he hback
      exact ⟨data, (Finmap.lookup_insert_of_ne _ (hdata d data hd)).trans hd, hp⟩
  · intro hoff
    rw [(hroom.offline hoff).1, Finmap.lookup_empty] at hc
    cases hc

/-! ## The token a data pipe presented -/

/-- A client of a room after a step was there before with the same token, or entered. -/
theorem client_of_roomStep {a b : FreshRoom} {e : Multiset RelayEffect} (h : RoomStep a e b)
    (ha : a.2.Linked) {c : ConnectionId} {client' : ConnectionEndpoint}
    (hb : b.2.clients.lookup c = some client') :
    (∃ client, a.2.clients.lookup c = some client ∧ client.dataToken = client'.dataToken) ∨
      a.1 = some c := by
  have hclose : ∀ (room : RelayRoom) (c' : ConnectionId) (now : Instant),
      (room.closeClientTransport c' now).1.clients.lookup c = some client' →
      room.clients.lookup c = some client' := by
    intro room c' now hh
    cases hc : room.clients.lookup c' with
    | none => rwa [RelayRoom.closeClientTransport_of_lookup_none hc] at hh
    | some client =>
      rw [RelayRoom.closeClientTransport_fst hc] at hh
      exact (FiniteMap.lookup_erase_eq_some.mp hh).2
  have hinsert : ∀ (clients : FiniteMap ConnectionId ConnectionEndpoint) (c' : ConnectionId)
      (client new : ConnectionEndpoint), clients.lookup c' = some client →
      new.dataToken = client.dataToken → (clients.insert c' new).lookup c = some client' →
      ∃ client, clients.lookup c = some client ∧ client.dataToken = client'.dataToken := by
    intro clients c' client new hc htoken hh
    rcases FiniteMap.lookup_insert_eq_some.mp hh with ⟨rfl, rfl⟩ | ⟨-, hh⟩
    · exact ⟨client, hc, htoken.symm⟩
    · exact ⟨client', hh, rfl⟩
  cases h with
  | takeOver room id sender generation now hg =>
    dsimp only at hb
    rw [RelayRoom.registerDaemonControl_fst ha, Finmap.lookup_empty] at hb
    cases hb
  | enter room id sender token now hp hc =>
    rcases FiniteMap.lookup_insert_eq_some.mp hb with ⟨rfl, rfl⟩ | ⟨-, hb⟩
    · exact Or.inr rfl
    · exact Or.inl ⟨client', hb, rfl⟩
  | clear fresh room => exact absurd hb (by simp [RelayRoom.clearDaemonControlAndDependents,
      RelayRoom.closeClients])
  | closeClient fresh room c' now => exact Or.inl ⟨client', hclose room c' now hb, rfl⟩
  | leaveData fresh room registration now =>
    dsimp only at hb
    rcases RelayRoom.unregisterDaemonData_fst ha registration now with he | ⟨c', _, _, _, he⟩
    · exact Or.inl ⟨client', he ▸ hb, rfl⟩
    · rw [he] at hb
      exact Or.inl ⟨client', hclose room c' now hb, rfl⟩
  | buffer fresh h =>
    obtain ⟨client, hc, buffer, -, rfl⟩ := RelayRoom.bufferClientFrame_eq_some h
    exact Or.inl (hinsert _ _ client { client with prePairBuffer := buffer } hc rfl hb)
  | drain fresh h =>
    obtain ⟨client, hc, rfl, -, -⟩ := RelayRoom.drainPrePairClientFrames_eq_some h
    exact Or.inl (hinsert _ _ client { client with prePairBuffer := {} } hc rfl hb)
  | @endFlush fresh room c' client hc =>
    exact Or.inl (hinsert _ _ client { client with prePairFlushInProgress := false } hc rfl hb)
  | send => exact Or.inl ⟨client', hb, rfl⟩
  | forget => exact absurd hb (by simp)

/-- A data pipe of a room after a step was there before, under the same generation. -/
theorem data_of_roomStep {a b : FreshRoom} {e : Multiset RelayEffect} (h : RoomStep a e b)
    (ha : a.2.Linked) {d : ConnectionId} {data : ConnectionEndpoint}
    (hb : b.2.daemonData.lookup d = some data) :
    a.2.daemonData.lookup d = some data ∧ b.2.routeGeneration = a.2.routeGeneration := by
  have hclose : ∀ (room : RelayRoom) (c : ConnectionId) (now : Instant),
      (room.closeClientTransport c now).1.daemonData.lookup d = some data →
      room.daemonData.lookup d = some data ∧
        (room.closeClientTransport c now).1.routeGeneration = room.routeGeneration := by
    intro room c now hh
    cases hc : room.clients.lookup c with
    | none =>
      rw [RelayRoom.closeClientTransport_of_lookup_none hc] at hh ⊢
      exact ⟨hh, rfl⟩
    | some client =>
      rw [RelayRoom.closeClientTransport_fst hc] at hh ⊢
      refine ⟨?_, rfl⟩
      cases hp : client.pairedDaemonDataId with
      | none => simpa [hp] using hh
      | some d' =>
        simp only [hp, Option.elim_some] at hh
        exact (FiniteMap.lookup_erase_eq_some.mp hh).2
  cases h with
  | takeOver room id sender generation now hg =>
    dsimp only at hb
    rw [RelayRoom.registerDaemonControl_fst ha, Finmap.lookup_empty] at hb
    cases hb
  | enter => exact ⟨hb, rfl⟩
  | clear fresh room => exact absurd hb (by simp [RelayRoom.clearDaemonControlAndDependents,
      RelayRoom.closeClients])
  | closeClient fresh room c now => exact hclose room c now hb
  | leaveData fresh room registration now =>
    dsimp only at hb ⊢
    rcases RelayRoom.unregisterDaemonData_fst ha registration now with he | ⟨c, _, _, _, he⟩
    · rw [he] at hb ⊢
      exact ⟨hb, rfl⟩
    · rw [he] at hb ⊢
      exact hclose room c now hb
  | buffer fresh h =>
    obtain ⟨client, hc, buffer, -, rfl⟩ := RelayRoom.bufferClientFrame_eq_some h
    exact ⟨hb, rfl⟩
  | drain fresh h =>
    obtain ⟨client, hc, rfl, -, -⟩ := RelayRoom.drainPrePairClientFrames_eq_some h
    exact ⟨hb, rfl⟩
  | endFlush fresh hc => exact ⟨hb, rfl⟩
  | send => exact ⟨hb, rfl⟩
  | forget => exact absurd hb (by simp)

/-- The data pipe `d` of a room was accepted for the client it is paired with: it presented that
client's token, under the generation of the control line still in place. -/
def Presented (accepted : List (RoutePrelude × ConnectionRegistration)) (serverId : ServerId)
    (room : RelayRoom) (d : ConnectionId) (data : ConnectionEndpoint) : Prop :=
  ∃ prelude registration c client token, (prelude, registration) ∈ accepted ∧
    registration.id = d ∧ registration.serverId = serverId ∧ registration.role = .daemonData ∧
    prelude.serverId = serverId ∧ prelude.connectionRole = .daemonData ∧
    data.pairedClientId = some c ∧ room.clients.lookup c = some client ∧
    prelude.clientId = some ⟨c⟩ ∧ prelude.dataToken = some token ∧
    client.dataToken = some token ∧ room.routeGeneration ≠ none ∧
    prelude.routeGeneration = room.routeGeneration

theorem Presented.mono {accepted accepted' : List (RoutePrelude × ConnectionRegistration)}
    (hsub : accepted ⊆ accepted') {serverId : ServerId} {room : RelayRoom} {d : ConnectionId}
    {data : ConnectionEndpoint} (h : Presented accepted serverId room d data) :
    Presented accepted' serverId room d data := by
  obtain ⟨prelude, registration, c, client, token, hmem, hrest⟩ := h
  exact ⟨prelude, registration, c, client, token, hsub hmem, hrest⟩

/-- Every data pipe of the room presented the token of its client. -/
def AllPresented (accepted : List (RoutePrelude × ConnectionRegistration)) (serverId : ServerId)
    (room : RelayRoom) : Prop :=
  ∀ d data, room.daemonData.lookup d = some data → Presented accepted serverId room d data

theorem presented_roomStep {accepted : List (RoutePrelude × ConnectionRegistration)}
    {serverId : ServerId} {a b : FreshRoom} {e : Multiset RelayEffect} (h : RoomStep a e b)
    (ha : FreshLinked a) (hp : AllPresented accepted serverId a.2) :
    AllPresented accepted serverId b.2 := by
  intro d data hb
  obtain ⟨hd, hgeneration⟩ := data_of_roomStep h ha.linked hb
  obtain ⟨prelude, registration, c, client, token, hmem, hid, hserver, hrole, hpserver, hprole,
    hpaired, hclient, hpc, hpt, htoken, hne, hg⟩ := hp d data hd
  obtain ⟨c', client', hpaired', hclient', -⟩ := (linked_roomStep h ha).linked.data_client d data hb
  obtain rfl : c = c' := Option.some.inj (hpaired.symm.trans hpaired')
  refine ⟨prelude, registration, c, client', token, hmem, hid, hserver, hrole, hpserver, hprole,
    hpaired, hclient', hpc, hpt, ?_, hgeneration ▸ hne, hgeneration ▸ hg⟩
  rcases client_of_roomStep h ha.linked hclient' with ⟨old, hold, htok⟩ | hfresh
  · rw [hclient] at hold
    rw [← htok, ← Option.some.inj hold, htoken]
  · exact absurd (Or.inr (Or.inr (Finmap.mem_of_lookup_eq_some hclient))) (ha.unheld c hfresh)

theorem presented_registerDaemonData {accepted : List (RoutePrelude × ConnectionRegistration)}
    {room room' : RelayRoom} {prelude : RoutePrelude} {registration : ConnectionRegistration}
    {sender : FrameSender} {now : Instant} {effects : Multiset RelayEffect}
    (hroom : room.Linked) (hp : AllPresented accepted prelude.serverId room)
    (hserver : registration.serverId = prelude.serverId) (hrole : registration.role = .daemonData)
    (hprole : prelude.connectionRole = .daemonData)
    (h : room.registerDaemonData registration.id prelude sender now = .ok (room', effects)) :
    AllPresented ((prelude, registration) :: accepted) prelude.serverId room' := by
  obtain ⟨c, token, client, hpc, hpt, hc, htoken, hpending, hg, rfl, -⟩ :=
    registerDaemonData_eq_ok h
  -- a room with a client has a control line, hence a generation
  have hon : room.routeGeneration ≠ none := by
    refine hroom.online fun hoff => ?_
    rw [(hroom.offline hoff).1, Finmap.lookup_empty] at hc
    cases hc
  intro d data hd
  rcases FiniteMap.lookup_insert_eq_some.mp hd with ⟨rfl, rfl⟩ | ⟨-, hold⟩
  · refine ⟨prelude, registration, c, _, token, List.mem_cons_self, rfl, hserver, hrole, rfl,
      hprole, rfl, Finmap.lookup_insert _, hpc, hpt, htoken, hon, ?_⟩
    obtain ⟨generation, hgen⟩ := Option.ne_none_iff_exists'.mp hon
    rw [hg generation hgen, hgen]
  · obtain ⟨p, r, c', client', token', hmem, hrest⟩ := hp d data hold
    obtain ⟨hrid, hrserver, hrrole, hps, hpr, hpaired, hclient', hpc', hpt', htok', hne, hg'⟩ :=
      hrest
    have hne' : c' ≠ c := by
      rintro rfl
      obtain ⟨c'', partner, hp', hpartner, hback⟩ := hroom.data_client d data hold
      obtain rfl : c' = c'' := Option.some.inj (hpaired.symm.trans hp')
      rw [hc] at hpartner
      obtain rfl := Option.some.inj hpartner
      rw [hpending] at hback
      cases hback
    exact ⟨p, r, c', client', token', List.mem_cons_of_mem _ hmem, hrid, hrserver, hrrole, hps,
      hpr, hpaired, (Finmap.lookup_insert_of_ne _ hne').trans hclient', hpc', hpt', htok', hne,
      hg'⟩


/-- A pairing lets the new pipe in, and nothing else. -/
theorem holds_registerDaemonData {room room' : RelayRoom} {id : ConnectionId}
    {prelude : RoutePrelude} {sender : FrameSender} {now : Instant}
    {effects : Multiset RelayEffect}
    (h : room.registerDaemonData id prelude sender now = .ok (room', effects))
    (id' : ConnectionId) (hh : room'.Holds id') : room.Holds id' ∨ some id = some id' := by
  obtain ⟨c, token, client, -, -, hc, -, -, -, rfl, -⟩ := registerDaemonData_eq_ok h
  rcases hh with hh | hh | hh
  · exact Or.inl (Or.inl hh)
  · rcases Finmap.mem_insert.mp hh with rfl | hh
    · exact Or.inr rfl
    · exact Or.inl (Or.inr (Or.inl hh))
  · rcases Finmap.mem_insert.mp hh with rfl | hh
    · exact Or.inl (Or.inr (Or.inr (Finmap.mem_of_lookup_eq_some hc)))
    · exact Or.inl (Or.inr (Or.inr hh))

/-! ## The invariant of the registry -/

/-- A sequence of room steps keeps the links, and what it lets in is the drawn id. -/
theorem linked_roomSteps {a b : FreshRoom} {e : Multiset RelayEffect} (h : RoomSteps a e b)
    (ha : FreshLinked a) :
    FreshLinked b ∧ ∀ id, b.2.Holds id → a.2.Holds id ∨ a.1 = some id := by
  refine And.imp_right And.left (RoomSteps.invariant (I := fun c => FreshLinked c ∧
    (∀ id, c.2.Holds id → a.2.Holds id ∨ a.1 = some id) ∧
    ∀ id, c.1 = some id → a.1 = some id) ?_ h ⟨ha, fun _ h => Or.inl h, fun _ h => h⟩)
  rintro c f d hstep ⟨hc, hholds, hfresh⟩
  refine ⟨linked_roomStep hstep hc, fun id hd => ?_, fun id hd => ?_⟩
  · rcases holds_of_roomStep hstep hc.linked hd with hd | ⟨hd, -⟩
    · exact hholds id hd
    · exact Or.inr (hfresh id hd)
  · exact hfresh id (fresh_of_roomStep hstep hd)

theorem presented_roomSteps {accepted : List (RoutePrelude × ConnectionRegistration)}
    {serverId : ServerId} {a b : FreshRoom} {e : Multiset RelayEffect} (h : RoomSteps a e b)
    (ha : FreshLinked a) (hp : AllPresented accepted serverId a.2) :
    AllPresented accepted serverId b.2 :=
  (RoomSteps.invariant (I := fun c => FreshLinked c ∧ AllPresented accepted serverId c.2)
    (fun _ _ _ hstep hc => ⟨linked_roomStep hstep hc.1, presented_roomStep hstep hc.1 hc.2⟩)
    h ⟨ha, hp⟩).2

namespace RelaySystem

/-- **The pairing invariant of the registry.** -/
structure Linked (s : RelaySystem) : Prop where
  room : ∀ serverId, (roomAt s.rooms serverId).Linked
  presented : ∀ serverId, AllPresented s.accepted serverId (roomAt s.rooms serverId)
  allocated_le : ∀ id ∈ s.allocated, id ≤ s.registry.nextConnectionId
  allocated_nodup : s.allocated.Nodup
  drawn_nodup : s.drawn.Nodup
  drawn_allocated : ∀ id ∈ s.drawn, id ∈ s.allocated
  held : ∀ serverId id, (roomAt s.rooms serverId).Holds id → id ∈ s.allocated ∧ id ∉ s.drawn
  apart : ∀ serverId serverId' id, (roomAt s.rooms serverId).Holds id →
    (roomAt s.rooms serverId').Holds id → serverId = serverId'
  accepted_nodup : (s.accepted.map fun a => a.2.id).Nodup
  accepted_id : ∀ a ∈ s.accepted, a.2.id ∈ s.allocated ∧ a.2.id ∉ s.drawn

theorem linked_init : Linked {} where
  room := fun _ => RelayRoom.linked_empty
  presented := fun _ _ _ hd => nomatch hd
  allocated_le := by simp
  allocated_nodup := List.nodup_nil
  drawn_nodup := List.nodup_nil
  drawn_allocated := by simp
  held := fun _ id h => absurd h (RelayRoom.not_holds_empty id)
  apart := fun _ _ id h => absurd h (RelayRoom.not_holds_empty id)
  accepted_nodup := List.nodup_nil
  accepted_id := by simp

/-- Drawing an id keeps the invariant: the counter is past every id drawn before. -/
theorem Linked.draw {s s' : RelaySystem} (hs : s.Linked) (hrooms : s'.rooms = s.rooms)
    (hnext : s'.registry.nextConnectionId = s.registry.nextConnectionId + 1)
    (hdrawn : s'.drawn = (s.registry.nextConnectionId + 1) :: s.drawn)
    (hallocated : s'.allocated = (s.registry.nextConnectionId + 1) :: s.allocated)
    (haccepted : s'.accepted = s.accepted) : s'.Linked := by
  have hnew : s.registry.nextConnectionId + 1 ∉ s.allocated := fun h =>
    Nat.not_succ_le_self _ (hs.allocated_le _ h)
  have hold : ∀ id, id ∈ s.allocated → id ∉ s.drawn → id ∈ s'.allocated ∧ id ∉ s'.drawn := by
    intro id hid hundrawn
    rw [hallocated, hdrawn]
    refine ⟨List.mem_cons_of_mem _ hid, fun h => ?_⟩
    rcases List.mem_cons.mp h with rfl | h
    · exact hnew hid
    · exact hundrawn h
  refine ⟨?_, ?_, ?_, ?_, ?_, ?_, ?_, ?_, ?_, ?_⟩
  · rw [hrooms]; exact hs.room
  · rw [hrooms, haccepted]; exact hs.presented
  · intro id hid
    rw [hallocated] at hid
    rw [hnext]
    rcases List.mem_cons.mp hid with rfl | hid
    · exact le_rfl
    · exact (hs.allocated_le id hid).trans (Nat.le_succ _)
  · rw [hallocated]; exact List.nodup_cons.mpr ⟨hnew, hs.allocated_nodup⟩
  · rw [hdrawn]
    exact List.nodup_cons.mpr ⟨fun h => hnew (hs.drawn_allocated _ h), hs.drawn_nodup⟩
  · intro id hid
    rw [hdrawn] at hid
    rw [hallocated]
    rcases List.mem_cons.mp hid with rfl | hid
    · exact List.mem_cons_self
    · exact List.mem_cons_of_mem _ (hs.drawn_allocated id hid)
  · intro serverId id h
    rw [hrooms] at h
    exact hold id (hs.held serverId id h).1 (hs.held serverId id h).2
  · rw [hrooms]; exact hs.apart
  · rw [haccepted]; exact hs.accepted_nodup
  · intro a ha
    rw [haccepted] at ha
    exact hold _ (hs.accepted_id a ha).1 (hs.accepted_id a ha).2

/-- A critical section that changes one room keeps the invariant if the room stays linked and
takes in at most the id drawn for it, which is then used up. -/
theorem Linked.change {s s' : RelaySystem} (hs : s.Linked) (serverId : ServerId)
    (used : Option ConnectionId) (hused : ∀ id, used = some id → id ∈ s.drawn)
    (hothers : ∀ serverId' ≠ serverId, roomAt s'.rooms serverId' = roomAt s.rooms serverId')
    (hroom : (roomAt s'.rooms serverId).Linked)
    (hpresented : AllPresented s'.accepted serverId (roomAt s'.rooms serverId))
    (hholds : ∀ id, (roomAt s'.rooms serverId).Holds id →
      (roomAt s.rooms serverId).Holds id ∨ used = some id)
    (hnext : s'.registry.nextConnectionId = s.registry.nextConnectionId)
    (hallocated : s'.allocated = s.allocated)
    (hdrawn : s'.drawn = used.elim s.drawn fun id => s.drawn.erase id)
    (haccepted : s'.accepted = s.accepted ∨ ∃ prelude registration,
      s'.accepted = (prelude, registration) :: s.accepted ∧ used = some registration.id) :
    s'.Linked := by
  have hsub : ∀ id ∈ s'.drawn, id ∈ s.drawn := by
    intro id hid
    rw [hdrawn] at hid
    cases used with
    | none => exact hid
    | some id' => exact List.mem_of_mem_erase hid
  have hgone : ∀ id, used = some id → id ∈ s'.allocated ∧ id ∉ s'.drawn := by
    rintro id rfl
    rw [hallocated, hdrawn]
    exact ⟨hs.drawn_allocated id (hused id rfl), hs.drawn_nodup.not_mem_erase⟩
  have hheld : ∀ serverId' id, (roomAt s'.rooms serverId').Holds id →
      (roomAt s.rooms serverId').Holds id ∨ (serverId' = serverId ∧ used = some id) := by
    intro serverId' id h
    by_cases hne : serverId' = serverId
    · subst hne
      exact (hholds id h).imp_right fun h => ⟨rfl, h⟩
    · exact Or.inl (hothers serverId' hne ▸ h)
  refine ⟨fun serverId' => ?_, fun serverId' => ?_, ?_, ?_, ?_, ?_, ?_, ?_, ?_, ?_⟩
  · by_cases hne : serverId' = serverId
    · exact hne ▸ hroom
    · exact (hothers serverId' hne).symm ▸ hs.room serverId'
  · by_cases hne : serverId' = serverId
    · exact hne ▸ hpresented
    · rw [hothers serverId' hne]
      intro d data hd
      refine (hs.presented serverId' d data hd).mono ?_
      rcases haccepted with h | ⟨prelude, registration, h, -⟩
      · rw [h]; exact List.Subset.refl _
      · rw [h]; exact List.subset_cons_self _ _
  · rw [hallocated, hnext]; exact hs.allocated_le
  · rw [hallocated]; exact hs.allocated_nodup
  · rw [hdrawn]
    cases used with
    | none => exact hs.drawn_nodup
    | some id => exact hs.drawn_nodup.erase id
  · intro id hid
    rw [hallocated]
    exact hs.drawn_allocated id (hsub id hid)
  · intro serverId' id h
    rcases hheld serverId' id h with h | ⟨-, h⟩
    · rw [hallocated]
      exact ⟨(hs.held serverId' id h).1, fun hid => (hs.held serverId' id h).2 (hsub id hid)⟩
    · exact hgone id h
  · intro server₁ server₂ id h₁ h₂
    rcases hheld server₁ id h₁ with h₁ | ⟨rfl, h₁⟩
    · rcases hheld server₂ id h₂ with h₂ | ⟨rfl, h₂⟩
      · exact hs.apart server₁ server₂ id h₁ h₂
      · exact absurd (hused id h₂) (hs.held server₁ id h₁).2
    · rcases hheld server₂ id h₂ with h₂ | ⟨rfl, h₂⟩
      · exact absurd (hused id h₁) (hs.held server₂ id h₂).2
      · rfl
  · rcases haccepted with h | ⟨prelude, registration, h, hid⟩
    · rw [h]; exact hs.accepted_nodup
    · rw [h]
      refine List.nodup_cons.mpr ⟨fun hmem => ?_, hs.accepted_nodup⟩
      obtain ⟨a, ha, hida⟩ := List.mem_map.mp hmem
      exact (hs.accepted_id a ha).2 (hida ▸ hused _ hid)
  · intro a ha
    have hold : a ∈ s.accepted → a.2.id ∈ s'.allocated ∧ a.2.id ∉ s'.drawn := fun ha =>
      ⟨hallocated ▸ (hs.accepted_id a ha).1, fun h => (hs.accepted_id a ha).2 (hsub _ h)⟩
    rcases haccepted with h | ⟨prelude, registration, h, hid⟩
    · exact hold (h ▸ ha)
    · rcases List.mem_cons.mp (h ▸ ha) with rfl | ha
      · exact hgone _ hid
      · exact hold ha

/-- **Every critical section keeps the pairing invariant.** -/
theorem linked_step {s s' : RelaySystem} {op : RelayOp} (hs : s.Linked)
    (h : s.step op = some s') : s'.Linked := by
  rcases step_cases h with ⟨hrooms, -, haccepted, hnext, hdrawn, hallocated⟩ |
    ⟨hnext, hallocated, effects, -, ⟨⟨serverId, hsteps, hothers⟩, hdrawn, haccepted⟩ |
      ⟨id, hid, hdrawn, ⟨fresh', ⟨serverId, hsteps, hothers⟩, haccepted⟩ |
        ⟨prelude, registration, ⟨room, room', sender, now, hroom, hpair, hrooms⟩, hprole,
          haccepted, rfl, hserver, hrole⟩⟩⟩
  · exact hs.draw hrooms hnext hdrawn hallocated haccepted
  · -- a critical section that registers nothing
    have hfresh : FreshLinked (none, roomAt s.rooms serverId) := ⟨hs.room serverId, nofun⟩
    obtain ⟨hlinked, hholds⟩ := linked_roomSteps hsteps hfresh
    refine hs.change serverId none nofun hothers hlinked.linked ?_ hholds hnext hallocated hdrawn
      (Or.inl haccepted)
    rw [haccepted]
    exact presented_roomSteps hsteps hfresh (hs.presented serverId)
  · -- a registration that pairs nothing
    have hfresh : FreshLinked (some id, roomAt s.rooms serverId) := by
      refine ⟨hs.room serverId, fun id' hid' h => ?_⟩
      obtain rfl := Option.some.inj hid'
      exact (hs.held serverId id h).2 hid
    obtain ⟨hlinked, hholds⟩ := linked_roomSteps hsteps hfresh
    have hpresented := presented_roomSteps hsteps hfresh (hs.presented serverId)
    refine hs.change serverId (some id) (fun _ h => Option.some.inj h ▸ hid) hothers
      hlinked.linked ?_ hholds hnext hallocated hdrawn ?_
    · rcases haccepted with h | ⟨prelude, registration, h, -⟩
      · rw [h]; exact hpresented
      · rw [h]
        exact fun d data hd => (hpresented d data hd).mono (List.subset_cons_self _ _)
    · exact haccepted.imp_right fun ⟨prelude, registration, h, h'⟩ =>
        ⟨prelude, registration, h, congrArg some h'.symm⟩
  · -- a data pipe and its client
    have hat := roomAt_of_lookup hroom
    have hlinked : room.Linked := hat ▸ hs.room prelude.serverId
    have hunheld : ¬ room.Holds registration.id := fun h =>
      (hs.held prelude.serverId _ (hat.symm ▸ h)).2 hid
    refine hs.change prelude.serverId (some registration.id)
      (fun _ h => Option.some.inj h ▸ hid) (fun serverId' hne => ?_) ?_ ?_ ?_ hnext hallocated
      hdrawn (Or.inr ⟨prelude, registration, haccepted, rfl⟩)
    · rw [hrooms, roomAt_insert_of_ne _ _ hne]
    · rw [hrooms, roomAt_insert_self]
      exact linked_registerDaemonData hlinked hunheld hpair
    · rw [hrooms, roomAt_insert_self, haccepted]
      exact presented_registerDaemonData hlinked (hat ▸ hs.presented prelude.serverId) hserver
        hrole hprole hpair
    · rw [hrooms, roomAt_insert_self, hat]
      exact holds_registerDaemonData hpair

theorem linked_of_reachable {s : RelaySystem} (h : s.Reachable) : s.Linked := by
  obtain ⟨ops, hops⟩ := h
  exact exec_induction (fun _ _ _ hs hstep => linked_step hs hstep) linked_init hops

/-- What a data pipe's frame is sent to is the client the pipe is paired with. -/
theorem forwardDaemonDataLookup_eq_send {rooms : Rooms} {registration : ConnectionRegistration}
    {c : ConnectionId} {sender : FrameSender}
    (h : RelayRegistry.forwardDaemonDataLookup rooms registration = .send c sender) :
    ∃ room data client, rooms.lookup registration.serverId = some room ∧
      room.daemonData.lookup registration.id = some data ∧ data.pairedClientId = some c ∧
      room.clients.lookup c = some client ∧ client.sender = sender := by
  unfold RelayRegistry.forwardDaemonDataLookup at h
  cases hroom : rooms.lookup registration.serverId with
  | none => simp [hroom] at h
  | some room =>
    simp only [hroom] at h
    cases hdata : room.daemonData.lookup registration.id with
    | none => simp [hdata] at h
    | some data =>
      simp only [hdata] at h
      cases hpaired : data.pairedClientId with
      | none => simp [hpaired] at h
      | some c' =>
        simp only [hpaired] at h
        cases hclient : room.clients.lookup c' with
        | none => simp [hclient] at h
        | some client =>
          simp only [hclient] at h
          split_ifs at h
          obtain ⟨rfl, rfl⟩ : _ ∧ _ := by simpa using h
          exact ⟨room, data, client, rfl, hdata, hpaired, hclient, rfl⟩

/-- **Pairing in every reachable state.** In every room pairing is a bijection between paired
clients and data pipes, and a room without a control line is empty. A connection id has one role
in one room, and every id is drawn once and registered once. A frame of a data pipe goes to the
one client whose token the pipe presented, under the generation of the current control line. -/
theorem pairing_of_reachable {s : RelaySystem} (h : s.Reachable) :
    (∀ serverId room, s.rooms.lookup serverId = some room →
      (∀ d data, room.daemonData.lookup d = some data →
        ∃ c client, data.pairedClientId = some c ∧ room.clients.lookup c = some client ∧
          client.pairedDaemonDataId = some d) ∧
      (∀ c client d, room.clients.lookup c = some client → client.pairedDaemonDataId = some d →
        ∃ data, room.daemonData.lookup d = some data ∧ data.pairedClientId = some c) ∧
      (room.daemonControl = none →
        room.clients = ∅ ∧ room.daemonData = ∅ ∧ room.routeGeneration = none)) ∧
    (∀ serverId serverId' room room' role role' id, s.rooms.lookup serverId = some room →
      s.rooms.lookup serverId' = some room' → room.HoldsAs role id → room'.HoldsAs role' id →
      serverId = serverId' ∧ role = role') ∧
    s.allocated.Nodup ∧ (s.accepted.map fun a => a.2.id).Nodup ∧
    ∀ registration c sender,
      RelayRegistry.forwardDaemonDataLookup s.rooms registration = .send c sender →
      ∃ room client prelude accepted token,
        s.rooms.lookup registration.serverId = some room ∧
        room.clients.lookup c = some client ∧ client.sender = sender ∧
        (prelude, accepted) ∈ s.accepted ∧ accepted.id = registration.id ∧
        accepted.serverId = registration.serverId ∧ accepted.role = .daemonData ∧
        prelude.clientId = some ⟨c⟩ ∧ prelude.dataToken = some token ∧
        client.dataToken = some token ∧ room.routeGeneration ≠ none ∧
        prelude.routeGeneration = room.routeGeneration := by
  have hs := linked_of_reachable h
  refine ⟨fun serverId room hroom => ?_, ?_, hs.allocated_nodup, hs.accepted_nodup, ?_⟩
  · have hlinked : room.Linked := roomAt_of_lookup hroom ▸ hs.room serverId
    exact ⟨hlinked.data_client, hlinked.client_data, hlinked.offline⟩
  · intro serverId serverId' room room' role role' id hroom hroom' hrole hrole'
    obtain rfl : serverId = serverId' := by
      refine hs.apart serverId serverId' id ?_ ?_
      · exact (roomAt_of_lookup hroom).symm ▸ hrole.holds
      · exact (roomAt_of_lookup hroom').symm ▸ hrole'.holds
    have hlinked : room.Linked := roomAt_of_lookup hroom ▸ hs.room serverId
    obtain rfl : room = room' := Option.some.inj (hroom.symm.trans hroom')
    exact ⟨rfl, hlinked.role_eq hrole hrole'⟩
  · intro registration c sender hsend
    obtain ⟨room, data, client, hroom, hdata, hpaired, hclient, hsender⟩ :=
      forwardDaemonDataLookup_eq_send hsend
    have hpresented := hs.presented registration.serverId
    rw [roomAt_of_lookup hroom] at hpresented
    obtain ⟨prelude, accepted, c', client', token, hmem, hid, hserver, hrole, -, -, hpaired',
      hclient', hpc, hpt, htoken, hne, hgeneration⟩ := hpresented registration.id data hdata
    obtain rfl : c = c' := Option.some.inj (hpaired.symm.trans hpaired')
    obtain rfl : client = client' := Option.some.inj (hclient.symm.trans hclient')
    exact ⟨room, client, prelude, accepted, token, hroom, hclient, hsender, hmem, hid, hserver,
      hrole, hpc, hpt, htoken, hne, hgeneration⟩

/-- A daemon comes online, a client enters, and the data pipe dialled back for it is accepted. -/
def dialBack : List RelayOp :=
  let generation : Nonce := ⟨"generation"⟩
  let prelude (role : RouteRole) (connectionRole : ConnectionRole) : RoutePrelude :=
    { serverId := ⟨7⟩, routeRole := role, connectionRole := connectionRole, admission := none,
      routeGeneration := some generation, clientId := none, dataToken := none }
  let register (id : ConnectionId) (prelude : RoutePrelude) : RelayOp :=
    .register id prelude ⟨id⟩ .terminal none "uuid" 0 fun _ => .ok
  [.draw, register 1 (prelude .daemonControl .daemonControl),
    .draw, register 2 (prelude .client .client),
    .draw, register 3 { prelude .daemonData .daemonData with
      clientId := some ⟨2⟩, dataToken := some (RelayRoom.clientDataToken "uuid" 2) }]

/-- The state after `dialBack`. -/
def dialledBack : RelaySystem := (exec step {} dialBack).getD {}

theorem dialledBack_delivers : dialledBack.Reachable ∧
    RelayRegistry.forwardDaemonDataLookup dialledBack.rooms
      ⟨⟨7⟩, .daemonData, 3, none, none⟩ = .send 2 ⟨2⟩ ∧
    ∃ room client, dialledBack.rooms.lookup ⟨7⟩ = some room ∧
      room.clients.lookup 2 = some client ∧ client.dataToken ≠ none := by
  have hreachable : dialledBack.Reachable := ⟨dialBack, rfl⟩
  have hsend : RelayRegistry.forwardDaemonDataLookup dialledBack.rooms
      ⟨⟨7⟩, .daemonData, 3, none, none⟩ = .send 2 ⟨2⟩ := by decide +kernel
  obtain ⟨room, client, -, -, token, hroom, hclient, -, -, -, -, -, -, -, htoken, -⟩ :=
    (pairing_of_reachable hreachable).2.2.2.2 _ _ _ hsend
  exact ⟨hreachable, hsend, room, client, hroom, hclient, by simp [htoken]⟩

end RelaySystem

end Termd.Relay
