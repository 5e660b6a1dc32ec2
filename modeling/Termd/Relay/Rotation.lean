import Termd.Relay.Admission
import Termd.Relay.Pairing

/-!
# Rotation of a daemon's token

A daemon connection is checked against the admission table and then registered in its room, under
two different locks. The rotation of a token writes the admission table and then closes the room,
under the same two locks. `RelayState` interleaves any number of binding connections and of
rotations with all other operations of the registry.

A connection that was admitted with the old token and registers after the room was closed keeps
its place. When no such connection is under way as the rotation closes the room, the old token is
gone: nothing admitted with it is in the room, and nothing will be.

## Main definitions

* `RelayState.step`: bindings, rotations and the other critical sections
* `RelayState.InFlight`: a connection is admitted with a token and not yet registered
* `RelayState.Evicted`: no daemon endpoint of a room was admitted with a token

## Main results

* `RelayState.evicted_of_rotation`: a rotation that closes the room while no connection of the
  old token is under way evicts the old token for good
* `RelayState.raced_rotation_keeps_old_token`: a run in which the old token stays
-/

namespace Termd.Relay

/-- The prelude of a registration. -/
def RelayOp.registered : RelayOp → Option RoutePrelude
  | .register _ prelude _ _ _ _ _ _ => some prelude
  | _ => none

namespace RelaySystem

/-- A critical section accepts at most the registration it makes, under an id drawn for it. -/
theorem accepted_step {s s' : RelaySystem} {op : RelayOp} (h : s.step op = some s') :
    s'.accepted = s.accepted ∨
      ∃ prelude registration, op.registered = some prelude ∧
        registration.serverId = prelude.serverId ∧
        s'.accepted = (prelude, registration) :: s.accepted := by
  cases op with
  | register id prelude sender routeKind accessToken uuid now control =>
    simp only [step] at h
    split_ifs at h with hid
    obtain rfl := Option.some.inj h
    cases hok : (RelayRegistry.registerTransport s.rooms id prelude sender routeKind accessToken
        uuid now control).2.1 with
    | error error => exact Or.inl rfl
    | ok registration =>
      exact Or.inr ⟨prelude, registration, rfl, (registerTransport_eq_ok hok).2.1, rfl⟩
  | takePrePairClientFrames registration clientId =>
    simp only [step] at h
    split at h
    · obtain rfl := Option.some.inj h
      exact Or.inl rfl
    · obtain rfl := Option.some.inj h
      exact Or.inl rfl
  | _ =>
    obtain rfl := Option.some.inj h
    exact Or.inl rfl

/-- What a critical section lets into a room has an id that was drawn and not used. -/
theorem holds_step {s s' : RelaySystem} {op : RelayOp} (hs : s.Linked) (h : s.step op = some s')
    {serverId : ServerId} {id : ConnectionId} (hh : (roomAt s'.rooms serverId).Holds id) :
    (roomAt s.rooms serverId).Holds id ∨ id ∈ s.drawn := by
  have hsection : ∀ fresh fresh' effects, (∀ id, fresh = some id → id ∈ s.drawn) →
      RoomSection s.rooms s'.rooms fresh fresh' effects →
      (roomAt s.rooms serverId).Holds id ∨ id ∈ s.drawn := by
    rintro fresh fresh' effects hfresh ⟨server, hsteps, hothers⟩
    by_cases hne : serverId = server
    · subst hne
      have hlinked : FreshLinked (fresh, roomAt s.rooms serverId) :=
        ⟨hs.room serverId, fun id hid hh => (hs.held serverId id hh).2 (hfresh id hid)⟩
      exact ((linked_roomSteps hsteps hlinked).2 id hh).imp_right (hfresh id)
    · exact Or.inl (hothers serverId hne ▸ hh)
  rcases step_cases h with ⟨hrooms, -⟩ | ⟨-, -, effects, -, ⟨hsec, -⟩ |
    ⟨fresh, hid, -, ⟨fresh', hsec, -⟩ | ⟨prelude, registration, hpairing, -⟩⟩⟩
  · exact Or.inl (hrooms ▸ hh)
  · exact hsection none none effects nofun hsec
  · exact hsection (some fresh) fresh' effects (fun _ h => Option.some.inj h ▸ hid) hsec
  · obtain ⟨room, room', sender, now, hroom, hpair, hrooms⟩ := hpairing
    by_cases hne : serverId = prelude.serverId
    · rw [hrooms, hne, roomAt_insert_self] at hh
      rw [hne, roomAt_of_lookup hroom]
      rcases holds_registerDaemonData hpair id hh with hh | hid'
      · exact Or.inl hh
      · obtain rfl := Option.some.inj hid'
        exact Or.inr hid
    · rw [hrooms, roomAt_insert_of_ne _ _ hne] at hh
      exact Or.inl hh

/-- The connection `id` of a room was admitted with the daemon token `token`. -/
def AdmittedWith (s : RelaySystem) (serverId : ServerId) (id : ConnectionId) (token : String) :
    Prop :=
  ∃ prelude registration, (prelude, registration) ∈ s.accepted ∧
    registration.serverId = serverId ∧ registration.id = id ∧
    prelude.admission = some (.daemon token)

/-- No connection of the room was admitted with the token. -/
def Free (s : RelaySystem) (serverId : ServerId) (token : String) : Prop :=
  ∀ id, (roomAt s.rooms serverId).Holds id → ¬ s.AdmittedWith serverId id token

/-- A room stays free of a token unless a connection that presents it is registered. -/
theorem Free.step {s s' : RelaySystem} {op : RelayOp} {serverId : ServerId} {token : String}
    (hfree : s.Free serverId token) (hs : s.Linked) (h : s.step op = some s')
    (hop : ∀ prelude, op.registered = some prelude → prelude.serverId = serverId →
      prelude.admission ≠ some (.daemon token)) :
    s'.Free serverId token := by
  rintro id hh ⟨prelude, registration, hmem, hserver, hid, htoken⟩
  -- the record is an old one: a new one does not present the token
  have hold : (prelude, registration) ∈ s.accepted := by
    rcases accepted_step h with he | ⟨prelude', registration', hreg, hrserver, he⟩
    · exact he ▸ hmem
    · rcases List.mem_cons.mp (he ▸ hmem) with heq | hmem
      · obtain ⟨rfl, rfl⟩ := Prod.mk.inj heq
        exact absurd htoken (hop _ hreg (hrserver.symm.trans hserver))
      · exact hmem
  rcases holds_step hs h hh with hh | hdrawn
  · exact hfree id hh ⟨prelude, registration, hold, hserver, hid, htoken⟩
  · exact (hs.accepted_id _ hold).2 (hid.symm ▸ hdrawn)

end RelaySystem

/-- The critical sections beside bindings and rotations: no daemon registers in them, and a
client registers without a daemon token. -/
def RelayOp.IsOther (op : RelayOp) : Prop :=
  ∀ prelude, op.registered = some prelude →
    prelude.connectionRole = .client ∧ prelude.admission = none

instance : DecidablePred RelayOp.IsOther := fun op =>
  match h : op.registered with
  | none => isTrue fun prelude hop => by rw [h] at hop; cases hop
  | some prelude =>
    decidable_of_iff (prelude.connectionRole = .client ∧ prelude.admission = none)
      ⟨fun hp _ hop => Option.some.inj (h.symm.trans hop) ▸ hp, fun hop => hop prelude h⟩

/-- A connection in `bind_socket_route`, past its admission: the id of its registration is drawn
before the rooms are locked. -/
structure Binder where
  prelude : RoutePrelude
  id : Option ConnectionId
deriving DecidableEq

/-- The relay: the registry, the admission table, the connections between admission and
registration, and the rotations between the admission table and the room. -/
structure RelayState where
  system : RelaySystem := {}
  hashes : DaemonTokenHashes
  binders : FiniteMap ℕ Binder := ∅
  rotations : FiniteMap ℕ ServerId := ∅

inductive RelayStateOp
  | authorize (task : ℕ) (prelude : RoutePrelude)
  | draw (task : ℕ)
  | register (task : ℕ) (sender : FrameSender) (uuid : String) (now : Instant)
      (control : FrameSender → TrySend)
  | writeAdmission (task : ℕ) (serverId : ServerId) (daemonToken : String)
      (setupToken : Option String) (persisted : Bool)
  | closeServer (task : ℕ)
  | other (op : RelayOp)

namespace RelayState

section Steps

variable (sha256 : List UInt8 → List UInt8) (config : RelayConfig)

/-- One critical section of a binding, of a rotation, or of anything else. -/
def step (s : RelayState) : RelayStateOp → Option RelayState
  | .authorize task prelude =>
    if s.binders.lookup task = none then
      match authorizeRouteAdmission sha256 s.hashes prelude with
      | .error _ => some s
      | .ok () => some { s with binders := s.binders.insert task ⟨prelude, none⟩ }
    else none
  | .draw task =>
    match s.binders.lookup task with
    | some ⟨prelude, none⟩ =>
      (s.system.step .draw).map fun system =>
        { s with
          system := system
          binders := s.binders.insert task ⟨prelude, some system.registry.nextConnectionId⟩ }
    | _ => none
  | .register task sender uuid now control =>
    match s.binders.lookup task with
    | some ⟨prelude, some id⟩ =>
      (s.system.step (.register id prelude sender .legacy none uuid now control)).map
        fun system => { s with system := system, binders := s.binders.erase task }
    | _ => none
  | .writeAdmission task serverId daemonToken setupToken persisted =>
    if s.rotations.lookup task = none then
      match registerDaemonAdmission sha256 config s.hashes serverId daemonToken setupToken
          persisted with
      | .error _ => some s
      | .ok (hashes, replaced) =>
        some { s with
          hashes := hashes
          rotations := if replaced then s.rotations.insert task serverId else s.rotations }
    else none
  | .closeServer task =>
    match s.rotations.lookup task with
    | none => none
    | some serverId =>
      (s.system.step (.closeServer serverId)).map fun system =>
        { s with system := system, rotations := s.rotations.erase task }
  | .other op =>
    if op.IsOther then (s.system.step op).map fun system => { s with system := system } else none

end Steps

/-- A connection of the daemon is admitted with the token, and not yet registered. -/
def InFlight (s : RelayState) (serverId : ServerId) (token : String) : Prop :=
  ∃ task binder, s.binders.lookup task = some binder ∧ binder.prelude.serverId = serverId ∧
    binder.prelude.admission = some (.daemon token)

/-- No control line and no data pipe of the room was admitted with the token. -/
def Evicted (s : RelayState) (serverId : ServerId) (token : String) : Prop :=
  ∀ room, s.system.rooms.lookup serverId = some room →
    (∀ control, room.daemonControl = some control →
      ¬ s.system.AdmittedWith serverId control.id token) ∧
    ∀ d data, room.daemonData.lookup d = some data →
      ¬ s.system.AdmittedWith serverId data.id token

/-! ## What one step does -/

section StepLemmas

variable {sha256 : List UInt8 → List UInt8} {config : RelayConfig} {s s' : RelayState}
  {op : RelayStateOp}

/-- The registry takes a step, in which a daemon registers only out of a binding. -/
theorem system_step (h : s.step sha256 config op = some s') :
    s'.system = s.system ∨ ∃ op', s.system.step op' = some s'.system ∧
      ∀ prelude, op'.registered = some prelude →
        prelude.admission = none ∨ ∃ task binder, s.binders.lookup task = some binder ∧
          binder.prelude = prelude := by
  cases op with
  | authorize task prelude =>
    simp only [step] at h
    split_ifs at h
    split at h
    · obtain rfl := Option.some.inj h
      exact Or.inl rfl
    · obtain rfl := Option.some.inj h
      exact Or.inl rfl
  | draw task =>
    simp only [step] at h
    split at h
    · obtain ⟨system, hsystem, rfl⟩ := Option.map_eq_some_iff.mp h
      exact Or.inr ⟨.draw, hsystem, fun _ hop => absurd hop (Option.some_ne_none _).symm⟩
    · cases h
  | register task sender uuid now control =>
    simp only [step] at h
    split at h
    · rename_i prelude id hbinder
      obtain ⟨system, hsystem, rfl⟩ := Option.map_eq_some_iff.mp h
      refine Or.inr ⟨_, hsystem, ?_⟩
      intro prelude' hop
      exact Or.inr ⟨task, _, hbinder, Option.some.inj hop⟩
    · cases h
  | writeAdmission task serverId daemonToken setupToken persisted =>
    simp only [step] at h
    split_ifs at h
    split at h
    · obtain rfl := Option.some.inj h
      exact Or.inl rfl
    · obtain rfl := Option.some.inj h
      exact Or.inl rfl
  | closeServer task =>
    simp only [step] at h
    split at h
    · cases h
    · obtain ⟨system, hsystem, rfl⟩ := Option.map_eq_some_iff.mp h
      exact Or.inr ⟨_, hsystem, fun _ hop => absurd hop (Option.some_ne_none _).symm⟩
  | other op =>
    simp only [step] at h
    split_ifs at h with hother
    obtain ⟨system, hsystem, rfl⟩ := Option.map_eq_some_iff.mp h
    refine Or.inr ⟨op, hsystem, ?_⟩
    intro prelude hop
    exact Or.inl (hother prelude hop).2

theorem linked_system_step (hs : s.system.Linked) (h : s.step sha256 config op = some s') :
    s'.system.Linked := by
  rcases system_step h with he | ⟨op', hstep, -⟩
  · exact he ▸ hs
  · exact RelaySystem.linked_step hs hstep

/-- A connection is admitted only with a token whose hash is kept. -/
theorem inFlight_step (h : s.step sha256 config op = some s') {serverId : ServerId}
    {token : String} (hin : s'.InFlight serverId token) :
    s.InFlight serverId token ∨
      s.hashes.lookup serverId = some (relayDaemonTokenHash sha256 token) := by
  obtain ⟨task, binder, hbinder, hserver, htoken⟩ := hin
  have hsame : s'.binders = s.binders → s.InFlight serverId token := fun he =>
    ⟨task, binder, he ▸ hbinder, hserver, htoken⟩
  cases op with
  | authorize task' prelude =>
    simp only [step] at h
    split_ifs at h
    cases hok : authorizeRouteAdmission sha256 s.hashes prelude with
    | error error =>
      rw [hok] at h
      obtain rfl := Option.some.inj h
      exact Or.inl (hsame rfl)
    | ok _ =>
      rw [hok] at h
      obtain rfl := Option.some.inj h
      rcases FiniteMap.lookup_insert_eq_some.mp hbinder with ⟨-, rfl⟩ | ⟨-, hold⟩
      · obtain ⟨-, token', htoken', hhash⟩ := authorizeRouteAdmission_eq_ok hok
        rw [htoken] at htoken'
        obtain rfl := RelayAdmissionPayload.daemon.inj (Option.some.inj htoken')
        exact Or.inr (hserver ▸ hhash)
      · exact Or.inl ⟨task, binder, hold, hserver, htoken⟩
  | draw task' =>
    simp only [step] at h
    split at h
    · rename_i prelude hfound
      obtain ⟨system, -, rfl⟩ := Option.map_eq_some_iff.mp h
      rcases FiniteMap.lookup_insert_eq_some.mp hbinder with ⟨-, rfl⟩ | ⟨-, hold⟩
      · exact Or.inl ⟨task', _, hfound, hserver, htoken⟩
      · exact Or.inl ⟨task, binder, hold, hserver, htoken⟩
    · cases h
  | register task' sender uuid now control =>
    simp only [step] at h
    split at h
    · obtain ⟨system, -, rfl⟩ := Option.map_eq_some_iff.mp h
      exact Or.inl ⟨task, binder, (FiniteMap.lookup_erase_eq_some.mp hbinder).2, hserver, htoken⟩
    · cases h
  | writeAdmission task serverId daemonToken setupToken persisted =>
    simp only [step] at h
    split_ifs at h
    split at h
    · obtain rfl := Option.some.inj h
      exact Or.inl (hsame rfl)
    · obtain rfl := Option.some.inj h
      exact Or.inl (hsame rfl)
  | closeServer task =>
    simp only [step] at h
    split at h
    · cases h
    · obtain ⟨system, -, rfl⟩ := Option.map_eq_some_iff.mp h
      exact Or.inl (hsame rfl)
  | other op =>
    simp only [step] at h
    split_ifs at h
    obtain ⟨system, -, rfl⟩ := Option.map_eq_some_iff.mp h
    exact Or.inl (hsame rfl)

/-- The hash of a daemon changes only when a token is registered for it. -/
theorem hashes_step (h : s.step sha256 config op = some s') (serverId : ServerId) :
    s'.hashes.lookup serverId = s.hashes.lookup serverId ∨
      ∃ task token setupToken persisted,
        op = .writeAdmission task serverId token setupToken persisted ∧
        s'.hashes.lookup serverId = some (relayDaemonTokenHash sha256 token) := by
  cases op with
  | writeAdmission task serverId' daemonToken setupToken persisted =>
    simp only [step] at h
    split_ifs at h
    split at h
    · obtain rfl := Option.some.inj h
      exact Or.inl rfl
    · rename_i hashes replaced hok
      obtain ⟨rfl, -⟩ := Prod.mk.inj (registerDaemonAdmission_eq_ok hok)
      obtain rfl := Option.some.inj h
      by_cases hne : serverId = serverId'
      · subst hne
        exact Or.inr ⟨task, daemonToken, setupToken, persisted, rfl, Finmap.lookup_insert _⟩
      · exact Or.inl (Finmap.lookup_insert_of_ne _ hne)
  | authorize task prelude =>
    simp only [step] at h
    split_ifs at h
    split at h
    · obtain rfl := Option.some.inj h
      exact Or.inl rfl
    · obtain rfl := Option.some.inj h
      exact Or.inl rfl
  | draw task =>
    simp only [step] at h
    split at h
    · obtain ⟨system, -, rfl⟩ := Option.map_eq_some_iff.mp h
      exact Or.inl rfl
    · cases h
  | register task sender uuid now control =>
    simp only [step] at h
    split at h
    · obtain ⟨system, -, rfl⟩ := Option.map_eq_some_iff.mp h
      exact Or.inl rfl
    · cases h
  | closeServer task =>
    simp only [step] at h
    split at h
    · cases h
    · obtain ⟨system, -, rfl⟩ := Option.map_eq_some_iff.mp h
      exact Or.inl rfl
  | other op =>
    simp only [step] at h
    split_ifs at h
    obtain ⟨system, -, rfl⟩ := Option.map_eq_some_iff.mp h
    exact Or.inl rfl

/-- A rotation that has written the admission table is under way until it closes its room. -/
theorem rotations_step (h : s.step sha256 config op = some s') {task : ℕ} {serverId : ServerId}
    (hrotation : s.rotations.lookup task = some serverId) (hop : op ≠ .closeServer task) :
    s'.rotations.lookup task = some serverId := by
  cases op with
  | writeAdmission task' serverId' daemonToken setupToken persisted =>
    simp only [step] at h
    split_ifs at h with hfree
    split at h
    · obtain rfl := Option.some.inj h
      exact hrotation
    · obtain rfl := Option.some.inj h
      have hne : task ≠ task' := by
        rintro rfl
        rw [hfree] at hrotation
        cases hrotation
      dsimp only
      split_ifs
      · exact (Finmap.lookup_insert_of_ne _ hne).trans hrotation
      · exact hrotation
  | closeServer task' =>
    simp only [step] at h
    split at h
    · cases h
    · obtain ⟨system, -, rfl⟩ := Option.map_eq_some_iff.mp h
      have hne : task ≠ task' := fun he => hop (he ▸ rfl)
      exact (Finmap.lookup_erase_ne hne).trans hrotation
  | authorize task' prelude =>
    simp only [step] at h
    split_ifs at h
    split at h
    · obtain rfl := Option.some.inj h
      exact hrotation
    · obtain rfl := Option.some.inj h
      exact hrotation
  | draw task' =>
    simp only [step] at h
    split at h
    · obtain ⟨system, -, rfl⟩ := Option.map_eq_some_iff.mp h
      exact hrotation
    · cases h
  | register task' sender uuid now control =>
    simp only [step] at h
    split at h
    · obtain ⟨system, -, rfl⟩ := Option.map_eq_some_iff.mp h
      exact hrotation
    · cases h
  | other op =>
    simp only [step] at h
    split_ifs at h
    obtain ⟨system, -, rfl⟩ := Option.map_eq_some_iff.mp h
    exact hrotation

end StepLemmas

/-! ## The old token is gone -/

section Rotation

variable {sha256 : List UInt8 → List UInt8} {config : RelayConfig} {serverId : ServerId}
  {token : String}

/-- The operation registers this token for the daemon. -/
def Registers (serverId : ServerId) (token : String) (op : RelayStateOp) : Prop :=
  ∃ task setupToken persisted, op = .writeAdmission task serverId token setupToken persisted

/-- The token is not the daemon's any more. -/
structure Replaced (sha256 : List UInt8 → List UInt8) (serverId : ServerId) (token : String)
    (s : RelayState) : Prop where
  linked : s.system.Linked
  hash : s.hashes.lookup serverId ≠ some (relayDaemonTokenHash sha256 token)

/-- Nothing of the token is left: it is not the daemon's any more, no connection admitted with it
is under way, and none is in the room. -/
structure Gone (sha256 : List UInt8 → List UInt8) (serverId : ServerId) (token : String)
    (s : RelayState) : Prop extends Replaced sha256 serverId token s where
  landed : ¬ s.InFlight serverId token
  free : s.system.Free serverId token

theorem Gone.evicted {s : RelayState} (hs : Gone sha256 serverId token s) :
    s.Evicted serverId token := by
  intro room hroom
  have hat := roomAt_of_lookup hroom
  have hlinked : room.Linked := hat ▸ hs.linked.room serverId
  refine ⟨fun control hc => hs.free _ (hat.symm ▸ Or.inl ⟨control, hc, rfl⟩), fun d data hd => ?_⟩
  rw [hlinked.data_id d data hd]
  exact hs.free _ (hat.symm ▸ Or.inr (Or.inl (Finmap.mem_of_lookup_eq_some hd)))

section NoCollision

variable (hcollision : ∀ token', sha256 (utf8Bytes token') = sha256 (utf8Bytes token) →
  token' = token)

include hcollision

theorem Replaced.step {s s' : RelayState} {op : RelayStateOp}
    (hs : Replaced sha256 serverId token s) (hop : ¬ Registers serverId token op)
    (h : s.step sha256 config op = some s') : Replaced sha256 serverId token s' := by
  refine ⟨linked_system_step hs.linked h, fun hhash => ?_⟩
  rcases hashes_step h serverId with he | ⟨task, token', setupToken, persisted, rfl, he⟩
  · exact hs.hash (he ▸ hhash)
  · rw [he, Option.some.injEq] at hhash
    obtain rfl := hcollision token' (relayDaemonTokenHash_inj hhash)
    exact hop ⟨task, setupToken, persisted, rfl⟩

/-- **Once the old token is gone it stays gone**, unless it is registered again. -/
theorem Gone.step {s s' : RelayState} {op : RelayStateOp} (hs : Gone sha256 serverId token s)
    (hop : ¬ Registers serverId token op) (h : s.step sha256 config op = some s') :
    Gone sha256 serverId token s' := by
  refine ⟨hs.toReplaced.step hcollision hop h, fun hin => ?_, ?_⟩
  · exact (inFlight_step h hin).elim hs.landed hs.hash
  · rcases system_step h with he | ⟨op', hstep, hreg⟩
    · exact he ▸ hs.free
    · refine hs.free.step hs.linked hstep fun prelude hprelude hserver htoken => ?_
      rcases hreg prelude hprelude with hnone | ⟨task, binder, hbinder, rfl⟩
      · rw [hnone] at htoken
        cases htoken
      · exact hs.landed ⟨task, binder, hbinder, hserver, htoken⟩

/-- **A rotation evicts the old token**, if no connection admitted with it is under way when the
rotation closes the room. The run registers `newToken` in place of another token, and closes the
room with the first closing step of the same call. Afterwards, as long as `token`, any other than
the new one, is not registered again, no daemon endpoint of the room was admitted with it. -/
theorem evicted_of_rotation {hashes : DaemonTokenHashes} {newToken : String}
    (hne : token ≠ newToken) {before mid after : List RelayStateOp} {task : ℕ}
    {setupToken : Option String} {persisted : Bool} {s₀ s₁ s₂ s₃ s : RelayState}
    (hbefore : exec (RelayState.step sha256 config) { hashes := hashes } before = some s₀)
    (hok : registerDaemonAdmission sha256 config s₀.hashes serverId newToken setupToken
      persisted = .ok (s₁.hashes, true))
    (hwrite : s₀.step sha256 config
      (.writeAdmission task serverId newToken setupToken persisted) = some s₁)
    (hmid : exec (RelayState.step sha256 config) s₁ mid = some s₂)
    (hfirst : RelayStateOp.closeServer task ∉ mid)
    (hclose : s₂.step sha256 config (.closeServer task) = some s₃)
    (hafter : exec (RelayState.step sha256 config) s₃ after = some s)
    (hkept : ∀ op ∈ mid ++ after, ¬ Registers serverId token op)
    (hlanded : ¬ s₂.InFlight serverId token) : s.Evicted serverId token := by
  have hlinked : s₀.system.Linked :=
    exec_induction (I := fun s => s.system.Linked) (fun _ _ _ hs h => linked_system_step hs h)
      RelaySystem.linked_init hbefore
  have hresult := registerDaemonAdmission_eq_ok hok
  -- the write replaces the token
  have h₁ : Replaced sha256 serverId token s₁ := by
    refine ⟨linked_system_step hlinked hwrite, fun hhash => ?_⟩
    rw [(Prod.mk.inj hresult).1, Finmap.lookup_insert, Option.some.injEq] at hhash
    exact hne (hcollision newToken (relayDaemonTokenHash_inj hhash)).symm
  have hrotation₁ : s₁.rotations.lookup task = some serverId := by
    simp only [RelayState.step, hok] at hwrite
    split_ifs at hwrite
    rw [← Option.some.inj hwrite]
    exact Finmap.lookup_insert _
  -- and it stays replaced until the room is closed
  have h₂ : Replaced sha256 serverId token s₂ ∧ s₂.rotations.lookup task = some serverId := by
    refine exec_induction_along (I := fun s => Replaced sha256 serverId token s ∧
        s.rotations.lookup task = some serverId)
      (P := fun _ op => ¬ Registers serverId token op ∧ op ≠ .closeServer task)
      ?_ ⟨h₁, hrotation₁⟩ (along_of_forall_mem ?_) hmid
    · exact fun s op s' hs hop h =>
        ⟨hs.1.step hcollision hop.1 h, rotations_step h hs.2 hop.2⟩
    · exact fun op hop _ => ⟨hkept op (List.mem_append_left _ hop), fun he => hfirst (he ▸ hop)⟩
  have h₃ : Gone sha256 serverId token s₃ := by
    refine ⟨h₂.1.step hcollision ?_ hclose, fun hin => ?_, ?_⟩
    · rintro ⟨_, _, _, he⟩
      cases he
    · exact (inFlight_step hclose hin).elim hlanded h₂.1.hash
    · -- the room is dropped with everything in it
      simp only [RelayState.step, h₂.2] at hclose
      obtain ⟨system, hsystem, rfl⟩ := Option.map_eq_some_iff.mp hclose
      obtain rfl := Option.some.inj hsystem
      intro id hh
      refine absurd hh ?_
      show ¬ (roomAt (RelayRegistry.closeServer s₂.system.rooms serverId).1 serverId).Holds id
      unfold RelayRegistry.closeServer
      cases hroom : s₂.system.rooms.lookup serverId with
      | none =>
        rw [roomAt, hroom]
        exact RelayRoom.not_holds_empty id
      | some room =>
        rw [roomAt_erase_self]
        exact RelayRoom.not_holds_empty id
  exact (exec_induction_along (P := fun _ op => ¬ Registers serverId token op)
    (fun _ _ _ hs hop h => Gone.step hcollision hs hop h) h₃
    (along_of_forall_mem fun op hop _ => hkept op (List.mem_append_right _ hop)) hafter).evicted

end NoCollision

end Rotation


/-! ## Two runs -/

def oldToken : String := "old-daemon-token"
def newToken : String := "new-daemon-token"

def oldDigest : List UInt8 :=
  [6, 130, 236, 6, 85, 215, 250, 63, 1, 160, 82, 218, 100, 138, 85, 60, 51, 23, 138, 6, 72,
    57, 77, 153, 34, 75, 181, 14, 14, 179, 177, 0]

def newDigest : List UInt8 :=
  [94, 139, 22, 77, 100, 237, 95, 199, 57, 91, 77, 177, 25, 109, 185, 62, 147, 217, 118, 19,
    229, 71, 140, 118, 175, 190, 115, 75, 78, 43, 199, 86]

/-- SHA-256 on the two tokens. On other inputs the result is longer than a digest. -/
def sampleSha256 (bytes : List UInt8) : List UInt8 :=
  if bytes = utf8Bytes oldToken then oldDigest
  else if bytes = utf8Bytes newToken then newDigest
  else bytes ++ List.replicate 33 0

theorem sampleSha256_no_collision (token : String)
    (h : sampleSha256 (utf8Bytes token) = sampleSha256 (utf8Bytes oldToken)) :
    token = oldToken := by
  have hold : sampleSha256 (utf8Bytes oldToken) = oldDigest := if_pos rfl
  rw [hold] at h
  unfold sampleSha256 at h
  split_ifs at h with h₁ h₂
  · exact utf8Bytes_inj.mp h₁
  · exact absurd h (by decide)
  · have hlength := congrArg List.length h
    simp [oldDigest] at hlength

def sampleConfig : RelayConfig where
  setupToken := some "setup-token"
  hasRegistryPath := true

/-- A control line presents a token. -/
def controlPrelude (token : String) : RoutePrelude where
  serverId := ⟨7⟩
  routeRole := .daemonControl
  connectionRole := .daemonControl
  admission := some (.daemon token)
  routeGeneration := some ⟨"generation"⟩
  clientId := none
  dataToken := none

/-- The relay knows the old token. -/
def sampleInit : RelayState where
  hashes := Finmap.insert ⟨7⟩ (relayDaemonTokenHash sampleSha256 oldToken) ∅

/-- The control line of the task binds. -/
def bindControl (task : ℕ) (token : String) : List RelayStateOp :=
  [.authorize task (controlPrelude token), .draw task,
    .register task ⟨task⟩ "uuid" 0 fun _ => .ok]

def rotateToken : RelayStateOp :=
  .writeAdmission 1 ⟨7⟩ newToken (some "setup-token") true

/-- The daemon is connected with the old token when it is rotated, and comes back with the new
one. -/
theorem rotation_evicts_old_token :
    ∃ s, exec (step sampleSha256 sampleConfig) sampleInit
        (bindControl 0 oldToken ++ rotateToken :: .closeServer 1 :: bindControl 2 newToken) =
          some s ∧
      (s.system.rooms.lookup ⟨7⟩).isSome ∧ s.Evicted ⟨7⟩ oldToken := by
  have hrun : ((exec (step sampleSha256 sampleConfig) sampleInit
      (bindControl 0 oldToken)).bind fun s₀ =>
      (s₀.step sampleSha256 sampleConfig rotateToken).bind fun s₁ =>
      (s₁.step sampleSha256 sampleConfig (.closeServer 1)).bind fun s₃ =>
      (exec (step sampleSha256 sampleConfig) s₃ (bindControl 2 newToken)).map fun s =>
        (decide (registerDaemonAdmission sampleSha256 sampleConfig s₀.hashes ⟨7⟩ newToken
          (some "setup-token") true = .ok (s₁.hashes, true)), s₁.binders,
          (s.system.rooms.lookup ⟨7⟩).isSome)) = some (true, ∅, true) := by
    decide +kernel
  obtain ⟨s₀, hbefore, hrun⟩ := Option.bind_eq_some_iff.mp hrun
  obtain ⟨s₁, hwrite, hrun⟩ := Option.bind_eq_some_iff.mp hrun
  obtain ⟨s₃, hclose, hrun⟩ := Option.bind_eq_some_iff.mp hrun
  obtain ⟨s, hafter, hrun⟩ := Option.map_eq_some_iff.mp hrun
  simp only [Prod.mk.injEq, decide_eq_true_eq] at hrun
  obtain ⟨hok, hbinders, hroom⟩ := hrun
  refine ⟨s, ?_, hroom, ?_⟩
  · rw [exec_append, hbefore, Option.bind_some, exec_cons, hwrite, Option.bind_some, exec_cons,
      hclose, Option.bind_some, hafter]
  · refine evicted_of_rotation sampleSha256_no_collision (by decide) hbefore hok hwrite
      (exec_nil s₁) List.not_mem_nil hclose hafter ?_ ?_
    · rintro op hop ⟨_, _, _, rfl⟩
      simp [bindControl] at hop
    · rintro ⟨task, binder, hbinder, -⟩
      rw [hbinders] at hbinder
      cases hbinder

/-- The control line is admitted with the old token before the rotation, and registers after it. -/
def racedRotation : List RelayStateOp :=
  [.authorize 0 (controlPrelude oldToken), rotateToken, .closeServer 1, .draw 0,
    .register 0 ⟨0⟩ "uuid" 0 fun _ => .ok]

/-- The rotation has returned, and the control line of the old token is in the room. -/
theorem raced_rotation_keeps_old_token :
    ∃ s, exec (step sampleSha256 sampleConfig) sampleInit racedRotation = some s ∧
      s.rotations = ∅ ∧ s.hashes.lookup ⟨7⟩ = some (relayDaemonTokenHash sampleSha256 newToken) ∧
      ¬ s.Evicted ⟨7⟩ oldToken := by
  have hend : ((exec (step sampleSha256 sampleConfig) sampleInit racedRotation).bind fun s =>
      (s.system.rooms.lookup ⟨7⟩).bind fun room => room.daemonControl.map fun control =>
        (control.id, s.system.accepted, s.rotations, s.hashes.lookup ⟨7⟩)) =
      some (1, [(controlPrelude oldToken,
        ⟨⟨7⟩, .daemonControl, 1, some ⟨"generation"⟩, none⟩)], ∅,
        some (relayDaemonTokenHash sampleSha256 newToken)) := by
    decide +kernel
  obtain ⟨s, hs, hend⟩ := Option.bind_eq_some_iff.mp hend
  obtain ⟨room, hroom, hend⟩ := Option.bind_eq_some_iff.mp hend
  obtain ⟨control, hcontrol, hend⟩ := Option.map_eq_some_iff.mp hend
  simp only [Prod.mk.injEq] at hend
  obtain ⟨hid, haccepted, hrotations, hhash⟩ := hend
  refine ⟨s, hs, hrotations, hhash, fun hevicted => ?_⟩
  refine (hevicted room hroom).1 control hcontrol ⟨controlPrelude oldToken,
    ⟨⟨7⟩, .daemonControl, 1, some ⟨"generation"⟩, none⟩, ?_, rfl, ?_, rfl⟩
  · rw [haccepted]
    exact List.mem_singleton_self _
  · exact hid.symm

end RelayState

end Termd.Relay
