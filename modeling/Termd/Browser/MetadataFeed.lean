import Termd.Browser.Metadata

/-!
# The metadata of the daemon and of the page

For each metadata socket the daemon runs a loop. It sends a snapshot of what it shows, waits until a
change is announced, looks at it again, and sends an update with the next revision if there is
something new. The loops of the server and of the relay do the same. A socket carries the messages
in their order, and none is lost before the socket is closed.

What the daemon shows is changed first and announced afterwards, and a loop may look at it in
between. The status of the host is taken anew each time, so it is an argument of every look.

## Main definitions

* `MetadataFeed`: the loop of one socket, and what it has sent that has not arrived
* `MetadataSystem`: the daemon, its loops and the page
* `MetadataSystem.step`: what the daemon, the network and the page do
* `MetadataSystem.Mirrors`: the page goes through what was shown, and ends where the daemon is

## Main results

* `V070Client.moves_of_step`: what an event other than a message can do to the sockets of the page
* `Follows`: the messages of a socket lead from what the page has to what the loop has
* `MetadataSystem.mirrors_of_run`: the two sides over every run
-/

namespace Termd.Browser.Metadata

variable {S H : Type*}

/-! ### The loops of the daemon -/

/-- The loop of `run_metadata_websocket` and of `run_relay_v070_metadata`. -/
structure MetadataFeed (S : Type*) where
  revision : ℕ := 1
  previous : S
  /-- The announcement that its receiver has seen. -/
  seen : ℕ
  /-- `changed` has returned, and the loop waits for the lock. -/
  woken : Bool := false
  ended : Bool := false
  /-- What has not arrived, and when it was sent: the number of changes before. -/
  sent : List (MetadataMessage S × ℕ)

/-- `u64::saturating_add` by one. -/
def saturatingSucc (revision : ℕ) : ℕ := min (revision + 1) (2 ^ 64 - 1)

/-- The daemon, its loops, and the page; `past` and `reads` are only recorded. -/
structure MetadataSystem (S H : Type*) where
  /-- What `v070_metadata_payload` shows, but for the status of the host. -/
  current : S
  /-- The announcements of `v070_metadata_signal`. -/
  version : ℕ := 0
  /-- What is shown was announced. -/
  announced : Bool := true
  feeds : ℕ → Option (MetadataFeed (S × H)) := fun _ => none
  client : V070Client (S × H) := {}
  /-- What was shown before. -/
  past : List S := []
  /-- When the messages that the page has received were sent. -/
  reads : List ℕ := []

inductive FeedOp (S H : Type*)
  | change (state : S)
  /-- `notify_v070_metadata_changed`, and the notifications of the terminals -/
  | announce
  /-- The daemon has accepted a socket and sends the snapshot. -/
  | serve (id : ℕ) (host : H)
  | wake (id : ℕ)
  /-- The loop has the lock; without a status of the host there is no payload. -/
  | look (id : ℕ) (host : Option H)
  | pong (id : ℕ)
  /-- The socket is closed, or it fails. -/
  | endFeed (id : ℕ)
  | deliver (id : ℕ)
  /-- An event of the page that is not a message. -/
  | page (op : Op (S × H))

namespace MetadataSystem

variable (s : MetadataSystem S H)

def setFeed (id : ℕ) (feed : MetadataFeed (S × H)) : MetadataSystem S H :=
  { s with feeds := Function.update s.feeds id (some feed) }

def step [DecidableEq S] [DecidableEq H] (s : MetadataSystem S H) :
    FeedOp S H → Option (MetadataSystem S H)
  | .change state => some { s with
      current := state, past := s.past ++ [s.current], announced := false }
  | .announce => some { s with version := s.version + 1, announced := true }
  | .serve id host =>
    if id < s.client.nextOpening && (s.feeds id).isNone then
      let payload := (s.current, host)
      some (s.setFeed id {
        previous := payload
        seen := s.version
        sent := [({ kind := .snapshot, revision := some 1, state := payload }, s.past.length)] })
    else none
  | .wake id =>
    match s.feeds id with
    | none => none
    | some feed =>
      if feed.ended || feed.woken || feed.seen = s.version then none
      else some (s.setFeed id { feed with seen := s.version, woken := true })
  | .look id host =>
    match s.feeds id with
    | none => none
    | some feed =>
      if feed.ended || !feed.woken then none
      else match host with
      | none => some (s.setFeed id { feed with ended := true })
      | some host =>
        let current := (s.current, host)
        if current ≠ feed.previous then
          let revision := saturatingSucc feed.revision
          some (s.setFeed id { feed with
            revision := revision
            previous := current
            woken := false
            sent := feed.sent ++
              [({ kind := .update, revision := some revision, state := current }, s.past.length)] })
        else some (s.setFeed id { feed with woken := false })
  | .pong id =>
    match s.feeds id with
    | none => none
    | some feed =>
      if feed.ended || feed.woken then none
      else some (s.setFeed id { feed with
        -- a pong has no state, and the page looks for none
        sent := feed.sent ++ [({ kind := .pong, state := feed.previous }, s.past.length)] })
  | .endFeed id => (s.feeds id).map fun feed => s.setFeed id { feed with ended := true }
  | .deliver id =>
    match s.feeds id with
    | none => none
    | some feed =>
      match feed.sent with
      | [] => none
      | (m, time) :: sent =>
        if s.client.metadata = some ⟨id, true⟩ then
          (s.client.step (.message m)).map fun client => { s.setFeed id { feed with sent } with
            client := client, reads := s.reads ++ [time] }
        else none
  | .page op =>
    match op with
    | .message _ => none
    | op => (s.client.step op).map fun client => { s with client }

/-! ### What is claimed -/

/-- The page goes through what was shown, and never back; when everything that was sent has arrived
and what is shown was announced and looked at, the page has it. -/
structure Mirrors : Prop where
  shown : List.Forall₂ (fun m time => m.kind = .pong ∨
    (s.past ++ [s.current])[time]? = some m.state.1) s.client.received s.reads
  forward : s.reads.Pairwise (· ≤ ·)
  arrived : ∀ id feed, s.client.metadata = some ⟨id, true⟩ → s.feeds id = some feed →
    feed.ended = false → feed.sent = [] → feed.seen = s.version → feed.woken = false →
    s.announced = true → (feed.revision : ℤ) ≤ maxSafeInteger →
    ∃ host, s.client.metadataState = some (s.current, host) ∧
      s.client.metadataRevision = some feed.revision

end MetadataSystem

/-! ### The sockets of the page -/

namespace V070Client

variable (s : V070Client S)

/-- What the next update has to follow. -/
def latest : Option (ℕ × S) :=
  s.metadataRevision.bind fun revision => s.metadataState.map fun state => (revision, state)

/-- One opening can still become the socket, and none while there is one that is open. -/
structure Held : Prop where
  current : ∀ o ∈ s.openings, o.generation = s.metadataGeneration → s.metadataOpen = some o.id
  past : ∀ o ∈ s.openings, o.generation ≤ s.metadataGeneration
  reconnect : ∀ o ∈ s.openings, o.reconnect.isSome = true →
    o.generation = s.metadataGeneration ∨ s.isClosed = true
  closed : s.isClosed = true → s.metadataOpen = none ∧ s.metadata = none
  single : ∀ id, s.metadata = some ⟨id, true⟩ → s.metadataOpen = none
  timer : s.metadataReconnectTimer.isSome = true → s.metadataState = none

/-- What an event can do: the socket stays or is left, the page forgets what it has only with its
socket, and what is opened is new. -/
structure Moves (s t : V070Client S) : Prop where
  attached : ∀ id, t.metadata = some ⟨id, true⟩ → s.metadata = some ⟨id, true⟩
  latest : t.latest = s.latest ∨ t.latest = none ∧ ∀ id, t.metadata ≠ some ⟨id, true⟩
  pending : ∀ id, t.metadataOpen = some id → s.metadataOpen = some id ∨ s.nextOpening ≤ id
  next : s.nextOpening ≤ t.nextOpening
  received : t.received = s.received

variable {s} {t u : V070Client S}

theorem Held.initial : Held ({} : V070Client S) where
  current := by simp
  past := by simp
  reconnect := by simp
  closed := by simp
  single := by simp
  timer := by simp

theorem Moves.refl : Moves s s :=
  ⟨fun _ h => h, .inl rfl, fun _ h => .inl h, Nat.le_refl _, rfl⟩

theorem Moves.of_eq
    (heq : (t.metadata, t.latest, t.metadataOpen, t.nextOpening, t.received) =
      (s.metadata, s.latest, s.metadataOpen, s.nextOpening, s.received)) : Moves s t := by
  simp only [Prod.mk.injEq] at heq
  obtain ⟨hsocket, hlatest, hopen, hnext, hreceived⟩ := heq
  exact ⟨fun _ hm => hsocket ▸ hm, .inl hlatest, fun _ hm => .inl (hopen ▸ hm),
    Nat.le_of_eq hnext.symm, hreceived⟩

theorem Moves.trans (h : Moves s t) (h' : Moves t u) : Moves s u where
  attached := fun id hid => h.attached id (h'.attached id hid)
  latest := by
    rcases h'.latest with heq | hleft
    · rcases h.latest with heq' | ⟨hnone, hfree⟩
      · exact .inl (heq.trans heq')
      · exact .inr ⟨heq.trans hnone, fun id hid => hfree id (h'.attached id hid)⟩
    · exact .inr hleft
  pending := by
    intro id hid
    rcases h'.pending id hid with hid | hle
    · exact h.pending id hid
    · exact .inr (Nat.le_trans h.next hle)
  next := Nat.le_trans h.next h'.next
  received := h'.received.trans h.received

/-- No opening waits with a reconnect when none is noted. -/
theorem Slots.reconnect_eq_none (h : s.Slots) (hresync : s.metadataResync = none) :
    ∀ o ∈ s.openings, o.reconnect = none := by
  intro o ho
  by_contra hsome
  have hmem : o.id ∈ s.metadataResync.toList := by
    rw [← h.resync]
    exact List.mem_map_of_mem
      (List.mem_filter.mpr ⟨ho, Option.isSome_iff_ne_none.mpr hsome⟩)
  rw [hresync] at hmem
  cases hmem

/-- A client with an open socket has no reconnect under way. -/
theorem Held.resync_eq_none (h : s.Held) (hslots : s.Slots) {id : ℕ}
    (hid : s.metadata = some ⟨id, true⟩) : s.metadataResync = none := by
  by_contra hresync
  obtain ⟨id', hid'⟩ := Option.ne_none_iff_exists'.mp hresync
  have hmem : id' ∈ (s.openings.filter fun o => o.reconnect.isSome).map MetadataOpening.id := by
    rw [hslots.resync, hid']
    exact List.mem_singleton_self id'
  obtain ⟨o, ho, -⟩ := List.mem_map.mp hmem
  obtain ⟨ho, hsome⟩ := List.mem_filter.mp ho
  rcases h.reconnect o ho hsome with hgeneration | hclosed
  · cases (h.current o ho hgeneration).symm.trans (h.single id hid)
  · cases (h.closed hclosed).2.symm.trans hid

theorem Held.map (h : s.Held) {wait : MetadataOpening → MetadataOpening}
    (hid : ∀ o, (wait o).id = o.id) (hgeneration : ∀ o, (wait o).generation = o.generation)
    (hreconnect : ∀ o, (wait o).reconnect = o.reconnect) :
    Held { s with openings := s.openings.map wait } := by
  refine ⟨?_, ?_, ?_, h.closed, h.single, h.timer⟩
  · intro o ho hcurrent
    obtain ⟨o, hmem, rfl⟩ := List.mem_map.mp ho
    rw [hid]
    exact h.current o hmem (hgeneration o ▸ hcurrent)
  · intro o ho
    obtain ⟨o, hmem, rfl⟩ := List.mem_map.mp ho
    rw [hgeneration]
    exact h.past o hmem
  · intro o ho hsome
    obtain ⟨o, hmem, rfl⟩ := List.mem_map.mp ho
    rw [hgeneration]
    exact h.reconnect o hmem (hreconnect o ▸ hsome)

theorem Held.openMetadata (h : s.Held) (hopen : s.isClosed = false)
    (hfree : ∀ id, s.metadata ≠ some ⟨id, true⟩) (wait : MetadataOpening → MetadataOpening)
    (hid : ∀ o, (wait o).id = o.id) (hgeneration : ∀ o, (wait o).generation = o.generation)
    (hreconnect : s.metadataOpen = none ∨ ∀ o, (wait o).reconnect = o.reconnect) :
    (s.openMetadata wait).Held ∧ Moves s (s.openMetadata wait) := by
  unfold V070Client.openMetadata
  split
  · rename_i id hsome
    have hwait : ∀ o, (wait o).reconnect = o.reconnect := by
      rcases hreconnect with hnone | hwait
      · cases hsome.symm.trans hnone
      · exact hwait
    refine ⟨h.map (fun o => ?_) (fun o => ?_) (fun o => ?_), .of_eq rfl⟩
    · split
      · exact hid o
      · rfl
    · split
      · exact hgeneration o
      · rfl
    · split
      · exact hwait o
      · rfl
  · rename_i hnone
    have hnew : ∀ o ∈ s.openings ++
          [wait { id := s.nextOpening, generation := s.metadataGeneration }],
        o ∈ s.openings ∨ o.id = s.nextOpening ∧ o.generation = s.metadataGeneration := by
      intro o ho
      rcases List.mem_append.mp ho with ho | ho
      · exact .inl ho
      · obtain rfl := List.mem_singleton.mp ho
        exact .inr ⟨hid _, hgeneration _⟩
    refine ⟨⟨?_, ?_, ?_, ?_, ?_, h.timer⟩, ⟨fun _ hm => hm, .inl rfl, ?_, Nat.le_succ _, rfl⟩⟩
    · intro o ho hcurrent
      rcases hnew o ho with ho | ⟨ho, -⟩
      · cases hnone.symm.trans (h.current o ho hcurrent)
      · exact congrArg some ho.symm
    · intro o ho
      rcases hnew o ho with ho | ⟨-, ho⟩
      · exact h.past o ho
      · exact Nat.le_of_eq ho
    · intro o ho hsome
      rcases hnew o ho with ho | ⟨-, ho⟩
      · exact h.reconnect o ho hsome
      · exact .inl ho
    · intro hclosed
      cases hopen.symm.trans hclosed
    · intro id hid
      exact absurd hid (hfree id)
    · intro id hid
      obtain rfl := Option.some.inj hid
      exact .inr (Nat.le_refl _)

/-- What holds of a client holds of one that differs in other fields. -/
theorem Held.congr (h : s.Held)
    (heq : (t.openings, t.metadataGeneration, t.metadataOpen, t.isClosed, t.metadata) =
      (s.openings, s.metadataGeneration, s.metadataOpen, s.isClosed, s.metadata))
    (htimer : t.metadataReconnectTimer.isSome = true → t.metadataState = none) : t.Held := by
  cases s
  cases t
  simp only [Prod.mk.injEq] at heq
  obtain ⟨rfl, rfl, rfl, rfl, rfl⟩ := heq
  exact ⟨h.current, h.past, h.reconnect, h.closed, h.single, htimer⟩

theorem Held.requestMetadataReconnect (h : s.Held) (hslots : s.Slots) :
    s.requestMetadataReconnect.Held ∧ Moves s s.requestMetadataReconnect ∧
      (s.isClosed = false → s.metadataResync = none → s.metadataReconnectTimer = none →
        s.requestMetadataReconnect.metadata = none) := by
  unfold V070Client.requestMetadataReconnect
  split
  · rename_i hclosed
    exact ⟨h, .refl, fun hopen => absurd (hopen.symm.trans hclosed) Bool.false_ne_true⟩
  · rename_i hopen
    rw [Bool.not_eq_true] at hopen
    split
    · rename_i hbusy
      refine ⟨h.congr rfl h.timer, .of_eq rfl, ?_⟩
      intro _ hresync htimer
      rw [hresync, htimer] at hbusy
      cases hbusy
    · rename_i hfree
      rw [Bool.or_eq_true, not_or, Bool.not_eq_true, Option.isSome_eq_false_iff,
        Option.isNone_iff_eq_none] at hfree
      have hbase : Held { s with
          metadataReconnectNeeded := false
          metadataConnectionGeneration := s.metadataConnectionGeneration + 1
          metadataGeneration := s.metadataGeneration + 1
          metadata := none
          metadataOpen := none } := by
        constructor
        case current =>
          intro o ho hgeneration
          have hle := h.past o ho
          exact absurd (hgeneration ▸ hle) (Nat.not_succ_le_self _)
        case past => exact fun o ho => Nat.le_succ_of_le (h.past o ho)
        case reconnect =>
          intro o ho hsome
          rw [hslots.reconnect_eq_none hfree.1 o ho] at hsome
          cases hsome
        case closed => exact fun _ => ⟨rfl, rfl⟩
        case single => exact fun _ _ => rfl
        case timer => exact h.timer
      obtain ⟨hheld, hmoves⟩ := hbase.openMetadata hopen (fun _ => nofun)
        (fun o => { o with reconnect := some (s.metadataConnectionGeneration + 1) })
        (fun _ => rfl) (fun _ => rfl) (.inl rfl)
      refine ⟨hheld.congr rfl hheld.timer, ⟨?_, .inl rfl, ?_, hmoves.next,
        hmoves.received⟩, fun _ _ _ => rfl⟩
      · intro id hid
        cases hmoves.attached id hid
      · intro id hid
        rcases hmoves.pending id hid with hold | hle
        · cases hold
        · exact .inr hle

/-- The client has nothing any more; the other fields do not matter for the sockets. -/
def forgotten (s : V070Client S) (generation : ℕ) (settled : List (ℕ × Option String))
    (waiters : List ℕ) : V070Client S :=
  { s with
    metadataConnectionGeneration := generation
    metadataConnected := false
    metadataState := none
    metadataRevision := none
    settled := settled
    metadataWaiters := waiters }

/-- A client that forgets what it has, and asks for a new socket, leaves the one it has. -/
theorem Held.forget (h : s.Held) (hslots : s.Slots) (hopen : s.isClosed = false) (generation : ℕ)
    (settled : List (ℕ × Option String)) (waiters : List ℕ) :
    (s.forgotten generation settled waiters).requestMetadataReconnect.Held ∧
      Moves s (s.forgotten generation settled waiters).requestMetadataReconnect := by
  have hforgotten : (s.forgotten generation settled waiters).Held :=
    h.congr rfl fun _ => rfl
  obtain ⟨hheld, hmoves, hleft⟩ := hforgotten.requestMetadataReconnect
    ⟨hslots.resync, hslots.ids, hslots.fresh, hslots.timer⟩
  refine ⟨hheld, hmoves.attached, ?_, hmoves.pending, hmoves.next, hmoves.received⟩
  have hnone : (s.forgotten generation settled waiters).requestMetadataReconnect.latest = none :=
    hmoves.latest.elim id And.left
  by_cases hlatest : s.latest = none
  · exact .inl (hnone.trans hlatest.symm)
  · refine .inr ⟨hnone, ?_⟩
    intro id hid
    have hattached : s.metadata = some ⟨id, true⟩ := hmoves.attached id hid
    have htimer : s.metadataReconnectTimer = none := by
      by_contra hsome
      have hstate := h.timer (Option.isSome_iff_ne_none.mpr hsome)
      exact hlatest (by simp [latest, hstate])
    rw [hleft hopen (h.resync_eq_none hslots hattached) htimer] at hid
    cases hid

theorem Held.scheduleMetadataReconnect (h : s.Held) (hstate : s.metadataState = none) :
    s.scheduleMetadataReconnect.Held ∧ Moves s s.scheduleMetadataReconnect := by
  unfold V070Client.scheduleMetadataReconnect
  split
  · exact ⟨h, .refl⟩
  · exact ⟨h.congr rfl fun _ => hstate, .of_eq rfl⟩

theorem Held.afterReconnect (h : s.Held) (generation : ℕ) (ok : Bool) :
    (s.afterReconnect generation ok).Held ∧ Moves s (s.afterReconnect generation ok) := by
  have hsame (connected needed : Bool) :
      Moves s { s with metadataConnected := connected, metadataReconnectNeeded := needed } :=
    .of_eq rfl
  have hschedule (connected : Bool) (hstate : s.metadataState = none) :
      (V070Client.scheduleMetadataReconnect { s with
        metadataConnected := connected, metadataReconnectNeeded := true }).Held ∧
      Moves s (V070Client.scheduleMetadataReconnect { s with
        metadataConnected := connected, metadataReconnectNeeded := true }) := by
    have hheld : Held { s with metadataConnected := connected, metadataReconnectNeeded := true } :=
      h.congr rfl h.timer
    obtain ⟨hheld, hmoves⟩ := hheld.scheduleMetadataReconnect hstate
    exact ⟨hheld, (hsame connected true).trans hmoves⟩
  unfold V070Client.afterReconnect
  split
  · exact ⟨h, .refl⟩
  · split
    · split
      · rename_i hstate
        exact hschedule true (Option.isNone_iff_eq_none.mp hstate)
      · exact ⟨h.congr rfl h.timer, hsame true s.metadataReconnectNeeded⟩
    · split
      · exact ⟨h, .refl⟩
      · rename_i hstate
        rw [Bool.not_eq_true, Option.isSome_eq_false_iff, Option.isNone_iff_eq_none] at hstate
        exact hschedule false hstate

theorem Held.endReconnect (h : s.Held) (hslots : Slots { s with metadataResync := none })
    (id : ℕ) : (s.endReconnect id).Held ∧ Moves s (s.endReconnect id) := by
  have hsame : Moves s { s with metadataResync := none } := .of_eq rfl
  have hheld : Held { s with metadataResync := none } := h.congr rfl h.timer
  unfold V070Client.endReconnect
  split
  · exact ⟨h, .refl⟩
  · dsimp only
    split
    · obtain ⟨hheld, hmoves, -⟩ := hheld.requestMetadataReconnect hslots
      exact ⟨hheld, hsame.trans hmoves⟩
    · exact ⟨hheld, hsame⟩

theorem Held.endOpening (h : s.Held) (id : ℕ) :
    (s.endOpening id).Held ∧ Moves s (s.endOpening id) := by
  refine ⟨⟨?_, ?_, ?_, ?_, ?_, h.timer⟩, ⟨fun _ hm => hm, .inl rfl, ?_, Nat.le_refl _, rfl⟩⟩
  · intro o ho hgeneration
    obtain ⟨ho, hne⟩ := List.mem_filter.mp ho
    have hopen := h.current o ho hgeneration
    refine (if_neg ?_).trans hopen
    rw [hopen, Option.some.injEq]
    exact of_decide_eq_true hne
  · exact fun o ho => h.past o (List.mem_of_mem_filter ho)
  · exact fun o ho => h.reconnect o (List.mem_of_mem_filter ho)
  · intro hclosed
    obtain ⟨hopen, hsocket⟩ := h.closed hclosed
    refine ⟨?_, hsocket⟩
    dsimp only [V070Client.endOpening]
    split
    · rfl
    · exact hopen
  · intro id' hid'
    have hopen := h.single id' hid'
    dsimp only [V070Client.endOpening]
    split
    · rfl
    · exact hopen
  · intro id' hid'
    dsimp only [V070Client.endOpening] at hid'
    split at hid'
    · cases hid'
    · exact .inl hid'

/-- An opening that was not superseded is the one that is noted, and it becomes the socket. -/
theorem Held.attach (h : s.Held) {o : MetadataOpening} (ho : o ∈ s.openings)
    (hgeneration : o.generation = s.metadataGeneration) :
    Held { s.endOpening o.id with metadata := some ⟨o.id, true⟩ } ∧
      (s.endOpening o.id).metadataOpen = none := by
  have hopen := h.current o ho hgeneration
  have hnone : (s.endOpening o.id).metadataOpen = none := if_pos hopen
  obtain ⟨hended, -⟩ := h.endOpening o.id
  refine ⟨⟨hended.current, hended.past, hended.reconnect, ?_, fun _ _ => hnone, hended.timer⟩,
    hnone⟩
  intro hclosed
  cases hopen.symm.trans (h.closed hclosed).1

theorem Held.settleOpening (hr : s.Retrying) {o : MetadataOpening} (ho : o ∈ s.openings)
    (socket : Option MetadataSocket) (h : Held { s.endOpening o.id with metadata := socket })
    (result : Except String Unit) :
    (V070Client.settleOpening { s.endOpening o.id with metadata := socket } o result).Held ∧
      Moves { s.endOpening o.id with metadata := socket }
        (V070Client.settleOpening { s.endOpening o.id with metadata := socket } o result) := by
  obtain ⟨connected, settled, waiters, heq⟩ :=
    settleOpening_eq { s.endOpening o.id with metadata := socket } o result
  rw [heq]
  have hsame : Moves { s.endOpening o.id with metadata := socket } { s.endOpening o.id with
      metadata := socket
      metadataConnected := connected
      settled := settled
      metadataWaiters := waiters } :=
    .of_eq rfl
  have hheld : Held { s.endOpening o.id with
      metadata := socket
      metadataConnected := connected
      settled := settled
      metadataWaiters := waiters } := h.congr rfl h.timer
  cases hreconnect : o.reconnect with
  | none => exact ⟨hheld, hsame⟩
  | some generation =>
    have hnone := hr.reconnects_eq_nil ho (congrArg Option.isSome hreconnect)
    obtain ⟨hafter, hmoves⟩ := hheld.afterReconnect generation result.isOk
    have hslots : Slots { V070Client.afterReconnect { s.endOpening o.id with
        metadata := socket
        metadataConnected := connected
        settled := settled
        metadataWaiters := waiters } generation result.isOk with metadataResync := none } := by
      obtain ⟨_, _, _, timers, timer, _, hspec, htimers, -⟩ :=
        afterReconnect_spec (s := { s.endOpening o.id with
          metadata := socket
          metadataConnected := connected
          settled := settled
          metadataWaiters := waiters }) hr.timer (hr.waiting o ho _ hreconnect) result.isOk
      rw [hspec]
      exact ⟨congrArg (List.map MetadataOpening.id) hnone, hr.nodup_endOpening o.id,
        fun o' ho' => hr.fresh o' (List.mem_of_mem_filter ho'), htimers⟩
    obtain ⟨hended, hmoves'⟩ := hafter.endReconnect hslots o.id
    exact ⟨hended, hsame.trans (hmoves.trans hmoves')⟩

theorem Held.ensureMetadata (h : s.Held) (call : ℕ) :
    (s.ensureMetadata call).Held ∧ Moves s (s.ensureMetadata call) := by
  unfold V070Client.ensureMetadata
  split
  · exact ⟨h.congr rfl h.timer, .of_eq rfl⟩
  · rename_i hclosed
    rw [Bool.not_eq_true] at hclosed
    split
    · obtain ⟨connected, settled, waiters, heq⟩ :=
        ensureConnected_eq s call s.metadataConnectionGeneration
      rw [heq]
      exact ⟨h.congr rfl h.timer, .of_eq rfl⟩
    · rename_i hfree
      refine h.openMetadata hclosed ?_ _ (fun _ => rfl) (fun _ => rfl) (.inr fun _ => rfl)
      intro id hid
      rw [hid] at hfree
      exact hfree rfl

theorem Held.close (h : s.Held) : s.close.Held ∧ Moves s s.close := by
  unfold V070Client.close
  split
  · exact ⟨h, .refl⟩
  · dsimp only
    rw [clearMetadataReconnectTimer_eq]
    refine ⟨⟨?_, ?_, fun _ _ _ => .inr rfl, fun _ => ⟨rfl, rfl⟩, fun _ _ => rfl, nofun⟩,
      ⟨fun _ => nofun, .inl rfl, fun _ => nofun, Nat.le_refl _, rfl⟩⟩
    · intro o ho hgeneration
      have hle := h.past o ho
      exact absurd (hgeneration ▸ hle) (Nat.not_succ_le_self _)
    · exact fun o ho => Nat.le_succ_of_le (h.past o ho)

theorem Held.reconnectWithRefreshedToken (h : s.Held) (hslots : s.Slots) :
    s.reconnectWithRefreshedToken.Held ∧ Moves s s.reconnectWithRefreshedToken := by
  unfold V070Client.reconnectWithRefreshedToken
  split
  · exact ⟨h, .refl⟩
  · rename_i hopen
    rw [Bool.or_eq_true, not_or, Bool.not_eq_true] at hopen
    exact h.forget hslots hopen.1 s.metadataConnectionGeneration s.settled s.metadataWaiters

theorem Held.handleMetadataClose (h : s.Held) (hslots : s.Slots) :
    s.handleMetadataClose.Held ∧ Moves s s.handleMetadataClose := by
  unfold V070Client.handleMetadataClose
  split
  · exact ⟨h, .refl⟩
  · rename_i hopen
    exact h.forget hslots (Bool.not_eq_true _ ▸ hopen) _ _ _

/-- What an event other than a message leads to; a socket that is new was noted as being opened. -/
theorem moves_of_step (h : s.Held) (hr : s.Retrying) {op : Op S} (hop : ∀ m, op ≠ .message m)
    (hs : s.step op = some t) : t.Held ∧ (Moves s t ∨ ∃ id, s.metadataOpen = some id ∧
      Moves { s with metadata := some ⟨id, true⟩, metadataOpen := none } t) := by
  have hended {o : MetadataOpening} (ho : o ∈ s.openings) (result : Except String Unit) :
      ((s.endOpening o.id).settleOpening o result).Held ∧
        Moves s ((s.endOpening o.id).settleOpening o result) := by
    obtain ⟨hheld, hmoves⟩ := h.endOpening o.id
    obtain ⟨hheld, hmoves'⟩ := Held.settleOpening hr ho s.metadata hheld result
    exact ⟨hheld, hmoves.trans hmoves'⟩
  cases op with
  | ensureMetadata call =>
    obtain rfl := Option.some.inj hs
    exact (h.ensureMetadata call).imp_right .inl
  | watchMetadata listener =>
    obtain rfl := Option.some.inj hs
    unfold V070Client.watchMetadata
    dsimp only
    split
    all_goals exact ⟨h.congr rfl h.timer, .inl (.of_eq rfl)⟩
  | unwatch listener =>
    obtain rfl := Option.some.inj hs
    exact ⟨h.congr rfl h.timer, .inl (.of_eq rfl)⟩
  | close =>
    obtain rfl := Option.some.inj hs
    exact h.close.imp_right .inl
  | token id result =>
    obtain ⟨o, ho, rfl, hs⟩ := opening_of_event hs
    cases result with
    | ok value =>
      obtain rfl := Option.some.inj hs
      refine ⟨h.map (fun o => ?_) (fun o => ?_) (fun o => ?_), .inl (.of_eq rfl)⟩
      all_goals split <;> rfl
    | error error =>
      obtain rfl := Option.some.inj hs
      exact (hended ho _).imp_right .inl
  | opened id =>
    obtain ⟨o, ho, rfl, hs⟩ := opening_of_event hs
    split at hs
    · obtain rfl := Option.some.inj hs
      exact (hended ho _).imp_right .inl
    · rename_i hgeneration
      obtain rfl := Option.some.inj hs
      rw [not_not] at hgeneration
      obtain ⟨hheld, hnone⟩ := h.attach ho hgeneration
      obtain ⟨hheld, hmoves⟩ := Held.settleOpening hr ho _ hheld (.ok ())
      refine ⟨hheld, .inr ⟨o.id, h.current o ho hgeneration, hmoves.attached, hmoves.latest, ?_,
        hmoves.next, hmoves.received⟩⟩
      intro id hid
      rcases hmoves.pending id hid with hold | hle
      · cases hnone.symm.trans hold
      · exact .inr hle
  | openFailed id =>
    obtain ⟨o, ho, rfl, hs⟩ := opening_of_event hs
    obtain rfl := Option.some.inj hs
    exact (hended ho _).imp_right .inl
  | message m => exact absurd rfl (hop m)
  | closing =>
    dsimp only [V070Client.step] at hs
    split at hs
    · obtain rfl := Option.some.inj hs
      have hleft : ∀ id, (s.metadata.map fun socket => { socket with isOpen := false }) ≠
          some ⟨id, true⟩ := by
        intro id hid
        obtain ⟨socket, -, hsocket⟩ := Option.map_eq_some_iff.mp hid
        cases hsocket
      refine ⟨⟨h.current, h.past, h.reconnect, ?_, fun id hid => absurd hid (hleft id), h.timer⟩,
        .inl ⟨fun id hid => absurd hid (hleft id), .inl rfl, fun _ hm => .inl hm,
          Nat.le_refl _, rfl⟩⟩
      intro hclosed
      obtain ⟨hopen, hsocket⟩ := h.closed hclosed
      exact ⟨hopen, Option.map_eq_none_iff.mpr hsocket⟩
    · cases hs
  | closed =>
    dsimp only [V070Client.step] at hs
    split at hs
    · obtain rfl := Option.some.inj hs
      have hleft : Held { s with metadata := none } :=
        ⟨h.current, h.past, h.reconnect, fun hc => ⟨(h.closed hc).1, rfl⟩, fun _ => nofun, h.timer⟩
      obtain ⟨hheld, hmoves⟩ := hleft.handleMetadataClose
        ⟨hr.resync, hr.ids, hr.fresh, hr.toSlots.timer⟩
      have hmoves' : Moves s { s with metadata := none } :=
        ⟨fun _ => nofun, .inl rfl, fun _ hm => .inl hm, Nat.le_refl _, rfl⟩
      exact ⟨hheld, .inl (hmoves'.trans hmoves)⟩
    · cases hs
  | timer timer =>
    dsimp only [V070Client.step] at hs
    split at hs
    · rename_i htimer
      obtain rfl := Option.some.inj hs
      have hfired : Held { s with
          timers := s.timers.filter fun armed => armed.1 ≠ timer
          metadataReconnectTimer := none } := h.congr rfl nofun
      obtain ⟨hheld, hmoves, -⟩ := hfired.requestMetadataReconnect (hr.toSlots.fired htimer)
      exact ⟨hheld, .inl ⟨hmoves.attached, hmoves.latest, hmoves.pending, hmoves.next,
        hmoves.received⟩⟩
    · cases hs
  | tokenRefreshed =>
    obtain rfl := Option.some.inj hs
    exact (h.reconnectWithRefreshedToken hr.toSlots).imp_right .inl

/-! ### Messages -/

/-- But for what the page has, a message does no more than another event. -/
theorem moves_handleMetadata (h : s.Held) (hslots : s.Slots) (hopen : s.isClosed = false)
    (m : MetadataMessage S) : (s.handleMetadata m).Held ∧ ∃ revision state,
      Moves s { s.handleMetadata m with metadataRevision := revision, metadataState := state } := by
  have hdrop : s.dropMetadata.Held ∧ Moves s s.dropMetadata :=
    h.forget hslots hopen s.metadataConnectionGeneration s.settled s.metadataWaiters
  have haccept (revision : ℕ) (kind : MetadataDeliveryKind) :
      (s.acceptMetadata revision m.state kind).Held ∧ ∃ revision' state',
        Moves s { s.acceptMetadata revision m.state kind with
          metadataRevision := revision', metadataState := state' } := by
    obtain ⟨_, _, heq⟩ := acceptMetadata_eq s revision m.state kind
    rw [heq]
    exact ⟨h.congr rfl nofun, s.metadataRevision, s.metadataState, .of_eq rfl⟩
  unfold V070Client.handleMetadata
  split
  · exact ⟨h.congr rfl h.timer, s.metadataRevision, s.metadataState, .of_eq rfl⟩
  · exact ⟨h, _, _, .refl⟩
  · split
    · exact ⟨h, _, _, .refl⟩
    · split
      · split
        · exact ⟨hdrop.1, _, _, hdrop.2⟩
        · split
          · exact ⟨h, _, _, .refl⟩
          · split
            · exact ⟨hdrop.1, _, _, hdrop.2⟩
            · exact haccept _ _
      · exact haccept _ _
      · exact ⟨h, _, _, .refl⟩

theorem latest_acceptMetadata (s : V070Client S) (revision : ℕ) (state : S)
    (kind : MetadataDeliveryKind) :
    (s.acceptMetadata revision state kind).latest = some (revision, state) := by
  obtain ⟨_, _, heq⟩ := acceptMetadata_eq s revision state kind
  rw [heq]
  rfl

end V070Client

/-- The messages lead from what the page has to what the loop has. -/
def Follows : Option (ℕ × S) → List (MetadataMessage S) → ℕ × S → Prop
  | latest, [], last => latest = some last
  | latest, m :: ms, last =>
    match m.kind with
    | .pong => Follows latest ms last
    | .snapshot => ∃ revision : ℕ, m.revision = some (revision : ℤ) ∧ revision ≤ last.1 ∧
        Follows (some (revision, m.state)) ms last
    | .update => ∃ (revision : ℕ) (state : S), latest = some (revision, state) ∧
        m.revision = some ((revision + 1 : ℕ) : ℤ) ∧ revision + 1 ≤ last.1 ∧
        Follows (some (revision + 1, m.state)) ms last
    | _ => False

/-- A stream that begins with its snapshot may follow anything. -/
theorem Follows.of_none {ms : List (MetadataMessage S)} {last : ℕ × S} (h : Follows none ms last)
    (latest : Option (ℕ × S)) : Follows latest ms last := by
  induction ms with
  | nil => cases h
  | cons m ms ih =>
    unfold Follows at h ⊢
    cases hkind : m.kind with
    | pong =>
      rw [hkind] at h
      exact ih h
    | snapshot =>
      rw [hkind] at h
      exact h
    | update =>
      rw [hkind] at h
      obtain ⟨_, _, hlatest, -⟩ := h
      cases hlatest
    | error =>
      rw [hkind] at h
      exact h
    | other =>
      rw [hkind] at h
      exact h

/-- What is sent last leads on to it. -/
theorem Follows.append {latest : Option (ℕ × S)} {ms : List (MetadataMessage S)} {last : ℕ × S}
    (h : Follows latest ms last) {m : MetadataMessage S} {last' : ℕ × S} (hle : last.1 ≤ last'.1)
    (hm : Follows (some last) [m] last') : Follows latest (ms ++ [m]) last' := by
  induction ms generalizing latest with
  | nil =>
    obtain rfl : latest = some last := h
    exact hm
  | cons m' ms ih =>
    rw [List.cons_append]
    unfold Follows at h ⊢
    cases hkind : m'.kind with
    | pong =>
      rw [hkind] at h
      exact ih h
    | snapshot =>
      rw [hkind] at h
      obtain ⟨revision, hrevision, hbound, h⟩ := h
      exact ⟨revision, hrevision, Nat.le_trans hbound hle, ih h⟩
    | update =>
      rw [hkind] at h
      obtain ⟨revision, state, hlatest, hrevision, hbound, h⟩ := h
      exact ⟨revision, state, hlatest, hrevision, Nat.le_trans hbound hle, ih h⟩
    | error =>
      rw [hkind] at h
      exact h.elim
    | other =>
      rw [hkind] at h
      exact h.elim

theorem safeRevision_eq {m : MetadataMessage S} {revision last : ℕ}
    (hrevision : m.revision = some (revision : ℤ)) (hle : revision ≤ last)
    (hsafe : (last : ℤ) ≤ maxSafeInteger) : m.safeRevision = some revision := by
  have hbound : (0 ≤ (revision : ℤ) && (revision : ℤ) ≤ maxSafeInteger) = true := by
    rw [Bool.and_eq_true, decide_eq_true_eq, decide_eq_true_eq]
    omega
  rw [MetadataMessage.safeRevision, hrevision, Option.filter_some, if_pos hbound]
  rfl

namespace V070Client

variable {s : V070Client S}

/-- A message that follows is taken up. -/
theorem follows_handleMetadata {m : MetadataMessage S} {ms : List (MetadataMessage S)}
    {last : ℕ × S} (h : Follows s.latest (m :: ms) last) (hsafe : (last.1 : ℤ) ≤ maxSafeInteger) :
    Follows (s.handleMetadata m).latest ms last := by
  unfold Follows at h
  unfold handleMetadata
  cases hkind : m.kind with
  | error =>
    rw [hkind] at h
    exact h.elim
  | pong =>
    rw [hkind] at h
    exact h
  | snapshot =>
    rw [hkind] at h
    obtain ⟨revision, hrevision, hbound, h⟩ := h
    dsimp only
    rw [safeRevision_eq hrevision hbound hsafe]
    dsimp only
    rw [latest_acceptMetadata]
    exact h
  | update =>
    rw [hkind] at h
    obtain ⟨revision, state, hlatest, hrevision, hbound, h⟩ := h
    obtain ⟨last', hlast, hstate⟩ := Option.bind_eq_some_iff.mp hlatest
    obtain ⟨state', -, heq⟩ := Option.map_eq_some_iff.mp hstate
    obtain rfl := congrArg Prod.fst heq
    dsimp only
    rw [safeRevision_eq hrevision hbound hsafe, hlast]
    dsimp only
    rw [if_neg (Nat.not_succ_le_self last'), if_neg (not_not.mpr rfl), latest_acceptMetadata]
    exact h
  | other =>
    rw [hkind] at h
    exact h.elim

end V070Client

/-! ### The daemon and the page -/

/-- The socket from which the page takes messages now, or will, and what it has of it. -/
def Carries (client : V070Client S) (id : ℕ) (latest : Option (ℕ × S)) : Prop :=
  client.metadata = some ⟨id, true⟩ ∧ latest = client.latest ∨
    client.metadataOpen = some id ∧ latest = none

namespace MetadataSystem

/-- What was sent leads to what the loop has, and is not older than what the page has seen. -/
structure Sends (reads : List ℕ) (latest : Option (ℕ × S)) (feed : MetadataFeed S) : Prop where
  follows : (feed.revision : ℤ) ≤ maxSafeInteger →
    Follows latest (feed.sent.map Prod.fst) (feed.revision, feed.previous)
  forward : (reads ++ feed.sent.map Prod.snd).Pairwise (· ≤ ·)

/-- A loop has what is shown, or will look at it. -/
structure Looks (s : MetadataSystem S H) (feed : MetadataFeed (S × H)) : Prop where
  seen : feed.seen ≤ s.version
  fresh : feed.ended = false → s.announced = true →
    feed.previous.1 = s.current ∨ feed.seen ≠ s.version ∨ feed.woken = true
  times : ∀ p ∈ feed.sent, p.2 ≤ s.past.length
  shown : ∀ p ∈ feed.sent, p.1.kind = .pong ∨ (s.past ++ [s.current])[p.2]? = some p.1.state.1

structure Sound (s : MetadataSystem S H) : Prop where
  held : s.client.Held
  retrying : s.client.Retrying
  served : ∀ id feed, s.feeds id = some feed → id < s.client.nextOpening
  sends : ∀ id latest feed, Carries s.client id latest → s.feeds id = some feed →
    Sends s.reads latest feed
  looks : ∀ id feed, s.feeds id = some feed → s.Looks feed
  reads : ∀ time ∈ s.reads, time ≤ s.past.length
  forward : s.reads.Pairwise (· ≤ ·)
  shown : List.Forall₂ (fun m time => m.kind = .pong ∨
    (s.past ++ [s.current])[time]? = some m.state.1) s.client.received s.reads

variable {s t : MetadataSystem S H}

theorem Sound.initial (state : S) : Sound ({ current := state } : MetadataSystem S H) where
  held := .initial
  retrying := .initial
  served := fun _ _ => nofun
  sends := fun _ _ _ _ => nofun
  looks := fun _ _ => nofun
  reads := by simp
  forward := .nil
  shown := .nil

theorem update_eq_some {feeds : ℕ → Option (MetadataFeed S)} {id id' : ℕ}
    {feed feed' : MetadataFeed S} (h : Function.update feeds id (some feed) id' = some feed') :
    id' = id ∧ feed' = feed ∨ id' ≠ id ∧ feeds id' = some feed' := by
  by_cases hid : id' = id
  · subst hid
    rw [Function.update_self] at h
    exact .inl ⟨rfl, (Option.some.inj h).symm⟩
  · rw [Function.update_of_ne hid] at h
    exact .inr ⟨hid, h⟩

theorem Sound.setFeed (h : s.Sound) {id : ℕ} {feed : MetadataFeed (S × H)}
    (hid : id < s.client.nextOpening)
    (hsends : ∀ latest, Carries s.client id latest → Sends s.reads latest feed)
    (hlooks : s.Looks feed) : (s.setFeed id feed).Sound := by
  refine ⟨h.held, h.retrying, ?_, ?_, ?_, h.reads, h.forward, h.shown⟩
  · intro id' feed' hfeed
    rcases update_eq_some hfeed with ⟨rfl, rfl⟩ | ⟨-, hfeed⟩
    · exact hid
    · exact h.served id' feed' hfeed
  · intro id' latest feed' hcarries hfeed
    rcases update_eq_some hfeed with ⟨rfl, rfl⟩ | ⟨-, hfeed⟩
    · exact hsends latest hcarries
    · exact h.sends id' latest feed' hcarries hfeed
  · intro id' feed' hfeed
    rcases update_eq_some hfeed with ⟨rfl, rfl⟩ | ⟨-, hfeed⟩
    · exact ⟨hlooks.seen, hlooks.fresh, hlooks.times, hlooks.shown⟩
    · have hlooks' := h.looks id' feed' hfeed
      exact ⟨hlooks'.seen, hlooks'.fresh, hlooks'.times, hlooks'.shown⟩

/-- The times at which the page has read are followed by that of the next message. -/
theorem pairwise_append_le {times : List ℕ} {time : ℕ} (h : times.Pairwise (· ≤ ·))
    (hle : ∀ k ∈ times, k ≤ time) : (times ++ [time]).Pairwise (· ≤ ·) := by
  refine List.pairwise_append.mpr ⟨h, List.pairwise_singleton _ _, ?_⟩
  intro k hk k' hk'
  obtain rfl := List.mem_singleton.mp hk'
  exact hle k hk

/-- A loop that sends one more message. -/
theorem Sends.push (h : s.Sound) {id : ℕ} {feed feed' : MetadataFeed (S × H)}
    (hfeed : s.feeds id = some feed) {m : MetadataMessage (S × H)}
    (hsent : feed'.sent = feed.sent ++ [(m, s.past.length)])
    (hm : (feed'.revision : ℤ) ≤ maxSafeInteger → feed.revision ≤ feed'.revision ∧
      Follows (some (feed.revision, feed.previous)) [m] (feed'.revision, feed'.previous))
    {latest : Option (ℕ × (S × H))} (hcarries : Carries s.client id latest) :
    Sends s.reads latest feed' := by
  have hsends := h.sends id latest feed hcarries hfeed
  constructor
  case follows =>
    intro hsafe
    obtain ⟨hle, hm⟩ := hm hsafe
    rw [hsent, List.map_append]
    exact (hsends.follows (by omega)).append hle hm
  case forward =>
    rw [hsent, List.map_append, ← List.append_assoc]
    refine pairwise_append_le hsends.forward ?_
    intro k hk
    rcases List.mem_append.mp hk with hk | hk
    · exact h.reads k hk
    · obtain ⟨p, hp, rfl⟩ := List.mem_map.mp hk
      exact (h.looks id feed hfeed).times p hp

/-- What is sent is what is shown, or a pong. -/
theorem Looks.push {feed feed' : MetadataFeed (S × H)} (h : s.Looks feed)
    {m : MetadataMessage (S × H)} (hsent : feed'.sent = feed.sent ++ [(m, s.past.length)])
    (hm : m.kind = .pong ∨ m.state.1 = s.current) (hseen : feed'.seen ≤ s.version)
    (hfresh : feed'.ended = false → s.announced = true →
      feed'.previous.1 = s.current ∨ feed'.seen ≠ s.version ∨ feed'.woken = true) :
    s.Looks feed' := by
  refine ⟨hseen, hfresh, ?_, ?_⟩
  · rw [hsent]
    intro p hp
    rcases List.mem_append.mp hp with hp | hp
    · exact h.times p hp
    · obtain rfl := List.mem_singleton.mp hp
      exact Nat.le_refl _
  · rw [hsent]
    intro p hp
    rcases List.mem_append.mp hp with hp | hp
    · exact h.shown p hp
    · obtain rfl := List.mem_singleton.mp hp
      refine hm.imp id fun hstate => ?_
      rw [List.getElem?_concat_length, hstate]

/-- A change is not announced yet; what was shown stays in the record. -/
theorem Sound.change (h : s.Sound) (state : S) :
    Sound { s with current := state, past := s.past ++ [s.current], announced := false } := by
  have hkept (time : ℕ) (shown : S) (hshown : (s.past ++ [s.current])[time]? = some shown) :
      (s.past ++ [s.current] ++ [state])[time]? = some shown := by
    obtain ⟨hlt, -⟩ := List.getElem?_eq_some_iff.mp hshown
    rw [List.getElem?_append_left hlt]
    exact hshown
  have hlength : s.past.length ≤ (s.past ++ [s.current]).length := by
    rw [List.length_append]
    exact Nat.le_add_right _ _
  refine ⟨h.held, h.retrying, h.served, h.sends, ?_, ?_, h.forward, ?_⟩
  · intro id feed hfeed
    have hlooks := h.looks id feed hfeed
    refine ⟨hlooks.seen, fun _ => nofun, ?_, ?_⟩
    · exact fun p hp => Nat.le_trans (hlooks.times p hp) hlength
    · exact fun p hp => (hlooks.shown p hp).imp_right (hkept _ _)
  · exact fun time htime => Nat.le_trans (h.reads time htime) hlength
  · exact h.shown.imp fun m time hm => hm.imp_right (hkept _ _)

theorem Sound.announce (h : s.Sound) :
    Sound { s with version := s.version + 1, announced := true } := by
  refine ⟨h.held, h.retrying, h.served, h.sends, ?_, h.reads, h.forward, h.shown⟩
  intro id feed hfeed
  have hlooks := h.looks id feed hfeed
  refine ⟨Nat.le_succ_of_le hlooks.seen, ?_, hlooks.times, hlooks.shown⟩
  exact fun _ _ => .inr (.inl (Nat.ne_of_lt (Nat.lt_succ_of_le hlooks.seen)))

theorem Sound.serve (h : s.Sound) {id : ℕ} (hid : id < s.client.nextOpening) (host : H) :
    (s.setFeed id {
      previous := (s.current, host)
      seen := s.version
      sent := [({ kind := .snapshot, revision := some 1, state := (s.current, host) },
        s.past.length)] }).Sound := by
  refine h.setFeed hid ?_ ⟨Nat.le_refl _, fun _ _ => .inl rfl, ?_, ?_⟩
  · intro latest _
    refine ⟨fun _ => ⟨1, rfl, Nat.le_refl _, rfl⟩, pairwise_append_le h.forward h.reads⟩
  · intro p hp
    obtain rfl := List.mem_singleton.mp hp
    exact Nat.le_refl _
  · intro p hp
    obtain rfl := List.mem_singleton.mp hp
    exact .inr List.getElem?_concat_length

/-- A loop that sends nothing and keeps what it has sent. -/
theorem Sound.quiet (h : s.Sound) {id : ℕ} {feed : MetadataFeed (S × H)}
    (hfeed : s.feeds id = some feed) {seen : ℕ} (hseen : seen ≤ s.version) (woken ended : Bool)
    (hfresh : ended = false → s.announced = true →
      feed.previous.1 = s.current ∨ seen ≠ s.version ∨ woken = true) :
    (s.setFeed id { feed with seen := seen, woken := woken, ended := ended }).Sound := by
  have hlooks := h.looks id feed hfeed
  refine h.setFeed (h.served id feed hfeed) ?_ ⟨hseen, hfresh, hlooks.times, hlooks.shown⟩
  intro latest hcarries
  have hsends := h.sends id latest feed hcarries hfeed
  exact ⟨hsends.follows, hsends.forward⟩

/-- The revision of an update that the page can read is the next one. -/
theorem saturatingSucc_eq {revision : ℕ} (hsafe : (saturatingSucc revision : ℤ) ≤ maxSafeInteger) :
    saturatingSucc revision = revision + 1 := by
  unfold saturatingSucc maxSafeInteger at *
  omega

theorem Sound.update (h : s.Sound) {id : ℕ} {feed : MetadataFeed (S × H)}
    (hfeed : s.feeds id = some feed) {revision : ℕ}
    (hrevision : revision = saturatingSucc feed.revision) {payload : S × H}
    (hpayload : payload.1 = s.current) :
    (s.setFeed id { feed with
      revision := revision
      previous := payload
      woken := false
      sent := feed.sent ++
        [({ kind := .update, revision := some revision, state := payload },
          s.past.length)] }).Sound := by
  have hlooks := h.looks id feed hfeed
  refine h.setFeed (h.served id feed hfeed) (fun latest hcarries => ?_)
    (hlooks.push rfl (.inr hpayload) hlooks.seen fun _ _ => .inl hpayload)
  refine Sends.push h hfeed rfl (fun hsafe => ?_) hcarries
  obtain rfl : revision = feed.revision + 1 := by
    subst hrevision
    exact saturatingSucc_eq hsafe
  exact ⟨Nat.le_succ _, feed.revision, feed.previous, rfl, rfl, Nat.le_refl _, rfl⟩

theorem Sound.pong (h : s.Sound) {id : ℕ} {feed : MetadataFeed (S × H)}
    (hfeed : s.feeds id = some feed) :
    (s.setFeed id { feed with
      sent := feed.sent ++
        [({ kind := .pong, state := feed.previous }, s.past.length)] }).Sound := by
  have hlooks := h.looks id feed hfeed
  refine h.setFeed (h.served id feed hfeed) (fun latest hcarries => ?_)
    (hlooks.push (m := { kind := .pong, state := feed.previous }) rfl (.inl rfl) hlooks.seen
      hlooks.fresh)
  refine Sends.push h hfeed rfl (fun _ => ?_) hcarries
  exact ⟨Nat.le_refl _, rfl⟩

/-- What an event of the page leaves of the sockets that still count. -/
theorem Sound.page (h : s.Sound) {op : Op (S × H)} (hop : ∀ m, op ≠ .message m)
    {client : V070Client (S × H)} (hs : s.client.step op = some client) :
    Sound { s with client := client } := by
  obtain ⟨hheld, hmoves⟩ := V070Client.moves_of_step h.held h.retrying hop hs
  have hnext : s.client.nextOpening ≤ client.nextOpening := by
    rcases hmoves with hmoves | ⟨_, -, hmoves⟩
    · exact hmoves.next
    · exact hmoves.next
  have hreceived : client.received = s.client.received := by
    rcases hmoves with hmoves | ⟨_, -, hmoves⟩
    · exact hmoves.received
    · exact hmoves.received
  refine ⟨hheld, h.retrying.step hs, ?_, ?_, ?_, h.reads, h.forward, ?_⟩
  · exact fun id feed hfeed => Nat.lt_of_lt_of_le (h.served id feed hfeed) hnext
  · intro id latest feed hcarries hfeed
    have hlt := h.served id feed hfeed
    rcases hmoves with hmoves | ⟨id', hid', hmoves⟩
    · rcases hcarries with ⟨hattached, rfl⟩ | ⟨hopen, rfl⟩
      · rcases hmoves.latest with heq | ⟨-, hleft⟩
        · exact h.sends id _ feed (.inl ⟨hmoves.attached id hattached, heq⟩) hfeed
        · exact absurd hattached (hleft id)
      · rcases hmoves.pending id hopen with hold | hle
        · exact h.sends id none feed (.inr ⟨hold, rfl⟩) hfeed
        · omega
    · rcases hcarries with ⟨hattached, rfl⟩ | ⟨hopen, rfl⟩
      · have hnew := hmoves.attached id hattached
        obtain rfl : id' = id := by
          injection hnew with hnew
          injection hnew
        have hsends := h.sends id' none feed (.inr ⟨hid', rfl⟩) hfeed
        exact ⟨fun hsafe => (hsends.follows hsafe).of_none _, hsends.forward⟩
      · rcases hmoves.pending id hopen with hold | hle
        · cases hold
        · have hle' : s.client.nextOpening ≤ id := hle
          omega
  · intro id feed hfeed
    have hlooks := h.looks id feed hfeed
    exact ⟨hlooks.seen, hlooks.fresh, hlooks.times, hlooks.shown⟩
  · exact hreceived ▸ h.shown

theorem Sound.deliver (h : s.Sound) {id : ℕ} {feed : MetadataFeed (S × H)}
    (hfeed : s.feeds id = some feed) {m : MetadataMessage (S × H)} {time : ℕ}
    {sent : List (MetadataMessage (S × H) × ℕ)} (hsent : feed.sent = (m, time) :: sent)
    (hattached : s.client.metadata = some ⟨id, true⟩) {client : V070Client (S × H)}
    (hs : s.client.step (.message m) = some client) :
    Sound { s.setFeed id { feed with sent := sent } with
      client := client, reads := s.reads ++ [time] } := by
  have hlooks := h.looks id feed hfeed
  have hsends := h.sends id _ feed (.inl ⟨hattached, rfl⟩) hfeed
  have hopen : s.client.isClosed = false := by
    by_contra hclosed
    rw [Bool.not_eq_false] at hclosed
    cases (h.held.closed hclosed).2.symm.trans hattached
  obtain rfl : client = V070Client.handleMetadata
      { s.client with received := s.client.received ++ [m] } m := by
    dsimp only [V070Client.step] at hs
    split at hs
    · exact (Option.some.inj hs).symm
    · cases hs
  have hreceived : V070Client.Held { s.client with received := s.client.received ++ [m] } :=
    h.held.congr rfl h.held.timer
  obtain ⟨hheld, _, _, hmoves⟩ := V070Client.moves_handleMetadata hreceived
    ⟨h.retrying.resync, h.retrying.ids, h.retrying.fresh, h.retrying.toSlots.timer⟩ hopen m
  have hforward : (s.reads ++ [time] ++ sent.map Prod.snd).Pairwise (· ≤ ·) := by
    have hall := hsends.forward
    rw [hsent, List.map_cons] at hall
    rw [List.append_assoc]
    exact hall
  have hmem : (m, time) ∈ feed.sent := hsent ▸ List.mem_cons_self
  have hsub : ∀ p ∈ sent, p ∈ feed.sent := fun p hp => hsent ▸ List.mem_cons_of_mem _ hp
  refine ⟨hheld, h.retrying.step hs, ?_, ?_, ?_, ?_, ?_, ?_⟩
  · intro id' feed' hfeed'
    refine Nat.lt_of_lt_of_le ?_ hmoves.next
    rcases update_eq_some hfeed' with ⟨rfl, -⟩ | ⟨-, hfeed'⟩
    · exact h.served _ feed hfeed
    · exact h.served id' feed' hfeed'
  · intro id' latest feed' hcarries hfeed'
    rcases hcarries with ⟨hattached', rfl⟩ | ⟨hopening, rfl⟩
    · have hold := hmoves.attached id' hattached'
      obtain rfl : id' = id := by
        have heq := hattached.symm.trans hold
        injection heq with heq
        injection heq with heq
        exact heq.symm
      rcases update_eq_some hfeed' with ⟨-, rfl⟩ | ⟨hne, -⟩
      · refine ⟨fun hsafe => V070Client.follows_handleMetadata ?_ hsafe, hforward⟩
        have hfollows := hsends.follows hsafe
        rw [hsent, List.map_cons] at hfollows
        exact hfollows
      · exact absurd rfl hne
    · rcases hmoves.pending id' hopening with hold | hle
      · cases (h.held.single id hattached).symm.trans hold
      · have hle' : s.client.nextOpening ≤ id' := hle
        rcases update_eq_some hfeed' with ⟨rfl, -⟩ | ⟨-, hfeed'⟩
        · have hlt := h.served _ feed hfeed
          omega
        · have hlt := h.served id' feed' hfeed'
          omega
  · intro id' feed' hfeed'
    rcases update_eq_some hfeed' with ⟨-, rfl⟩ | ⟨-, hfeed'⟩
    · exact ⟨hlooks.seen, hlooks.fresh, fun p hp => hlooks.times p (hsub p hp),
        fun p hp => hlooks.shown p (hsub p hp)⟩
    · have hlooks' := h.looks id' feed' hfeed'
      exact ⟨hlooks'.seen, hlooks'.fresh, hlooks'.times, hlooks'.shown⟩
  · intro k hk
    rcases List.mem_append.mp hk with hk | hk
    · exact h.reads k hk
    · obtain rfl := List.mem_singleton.mp hk
      exact hlooks.times _ hmem
  · exact (List.pairwise_append.mp hforward).1
  · have hlast := hlooks.shown _ hmem
    have happend := List.rel_append h.shown (List.Forall₂.cons hlast .nil)
    exact hmoves.received ▸ happend

theorem Sound.step [DecidableEq S] [DecidableEq H] (h : s.Sound) {op : FeedOp S H}
    (hs : s.step op = some t) : t.Sound := by
  cases op with
  | change state => exact Option.some.inj hs ▸ h.change state
  | announce => exact Option.some.inj hs ▸ h.announce
  | serve id host =>
    dsimp only [MetadataSystem.step] at hs
    split at hs
    · rename_i hguard
      rw [Bool.and_eq_true, decide_eq_true_eq] at hguard
      exact Option.some.inj hs ▸ h.serve hguard.1 host
    · cases hs
  | wake id =>
    dsimp only [MetadataSystem.step] at hs
    split at hs
    · cases hs
    · rename_i feed hfeed
      split at hs
      · cases hs
      · exact Option.some.inj hs ▸ h.quiet hfeed (Nat.le_refl _) true feed.ended
          fun _ _ => .inr (.inr rfl)
  | look id host =>
    dsimp only [MetadataSystem.step] at hs
    split at hs
    · cases hs
    · rename_i feed hfeed
      have hlooks := h.looks id feed hfeed
      split at hs
      · cases hs
      · split at hs
        · exact Option.some.inj hs ▸ h.quiet hfeed hlooks.seen feed.woken true nofun
        · split at hs
          · exact Option.some.inj hs ▸ h.update hfeed rfl rfl
          · rename_i hsame
            rw [ne_eq, not_not] at hsame
            exact Option.some.inj hs ▸ h.quiet hfeed hlooks.seen false feed.ended
              fun _ _ => .inl (hsame ▸ rfl)
  | pong id =>
    dsimp only [MetadataSystem.step] at hs
    split at hs
    · cases hs
    · rename_i feed hfeed
      split at hs
      · cases hs
      · exact Option.some.inj hs ▸ h.pong hfeed
  | endFeed id =>
    obtain ⟨feed, hfeed, rfl⟩ := Option.map_eq_some_iff.mp hs
    exact h.quiet hfeed (h.looks id feed hfeed).seen feed.woken true nofun
  | deliver id =>
    dsimp only [MetadataSystem.step] at hs
    split at hs
    · cases hs
    · rename_i feed hfeed
      split at hs
      · cases hs
      · rename_i m time sent hsent
        split at hs
        · rename_i hattached
          obtain ⟨client, hclient, rfl⟩ := Option.map_eq_some_iff.mp hs
          exact h.deliver hfeed hsent hattached hclient
        · cases hs
  | page op =>
    dsimp only [MetadataSystem.step] at hs
    split at hs
    · cases hs
    · rename_i hop
      obtain ⟨client, hclient, rfl⟩ := Option.map_eq_some_iff.mp hs
      exact h.page hop hclient

/-! ### Both sides -/

theorem Sound.mirrors (h : s.Sound) : s.Mirrors where
  shown := h.shown
  forward := h.forward
  arrived := by
    intro id feed hattached hfeed hended hsent hseen hwoken hannounced hsafe
    have hfollows := (h.sends id _ feed (.inl ⟨hattached, rfl⟩) hfeed).follows hsafe
    rw [hsent] at hfollows
    have hlatest : s.client.latest = some (feed.revision, feed.previous) := hfollows
    obtain ⟨revision, hrevision, hstate⟩ := Option.bind_eq_some_iff.mp hlatest
    obtain ⟨state, hstate, heq⟩ := Option.map_eq_some_iff.mp hstate
    obtain ⟨rfl, rfl⟩ := Prod.mk.inj heq
    rcases (h.looks id feed hfeed).fresh hended hannounced with hcurrent | hbehind | hwoken'
    · exact ⟨feed.previous.2, hcurrent ▸ hstate, hrevision⟩
    · exact absurd hseen hbehind
    · rw [hwoken] at hwoken'
      cases hwoken'

/-- Two changes while the loop waits for the lock, the second announced afterwards, and a socket
that is left for a new token. -/
def changedTwice : List (FeedOp ℕ Bool) :=
  [.page (.ensureMetadata 1), .page (.token 0 (.ok ())), .serve 0 false, .page (.opened 0),
    .deliver 0, .change 5, .announce, .wake 0, .change 7, .look 0 (some false), .announce, .wake 0,
    .look 0 (some false), .deliver 0, .page .tokenRefreshed, .change 9, .announce, .wake 0,
    .look 0 (some true), .page (.token 1 (.ok ())), .serve 1 true, .page (.opened 1), .deliver 1]

/-- **The page mirrors the daemon.** In every run, whatever the order of changes, announcements,
looks, deliveries and reconnects, the page is shown states of the daemon in their order; once what
was announced was looked at and has arrived, it has the state that is shown. -/
theorem mirrors_of_run [DecidableEq S] [DecidableEq H] {state : S} {ops : List (FeedOp S H)}
    (hrun : exec step { current := state } ops = some s) : s.Mirrors := by
  have hsound : s.Sound := by
    refine exec_induction (I := Sound) ?_ (Sound.initial state) hrun
    exact fun _ _ _ h hs => h.step hs
  exact hsound.mirrors

/-- The update of the socket that was left never arrives, and the snapshot of the new one does. -/
theorem mirrors_of_changedTwice : ∃ s : MetadataSystem ℕ Bool,
    exec step { current := 3 } changedTwice = some s ∧ s.Mirrors ∧
      s.client.metadataState = some (9, true) ∧ s.reads = [0, 2, 3] := by
  have h : ((exec step { current := 3 } changedTwice).any fun s : MetadataSystem ℕ Bool =>
      s.client.metadataState = some (9, true) && s.reads = [0, 2, 3]) = true := by
    decide +kernel
  obtain ⟨s, hs, hend⟩ := (Option.any_eq_true ..).mp h
  simp only [Bool.and_eq_true, decide_eq_true_eq] at hend
  exact ⟨s, hs, mirrors_of_run hs, hend.1, hend.2⟩

end MetadataSystem

end Termd.Browser.Metadata
