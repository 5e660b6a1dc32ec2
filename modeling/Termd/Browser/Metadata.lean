import Mathlib.Algebra.Ring.Nat
import Mathlib.Data.Int.Notation
import Mathlib.Data.List.Nodup
import Termd.Library.Transition

/-!
# The metadata stream of a browser client

The daemon sends the browser one snapshot of its sessions and clients, and then updates whose
revisions follow one another. A client that misses an update drops what it has and connects again,
and so does one whose socket is closed or whose token was refreshed. One reconnect runs at a time: a
request that comes meanwhile is marked, and taken up when the reconnect has ended. A reconnect that
has brought no snapshot is tried again after a while.

The sockets are opened by a transport, which numbers them: an opening that was superseded closes its
socket. What an event leads to at once runs before the next event, so it is one step.

## Main definitions

* `MetadataOpening`: a socket that is being opened, and who waits for it
* `V070Client`: what the client and its transport know of the metadata stream
* `V070Client.handleMetadata`, `requestMetadataReconnect`, `settleOpening`: what the events lead to
* `V070Client.Streams`: deliveries without a gap, one reconnect, one timer, and a retry

## Main results

* `V070Client.Retrying.step`, `V070Client.Delivered.step`: what a step keeps
* `V070Client.streams_of_run`: the stream over every run
-/

namespace Termd.Browser.Metadata

inductive MetadataKind
  | error
  | pong
  | snapshot
  | update
  | other

inductive MetadataDeliveryKind
  | snapshot
  | update
deriving DecidableEq

/-- A message that was parsed. -/
structure MetadataMessage (S : Type*) where
  kind : MetadataKind
  /-- `payload.revision`, if it is an integer -/
  revision : Option ℤ := none
  state : S
  /-- `payload.code` -/
  code : Option String := none

/-- `Number.MAX_SAFE_INTEGER` -/
def maxSafeInteger : ℤ := 9007199254740991

/-- The revision that `handleMetadata` goes on with. -/
def MetadataMessage.safeRevision {S : Type*} (m : MetadataMessage S) : Option ℕ :=
  (m.revision.filter fun r => 0 ≤ r && r ≤ maxSafeInteger).map Int.toNat

structure MetadataDelivery (S : Type*) where
  listener : ℕ
  revision : ℕ
  state : S
  kind : MetadataDeliveryKind

/-- A socket that `connectMetadata` is opening. -/
structure MetadataOpening where
  id : ℕ
  generation : ℕ
  /-- The token is there, and the socket was created. -/
  created : Bool := false
  /-- The calls of `ensureMetadata` that wait for it, and their generations. -/
  callers : List (ℕ × ℕ) := []
  /-- The generation of the reconnect that waits for it. -/
  reconnect : Option ℕ := none

/-- The socket of the transport, and whether it is still open. -/
structure MetadataSocket where
  id : ℕ
  isOpen : Bool
deriving DecidableEq

/-- The client with its transport and the page; the last four fields are only recorded. -/
structure V070Client (S : Type*) where
  isClosed : Bool := false
  metadataState : Option S := none
  metadataRevision : Option ℕ := none
  metadataConnected : Bool := false
  metadataFailure : Option String := none
  metadataResync : Option ℕ := none
  metadataConnectionGeneration : ℕ := 0
  metadataReconnectAttempt : ℕ := 0
  metadataReconnectNeeded : Bool := false
  metadataReconnectTimer : Option ℕ := none
  metadataWaiters : List ℕ := []
  metadataListeners : List ℕ := []
  /-- `WorkspaceTransport` -/
  metadata : Option MetadataSocket := none
  metadataOpen : Option ℕ := none
  metadataGeneration : ℕ := 0
  openings : List MetadataOpening := []
  nextOpening : ℕ := 0
  /-- The armed timers and their delays, in milliseconds. -/
  timers : List (ℕ × ℕ) := []
  nextTimer : ℕ := 0
  received : List (MetadataMessage S) := []
  deliveries : List (MetadataDelivery S) := []
  /-- The calls of `ensureMetadata` that have ended, and their errors. -/
  settled : List (ℕ × Option String) := []
  snapshotSeen : Bool := false

variable {S : Type*}

namespace V070Client

variable (s : V070Client S)

/-! ### The transport -/

/-- The part of `connectMetadata` that opens a socket, or waits for the one that is being opened. -/
def openMetadata (wait : MetadataOpening → MetadataOpening) : V070Client S :=
  match s.metadataOpen with
  | some id => { s with openings := s.openings.map fun o => if o.id = id then wait o else o }
  | none => { s with
      openings := s.openings ++ [wait { id := s.nextOpening, generation := s.metadataGeneration }]
      metadataOpen := some s.nextOpening
      nextOpening := s.nextOpening + 1 }

/-- `reconnectMetadata`, and the reconnect that waits for it. -/
def reconnectMetadata (generation : ℕ) : V070Client S :=
  openMetadata { s with
    metadataGeneration := s.metadataGeneration + 1
    metadata := none
    metadataOpen := none } fun o => { o with reconnect := some generation }

/-- `WorkspaceTransport.close` -/
def closeTransport : V070Client S :=
  { s with
    metadataGeneration := s.metadataGeneration + 1
    metadata := none
    metadataOpen := none }

/-! ### Reconnecting -/

def rejectMetadataWaiters (error : String) : V070Client S :=
  { s with
    settled := s.settled ++ s.metadataWaiters.map fun call => (call, some error)
    metadataWaiters := [] }

def clearMetadataReconnectTimer : V070Client S :=
  match s.metadataReconnectTimer with
  | none => s
  | some timer => { s with
      timers := s.timers.filter fun armed => armed.1 ≠ timer
      metadataReconnectTimer := none }

def requestMetadataReconnect : V070Client S :=
  if s.isClosed then s
  else if s.metadataResync.isSome || s.metadataReconnectTimer.isSome then
    { s with metadataReconnectNeeded := true }
  else
    let generation := s.metadataConnectionGeneration + 1
    { reconnectMetadata { s with
        metadataReconnectNeeded := false
        metadataConnectionGeneration := generation } generation with
      metadataResync := some s.nextOpening }

/-- The delay of a reconnect: 100 ms, doubled with each attempt, and 2 s at most. -/
def reconnectDelay (attempt : ℕ) : ℕ := min (100 * 2 ^ min attempt 5) 2000

def scheduleMetadataReconnect : V070Client S :=
  if s.isClosed || s.metadataReconnectTimer.isSome then s
  else { s with
    metadataReconnectAttempt := s.metadataReconnectAttempt + 1
    timers := s.timers ++ [(s.nextTimer, reconnectDelay s.metadataReconnectAttempt)]
    metadataReconnectTimer := some s.nextTimer
    nextTimer := s.nextTimer + 1 }

/-- The two handlers of a reconnect that has ended. -/
def afterReconnect (generation : ℕ) (ok : Bool) : V070Client S :=
  if s.isClosed || generation ≠ s.metadataConnectionGeneration then s
  else if ok then
    if s.metadataState.isNone then
      scheduleMetadataReconnect { s with
        metadataConnected := true, metadataReconnectNeeded := true }
    else { s with metadataConnected := true }
  else if s.metadataState.isSome then s
  else scheduleMetadataReconnect { s with
    metadataConnected := false, metadataReconnectNeeded := true }

/-- What was marked while the reconnect ran is taken up. -/
def endReconnect (id : ℕ) : V070Client S :=
  if s.metadataResync ≠ some id then s
  else
    let s := { s with metadataResync := none }
    if s.metadataReconnectNeeded && s.metadataReconnectTimer.isNone then s.requestMetadataReconnect
    else s

def handleMetadataClose : V070Client S :=
  if s.isClosed then s
  else
    let s := { s with
      metadataConnectionGeneration := s.metadataConnectionGeneration + 1
      metadataConnected := false
      metadataState := none
      metadataRevision := none }
    (s.rejectMetadataWaiters (s.metadataFailure.getD "connection_closed")).requestMetadataReconnect

/-- The part of `reconnectWithRefreshedToken` about metadata. -/
def reconnectWithRefreshedToken : V070Client S :=
  if s.isClosed || !s.metadataConnected then s
  else requestMetadataReconnect { s with
    metadataState := none
    metadataRevision := none
    metadataConnected := false }

/-! ### Messages -/

/-- An update that does not follow what is known. -/
def dropMetadata : V070Client S :=
  requestMetadataReconnect { s with
    metadataState := none
    metadataRevision := none
    metadataConnected := false }

/-- The rest of `handleMetadata`: what was sent is kept and told to the listeners. -/
def acceptMetadata (revision : ℕ) (state : S) (kind : MetadataDeliveryKind) : V070Client S :=
  let s := clearMetadataReconnectTimer { s with
    metadataRevision := some revision
    metadataState := some state
    metadataFailure := none
    metadataConnected := true
    metadataReconnectAttempt := 0
    metadataReconnectNeeded := false }
  { s with
    settled := s.settled ++ s.metadataWaiters.map fun call => (call, none)
    metadataWaiters := []
    deliveries := s.deliveries ++ s.metadataListeners.map fun listener =>
      { listener, revision, state, kind }
    snapshotSeen := s.snapshotSeen || kind = .snapshot }

def handleMetadata (m : MetadataMessage S) : V070Client S :=
  match m.kind with
  | .error =>
    let error := m.code.getD "metadata_error"
    rejectMetadataWaiters { s with metadataFailure := some error } error
  | .pong => s
  | kind =>
    match m.safeRevision with
    | none => s
    | some revision =>
      match kind with
      | .update =>
        match s.metadataRevision with
        | none => s.dropMetadata
        | some last =>
          if revision ≤ last then s
          else if revision ≠ last + 1 then s.dropMetadata
          else s.acceptMetadata revision m.state .update
      | .snapshot => s.acceptMetadata revision m.state .snapshot
      | _ => s

/-! ### Calls -/

def settle (call : ℕ) (error : Option String) : V070Client S :=
  { s with settled := s.settled ++ [(call, error)] }

/-- `ensureMetadata` after the transport has connected. -/
def ensureConnected (call generation : ℕ) : V070Client S :=
  if s.isClosed then s.settle call (some "connection_closed")
  else if generation ≠ s.metadataConnectionGeneration then s.settle call (some "stale_connection")
  else if s.metadataFailure.isSome then s.settle call s.metadataFailure
  else if s.metadataState.isSome then settle { s with metadataConnected := true } call none
  else { s with metadataConnected := true, metadataWaiters := s.metadataWaiters ++ [call] }

def ensureMetadata (call : ℕ) : V070Client S :=
  if s.isClosed then s.settle call (some "connection_closed")
  else if s.metadata.any MetadataSocket.isOpen then
    s.ensureConnected call s.metadataConnectionGeneration
  else s.openMetadata fun o =>
    { o with callers := o.callers ++ [(call, s.metadataConnectionGeneration)] }

/-- Who has waited for an opening goes on: the calls first, as they wait through fewer promises. -/
def settleOpening (o : MetadataOpening) (result : Except String Unit) : V070Client S :=
  let s := match result with
    | .ok () => o.callers.foldl (fun s c => s.ensureConnected c.1 c.2) s
    | .error error => o.callers.foldl (fun s c => s.settle c.1 (some error)) s
  match o.reconnect with
  | none => s
  | some generation => (s.afterReconnect generation result.isOk).endReconnect o.id

/-- The opening is over; `metadataOpen` is left to a later one. -/
def endOpening (id : ℕ) : V070Client S :=
  { s with
    openings := s.openings.filter fun o => o.id ≠ id
    metadataOpen := if s.metadataOpen = some id then none else s.metadataOpen }

def watchMetadata (listener : ℕ) : V070Client S :=
  let s := { s with metadataListeners :=
    if listener ∈ s.metadataListeners then s.metadataListeners
    else s.metadataListeners ++ [listener] }
  match s.metadataRevision, s.metadataState with
  | some revision, some state => { s with
      deliveries := s.deliveries ++ [{ listener, revision, state, kind := .snapshot }] }
  | _, _ => s

def close : V070Client S :=
  if s.isClosed then s
  else
    let s := clearMetadataReconnectTimer { s with
      isClosed := true
      metadataConnectionGeneration := s.metadataConnectionGeneration + 1
      metadataConnected := false
      metadataReconnectNeeded := false }
    (s.rejectMetadataWaiters "connection_closed").closeTransport

end V070Client

/-- What the page and its network do. -/
inductive Op (S : Type*)
  | ensureMetadata (call : ℕ)
  | watchMetadata (listener : ℕ)
  | unwatch (listener : ℕ)
  | close
  /-- The token for an opening is there, and the socket is created, or there is no token. -/
  | token (id : ℕ) (result : Except String Unit)
  | opened (id : ℕ)
  /-- The socket has an error or is closed while it is opened. -/
  | openFailed (id : ℕ)
  | message (m : MetadataMessage S)
  /-- The socket is not open any more; its close event is still to come. -/
  | closing
  | closed
  | timer (timer : ℕ)
  | tokenRefreshed

namespace V070Client

variable (s : V070Client S)

def step : Op S → Option (V070Client S)
  | .ensureMetadata call => some (s.ensureMetadata call)
  | .watchMetadata listener => some (s.watchMetadata listener)
  | .unwatch listener => some { s with metadataListeners := s.metadataListeners.erase listener }
  | .close => some s.close
  | .token id result =>
    match s.openings.find? fun o => o.id = id && !o.created with
    | none => none
    | some o =>
      match result with
      | .ok () => some { s with openings := s.openings.map fun o =>
          if o.id = id then { o with created := true } else o }
      | .error error => some ((s.endOpening id).settleOpening o (.error error))
  | .opened id =>
    match s.openings.find? fun o => o.id = id && o.created with
    | none => none
    | some o =>
      if o.generation ≠ s.metadataGeneration then
        some ((s.endOpening id).settleOpening o (.error "metadata websocket was superseded"))
      else some (settleOpening { s.endOpening id with metadata := some ⟨id, true⟩ } o (.ok ()))
  | .openFailed id =>
    match s.openings.find? fun o => o.id = id && o.created with
    | none => none
    | some o =>
      some ((s.endOpening id).settleOpening o (.error "metadata websocket failed to open"))
  | .message m =>
    if s.metadata.any MetadataSocket.isOpen then
      some (handleMetadata { s with received := s.received ++ [m] } m)
    else none
  | .closing =>
    if s.metadata.any MetadataSocket.isOpen then
      some { s with metadata := s.metadata.map fun socket => { socket with isOpen := false } }
    else none
  | .closed =>
    if s.metadata.isSome then some (handleMetadataClose { s with metadata := none }) else none
  | .timer timer =>
    if s.timers.any fun armed => armed.1 = timer then
      some (requestMetadataReconnect { s with
        timers := s.timers.filter fun armed => armed.1 ≠ timer
        metadataReconnectTimer := none })
    else none
  | .tokenRefreshed => some s.reconnectWithRefreshedToken

/-! ### What is claimed -/

def deliveriesTo (listener : ℕ) : List (MetadataDelivery S) :=
  s.deliveries.filter fun d => d.listener = listener

end V070Client

/-- Every update follows the delivery before it; after nothing there is a snapshot. -/
def Consecutive : Option ℕ → List (MetadataDelivery S) → Prop
  | _, [] => True
  | last, d :: ds =>
    (d.kind = .snapshot ∨ ∃ r, last = some r ∧ d.revision = r + 1) ∧
      Consecutive (some d.revision) ds

namespace V070Client

variable (s : V070Client S)

structure Streams : Prop where
  delivered : ∀ listener, Consecutive none (s.deliveriesTo listener)
  /-- State and revision are those of one message. -/
  paired : s.metadataState = none ∧ s.metadataRevision = none ∨
    ∃ m ∈ s.received, ∃ r, m.safeRevision = some r ∧
      s.metadataRevision = some r ∧ s.metadataState = some m.state
  oneReconnect : (s.openings.filter fun o => o.reconnect.isSome).length ≤ 1
  oneTimer : s.timers.length ≤ 1
  retried : s.snapshotSeen = true → s.isClosed = false → s.metadataState = none →
    (∃ o ∈ s.openings, o.reconnect.isSome = true) ∨ s.timers ≠ []

/-! ### Reconnecting -/

/-- The slots of the client agree with what runs: one reconnect and one timer. -/
structure Slots : Prop where
  resync : (s.openings.filter fun o => o.reconnect.isSome).map MetadataOpening.id =
    s.metadataResync.toList
  ids : (s.openings.map MetadataOpening.id).Nodup
  fresh : ∀ o ∈ s.openings, o.id < s.nextOpening
  timer : s.timers.map Prod.fst = s.metadataReconnectTimer.toList

/-- A reconnect that was overtaken leaves a mark, and after a snapshot nothing is given up. -/
structure Retrying : Prop extends Slots s where
  waiting : ∀ o ∈ s.openings, ∀ generation, o.reconnect = some generation →
    generation = s.metadataConnectionGeneration ∨ s.metadataReconnectNeeded = true ∨
      s.metadataState.isSome = true ∨ s.isClosed = true
  retried : s.snapshotSeen = true → s.isClosed = false → s.metadataState = none →
    s.metadataResync.isSome = true ∨ s.metadataReconnectTimer.isSome = true

variable {s}

theorem Retrying.initial : Retrying ({} : V070Client S) where
  resync := rfl
  ids := List.nodup_nil
  fresh := by simp
  timer := rfl
  waiting := by simp
  retried := by simp

/-- What changes neither which openings there are nor who reconnects. -/
theorem Slots.map (h : s.Slots) {wait : MetadataOpening → MetadataOpening}
    (hid : ∀ o, (wait o).id = o.id) (hreconnect : ∀ o, (wait o).reconnect = o.reconnect) :
    Slots { s with openings := s.openings.map wait } := by
  have hids : MetadataOpening.id ∘ wait = MetadataOpening.id := funext hid
  constructor
  case resync =>
    have hfilter : ((fun o : MetadataOpening => o.reconnect.isSome) ∘ wait) =
        fun o => o.reconnect.isSome := by
      funext o
      exact congrArg Option.isSome (hreconnect o)
    rw [List.filter_map, hfilter, List.map_map, hids]
    exact h.resync
  case ids =>
    rw [List.map_map, hids]
    exact h.ids
  case fresh =>
    intro o ho
    obtain ⟨o, hmem, rfl⟩ := List.mem_map.mp ho
    rw [hid]
    exact h.fresh o hmem
  case timer => exact h.timer

theorem Retrying.map (h : s.Retrying) {wait : MetadataOpening → MetadataOpening}
    (hid : ∀ o, (wait o).id = o.id) (hreconnect : ∀ o, (wait o).reconnect = o.reconnect) :
    Retrying { s with openings := s.openings.map wait } := by
  refine ⟨h.toSlots.map hid hreconnect, ?_, h.retried⟩
  intro o ho generation hgeneration
  obtain ⟨o, hmem, rfl⟩ := List.mem_map.mp ho
  rw [hreconnect] at hgeneration
  exact h.waiting o hmem generation hgeneration

/-- A new opening; the reconnect that waits for it is the one that is noted. -/
theorem Slots.open (h : s.Slots) {o : MetadataOpening} (hid : o.id = s.nextOpening)
    (resync : Option ℕ) (hresync : s.metadataResync.toList ++
      ([o].filter fun o => o.reconnect.isSome).map MetadataOpening.id = resync.toList)
    (pending : Option ℕ) :
    Slots { s with
      openings := s.openings ++ [o]
      metadataOpen := pending
      nextOpening := s.nextOpening + 1
      metadataResync := resync } := by
  constructor
  case resync =>
    rw [List.filter_append, List.map_append, h.resync]
    exact hresync
  case ids =>
    rw [List.map_append, List.nodup_append]
    refine ⟨h.ids, List.nodup_singleton _, ?_⟩
    intro id hmem id' hmem'
    obtain ⟨o', ho', rfl⟩ := List.mem_map.mp hmem
    obtain rfl := List.mem_singleton.mp hmem'
    have hlt := h.fresh o' ho'
    omega
  case fresh =>
    intro o' ho'
    rcases List.mem_append.mp ho' with ho' | ho'
    · exact Nat.lt_succ_of_lt (h.fresh o' ho')
    · obtain rfl := List.mem_singleton.mp ho'
      exact hid ▸ Nat.lt_succ_self _
  case timer => exact h.timer

theorem Retrying.openMetadata (h : s.Retrying) {wait : MetadataOpening → MetadataOpening}
    (hid : ∀ o, (wait o).id = o.id) (hreconnect : ∀ o, (wait o).reconnect = o.reconnect) :
    (s.openMetadata wait).Retrying := by
  unfold V070Client.openMetadata
  split
  · refine h.map (fun o => ?_) (fun o => ?_)
    · split
      · exact hid o
      · rfl
    · split
      · exact hreconnect o
      · rfl
  · refine ⟨?_, ?_, h.retried⟩
    · refine h.toSlots.open (hid _) s.metadataResync ?_ _
      simp [hreconnect]
    · intro o ho generation hgeneration
      rcases List.mem_append.mp ho with ho | ho
      · exact h.waiting o ho generation hgeneration
      · obtain rfl := List.mem_singleton.mp ho
        rw [hreconnect] at hgeneration
        cases hgeneration

/-- A request leaves a reconnect or a timer, or a client that is closed. -/
theorem Slots.requestMetadataReconnect (h : s.Slots) : s.requestMetadataReconnect.Retrying := by
  unfold V070Client.requestMetadataReconnect
  split
  · rename_i hclosed
    refine ⟨h, fun _ _ _ _ => .inr (.inr (.inr hclosed)), ?_⟩
    intro _ hopen
    rw [hclosed] at hopen
    cases hopen
  · split
    · rename_i hbusy
      exact ⟨⟨h.resync, h.ids, h.fresh, h.timer⟩, fun _ _ _ _ => .inr (.inl rfl),
        fun _ _ _ => Bool.or_eq_true_iff.mp hbusy⟩
    · rename_i hfree
      rw [Bool.or_eq_true, not_or, Bool.not_eq_true, Option.isSome_eq_false_iff,
        Option.isNone_iff_eq_none] at hfree
      refine ⟨?_, ?_, fun _ _ _ => .inl rfl⟩
      · refine Slots.open (s := { s with
            metadataReconnectNeeded := false
            metadataConnectionGeneration := s.metadataConnectionGeneration + 1
            metadataGeneration := s.metadataGeneration + 1
            metadata := none }) ⟨h.resync, h.ids, h.fresh, h.timer⟩ rfl _ ?_ _
        rw [hfree.1]
        rfl
      · intro o ho generation hgeneration
        rcases List.mem_append.mp ho with ho | ho
        · -- no reconnect was noted, so none of the older openings waits for one
          have hmem : o.id ∈ s.metadataResync.toList := by
            rw [← h.resync]
            refine List.mem_map_of_mem (List.mem_filter.mpr ⟨ho, ?_⟩)
            exact congrArg Option.isSome hgeneration
          rw [hfree.1] at hmem
          cases hmem
        · obtain rfl := List.mem_singleton.mp ho
          exact .inl (Option.some.inj hgeneration).symm

theorem clearMetadataReconnectTimer_eq (s : V070Client S) :
    s.clearMetadataReconnectTimer = { s with
      timers := s.clearMetadataReconnectTimer.timers
      metadataReconnectTimer := none } := by
  unfold clearMetadataReconnectTimer
  cases htimer : s.metadataReconnectTimer with
  | none =>
    cases s
    obtain rfl : _ = none := htimer
    rfl
  | some timer => rfl

/-- No timer is armed when the one that is noted is cleared. -/
theorem Slots.timers_clearMetadataReconnectTimer (h : s.Slots) :
    s.clearMetadataReconnectTimer.timers.map Prod.fst = [] := by
  have htimers := h.timer
  unfold V070Client.clearMetadataReconnectTimer
  cases htimer : s.metadataReconnectTimer with
  | none => exact htimers.trans (congrArg Option.toList htimer)
  | some timer =>
    rw [htimer] at htimers
    refine List.map_eq_nil_iff.mpr (List.filter_eq_nil_iff.mpr ?_)
    intro armed harmed
    have hmem : armed.1 ∈ (some timer).toList := htimers ▸ List.mem_map_of_mem harmed
    simpa using hmem

theorem scheduleMetadataReconnect_spec
    (h : s.timers.map Prod.fst = s.metadataReconnectTimer.toList) :
    ∃ attempt timers timer next,
      s.scheduleMetadataReconnect = { s with
        metadataReconnectAttempt := attempt
        timers := timers
        metadataReconnectTimer := timer
        nextTimer := next } ∧
      timers.map Prod.fst = timer.toList ∧ (s.isClosed = false → timer.isSome = true) := by
  unfold scheduleMetadataReconnect
  split
  · rename_i hbusy
    refine ⟨_, _, _, _, rfl, h, ?_⟩
    intro hopen
    rw [hopen, Bool.false_or] at hbusy
    exact hbusy
  · rename_i hfree
    rw [Bool.or_eq_true, not_or, Bool.not_eq_true, Bool.not_eq_true, Option.isSome_eq_false_iff,
      Option.isNone_iff_eq_none] at hfree
    refine ⟨_, _, _, _, rfl, ?_, fun _ => rfl⟩
    rw [List.map_append, h, hfree.2]
    rfl

/-- The handlers of a reconnect that was not overtaken schedule the next one, unless there is a
snapshot. -/
theorem afterReconnect_spec (h : s.timers.map Prod.fst = s.metadataReconnectTimer.toList)
    {generation : ℕ} (hwaiting : generation = s.metadataConnectionGeneration ∨
      s.metadataReconnectNeeded = true ∨ s.metadataState.isSome = true ∨ s.isClosed = true)
    (ok : Bool) :
    ∃ connected needed attempt timers timer next,
      s.afterReconnect generation ok = { s with
        metadataConnected := connected
        metadataReconnectNeeded := needed
        metadataReconnectAttempt := attempt
        timers := timers
        metadataReconnectTimer := timer
        nextTimer := next } ∧
      timers.map Prod.fst = timer.toList ∧
      (s.isClosed = false → s.metadataState = none → needed = true ∨ timer.isSome = true) := by
  unfold afterReconnect
  split
  · rename_i hover
    refine ⟨_, _, _, _, _, _, rfl, h, ?_⟩
    intro hopen hstate
    -- nothing is done for a reconnect that was overtaken; a mark is left for the one after it
    rcases hwaiting with rfl | hneeded | hsome | hclosed
    · simp [hopen] at hover
    · exact .inl hneeded
    · rw [hstate] at hsome
      cases hsome
    · rw [hopen] at hclosed
      cases hclosed
  · rename_i hcurrent
    have hopen : s.isClosed = false := by
      rw [Bool.or_eq_true, not_or, Bool.not_eq_true] at hcurrent
      exact hcurrent.1
    -- both handlers end in the same way
    have hschedule (connected : Bool) := scheduleMetadataReconnect_spec (s := { s with
      metadataConnected := connected, metadataReconnectNeeded := true }) h
    split
    · split
      · obtain ⟨_, _, _, _, heq, htimers, -⟩ := hschedule true
        exact ⟨_, _, _, _, _, _, heq, htimers, fun _ _ => .inl rfl⟩
      · rename_i hstate
        refine ⟨_, _, _, _, _, _, rfl, h, fun _ hnone => ?_⟩
        rw [hnone] at hstate
        exact absurd rfl hstate
    · split
      · rename_i hstate
        refine ⟨_, _, _, _, _, _, rfl, h, fun _ hnone => ?_⟩
        rw [hnone] at hstate
        cases hstate
      · obtain ⟨_, _, _, _, heq, htimers, -⟩ := hschedule false
        exact ⟨_, _, _, _, _, _, heq, htimers, fun _ _ => .inl rfl⟩

/-- A reconnect that has ended: what was marked meanwhile is taken up, or a timer is armed. -/
theorem Slots.endReconnect (hids : (s.openings.map MetadataOpening.id).Nodup)
    (hfresh : ∀ o ∈ s.openings, o.id < s.nextOpening)
    (htimer : s.timers.map Prod.fst = s.metadataReconnectTimer.toList)
    (hnone : (s.openings.filter fun o => o.reconnect.isSome) = []) {id generation : ℕ}
    (hresync : s.metadataResync = some id)
    (hwaiting : generation = s.metadataConnectionGeneration ∨
      s.metadataReconnectNeeded = true ∨ s.metadataState.isSome = true ∨ s.isClosed = true)
    (ok : Bool) : ((s.afterReconnect generation ok).endReconnect id).Retrying := by
  obtain ⟨connected, needed, attempt, timers, timer, next, heq, htimers, hpending⟩ :=
    afterReconnect_spec htimer hwaiting ok
  rw [heq]
  have hslots : Slots { s with
      metadataConnected := connected
      metadataReconnectNeeded := needed
      metadataReconnectAttempt := attempt
      timers := timers
      metadataReconnectTimer := timer
      nextTimer := next
      metadataResync := none } :=
    ⟨congrArg (List.map MetadataOpening.id) hnone, hids, hfresh, htimers⟩
  unfold V070Client.endReconnect
  rw [if_neg (not_not.mpr hresync)]
  dsimp only
  split
  · exact hslots.requestMetadataReconnect
  · -- nothing was marked, or a timer is armed that will ask again
    rename_i hrest
    refine ⟨hslots, ?_, ?_⟩
    · intro o ho generation' hgeneration
      have hmem : o ∈ s.openings.filter fun o => o.reconnect.isSome :=
        List.mem_filter.mpr ⟨ho, congrArg Option.isSome hgeneration⟩
      rw [hnone] at hmem
      cases hmem
    · intro _ hopen hstate
      right
      rcases hpending hopen hstate with hneeded | htimer'
      · rw [hneeded, Bool.true_and, Option.isNone_iff_eq_none] at hrest
        exact Option.isSome_iff_ne_none.mpr hrest
      · exact htimer'

/-! ### The calls that wait -/

theorem ensureConnected_eq (s : V070Client S) (call generation : ℕ) :
    ∃ connected settled waiters, s.ensureConnected call generation = { s with
      metadataConnected := connected, settled := settled, metadataWaiters := waiters } := by
  unfold ensureConnected
  split
  · exact ⟨_, _, _, rfl⟩
  · split
    · exact ⟨_, _, _, rfl⟩
    · split
      · exact ⟨_, _, _, rfl⟩
      · split
        · exact ⟨_, _, _, rfl⟩
        · exact ⟨_, _, _, rfl⟩

/-- The calls that go on change nothing but what they wait for. -/
theorem foldl_callers_eq (callers : List (ℕ × ℕ)) {f : V070Client S → ℕ × ℕ → V070Client S}
    (hf : ∀ s c, ∃ connected settled waiters, f s c = { s with
      metadataConnected := connected, settled := settled, metadataWaiters := waiters })
    (s : V070Client S) :
    ∃ connected settled waiters, callers.foldl f s = { s with
      metadataConnected := connected, settled := settled, metadataWaiters := waiters } := by
  induction callers generalizing s with
  | nil => exact ⟨_, _, _, rfl⟩
  | cons c callers ih =>
    obtain ⟨connected, settled, waiters, heq⟩ := hf s c
    obtain ⟨connected', settled', waiters', heq'⟩ := ih (f s c)
    refine ⟨connected', settled', waiters', ?_⟩
    rw [List.foldl_cons, heq', heq]

/-- What `settleOpening` does before the reconnect goes on. -/
theorem settleOpening_eq (s : V070Client S) (o : MetadataOpening) (result : Except String Unit) :
    ∃ connected settled waiters, s.settleOpening o result =
      match o.reconnect with
      | none => { s with
          metadataConnected := connected, settled := settled, metadataWaiters := waiters }
      | some generation => (afterReconnect { s with
          metadataConnected := connected, settled := settled, metadataWaiters := waiters }
          generation result.isOk).endReconnect o.id := by
  cases result with
  | ok value =>
    obtain ⟨connected, settled, waiters, heq⟩ :=
      foldl_callers_eq o.callers (fun s c => ensureConnected_eq s c.1 c.2) s
    refine ⟨connected, settled, waiters, ?_⟩
    rw [← heq]
    rfl
  | error error =>
    obtain ⟨connected, settled, waiters, heq⟩ :=
      foldl_callers_eq o.callers (f := fun s c => s.settle c.1 (some error))
        (fun _ _ => ⟨_, _, _, rfl⟩) s
    refine ⟨connected, settled, waiters, ?_⟩
    rw [← heq]
    rfl

/-- The reconnects that wait when an opening is over. -/
theorem Slots.reconnects_endOpening (h : s.Slots) (id : ℕ) :
    ((s.openings.filter fun o => o.id ≠ id).filter fun o => o.reconnect.isSome).map
        MetadataOpening.id = s.metadataResync.toList.filter fun id' => id' ≠ id := by
  rw [← h.resync, List.filter_map, List.filter_filter, List.filter_filter]
  congr 1
  refine List.filter_congr fun o _ => ?_
  exact Bool.and_comm _ _

theorem Slots.resync_of_mem (h : s.Slots) {o : MetadataOpening} (ho : o ∈ s.openings)
    (hreconnect : o.reconnect.isSome = true) : s.metadataResync = some o.id := by
  have hmem : o.id ∈ s.metadataResync.toList := by
    rw [← h.resync]
    exact List.mem_map_of_mem (List.mem_filter.mpr ⟨ho, hreconnect⟩)
  exact Option.mem_toList.mp hmem

/-- No reconnect waits when the opening of the one that is noted is over. -/
theorem Slots.reconnects_eq_nil (h : s.Slots) {o : MetadataOpening} (ho : o ∈ s.openings)
    (hreconnect : o.reconnect.isSome = true) :
    ((s.openings.filter fun o' => o'.id ≠ o.id).filter fun o => o.reconnect.isSome) = [] := by
  have hreconnects := h.reconnects_endOpening o.id
  rw [h.resync_of_mem ho hreconnect] at hreconnects
  exact List.map_eq_nil_iff.mp (hreconnects.trans (by simp))

theorem Slots.nodup_endOpening (h : s.Slots) (id : ℕ) :
    ((s.openings.filter fun o => o.id ≠ id).map MetadataOpening.id).Nodup :=
  h.ids.sublist (List.filter_sublist.map _)

/-- The end of an opening. -/
theorem Retrying.settleOpening (h : s.Retrying) {o : MetadataOpening} (ho : o ∈ s.openings)
    (result : Except String Unit) (socket : Option MetadataSocket) :
    (settleOpening { s.endOpening o.id with metadata := socket } o result).Retrying := by
  have hfresh : ∀ o' ∈ s.openings.filter fun o' => o'.id ≠ o.id, o'.id < s.nextOpening :=
    fun o' ho' => h.fresh o' (List.mem_of_mem_filter ho')
  obtain ⟨connected, settled, waiters, heq⟩ :=
    settleOpening_eq { s.endOpening o.id with metadata := socket } o result
  rw [heq]
  cases hreconnect : o.reconnect with
  | none =>
    -- identifiers are unique, so the reconnect that is noted waits for another opening
    have hother : o.id ∉ s.metadataResync.toList := by
      rw [← h.resync]
      intro hmem
      obtain ⟨o', ho', hid⟩ := List.mem_map.mp hmem
      obtain ⟨ho', hsome⟩ := List.mem_filter.mp ho'
      obtain rfl := List.inj_on_of_nodup_map h.ids ho' ho hid
      rw [hreconnect] at hsome
      cases hsome
    refine ⟨⟨?_, h.nodup_endOpening o.id, hfresh, h.timer⟩, ?_, h.retried⟩
    · refine (h.reconnects_endOpening o.id).trans (List.filter_eq_self.mpr ?_)
      intro id hid
      refine decide_eq_true ?_
      rintro rfl
      exact hother hid
    · exact fun o' ho' => h.waiting o' (List.mem_of_mem_filter ho')
  | some generation =>
    have hsome : o.reconnect.isSome = true := congrArg Option.isSome hreconnect
    exact Slots.endReconnect (s := { s.endOpening o.id with
        metadata := socket
        metadataConnected := connected
        settled := settled
        metadataWaiters := waiters }) (h.nodup_endOpening o.id) hfresh h.timer
      (h.reconnects_eq_nil ho hsome) (h.resync_of_mem ho hsome) (h.waiting o ho _ hreconnect) _

/-! ### The other events -/

/-- The client forgets what it knew, and connects again. -/
theorem Slots.forget (h : s.Slots) (generation : ℕ) :
    Slots { s with
      metadataConnectionGeneration := generation
      metadataConnected := false
      metadataState := none
      metadataRevision := none } :=
  ⟨h.resync, h.ids, h.fresh, h.timer⟩

theorem Slots.rejectMetadataWaiters (h : s.Slots) (error : String) :
    (s.rejectMetadataWaiters error).Slots :=
  ⟨h.resync, h.ids, h.fresh, h.timer⟩

theorem Retrying.handleMetadataClose (h : s.Retrying) : s.handleMetadataClose.Retrying := by
  unfold V070Client.handleMetadataClose
  split
  · exact h
  · exact ((Slots.forget h.toSlots _).rejectMetadataWaiters _).requestMetadataReconnect

theorem Retrying.reconnectWithRefreshedToken (h : s.Retrying) :
    s.reconnectWithRefreshedToken.Retrying := by
  unfold V070Client.reconnectWithRefreshedToken
  split
  · exact h
  · exact (Slots.forget h.toSlots s.metadataConnectionGeneration).requestMetadataReconnect

theorem Retrying.dropMetadata (h : s.Retrying) : s.dropMetadata.Retrying :=
  (Slots.forget h.toSlots s.metadataConnectionGeneration).requestMetadataReconnect

theorem acceptMetadata_eq (s : V070Client S) (revision : ℕ) (state : S)
    (kind : MetadataDeliveryKind) :
    ∃ settled seen, s.acceptMetadata revision state kind = { s with
      metadataRevision := some revision
      metadataState := some state
      metadataFailure := none
      metadataConnected := true
      metadataReconnectAttempt := 0
      metadataReconnectNeeded := false
      timers := s.clearMetadataReconnectTimer.timers
      metadataReconnectTimer := none
      settled := settled
      metadataWaiters := []
      deliveries := s.deliveries ++ s.metadataListeners.map fun listener =>
        { listener, revision, state, kind }
      snapshotSeen := seen } := by
  unfold acceptMetadata clearMetadataReconnectTimer
  cases htimer : s.metadataReconnectTimer with
  | none => exact ⟨_, _, rfl⟩
  | some timer => exact ⟨_, _, rfl⟩

/-- A state that was sent ends what was marked, and the timer. -/
theorem Retrying.acceptMetadata (h : s.Retrying) (revision : ℕ) (state : S)
    (kind : MetadataDeliveryKind) : (s.acceptMetadata revision state kind).Retrying := by
  obtain ⟨_, _, heq⟩ := acceptMetadata_eq s revision state kind
  rw [heq]
  exact ⟨⟨h.resync, h.ids, h.fresh, h.toSlots.timers_clearMetadataReconnectTimer⟩,
    fun _ _ _ _ => .inr (.inr (.inl rfl)), fun _ _ => nofun⟩

theorem Retrying.handleMetadata (h : s.Retrying) (m : MetadataMessage S) :
    (s.handleMetadata m).Retrying := by
  unfold V070Client.handleMetadata
  split
  · exact ⟨⟨h.resync, h.ids, h.fresh, h.timer⟩, h.waiting, h.retried⟩
  · exact h
  · split
    · exact h
    · split
      · split
        · exact h.dropMetadata
        · split
          · exact h
          · split
            · exact h.dropMetadata
            · exact h.acceptMetadata ..
      · exact h.acceptMetadata ..
      · exact h

theorem Retrying.ensureConnected (h : s.Retrying) (call generation : ℕ) :
    (s.ensureConnected call generation).Retrying := by
  obtain ⟨connected, settled, waiters, heq⟩ := ensureConnected_eq s call generation
  rw [heq]
  exact ⟨⟨h.resync, h.ids, h.fresh, h.timer⟩, h.waiting, h.retried⟩

theorem Retrying.ensureMetadata (h : s.Retrying) (call : ℕ) :
    (s.ensureMetadata call).Retrying := by
  unfold V070Client.ensureMetadata
  split
  · exact ⟨⟨h.resync, h.ids, h.fresh, h.timer⟩, h.waiting, h.retried⟩
  · split
    · exact h.ensureConnected ..
    · exact h.openMetadata (fun _ => rfl) (fun _ => rfl)

theorem Retrying.watchMetadata (h : s.Retrying) (listener : ℕ) :
    (s.watchMetadata listener).Retrying := by
  unfold V070Client.watchMetadata
  dsimp only
  split
  all_goals exact ⟨⟨h.resync, h.ids, h.fresh, h.timer⟩, h.waiting, h.retried⟩

theorem Retrying.close (h : s.Retrying) : s.close.Retrying := by
  unfold V070Client.close
  split
  · exact h
  · have hslots : Slots { s with
        isClosed := true
        metadataConnectionGeneration := s.metadataConnectionGeneration + 1
        metadataConnected := false
        metadataReconnectNeeded := false } := ⟨h.resync, h.ids, h.fresh, h.timer⟩
    dsimp only
    rw [clearMetadataReconnectTimer_eq]
    exact ⟨⟨h.resync, h.ids, h.fresh, hslots.timers_clearMetadataReconnectTimer⟩,
      fun _ _ _ _ => .inr (.inr (.inr rfl)), fun _ => nofun⟩

/-- A timer that fires is the one that is noted. -/
theorem Slots.fired (h : s.Slots) {timer : ℕ}
    (htimer : (s.timers.any fun armed => armed.1 = timer) = true) :
    Slots { s with
      timers := s.timers.filter fun armed => armed.1 ≠ timer
      metadataReconnectTimer := none } := by
  refine ⟨h.resync, h.ids, h.fresh, ?_⟩
  obtain ⟨armed, harmed, heq⟩ := List.any_eq_true.mp htimer
  -- the slot holds one timer, so there is no other
  have hall : ∀ armed' ∈ s.timers, armed'.1 = timer := by
    intro armed' harmed'
    have hmem := h.timer ▸ List.mem_map_of_mem (f := Prod.fst) harmed
    have hmem' := h.timer ▸ List.mem_map_of_mem (f := Prod.fst) harmed'
    rw [Option.mem_toList] at hmem hmem'
    exact (Option.some.inj (hmem'.symm.trans hmem)).trans (of_decide_eq_true heq)
  refine List.map_eq_nil_iff.mpr (List.filter_eq_nil_iff.mpr ?_)
  intro armed' harmed'
  simpa using hall armed' harmed'

/-- The opening that an event is about. -/
theorem opening_of_event {α : Type*} {openings : List MetadataOpening} {id : ℕ}
    {p : MetadataOpening → Bool} {f : MetadataOpening → Option α} {a : α}
    (h : (match openings.find? fun o => o.id = id && p o with
      | none => none
      | some o => f o) = some a) : ∃ o ∈ openings, o.id = id ∧ f o = some a := by
  cases ho : openings.find? fun o => o.id = id && p o with
  | none =>
    rw [ho] at h
    cases h
  | some o =>
    rw [ho] at h
    have hfound := List.find?_some ho
    exact ⟨o, List.mem_of_find?_eq_some ho, of_decide_eq_true (Bool.and_eq_true_iff.mp hfound).1, h⟩

theorem Retrying.step (h : s.Retrying) {op : Op S} {s' : V070Client S}
    (hs : s.step op = some s') : s'.Retrying := by
  cases op with
  | ensureMetadata call => exact Option.some.inj hs ▸ h.ensureMetadata call
  | watchMetadata listener => exact Option.some.inj hs ▸ h.watchMetadata listener
  | unwatch listener =>
    obtain rfl := Option.some.inj hs
    exact ⟨⟨h.resync, h.ids, h.fresh, h.timer⟩, h.waiting, h.retried⟩
  | close => exact Option.some.inj hs ▸ h.close
  | token id result =>
    obtain ⟨o, ho, rfl, hs⟩ := opening_of_event hs
    cases result with
    | ok value =>
      obtain rfl := Option.some.inj hs
      exact h.map (fun o => by split <;> rfl) (fun o => by split <;> rfl)
    | error error => exact Option.some.inj hs ▸ h.settleOpening ho _ s.metadata
  | opened id =>
    obtain ⟨o, ho, rfl, hs⟩ := opening_of_event hs
    split at hs
    · exact Option.some.inj hs ▸ h.settleOpening ho _ s.metadata
    · exact Option.some.inj hs ▸ h.settleOpening ho _ _
  | openFailed id =>
    obtain ⟨o, ho, rfl, hs⟩ := opening_of_event hs
    exact Option.some.inj hs ▸ h.settleOpening ho _ s.metadata
  | message m =>
    dsimp only [V070Client.step] at hs
    split at hs
    · obtain rfl := Option.some.inj hs
      exact Retrying.handleMetadata (s := { s with received := s.received ++ [m] })
        ⟨⟨h.resync, h.ids, h.fresh, h.toSlots.timer⟩, h.waiting, h.retried⟩ m
    · cases hs
  | closing =>
    dsimp only [V070Client.step] at hs
    split at hs
    · obtain rfl := Option.some.inj hs
      exact ⟨⟨h.resync, h.ids, h.fresh, h.toSlots.timer⟩, h.waiting, h.retried⟩
    · cases hs
  | closed =>
    dsimp only [V070Client.step] at hs
    split at hs
    · obtain rfl := Option.some.inj hs
      exact Retrying.handleMetadataClose (s := { s with metadata := none })
        ⟨⟨h.resync, h.ids, h.fresh, h.toSlots.timer⟩, h.waiting, h.retried⟩
    · cases hs
  | timer timer =>
    dsimp only [V070Client.step] at hs
    split at hs
    · rename_i htimer
      exact Option.some.inj hs ▸ (h.toSlots.fired htimer).requestMetadataReconnect
    · cases hs
  | tokenRefreshed => exact Option.some.inj hs ▸ h.reconnectWithRefreshedToken

end V070Client

/-! ### Deliveries -/

/-- The revision of the last delivery, or the given one. -/
def lastRevision : Option ℕ → List (MetadataDelivery S) → Option ℕ
  | last, [] => last
  | _, d :: ds => lastRevision (some d.revision) ds

theorem consecutive_append {last : Option ℕ} {ds : List (MetadataDelivery S)}
    {d : MetadataDelivery S} (h : Consecutive last ds)
    (hd : d.kind = .snapshot ∨ ∃ r, lastRevision last ds = some r ∧ d.revision = r + 1) :
    Consecutive last (ds ++ [d]) := by
  induction ds generalizing last with
  | nil => exact ⟨hd, trivial⟩
  | cons d' ds ih => exact ⟨h.1, ih h.2 hd⟩

theorem lastRevision_append (last : Option ℕ) (ds : List (MetadataDelivery S))
    (d : MetadataDelivery S) : lastRevision last (ds ++ [d]) = some d.revision := by
  induction ds generalizing last with
  | nil => rfl
  | cons d' ds ih => exact ih _

/-- What is sent to all listeners comes to each of them once. -/
theorem filter_map_listeners {listeners : List ℕ} (h : listeners.Nodup)
    (f : ℕ → MetadataDelivery S) (hf : ∀ l, (f l).listener = l) (listener : ℕ) :
    (listeners.map f).filter (fun d => d.listener = listener) =
      if listener ∈ listeners then [f listener] else [] := by
  have hcomp : ((fun d : MetadataDelivery S => decide (d.listener = listener)) ∘ f) =
      fun l => l == listener := by
    funext l
    rw [Function.comp_apply, hf]
    rfl
  rw [List.filter_map, hcomp, List.filter_beq]
  split
  · rename_i hmem
    rw [List.count_eq_one_of_mem h hmem]
    rfl
  · rename_i hmem
    rw [List.count_eq_zero_of_not_mem hmem]
    rfl

namespace V070Client

variable {s : V070Client S}

/-- What the client knows of the stream, and what it has told of it. -/
def known (s : V070Client S) : List ℕ × List (MetadataDelivery S) × Option ℕ × Option S ×
    List (MetadataMessage S) :=
  (s.metadataListeners, s.deliveries, s.metadataRevision, s.metadataState, s.received)

variable (s) in
/-- What was delivered is without a gap, and the listeners have what the client knows. -/
structure Delivered : Prop where
  nodup : s.metadataListeners.Nodup
  delivered : ∀ listener, Consecutive none (s.deliveriesTo listener)
  last : ∀ revision, s.metadataRevision = some revision → ∀ listener ∈ s.metadataListeners,
    lastRevision none (s.deliveriesTo listener) = some revision
  paired : s.metadataState = none ∧ s.metadataRevision = none ∨
    ∃ m ∈ s.received, ∃ r, m.safeRevision = some r ∧
      s.metadataRevision = some r ∧ s.metadataState = some m.state

theorem Delivered.initial : Delivered ({} : V070Client S) where
  nodup := List.nodup_nil
  delivered := fun _ => trivial
  last := by simp
  paired := .inl ⟨rfl, rfl⟩

theorem Delivered.of_known {t : V070Client S} (h : s.Delivered) (heq : t.known = s.known) :
    t.Delivered := by
  cases s
  cases t
  simp only [known, Prod.mk.injEq] at heq
  obtain ⟨rfl, rfl, rfl, rfl, rfl⟩ := heq
  exact ⟨h.nodup, h.delivered, h.last, h.paired⟩

theorem Delivered.forget (h : s.Delivered) :
    Delivered { s with metadataState := none, metadataRevision := none } where
  nodup := h.nodup
  delivered := h.delivered
  last := by
    intro revision hrevision
    cases hrevision
  paired := .inl ⟨rfl, rfl⟩

@[simp] theorem known_openMetadata (wait : MetadataOpening → MetadataOpening) :
    (s.openMetadata wait).known = s.known := by
  unfold openMetadata
  split <;> rfl

@[simp] theorem known_requestMetadataReconnect : s.requestMetadataReconnect.known = s.known := by
  unfold requestMetadataReconnect
  split
  · rfl
  · split
    · rfl
    · exact known_openMetadata _

@[simp] theorem known_scheduleMetadataReconnect : s.scheduleMetadataReconnect.known = s.known := by
  unfold scheduleMetadataReconnect
  split <;> rfl

@[simp] theorem known_clearMetadataReconnectTimer :
    s.clearMetadataReconnectTimer.known = s.known := by
  unfold clearMetadataReconnectTimer
  split <;> rfl

@[simp] theorem known_afterReconnect (generation : ℕ) (ok : Bool) :
    (s.afterReconnect generation ok).known = s.known := by
  unfold afterReconnect
  split
  · rfl
  · split
    · split
      · exact known_scheduleMetadataReconnect
      · rfl
    · split
      · rfl
      · exact known_scheduleMetadataReconnect

@[simp] theorem known_endReconnect (id : ℕ) : (s.endReconnect id).known = s.known := by
  unfold endReconnect
  split
  · rfl
  · dsimp only
    split
    · exact known_requestMetadataReconnect
    · rfl

@[simp] theorem known_ensureConnected (call generation : ℕ) :
    (s.ensureConnected call generation).known = s.known := by
  obtain ⟨connected, settled, waiters, heq⟩ := ensureConnected_eq s call generation
  rw [heq]
  rfl

theorem known_settleOpening (o : MetadataOpening) (result : Except String Unit) :
    (s.settleOpening o result).known = s.known := by
  obtain ⟨connected, settled, waiters, heq⟩ := settleOpening_eq s o result
  rw [heq]
  cases o.reconnect with
  | none => rfl
  | some generation => exact (known_endReconnect _).trans (known_afterReconnect _ _)

theorem Delivered.acceptMetadata (h : s.Delivered) {m : MetadataMessage S} (hm : m ∈ s.received)
    {revision : ℕ} (hrevision : m.safeRevision = some revision) {kind : MetadataDeliveryKind}
    (hkind : kind = .snapshot ∨ ∃ last, s.metadataRevision = some last ∧ revision = last + 1) :
    (s.acceptMetadata revision m.state kind).Delivered := by
  obtain ⟨_, _, heq⟩ := acceptMetadata_eq s revision m.state kind
  have hto (listener : ℕ) : (s.acceptMetadata revision m.state kind).deliveriesTo listener =
      s.deliveriesTo listener ++
        if listener ∈ s.metadataListeners then [⟨listener, revision, m.state, kind⟩] else [] := by
    rw [heq, deliveriesTo, List.filter_append, filter_map_listeners h.nodup _ (fun _ => rfl)]
    rfl
  have hlisteners : (s.acceptMetadata revision m.state kind).metadataListeners =
      s.metadataListeners := by
    rw [heq]
  constructor
  case nodup =>
    rw [hlisteners]
    exact h.nodup
  case delivered =>
    intro listener
    rw [hto]
    split
    · rename_i hmem
      refine consecutive_append (h.delivered listener) ?_
      -- what an update follows was delivered to every listener
      rcases hkind with rfl | ⟨last, hlast, hnext⟩
      · exact .inl rfl
      · exact .inr ⟨last, h.last last hlast listener hmem, hnext⟩
    · rw [List.append_nil]
      exact h.delivered listener
  case last =>
    intro revision' hr listener hl
    rw [hlisteners] at hl
    rw [hto, if_pos hl, lastRevision_append]
    rw [heq] at hr
    exact hr
  case paired =>
    rw [heq]
    exact .inr ⟨m, hm, revision, hrevision, rfl, rfl⟩

theorem Delivered.dropMetadata (h : s.Delivered) : s.dropMetadata.Delivered :=
  h.forget.of_known known_requestMetadataReconnect

theorem Delivered.handleMetadata (h : s.Delivered) {m : MetadataMessage S}
    (hm : m ∈ s.received) : (s.handleMetadata m).Delivered := by
  unfold V070Client.handleMetadata
  split
  · exact h.of_known rfl
  · exact h
  · cases hrevision : m.safeRevision with
    | none => exact h
    | some revision =>
      dsimp only
      split
      · cases hlast : s.metadataRevision with
        | none => exact h.dropMetadata
        | some last =>
          dsimp only
          split
          · exact h
          · split
            · exact h.dropMetadata
            · rename_i hnext
              exact h.acceptMetadata hm hrevision (.inr ⟨last, hlast, not_not.mp hnext⟩)
      · exact h.acceptMetadata hm hrevision (.inl rfl)
      · exact h

theorem Delivered.handleMetadataClose (h : s.Delivered) : s.handleMetadataClose.Delivered := by
  unfold V070Client.handleMetadataClose
  split
  · exact h
  · exact h.forget.of_known known_requestMetadataReconnect

theorem Delivered.reconnectWithRefreshedToken (h : s.Delivered) :
    s.reconnectWithRefreshedToken.Delivered := by
  unfold V070Client.reconnectWithRefreshedToken
  split
  · exact h
  · exact h.forget.of_known known_requestMetadataReconnect

/-- A new listener is told what is known, as a snapshot. -/
theorem Delivered.watchMetadata (h : s.Delivered) (listener : ℕ) :
    (s.watchMetadata listener).Delivered := by
  have hnodup : (if listener ∈ s.metadataListeners then s.metadataListeners
      else s.metadataListeners ++ [listener]).Nodup := by
    split
    · exact h.nodup
    · rename_i hnew
      exact h.nodup.append (List.nodup_singleton _) (List.disjoint_singleton.mpr hnew)
  have hmem {l : ℕ} (hl : l ∈ (if listener ∈ s.metadataListeners then s.metadataListeners
      else s.metadataListeners ++ [listener])) : l ≠ listener → l ∈ s.metadataListeners := by
    intro hne
    split at hl
    · exact hl
    · rcases List.mem_append.mp hl with hl | hl
      · exact hl
      · exact absurd (List.mem_singleton.mp hl) hne
  unfold V070Client.watchMetadata
  dsimp only
  split
  · rename_i revision state hrevision hstate
    have hto (l : ℕ) (ds : List (MetadataDelivery S)) :
        (ds ++ [(⟨listener, revision, state, .snapshot⟩ : MetadataDelivery S)]).filter
          (fun d => d.listener = l) =
          ds.filter (fun d => d.listener = l) ++
            if listener = l then [⟨listener, revision, state, .snapshot⟩] else [] := by
      rw [List.filter_append, List.filter_singleton]
      congr 1
      by_cases hl : listener = l
      · rw [if_pos hl, decide_eq_true hl]
        rfl
      · rw [if_neg hl, decide_eq_false hl]
        rfl
    constructor
    case nodup => exact hnodup
    case delivered =>
      intro l
      rw [deliveriesTo, hto]
      split
      · exact consecutive_append (h.delivered l) (.inl rfl)
      · rw [List.append_nil]
        exact h.delivered l
    case last =>
      -- an older listener had this revision already, by the invariant
      intro revision' hr l hl
      obtain rfl := Option.some.inj (hrevision.symm.trans hr)
      rw [deliveriesTo, hto]
      split
      · exact lastRevision_append ..
      · rename_i hne
        rw [List.append_nil]
        exact h.last revision hr l (hmem hl (Ne.symm hne))
    case paired => exact h.paired
  · rename_i hnone
    refine ⟨hnodup, h.delivered, ?_, h.paired⟩
    intro revision hr
    -- A client that knows a revision knows its state too.
    rcases h.paired with ⟨-, hnone'⟩ | ⟨m, -, r, -, hr', hstate⟩
    · rw [show s.metadataRevision = some revision from hr] at hnone'
      cases hnone'
    · exact (hnone r m.state hr' hstate).elim

theorem Delivered.step (h : s.Delivered) {op : Op S} {s' : V070Client S}
    (hs : s.step op = some s') : s'.Delivered := by
  cases op with
  | ensureMetadata call =>
    obtain rfl := Option.some.inj hs
    refine h.of_known ?_
    unfold V070Client.ensureMetadata
    split
    · rfl
    · split
      · exact known_ensureConnected _ _
      · exact known_openMetadata _
  | watchMetadata listener => exact Option.some.inj hs ▸ h.watchMetadata listener
  | unwatch listener =>
    obtain rfl := Option.some.inj hs
    exact ⟨h.nodup.erase listener, h.delivered,
      fun revision hr l hl => h.last revision hr l (List.mem_of_mem_erase hl), h.paired⟩
  | close =>
    obtain rfl := Option.some.inj hs
    refine h.of_known ?_
    unfold V070Client.close
    split
    · rfl
    · exact known_clearMetadataReconnectTimer
  | token id result =>
    dsimp only [V070Client.step] at hs
    split at hs
    · cases hs
    · cases result with
      | ok value =>
        obtain rfl := Option.some.inj hs
        exact h.of_known rfl
      | error error =>
        obtain rfl := Option.some.inj hs
        exact h.of_known (known_settleOpening _ _)
  | opened id =>
    dsimp only [V070Client.step] at hs
    split at hs
    · cases hs
    · split at hs
      · obtain rfl := Option.some.inj hs
        exact h.of_known (known_settleOpening _ _)
      · obtain rfl := Option.some.inj hs
        exact h.of_known (known_settleOpening _ _)
  | openFailed id =>
    dsimp only [V070Client.step] at hs
    split at hs
    · cases hs
    · obtain rfl := Option.some.inj hs
      exact h.of_known (known_settleOpening _ _)
  | message m =>
    dsimp only [V070Client.step] at hs
    split at hs
    · obtain rfl := Option.some.inj hs
      -- the message is recorded first, so that state and revision may be those of it
      refine Delivered.handleMetadata ?_ (List.mem_append_right _ (List.mem_singleton_self m))
      refine ⟨h.nodup, h.delivered, h.last, ?_⟩
      rcases h.paired with hnone | ⟨m', hm', hsome⟩
      · exact .inl hnone
      · exact .inr ⟨m', List.mem_append_left _ hm', hsome⟩
    · cases hs
  | closing =>
    dsimp only [V070Client.step] at hs
    split at hs
    · obtain rfl := Option.some.inj hs
      exact h.of_known rfl
    · cases hs
  | closed =>
    dsimp only [V070Client.step] at hs
    split at hs
    · obtain rfl := Option.some.inj hs
      exact Delivered.handleMetadataClose (s := { s with metadata := none }) (h.of_known rfl)
    · cases hs
  | timer timer =>
    dsimp only [V070Client.step] at hs
    split at hs
    · obtain rfl := Option.some.inj hs
      exact h.of_known known_requestMetadataReconnect
    · cases hs
  | tokenRefreshed => exact Option.some.inj hs ▸ h.reconnectWithRefreshedToken

/-! ### The stream -/

theorem streams_of (hretrying : s.Retrying) (hdelivered : s.Delivered) : s.Streams where
  delivered := hdelivered.delivered
  paired := hdelivered.paired
  oneReconnect := by
    rw [← List.length_map MetadataOpening.id, hretrying.resync, Option.length_toList]
    split <;> decide
  oneTimer := by
    rw [← List.length_map Prod.fst, hretrying.timer, Option.length_toList]
    split <;> decide
  retried := by
    intro hsnapshot hopen hstate
    rcases hretrying.retried hsnapshot hopen hstate with hresync | htimer
    -- what the slots note is what runs
    · left
      obtain ⟨id, hid⟩ := Option.isSome_iff_exists.mp hresync
      have hmem : id ∈ (s.openings.filter fun o => o.reconnect.isSome).map MetadataOpening.id := by
        rw [hretrying.resync, hid]
        exact List.mem_singleton_self id
      obtain ⟨o, ho, -⟩ := List.mem_map.mp hmem
      exact ⟨o, (List.mem_filter.mp ho).1, (List.mem_filter.mp ho).2⟩
    · right
      intro hnil
      obtain ⟨timer, htimer⟩ := Option.isSome_iff_exists.mp htimer
      have htimers := hretrying.toSlots.timer
      rw [hnil, htimer] at htimers
      cases htimers

/-- A snapshot, an update, an update that was missed, and the reconnect after it. -/
def missedUpdate : List (Op ℕ) :=
  [.watchMetadata 1, .ensureMetadata 1, .token 0 (.ok ()), .opened 0,
    .message { kind := .snapshot, revision := some 4, state := 40 },
    .message { kind := .update, revision := some 5, state := 50 },
    .message { kind := .update, revision := some 7, state := 70 },
    .token 1 (.ok ()), .opened 1, .timer 0]

/-- **The metadata stream.** In every run the deliveries are without a gap, state and revision come
from one message, one reconnect and one timer are there at most, and after the first snapshot a
connection that was lost is tried again. -/
theorem streams_of_run {ops : List (Op S)} (hrun : exec step {} ops = some s) : s.Streams := by
  have hboth : s.Retrying ∧ s.Delivered := by
    refine exec_induction (I := fun s => s.Retrying ∧ s.Delivered) ?_
      ⟨Retrying.initial, Delivered.initial⟩ hrun
    rintro s op s' ⟨hretrying, hdelivered⟩ hs
    exact ⟨hretrying.step hs, hdelivered.step hs⟩
  exact streams_of hboth.1 hboth.2

/-- The update that was missed is not delivered, and the second reconnect is on its way. -/
theorem streams_of_missedUpdate : ∃ s : V070Client ℕ, exec step {} missedUpdate = some s ∧
    s.Streams ∧ (s.deliveriesTo 1).map MetadataDelivery.revision = [4, 5] ∧
      s.metadataState = none ∧ s.openings.map MetadataOpening.id = [2] := by
  have h : ((exec step {} missedUpdate).any fun s : V070Client ℕ =>
      (s.deliveriesTo 1).map MetadataDelivery.revision = [4, 5] && s.metadataState = none &&
        s.openings.map MetadataOpening.id = [2]) = true := by
    decide +kernel
  obtain ⟨s, hs, hend⟩ := (Option.any_eq_true ..).mp h
  simp only [Bool.and_eq_true, decide_eq_true_eq] at hend
  exact ⟨s, hs, streams_of_run hs, hend.1.1, hend.1.2, hend.2⟩

end V070Client

end Termd.Browser.Metadata
