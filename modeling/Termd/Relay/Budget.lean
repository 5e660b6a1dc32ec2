import Termd.Library.Transition
import Termd.Relay.Room

/-!
# The byte budget of a data queue

A data queue is a bounded channel with a byte counter beside it. A send reserves its bytes in a
compare-and-swap loop, then enters the channel, and gives the bytes back when it does not get in;
the receiver gives the bytes of a frame back after it has taken the frame out. `QueueSystem`
interleaves any number of sends, at the grain of single atomic operations, with the receiver and
with the closing of either end.

The counter is exact: it holds the bytes of the frames in the channel, of the reservations under
way, of the frame the receiver has taken and not yet accounted for, and of the frames that were
lost with the receiver. It stays within the limit, nothing is ever subtracted that it does not
hold, and a send that fails leaves it as it was.

## Main definitions

* `DataQueue`: the channel, the counter and the two close signals
* `SendCall`, `callStep`: one call of `try_send_data`, `send_data` or `try_enqueue`
* `QueueSystem.step`: all calls and the receiver

## Main results

* `callStep_spec`: what one atomic operation of a call does to the counter
* `QueueSystem.budget_of_run`: the counter is exact in every state of every run
* `QueueSystem.dequeued_bytes_are_counted`: two states in which the channel and the reservations
  alone do not account for the counter
-/

namespace Termd.Relay

inductive RelayOutbound
  | frame (frame : OpaqueFrame)
  | pong (payload : List UInt8)
  | close

def RelayOutbound.queuedDataBytes : RelayOutbound → ℕ
  | .frame f => f.len
  | .pong _ => 0
  | .close => 0

/-- The bytes of a list of outbound messages. -/
def outboundBytes (xs : List RelayOutbound) : ℕ := (xs.map RelayOutbound.queuedDataBytes).sum

@[simp] theorem outboundBytes_nil : outboundBytes [] = 0 := rfl

@[simp] theorem outboundBytes_cons (x : RelayOutbound) (xs : List RelayOutbound) :
    outboundBytes (x :: xs) = x.queuedDataBytes + outboundBytes xs := by
  simp [outboundBytes]

@[simp] theorem outboundBytes_append (xs ys : List RelayOutbound) :
    outboundBytes (xs ++ ys) = outboundBytes xs + outboundBytes ys := by
  simp [outboundBytes]

/-- A data channel with its byte counter. `pending` is the message the receiver has taken and
whose bytes it has not released; `discarded` are the messages lost with the receiver; `permits`
are the granted permits that are not used yet. `releases` records every subtraction from the
counter, with what the counter held. -/
structure DataQueue where
  queued : ℕ := 0
  channel : List RelayOutbound := []
  pending : Option RelayOutbound := none
  discarded : List RelayOutbound := []
  permits : ℕ := 0
  receiverAlive : Bool := true
  closeSignal : Bool := false
  releases : List (ℕ × ℕ) := []

namespace DataQueue

/-- `release`: nothing happens for zero bytes. -/
def release (q : DataQueue) (bytes : ℕ) : DataQueue :=
  if bytes = 0 then q
  else { q with queued := q.queued - bytes, releases := (q.queued, bytes) :: q.releases }

/-- A message enters the channel; without a receiver nobody will take it out. -/
def enqueue (q : DataQueue) (outbound : RelayOutbound) : DataQueue :=
  if q.receiverAlive then { q with channel := q.channel ++ [outbound] }
  else { q with discarded := q.discarded ++ [outbound] }

/-- The channel has a free slot. -/
def hasCapacity (q : DataQueue) (capacity : ℕ) : Prop :=
  q.channel.length + q.permits < capacity

instance (q : DataQueue) (capacity : ℕ) : Decidable (q.hasCapacity capacity) :=
  inferInstanceAs (Decidable (_ < _))

/-- The bytes that are neither reserved by a call nor given back. -/
def heldBytes (q : DataQueue) : ℕ :=
  outboundBytes q.channel + outboundBytes q.pending.toList + outboundBytes q.discarded

end DataQueue

/-! ## One call -/

inductive SendKind
  | trySendData
  | sendData
  | tryEnqueue
deriving DecidableEq

inductive SendError
  | budgetFull
  | backpressured
  | closed

/-- The error for a full queue or a full budget. -/
def SendKind.fullError : SendKind → SendError
  | .trySendData => .budgetFull
  | .sendData => .budgetFull
  | .tryEnqueue => .backpressured

/-- Where a call is. `loading` and `reserving` are the loop of `try_reserve`; `waiting` is the
wait of `reserve_or_wait`; in `reserved` the bytes are counted; `permitted` holds a permit of the
channel; `rollingBack` is about to release. -/
inductive SendPhase
  | loading
  | reserving (current : ℕ)
  | waiting
  | reserved
  | permitted
  | rollingBack (error : SendError)
  | returned (result : Except SendError Unit)

/-- A call, with what it has done so far: the bytes it added to the counter, those it removed
again, and the messages it enqueued. -/
structure SendCall where
  kind : SendKind
  outbound : RelayOutbound
  phase : SendPhase
  added : ℕ := 0
  removed : ℕ := 0
  enqueued : ℕ := 0

namespace SendCall

/-- The bytes of the call's message. -/
def bytes (call : SendCall) : ℕ := call.outbound.queuedDataBytes

/-- The bytes the call has reserved, and neither enqueued nor rolled back. -/
def reservedBytes (call : SendCall) : ℕ :=
  match call.phase with
  | .reserved => call.bytes
  | .permitted => call.bytes
  | .rollingBack _ => call.bytes
  | _ => 0

/-- A call begins. A message over the limit is refused by `send_data` and `try_enqueue` at once;
`try_send_data` leaves that to the reservation. -/
def begin (limit : ℕ) (kind : SendKind) (outbound : RelayOutbound) : SendCall where
  kind := kind
  outbound := outbound
  phase :=
    if kind ≠ .trySendData ∧ outbound.queuedDataBytes > limit then
      .returned (.error kind.fullError)
    else .loading

/-- A failed reservation: `send_data` waits, the others return. -/
def refuse (call : SendCall) : SendCall :=
  { call with
    phase :=
      if call.kind = .sendData then .waiting else .returned (.error call.kind.fullError) }

end SendCall

/-- The atomic operations of a call. `cas` may fail spuriously, and a waiting call may be
notified at any time. -/
inductive CallOp
  | load
  | cas (spurious : Bool)
  | notified
  | seeCloseSignal
  | seeReceiverGone
  | trySend
  | acquire
  | send
  | release

/-- One atomic operation of a call, where the call is ready for it. -/
def callStep (limit capacity : ℕ) (q : DataQueue) (call : SendCall) :
    CallOp → Option (DataQueue × SendCall)
  | .load =>
    match call.phase with
    | .loading =>
      if call.bytes = 0 then some (q, { call with phase := .reserved })
      else some (q, { call with phase := .reserving q.queued })
    | _ => none
  | .cas spurious =>
    match call.phase with
    | .reserving current =>
      let next := current + call.bytes
      if next > usizeMax ∨ next > limit then some (q, call.refuse)
      else if q.queued = current ∧ spurious = false then
        some ({ q with queued := next },
          { call with phase := .reserved, added := call.added + call.bytes })
      else some (q, { call with phase := .reserving q.queued })
    | _ => none
  | .notified =>
    match call.phase with
    | .waiting => some (q, { call with phase := .loading })
    | _ => none
  | .seeCloseSignal =>
    if q.closeSignal ∧ call.kind = .sendData then
      match call.phase with
      | .waiting => some (q, { call with phase := .returned (.error .closed) })
      | .reserved => some (q, { call with phase := .rollingBack .closed })
      | _ => none
    else none
  | .seeReceiverGone =>
    if q.receiverAlive = false ∧ call.kind = .sendData then
      match call.phase with
      | .loading => some (q, { call with phase := .returned (.error .closed) })
      | .waiting => some (q, { call with phase := .returned (.error .closed) })
      | _ => none
    else none
  | .trySend =>
    if call.kind ≠ .sendData then
      match call.phase with
      | .reserved =>
        if q.receiverAlive = false then some (q, { call with phase := .rollingBack .closed })
        else if q.hasCapacity capacity then
          some (q.enqueue call.outbound,
            { call with phase := .returned (.ok ()), enqueued := call.enqueued + 1 })
        else some (q, { call with phase := .rollingBack call.kind.fullError })
      | _ => none
    else none
  | .acquire =>
    -- the select is biased: a permit is taken only when the close signal is not set
    if q.closeSignal = false ∧ call.kind = .sendData then
      match call.phase with
      | .reserved =>
        if q.receiverAlive = false then some (q, { call with phase := .rollingBack .closed })
        else if q.hasCapacity capacity then
          some ({ q with permits := q.permits + 1 }, { call with phase := .permitted })
        else none
      | _ => none
    else none
  | .send =>
    match call.phase with
    | .permitted =>
      some ({ q.enqueue call.outbound with permits := q.permits - 1 },
        { call with phase := .returned (.ok ()), enqueued := call.enqueued + 1 })
    | _ => none
  | .release =>
    match call.phase with
    | .rollingBack error =>
      some (q.release call.bytes,
        { call with
          phase := .returned (.error error)
          removed := call.removed + call.bytes })
    | _ => none

/-! ## One call keeps the counter exact -/

/-- What a call has done so far fits where it is. -/
def SendCall.Consistent (call : SendCall) : Prop :=
  match call.phase with
  | .returned (.ok _) => call.added = call.bytes ∧ call.removed = 0 ∧ call.enqueued = 1
  | .returned (.error _) => call.added = call.removed ∧ call.enqueued = 0
  | .reserved => call.added = call.bytes ∧ call.removed = 0 ∧ call.enqueued = 0
  | .permitted => call.added = call.bytes ∧ call.removed = 0 ∧ call.enqueued = 0
  | .rollingBack _ => call.added = call.bytes ∧ call.removed = 0 ∧ call.enqueued = 0
  | _ => call.added = 0 ∧ call.removed = 0 ∧ call.enqueued = 0

/-- **The counter of a queue is exact**, with `reserved` bytes of reservations under way: it is
the bytes held and reserved, it is within the limit, and no subtraction has saturated. -/
structure DataQueue.Balanced (limit : ℕ) (q : DataQueue) (reserved : ℕ) : Prop where
  queued_eq : q.queued = q.heldBytes + reserved
  queued_le : q.queued ≤ limit
  exact : ∀ entry ∈ q.releases, entry.2 ≤ entry.1

namespace DataQueue.Balanced

variable {limit : ℕ} {q : DataQueue} {rest : ℕ}

/-- Bytes that are counted can be released. -/
theorem release {bytes : ℕ} (hq : q.Balanced limit (bytes + rest)) :
    (q.release bytes).Balanced limit rest := by
  have heq := hq.queued_eq
  have hle := hq.queued_le
  unfold DataQueue.release
  split_ifs with hzero
  · exact ⟨by omega, hle, hq.exact⟩
  · refine ⟨?_, (Nat.sub_le _ _).trans hle, ?_⟩
    · show q.queued - bytes = q.heldBytes + rest
      omega
    · intro entry hentry
      rcases List.mem_cons.mp hentry with rfl | hentry
      · show bytes ≤ q.queued
        omega
      · exact hq.exact entry hentry

/-- A reserved message enters the channel with its bytes. -/
theorem enqueue {outbound : RelayOutbound}
    (hq : q.Balanced limit (outbound.queuedDataBytes + rest)) :
    (q.enqueue outbound).Balanced limit rest := by
  have heq := hq.queued_eq
  simp only [heldBytes] at heq
  unfold DataQueue.enqueue
  split_ifs with halive
  · refine ⟨?_, hq.queued_le, hq.exact⟩
    simp only [heldBytes, outboundBytes_append, outboundBytes_cons, outboundBytes_nil]
    omega
  · refine ⟨?_, hq.queued_le, hq.exact⟩
    simp only [heldBytes, outboundBytes_append, outboundBytes_cons, outboundBytes_nil]
    omega

end DataQueue.Balanced

/-- A call that is refused has reserved nothing. -/
theorem SendCall.refuse_spec {call : SendCall} (hadded : call.added = 0)
    (hremoved : call.removed = 0) (henqueued : call.enqueued = 0) :
    call.refuse.Consistent ∧ call.refuse.reservedBytes = 0 := by
  unfold SendCall.refuse SendCall.Consistent SendCall.reservedBytes
  split_ifs
  · exact ⟨⟨hadded, hremoved, henqueued⟩, rfl⟩
  · exact ⟨⟨hadded.trans hremoved.symm, henqueued⟩, rfl⟩

/-- **One atomic operation of a call**: the bytes it reserves, enqueues or releases are the bytes
by which the counter and the queue change. -/
theorem callStep_spec {limit capacity : ℕ} {q q' : DataQueue} {call call' : SendCall}
    {op : CallOp} (h : callStep limit capacity q call op = some (q', call')) {rest : ℕ}
    (hcall : call.Consistent) (hq : q.Balanced limit (call.reservedBytes + rest)) :
    call'.Consistent ∧ q'.Balanced limit (call'.reservedBytes + rest) := by
  obtain ⟨kind, outbound, phase, added, removed, enqueued⟩ := call
  cases op with
  | load =>
    cases phase with
    | loading =>
      obtain ⟨rfl, rfl, rfl⟩ := hcall
      simp only [callStep] at h
      split_ifs at h with hzero
      · obtain ⟨rfl, rfl⟩ := Prod.mk.inj (Option.some.inj h)
        refine ⟨⟨hzero.symm, rfl, rfl⟩, ?_⟩
        have hsame : SendCall.reservedBytes ⟨kind, outbound, .reserved, 0, 0, 0⟩ = 0 := hzero
        rw [hsame]
        exact hq
      · obtain ⟨rfl, rfl⟩ := Prod.mk.inj (Option.some.inj h)
        exact ⟨⟨rfl, rfl, rfl⟩, hq⟩
    | _ => simp [callStep] at h
  | cas spurious =>
    cases phase with
    | reserving current =>
      obtain ⟨rfl, rfl, rfl⟩ := hcall
      simp only [callStep] at h
      split_ifs at h with hover hswap
      · obtain ⟨rfl, rfl⟩ := Prod.mk.inj (Option.some.inj h)
        obtain ⟨hcons, hnone⟩ := @SendCall.refuse_spec
          ⟨kind, outbound, .reserving current, 0, 0, 0⟩ rfl rfl rfl
        exact ⟨hcons, hnone.symm ▸ hq⟩
      · -- the swap succeeds: the counter has not moved since it was read
        obtain ⟨rfl, rfl⟩ := Prod.mk.inj (Option.some.inj h)
        obtain ⟨rfl, -⟩ := hswap
        rw [not_or, not_lt, not_lt] at hover
        refine ⟨⟨Nat.zero_add _, rfl, rfl⟩, ?_, hover.2, hq.exact⟩
        have heq := hq.queued_eq
        simp only [SendCall.reservedBytes, SendCall.bytes, DataQueue.heldBytes] at heq ⊢
        omega
      · obtain ⟨rfl, rfl⟩ := Prod.mk.inj (Option.some.inj h)
        exact ⟨⟨rfl, rfl, rfl⟩, hq⟩
    | _ => simp [callStep] at h
  | notified =>
    cases phase with
    | waiting =>
      obtain ⟨rfl, rfl⟩ := Prod.mk.inj (Option.some.inj h)
      exact ⟨hcall, hq⟩
    | _ => simp [callStep] at h
  | seeCloseSignal =>
    simp only [callStep] at h
    split_ifs at h
    cases phase with
    | waiting =>
      obtain ⟨rfl, rfl⟩ := Prod.mk.inj (Option.some.inj h)
      exact ⟨⟨hcall.1.trans hcall.2.1.symm, hcall.2.2⟩, hq⟩
    | reserved =>
      obtain ⟨rfl, rfl⟩ := Prod.mk.inj (Option.some.inj h)
      exact ⟨hcall, hq⟩
    | _ => simp at h
  | seeReceiverGone =>
    simp only [callStep] at h
    split_ifs at h
    cases phase with
    | loading =>
      obtain ⟨rfl, rfl⟩ := Prod.mk.inj (Option.some.inj h)
      exact ⟨⟨hcall.1.trans hcall.2.1.symm, hcall.2.2⟩, hq⟩
    | waiting =>
      obtain ⟨rfl, rfl⟩ := Prod.mk.inj (Option.some.inj h)
      exact ⟨⟨hcall.1.trans hcall.2.1.symm, hcall.2.2⟩, hq⟩
    | _ => simp at h
  | trySend =>
    cases phase with
    | reserved =>
      simp only [callStep] at h
      split_ifs at h
      · obtain ⟨rfl, rfl⟩ := Prod.mk.inj (Option.some.inj h)
        exact ⟨hcall, hq⟩
      · obtain ⟨rfl, rfl⟩ := Prod.mk.inj (Option.some.inj h)
        obtain ⟨hadded, hremoved, henqueued⟩ := hcall
        refine ⟨⟨hadded, hremoved, congrArg (· + 1) henqueued⟩, ?_⟩
        simpa [SendCall.reservedBytes] using hq.enqueue
      · obtain ⟨rfl, rfl⟩ := Prod.mk.inj (Option.some.inj h)
        exact ⟨hcall, hq⟩
    | _ => simp [callStep] at h
  | acquire =>
    cases phase with
    | reserved =>
      simp only [callStep] at h
      split_ifs at h
      · obtain ⟨rfl, rfl⟩ := Prod.mk.inj (Option.some.inj h)
        exact ⟨hcall, hq⟩
      · obtain ⟨rfl, rfl⟩ := Prod.mk.inj (Option.some.inj h)
        exact ⟨hcall, hq.queued_eq, hq.queued_le, hq.exact⟩
    | _ => simp [callStep] at h
  | send =>
    cases phase with
    | permitted =>
      obtain ⟨rfl, rfl⟩ := Prod.mk.inj (Option.some.inj h)
      obtain ⟨hadded, hremoved, henqueued⟩ := hcall
      have hq' := DataQueue.Balanced.enqueue hq
      refine ⟨⟨hadded, hremoved, congrArg (· + 1) henqueued⟩, ?_, hq'.queued_le, hq'.exact⟩
      show (q.enqueue outbound).queued = (q.enqueue outbound).heldBytes + (0 + rest)
      rw [Nat.zero_add]
      exact hq'.queued_eq
    | _ => simp [callStep] at h
  | release =>
    cases phase with
    | rollingBack error =>
      obtain ⟨rfl, rfl⟩ := Prod.mk.inj (Option.some.inj h)
      obtain ⟨hadded, hremoved, henqueued⟩ := hcall
      refine ⟨⟨?_, henqueued⟩, ?_⟩
      · show added = removed + _
        rw [show removed = 0 from hremoved, Nat.zero_add]
        exact hadded
      · simpa [SendCall.reservedBytes] using hq.release
    | _ => simp [callStep] at h

/-! ## All calls and the receiver -/

structure QueueSystem where
  queue : DataQueue := {}
  calls : FiniteMap ℕ SendCall := ∅

/-- The steps: calls begin and go on, the receiver takes a message and then releases its bytes,
the receiver goes away with what is in the channel, and the endpoint is told to close. -/
inductive QueueOp
  | begin (call : ℕ) (kind : SendKind) (outbound : RelayOutbound)
  | call (call : ℕ) (op : CallOp)
  | recv
  | releaseReceived
  | dropReceiver
  | closeEndpoint

namespace QueueSystem

/-- One step, of a queue with the given limit of bytes and capacity of messages. -/
def step (limit capacity : ℕ) (s : QueueSystem) : QueueOp → Option QueueSystem
  | .begin k kind outbound =>
    if s.calls.lookup k = none then
      some { s with calls := s.calls.insert k (.begin limit kind outbound) }
    else none
  | .call k op =>
    (s.calls.lookup k).bind fun call =>
    (callStep limit capacity s.queue call op).map fun (queue, call) =>
      { queue := queue, calls := s.calls.insert k call }
  | .recv =>
    match s.queue.receiverAlive, s.queue.pending, s.queue.channel with
    | true, none, outbound :: rest =>
      some { s with queue := { s.queue with channel := rest, pending := some outbound } }
    | _, _, _ => none
  | .releaseReceived =>
    s.queue.pending.map fun outbound =>
      { s with
        queue := { s.queue with pending := none }.release outbound.queuedDataBytes }
  | .dropReceiver =>
    -- the receiver has no point to stop at between taking a message and releasing its bytes
    if s.queue.receiverAlive ∧ s.queue.pending = none then
      some { s with
        queue := { s.queue with
          receiverAlive := false
          channel := []
          discarded := s.queue.discarded ++ s.queue.channel } }
    else none
  | .closeEndpoint => some { s with queue := { s.queue with closeSignal := true } }

/-- The bytes of all reservations under way. -/
def reservedBytes (s : QueueSystem) : ℕ := FiniteMap.total SendCall.reservedBytes s.calls

/-- **The invariant of the queue.** -/
structure Inv (limit : ℕ) (s : QueueSystem) : Prop where
  balanced : s.queue.Balanced limit s.reservedBytes
  consistent : ∀ k call, s.calls.lookup k = some call → call.Consistent

theorem inv_init (limit : ℕ) : Inv limit {} where
  balanced := ⟨rfl, Nat.zero_le _, by simp⟩
  consistent := by simp

theorem consistent_begin (limit : ℕ) (kind : SendKind) (outbound : RelayOutbound) :
    (SendCall.begin limit kind outbound).Consistent ∧
      (SendCall.begin limit kind outbound).reservedBytes = 0 := by
  unfold SendCall.begin SendCall.Consistent SendCall.reservedBytes
  split_ifs
  · exact ⟨⟨rfl, rfl⟩, rfl⟩
  · exact ⟨⟨rfl, rfl, rfl⟩, rfl⟩

variable {limit capacity : ℕ} {s s' : QueueSystem}

/-- Replacing one call keeps the others as they are. -/
theorem consistent_insert (hs : Inv limit s) {k : ℕ} {call : SendCall} (hcall : call.Consistent) :
    ∀ k' call', (s.calls.insert k call).lookup k' = some call' → call'.Consistent := by
  intro k' call' h
  rcases FiniteMap.lookup_insert_eq_some.mp h with ⟨-, rfl⟩ | ⟨-, h⟩
  · exact hcall
  · exact hs.consistent k' call' h

/-- A step of the receiver keeps the invariant if it keeps the balance. -/
theorem Inv.queue (hs : Inv limit s) {q : DataQueue} (hq : q.Balanced limit s.reservedBytes) :
    Inv limit { s with queue := q } :=
  ⟨hq, hs.consistent⟩

/-- **Every step keeps the counter exact.** -/
theorem inv_step (hs : Inv limit s) {op : QueueOp} (h : s.step limit capacity op = some s') :
    Inv limit s' := by
  have heq := hs.balanced.queued_eq
  simp only [DataQueue.heldBytes] at heq
  cases op with
  | begin k kind outbound =>
    simp only [step] at h
    split_ifs at h with hfree
    obtain rfl := Option.some.inj h
    obtain ⟨hcons, hnone⟩ := consistent_begin limit kind outbound
    refine ⟨?_, consistent_insert hs hcons⟩
    have hreserved : reservedBytes { s with
        calls := s.calls.insert k (.begin limit kind outbound) } = s.reservedBytes := by
      unfold reservedBytes
      rw [FiniteMap.total_insert_of_lookup_none _ hfree, hnone, Nat.zero_add]
    rw [hreserved]
    exact hs.balanced
  | call k op =>
    obtain ⟨call, hcall, h⟩ := Option.bind_eq_some_iff.mp h
    obtain ⟨⟨queue, call'⟩, hstep, rfl⟩ := Option.map_eq_some_iff.mp h
    have hbalanced := hs.balanced
    unfold reservedBytes at hbalanced
    rw [FiniteMap.total_eq_add_erase SendCall.reservedBytes hcall] at hbalanced
    obtain ⟨hcons, hq⟩ := callStep_spec hstep (hs.consistent k call hcall) hbalanced
    refine ⟨?_, consistent_insert hs hcons⟩
    show queue.Balanced limit (FiniteMap.total SendCall.reservedBytes (s.calls.insert k call'))
    rw [FiniteMap.total_insert]
    exact hq
  | recv =>
    simp only [step] at h
    split at h
    · rename_i outbound rest halive hpending hchannel
      obtain rfl := Option.some.inj h
      refine hs.queue ⟨?_, hs.balanced.queued_le, hs.balanced.exact⟩
      simp only [hpending, hchannel, Option.toList_none, outboundBytes_cons,
        outboundBytes_nil] at heq
      simp only [DataQueue.heldBytes, Option.toList_some, outboundBytes_cons, outboundBytes_nil]
      omega
    · cases h
  | releaseReceived =>
    obtain ⟨outbound, hpending, rfl⟩ := Option.map_eq_some_iff.mp h
    refine hs.queue (DataQueue.Balanced.release ⟨?_, hs.balanced.queued_le, hs.balanced.exact⟩)
    simp only [hpending, Option.toList_some, outboundBytes_cons, outboundBytes_nil] at heq
    simp only [DataQueue.heldBytes, Option.toList_none, outboundBytes_nil]
    omega
  | dropReceiver =>
    simp only [step] at h
    split_ifs at h with hidle
    obtain rfl := Option.some.inj h
    refine hs.queue ⟨?_, hs.balanced.queued_le, hs.balanced.exact⟩
    simp only [DataQueue.heldBytes, outboundBytes_nil, outboundBytes_append]
    omega
  | closeEndpoint =>
    obtain rfl := Option.some.inj h
    exact hs.queue ⟨hs.balanced.queued_eq, hs.balanced.queued_le, hs.balanced.exact⟩

/-- **The byte budget in every state of every run.** The counter is the bytes in the channel and
of the reservations under way, with the message the receiver has taken and not yet released and
the messages lost with the receiver; it is within the limit, and no release saturates. A send
that has returned an error has taken back all it added to the counter and has enqueued nothing;
one that has returned `Ok` has enqueued its message once. -/
theorem budget_of_run (limit capacity : ℕ) {ops : List QueueOp} {s : QueueSystem}
    (h : exec (step limit capacity) {} ops = some s) :
    s.queue.queued = outboundBytes s.queue.channel + s.reservedBytes +
        outboundBytes s.queue.pending.toList + outboundBytes s.queue.discarded ∧
      s.queue.queued ≤ limit ∧
      (∀ held released, (held, released) ∈ s.queue.releases → released ≤ held) ∧
      (∀ k call error, s.calls.lookup k = some call → call.phase = .returned (.error error) →
        call.added = call.removed ∧ call.enqueued = 0) ∧
      ∀ k call, s.calls.lookup k = some call → call.phase = .returned (.ok ()) →
        call.added = call.bytes ∧ call.removed = 0 ∧ call.enqueued = 1 := by
  have hs : Inv limit s :=
    exec_induction (fun _ _ _ hs hstep => inv_step hs hstep) (inv_init limit) h
  have heq := hs.balanced.queued_eq
  simp only [DataQueue.heldBytes] at heq
  refine ⟨by omega, hs.balanced.queued_le, fun held released hmem => hs.balanced.exact _ hmem,
    fun k call error hcall hphase => ?_, fun k call hcall hphase => ?_⟩
  · have hcons := hs.consistent k call hcall
    simp only [SendCall.Consistent, hphase] at hcons
    exact hcons
  · have hcons := hs.consistent k call hcall
    simp only [SendCall.Consistent, hphase] at hcons
    exact hcons

/-- Two calls load the counter before either of them reserves. One has to load it again, and finds
the channel full. -/
def contestedSends : List QueueOp :=
  [.begin 0 .trySendData (.frame (.binary [1, 2, 3])), .call 0 .load,
    .begin 1 .tryEnqueue (.frame (.binary [4, 5])), .call 1 .load,
    .call 0 (.cas false), .call 1 (.cas false), .call 1 (.cas false),
    .call 0 .trySend, .call 1 .trySend]

/-- The bytes of both calls are counted until one of them is rolled back and the receiver has
released those of the other. -/
theorem contestedSends_counted :
    ∃ s s', exec (step 16 1) {} contestedSends = some s ∧
      exec (step 16 1) {} (contestedSends ++ [.call 1 .release, .recv, .releaseReceived]) =
        some s' ∧
      s.queue.queued = 5 ∧ outboundBytes s.queue.channel + s.reservedBytes = 5 ∧
      s'.queue.queued = 0 ∧ s'.queue.releases = [(3, 3), (5, 2)] ∧
      (∀ held released, (held, released) ∈ s'.queue.releases → released ≤ held) ∧
      ∃ call, s'.calls.lookup 1 = some call ∧ call.phase = .returned (.error .backpressured) ∧
        call.added = call.removed ∧ call.enqueued = 0 := by
  have hsends : (exec (step 16 1) {} contestedSends).map
      (fun s => (s.queue.queued, s.queue.pending, s.queue.discarded)) = some (5, none, []) := rfl
  have hdone : (exec (step 16 1) {} (contestedSends ++ [.call 1 .release, .recv,
      .releaseReceived])).map
      (fun s => (s.queue.queued, s.queue.releases, (s.calls.lookup 1).map SendCall.phase)) =
        some (0, [(3, 3), (5, 2)], some (.returned (.error .backpressured))) := rfl
  obtain ⟨s, hs, hstate⟩ := Option.map_eq_some_iff.mp hsends
  obtain ⟨s', hs', hstate'⟩ := Option.map_eq_some_iff.mp hdone
  simp only [Prod.mk.injEq] at hstate hstate'
  obtain ⟨hfive, hpending, hdiscarded⟩ := hstate
  obtain ⟨hzero, hreleases, hphase⟩ := hstate'
  obtain ⟨call, hcall, hphase⟩ := Option.map_eq_some_iff.mp hphase
  obtain ⟨hqueued, -⟩ := budget_of_run 16 1 hs
  obtain ⟨-, -, hexact, hfailed, -⟩ := budget_of_run 16 1 hs'
  rw [hfive, hpending, hdiscarded] at hqueued
  obtain ⟨hback, hnone⟩ := hfailed 1 call _ hcall hphase
  exact ⟨s, s', hs, hs', hfive, hqueued.symm, hzero, hreleases, hexact, call, hcall, hphase, hback,
    hnone⟩

/-- One `try_send_data` call, from its begin to its return. -/
def sendOnce (k : ℕ) (outbound : RelayOutbound) : List QueueOp :=
  [.begin k .trySendData outbound, .call k .load, .call k (.cas false), .call k .trySend]

/-- A frame of three bytes is sent. When the receiver has taken it, and also when the receiver
went away instead, the channel is empty and nothing is reserved, and the counter is three. -/
theorem dequeued_bytes_are_counted :
    (∃ s, exec (step 16 4) {} (sendOnce 0 (.frame (.binary [1, 2, 3])) ++ [.recv]) = some s ∧
      s.queue.queued = 3 ∧ outboundBytes s.queue.channel + s.reservedBytes = 0) ∧
    ∃ s, exec (step 16 4) {} (sendOnce 0 (.frame (.binary [1, 2, 3])) ++
        [.closeEndpoint, .dropReceiver]) = some s ∧
      s.queue.queued = 3 ∧ outboundBytes s.queue.channel + s.reservedBytes = 0 := by
  have hrecv : (exec (step 16 4) {} (sendOnce 0 (.frame (.binary [1, 2, 3])) ++ [.recv])).map
      (fun s => (s.queue.queued, outboundBytes s.queue.channel + s.reservedBytes)) =
        some (3, 0) := rfl
  have hdrop : (exec (step 16 4) {} (sendOnce 0 (.frame (.binary [1, 2, 3])) ++
      [.closeEndpoint, .dropReceiver])).map
      (fun s => (s.queue.queued, outboundBytes s.queue.channel + s.reservedBytes)) =
        some (3, 0) := rfl
  obtain ⟨s₁, hs₁, h₁⟩ := Option.map_eq_some_iff.mp hrecv
  obtain ⟨s₂, hs₂, h₂⟩ := Option.map_eq_some_iff.mp hdrop
  obtain ⟨hqueued₁, hzero₁⟩ := Prod.mk.inj h₁
  obtain ⟨hqueued₂, hzero₂⟩ := Prod.mk.inj h₂
  exact ⟨⟨s₁, hs₁, hqueued₁, hzero₁⟩, s₂, hs₂, hqueued₂, hzero₂⟩

end QueueSystem

end Termd.Relay
