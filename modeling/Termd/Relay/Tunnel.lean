import Termd.Library.Channel
import Termd.Library.Transition
import Termd.Relay.Codec

/-!
# The daemon's end of an HTTP tunnel

The daemon reads the head of a request and starts a task that hands the request to its handler and
writes the response. Meanwhile a loop takes the frames of the request body from the connection and
puts them into a channel, from which the handler reads. Both channels hold one item.

A handler may answer without reading the body. It drops the receiver then, the loop notices when
it wants to send, and regards the request as over. If another frame of the request arrives while
the response is still being written, the loop takes it for an error, waits for the response to be
queued, and returns; the caller stops the writer. The same frame is ignored when the response is
done.

Here the connection does not fail, and the writer does not fail either.

## Main definitions

* `RelayHttpTunnelStream`: the loop, the task, the writer, and the channels between them
* `RelayHttpTunnelStream.step`: one step of one of them
* `RelayHttpTunnelStream.Uploads`: what a peer sends that does not disconnect
* `RelayHttpTunnelStream.Intact`: the response is delivered, and the request is what was sent
* `RelayHttpTunnelStream.awaited`: the guard of the frames that come too late

## Main results

* `RelayHttpTunnelStream.intact_iff_awaited`: the runs in which the response is delivered
-/

namespace Termd.Relay

def RELAY_DATA_WIRE_QUEUE_CAPACITY : ℕ := 1

/-- A message of the WebSocket. The text of a text message is valid JSON or not. -/
inductive TunnelMessage
  | text (valid : Bool)
  | binary (raw : List UInt8)
  | ping (payload : List UInt8)
  | pong
  | close

inductive RelayDataWrite
  | frame (raw : List UInt8)
  | pong (payload : List UInt8)
deriving DecidableEq

inductive TunnelEnd
  | socketClosed
  | clientDisconnected
  | invalidEnvelope
deriving DecidableEq

/-- How far the loop is. -/
inductive TunnelLoop
  | select
  /-- Before the body channel has taken a part. -/
  | sendingBody (body : List UInt8)
  /-- In `cleanup_relay_http_tunnel_response_task`. -/
  | cleanup (result : TunnelEnd)
  | returned (result : TunnelEnd)
deriving DecidableEq

/-- How far the task is. -/
inductive TunnelTask
  | handling
  /-- The head is queued. -/
  | responding
  | finished
  | aborted
deriving DecidableEq

inductive TunnelWriter
  | idle
  | writing (write : RelayDataWrite)
  | aborted
deriving DecidableEq

structure RelayHttpTunnelStream where
  clientId : RelayClientId
  /-- `is_relay_http_tunnel_download` -/
  download : Bool
  /-- What the peer sends and the loop has not received. -/
  inbound : List TunnelMessage
  loop : TunnelLoop := .select
  requestOpen : Bool := true
  responseDone : Bool := false
  /-- The channel of the request body; `body_tx` is its sender. -/
  body : Channel (List UInt8) := {}
  task : TunnelTask := .handling
  /-- The handler has heard of the end of the request body. -/
  readToEnd : Bool := false
  /-- The head of the response, and the parts of its body. -/
  head : Option (UInt16 × HttpHeaders) := none
  chunks : List (List UInt8) := []
  wire : Channel RelayDataWrite := {}
  writer : TunnelWriter := .idle
  written : List RelayDataWrite := []

inductive TunnelOp
  /-- The handler reads from the request body, or drops it. -/
  | readBody
  | dropBody
  /-- The response task: the head is written, a part of the body, and the end. -/
  | respond (status : UInt16) (headers : HttpHeaders)
  | chunk (bytes : List UInt8)
  | finish
  /-- The loop: the task has finished, a message is received, a part is sent, the task is joined. -/
  | responseDone
  | receive
  | bodySent
  | cleaned
  /-- The writer takes a message, and has written it. The caller stops it. -/
  | dequeue
  | sent
  | abortWriter

namespace RelayHttpTunnelStream

variable (c : JsonCodec) (s : RelayHttpTunnelStream)

def enqueue (write : RelayHttpTunnelWrite) : Option RelayHttpTunnelStream :=
  if s.wire.receiving then
    (s.wire.send RELAY_DATA_WIRE_QUEUE_CAPACITY (.frame (write.encode c))).map fun wire =>
      { s with wire }
  else none

/-- `cleanup_relay_http_tunnel_response_task`, up to its join, unless the response is done. -/
def cleanup (result : TunnelEnd) : RelayHttpTunnelStream :=
  if s.responseDone then { s with loop := .returned result }
  else if s.download && s.task ≠ .finished then
    { s with body := s.body.dropSender.dropReceiver, task := .aborted, loop := .cleanup result }
  else { s with body := s.body.dropSender, loop := .cleanup result }

/-- A frame of the request. -/
def request (raw : List UInt8) : RelayHttpTunnelStream :=
  if s.responseDone then s
  else if !s.requestOpen then s.cleanup .invalidEnvelope
  else match decodeRelayHttpTunnelFrame c raw with
    | some (.requestBody body) =>
      if s.body.sending then { s with loop := .sendingBody body } else s
    | some .requestEnd => { s with requestOpen := false, body := s.body.dropSender }
    | _ => s.cleanup .invalidEnvelope

/-- A message of the connection. -/
def message : TunnelMessage → RelayHttpTunnelStream
  | .ping payload =>
    match decodeRelayDataControl payload with
    | some (.clientDisconnected disconnected) =>
      s.cleanup (if disconnected = s.clientId then .clientDisconnected else .socketClosed)
    | _ =>
      match s.wire.send RELAY_DATA_WIRE_QUEUE_CAPACITY (.pong payload) with
      | some wire => { s with wire }
      | none => s
  | .pong => s
  | .close => s.cleanup .socketClosed
  | .text valid =>
    if !valid then { s with loop := .returned .invalidEnvelope }
    else if s.responseDone then s
    else s.cleanup .invalidEnvelope
  | .binary raw => s.request c raw

/-- The steps of the handler and of `send_relay_http_tunnel_response`. -/
def stepTask (s : RelayHttpTunnelStream) : TunnelOp → Option RelayHttpTunnelStream
  | .readBody =>
    if s.body.receiving then
      s.body.recv.map fun (item, body) => { s with body, readToEnd := s.readToEnd || item.isNone }
    else none
  | .dropBody => some { s with body := s.body.dropReceiver }
  | .respond status headers =>
    if s.task = .handling then
      (s.enqueue c (.responseHeadWithHeaders status headers)).map fun s =>
        { s with task := .responding, head := some (status, headers) }
    else none
  | .chunk bytes =>
    if s.task = .responding then
      -- an empty part is not written
      (if bytes = [] then some s else s.enqueue c (.responseBody bytes)).map fun s =>
        { s with chunks := s.chunks ++ [bytes] }
    else none
  | .finish =>
    if s.task = .responding then
      (s.enqueue c .responseEnd).map fun s =>
        { s with task := .finished, body := s.body.dropReceiver }
    else none
  | _ => none

/-- The steps of the loop. -/
def stepLoop (s : RelayHttpTunnelStream) : TunnelOp → Option RelayHttpTunnelStream
  | .responseDone =>
    if s.loop = .select ∧ s.task = .finished ∧ s.responseDone = false then
      some { s with responseDone := true, body := s.body.dropSender }
    else none
  | .receive =>
    match s.loop, s.inbound with
    | .select, received :: inbound => some ({ s with inbound }.message c received)
    | _, _ => none
  | .bodySent =>
    match s.loop with
    | .sendingBody part =>
      if s.body.receiving then
        (s.body.send RELAY_DATA_WIRE_QUEUE_CAPACITY part).map fun body =>
          { s with body, loop := .select }
      else some { s with requestOpen := false, body := s.body.dropSender, loop := .select }
    | _ => none
  | .cleaned =>
    match s.loop with
    | .cleanup result =>
      if s.task = .finished ∨ s.task = .aborted then some { s with loop := .returned result }
      else none
    | _ => none
  | _ => none

/-- The steps of the writer. -/
def stepWriter (s : RelayHttpTunnelStream) : TunnelOp → Option RelayHttpTunnelStream
  | .dequeue =>
    if s.writer = .idle then
      s.wire.recv.bind fun (item, wire) => item.map fun write =>
        { s with wire, writer := .writing write }
    else none
  | .sent =>
    match s.writer with
    | .writing write => some { s with writer := .idle, written := s.written ++ [write] }
    | _ => none
  | .abortWriter =>
    match s.loop with
    | .returned _ => some { s with writer := .aborted, wire := s.wire.dropReceiver }
    | _ => none
  | _ => none

def step (s : RelayHttpTunnelStream) (op : TunnelOp) : Option RelayHttpTunnelStream :=
  match op with
  | .readBody | .dropBody | .respond .. | .chunk _ | .finish => s.stepTask c op
  | .responseDone | .receive | .bodySent | .cleaned => s.stepLoop c op
  | .dequeue | .sent | .abortWriter => s.stepWriter op

/-! ### What is claimed -/

/-- The messages of a peer that sends a request body and does not disconnect. -/
inductive Uploads : List TunnelMessage → List (List UInt8) → Prop
  | body {messages : List TunnelMessage} {payload : List UInt8} {payloads : List (List UInt8)} :
    Uploads messages payloads →
      Uploads (.binary (encodeRelayHttpTunnelRequestBody payload) :: messages) (payload :: payloads)
  | ping {messages : List TunnelMessage} {payload : List UInt8} {payloads : List (List UInt8)} :
    (∀ clientId, decodeRelayDataControl payload ≠ some (.clientDisconnected clientId)) →
      Uploads messages payloads → Uploads (.ping payload :: messages) payloads
  | ended {messages : List TunnelMessage} :
    (∀ message ∈ messages, ∃ payload, message = .ping payload ∧
      ∀ clientId, decodeRelayDataControl payload ≠ some (.clientDisconnected clientId)) →
      Uploads (.binary encodeRelayHttpTunnelRequestEnd :: messages) []

/-- The frames of the response so far. -/
def response : List RelayHttpTunnelWrite :=
  match s.head with
  | none => []
  | some (status, headers) =>
    .responseHeadWithHeaders status headers ::
      ((s.chunks.filter (· ≠ [])).map .responseBody ++
        if s.task = .finished then [.responseEnd] else [])

/-- The frames among the messages that were written. -/
def frames (writes : List RelayDataWrite) : List (List UInt8) :=
  writes.filterMap fun
    | .frame raw => some raw
    | .pong _ => none

/-- **The handler's response is delivered.** The loop does not give up. The frames that are written
are those of the response, and all of them are in the end. The handler reads what the peer has sent,
and all of it if it reads to the end. Nobody waits for ever. -/
structure Intact (payloads : List (List UInt8)) (s : RelayHttpTunnelStream) : Prop where
  goesOn : s.loop = .select ∨ ∃ part, s.loop = .sendingBody part
  written_prefix : frames s.written <+: s.response.map (·.encode c)
  complete : s.task = .finished → s.wire.queue = [] → s.writer = .idle →
    frames s.written = s.response.map (·.encode c)
  read_prefix : s.body.received <+: payloads
  read_all : s.readToEnd → s.body.received = payloads
  writes : s.wire.queue ≠ [] ∨ s.writer ≠ .idle →
    (s.step c .dequeue).isSome ∨ (s.step c .sent).isSome
  feeds : s.body.receiving → s.body.recv = none →
    (s.step c .receive).isSome ∨ (s.step c .bodySent).isSome

/-- **The guard**: the loop gets no frame of the request after a part was refused, unless it knows
that the response is done. -/
def awaited : TunnelOp → Bool
  | .receive =>
    match s.inbound with
    | .binary _ :: _ => s.requestOpen || s.responseDone
    | _ => true
  | _ => true

/-! ### The request -/

variable {c} {s} {s' : RelayHttpTunnelStream} {payloads : List (List UInt8)}

/-- A message that ends nothing by itself. -/
def Harmless : TunnelMessage → Prop
  | .binary _ => True
  | .ping payload =>
    ∀ clientId, decodeRelayDataControl payload ≠ some (.clientDisconnected clientId)
  | _ => False

theorem Uploads.harmless {messages : List TunnelMessage} (h : Uploads messages payloads) :
    ∀ message ∈ messages, Harmless message := by
  induction h with
  | body _ ih => exact List.forall_mem_cons.mpr ⟨trivial, ih⟩
  | ping hpayload _ ih => exact List.forall_mem_cons.mpr ⟨hpayload, ih⟩
  | ended hpings =>
    refine List.forall_mem_cons.mpr ⟨trivial, fun message hmem => ?_⟩
    obtain ⟨payload, rfl, hpayload⟩ := hpings message hmem
    exact hpayload

theorem Uploads.ne_nil {messages : List TunnelMessage} (h : Uploads messages payloads) :
    messages ≠ [] := by
  cases h <;> exact List.cons_ne_nil _ _

/-- The part that waits for room in the channel. -/
def pendingPart : TunnelLoop → List (List UInt8)
  | .sendingBody part => [part]
  | _ => []

/-- How much of the request the loop has passed on. -/
inductive Requested (payloads : List (List UInt8)) (s : RelayHttpTunnelStream) : Prop
  | goingOn {rest : List (List UInt8)} (hopen : s.requestOpen = true)
    (hsending : s.body.sending = true) (huploads : Uploads s.inbound rest)
    (hsent : s.body.sent ++ pendingPart s.loop ++ rest = payloads)
  | ended (hopen : s.requestOpen = false) (hsending : s.body.sending = false)
    (hloop : s.loop = .select) (hsent : s.body.receiving → s.body.sent = payloads)

/-- The message that the writer has not written yet. -/
def pendingWrite : TunnelWriter → List RelayDataWrite
  | .writing write => [write]
  | _ => []

/-- What holds in all runs whose steps the guard admits. -/
structure Invariant (c : JsonCodec) (payloads : List (List UInt8)) (s : RelayHttpTunnelStream) :
    Prop where
  goesOn : s.loop = .select ∨ ∃ part, s.loop = .sendingBody part
  harmless : ∀ message ∈ s.inbound, Harmless message
  requested : s.responseDone = false → Requested payloads s
  done : s.responseDone = true → s.task = .finished ∧ s.loop = .select
  finished : s.task = .finished → s.body.receiving = false
  handling : s.task = .handling → s.head = none ∧ s.chunks = []
  responding : s.task = .responding → ∃ head, s.head = some head
  running : s.task ≠ .aborted ∧ s.writer ≠ .aborted ∧ s.wire.receiving = true
  bodyFifo : s.body.Fifo
  sent_prefix : s.body.sent <+: payloads
  read_all : s.readToEnd = true → s.body.received = payloads
  wireFifo : s.wire.Fifo
  written : s.written ++ pendingWrite s.writer = s.wire.received
  queued : frames s.wire.sent = s.response.map (·.encode c)

/-- The stream when the head of the request was read. -/
def start (clientId : RelayClientId) (download : Bool) (inbound : List TunnelMessage) :
    RelayHttpTunnelStream := { clientId, download, inbound }

theorem Invariant.start {clientId : RelayClientId} {download : Bool}
    {inbound : List TunnelMessage} (h : Uploads inbound payloads) :
    Invariant c payloads (start clientId download inbound) where
  goesOn := .inl rfl
  harmless := h.harmless
  requested _ := .goingOn rfl rfl h rfl
  done hdone := by cases hdone
  finished hfinished := by cases hfinished
  handling _ := ⟨rfl, rfl⟩
  responding hresponding := by cases hresponding
  running := ⟨TunnelTask.noConfusion, TunnelWriter.noConfusion, rfl⟩
  bodyFifo := .new
  sent_prefix := List.nil_prefix
  read_all hread := by cases hread
  wireFifo := .new
  written := rfl
  queued := rfl

/-- What is known of the request does not depend on the handler. -/
theorem Requested.of_same (h : Requested payloads s) (hopen : s'.requestOpen = s.requestOpen)
    (hinbound : s'.inbound = s.inbound) (hloop : s'.loop = s.loop)
    (hsending : s'.body.sending = s.body.sending) (hsent : s'.body.sent = s.body.sent)
    (hreceiving : s'.body.receiving → s.body.receiving) : Requested payloads s' := by
  cases h with
  | goingOn h₁ h₂ huploads h₄ =>
    exact .goingOn (hopen.trans h₁) (hsending.trans h₂) (hinbound ▸ huploads)
      (by rw [hsent, hloop, h₄])
  | ended h₁ h₂ h₃ h₄ =>
    exact .ended (hopen.trans h₁) (hsending.trans h₂) (hloop.trans h₃) fun hrx => by
      rw [hsent, h₄ (hreceiving hrx)]

/-! ### The handler and its task -/

theorem frames_append (writes writes' : List RelayDataWrite) :
    frames (writes ++ writes') = frames writes ++ frames writes' := List.filterMap_append

theorem Invariant.readBody (h : Invariant c payloads s) (hstep : s.step c .readBody = some s') :
    Invariant c payloads s' := by
  simp only [step, stepTask] at hstep
  split_ifs at hstep with hreceiving
  obtain ⟨⟨item, body⟩, hrecv, rfl⟩ := Option.map_eq_some_iff.mp hstep
  have hfifo := h.bodyFifo.recv hreceiving hrecv
  have hnotDone : s.responseDone = false := by
    cases hdone : s.responseDone with
    | false => rfl
    | true => rw [h.finished (h.done hdone).1] at hreceiving; cases hreceiving
  obtain ⟨part, queue, rfl, hqueue, rfl⟩ | ⟨rfl, hqueue, hsending, rfl⟩ :=
    Channel.recv_cases hrecv
  · exact { h with
      requested := fun hdone => (h.requested hdone).of_same rfl rfl rfl rfl rfl id
      bodyFifo := hfifo
      read_all := fun hread => by
        -- after the end there is nothing in the channel
        have hall := h.read_all (by simpa using hread)
        have hlength := congrArg List.length (h.bodyFifo.queued hreceiving)
        have hle := h.sent_prefix.length_le
        rw [hall, hqueue] at hlength
        simp only [List.length_append, List.length_cons] at hlength
        omega }
  · exact { h with
      requested := fun hdone => (h.requested hdone).of_same rfl rfl rfl rfl rfl id
      read_all := fun _ => by
        rw [h.bodyFifo.received_eq_sent hreceiving hrecv]
        cases h.requested hnotDone with
        | goingOn _ hopen => rw [hsending] at hopen; cases hopen
        | ended _ _ _ hsent => exact hsent hreceiving }

theorem Invariant.dropBody (h : Invariant c payloads s) (hstep : s.step c .dropBody = some s') :
    Invariant c payloads s' := by
  obtain rfl := Option.some.inj hstep
  exact { h with
    requested := fun hdone =>
      (h.requested hdone).of_same rfl rfl rfl rfl rfl fun hrx => Bool.noConfusion hrx
    finished := fun _ => rfl
    bodyFifo := h.bodyFifo.dropReceiver }

/-- A frame of the response is queued. -/
theorem enqueue_eq_some {write : RelayHttpTunnelWrite} (h : s.enqueue c write = some s') :
    s' = { s with wire := { s.wire with
      queue := s.wire.queue ++ [.frame (write.encode c)]
      sent := s.wire.sent ++ [.frame (write.encode c)] } } := by
  rw [enqueue] at h
  split_ifs at h
  obtain ⟨wire, hsend, rfl⟩ := Option.map_eq_some_iff.mp h
  rw [(Channel.send_eq_some hsend).2]

theorem Invariant.enqueue (h : Invariant c payloads s) {write : RelayHttpTunnelWrite}
    (hqueue : s.enqueue c write = some s') :
    s'.wire.Fifo ∧ frames s'.wire.sent = s.response.map (·.encode c) ++ [write.encode c] := by
  refine ⟨?_, ?_⟩
  · rw [RelayHttpTunnelStream.enqueue] at hqueue
    split_ifs at hqueue
    obtain ⟨wire, hsend, rfl⟩ := Option.map_eq_some_iff.mp hqueue
    exact h.wireFifo.send hsend
  · rw [enqueue_eq_some hqueue, frames_append, h.queued]
    rfl

theorem Invariant.not_done (h : Invariant c payloads s) (htask : s.task ≠ .finished) :
    s.responseDone = false := by
  cases hdone : s.responseDone with
  | false => rfl
  | true => exact absurd (h.done hdone).1 htask

theorem Invariant.respond (h : Invariant c payloads s) {status : UInt16} {headers : HttpHeaders}
    (hstep : s.step c (.respond status headers) = some s') : Invariant c payloads s' := by
  simp only [step, stepTask] at hstep
  split_ifs at hstep with htask
  obtain ⟨t, ht, rfl⟩ := Option.map_eq_some_iff.mp hstep
  obtain ⟨hfifo, hqueued⟩ := h.enqueue ht
  obtain rfl := enqueue_eq_some ht
  obtain ⟨hhead, hchunks⟩ := h.handling htask
  exact { h with
    requested := fun hdone => (h.requested hdone).of_same rfl rfl rfl rfl rfl id
    done := fun hdone => by
      have hnot := h.not_done (by rw [htask]; exact TunnelTask.noConfusion)
      rw [hnot] at hdone
      cases hdone
    finished := fun hfinished => TunnelTask.noConfusion hfinished
    handling := fun hhandling => TunnelTask.noConfusion hhandling
    responding := fun _ => ⟨_, rfl⟩
    running := ⟨TunnelTask.noConfusion, h.running.2⟩
    wireFifo := hfifo
    queued := by simp [hqueued, response, hhead, hchunks] }

theorem Invariant.chunk (h : Invariant c payloads s) {bytes : List UInt8}
    (hstep : s.step c (.chunk bytes) = some s') : Invariant c payloads s' := by
  simp only [step, stepTask] at hstep
  split_ifs at hstep with htask hbytes
  · obtain rfl := Option.some.inj hstep
    exact { h with
      requested := fun hdone => (h.requested hdone).of_same rfl rfl rfl rfl rfl id
      handling := fun hhandling => by
        rw [htask] at hhandling
        cases hhandling
      queued := by simpa [response, List.filter_append, hbytes] using h.queued }
  · obtain ⟨t, ht, rfl⟩ := Option.map_eq_some_iff.mp hstep
    obtain ⟨hfifo, hqueued⟩ := h.enqueue ht
    obtain rfl := enqueue_eq_some ht
    obtain ⟨⟨status, headers⟩, hhead⟩ := h.responding htask
    exact { h with
      requested := fun hdone => (h.requested hdone).of_same rfl rfl rfl rfl rfl id
      handling := fun hhandling => by
        rw [htask] at hhandling
        cases hhandling
      wireFifo := hfifo
      queued := by simp [hqueued, response, hhead, htask, List.filter_append, hbytes] }

theorem Invariant.finish (h : Invariant c payloads s) (hstep : s.step c .finish = some s') :
    Invariant c payloads s' := by
  simp only [step, stepTask] at hstep
  split_ifs at hstep with htask
  obtain ⟨t, ht, rfl⟩ := Option.map_eq_some_iff.mp hstep
  obtain ⟨hfifo, hqueued⟩ := h.enqueue ht
  obtain rfl := enqueue_eq_some ht
  obtain ⟨⟨status, headers⟩, hhead⟩ := h.responding htask
  exact { h with
    requested := fun hdone =>
      (h.requested hdone).of_same rfl rfl rfl rfl rfl fun hrx => Bool.noConfusion hrx
    done := fun hdone => ⟨rfl, (h.done hdone).2⟩
    finished := fun _ => rfl
    handling := fun hhandling => TunnelTask.noConfusion hhandling
    responding := fun hresponding => TunnelTask.noConfusion hresponding
    running := ⟨TunnelTask.noConfusion, h.running.2⟩
    bodyFifo := h.bodyFifo.dropReceiver
    wireFifo := hfifo
    queued := by simp [hqueued, response, hhead, htask] }

/-! ### The writer -/

theorem Invariant.dequeue (h : Invariant c payloads s) (hstep : s.step c .dequeue = some s') :
    Invariant c payloads s' := by
  simp only [step, stepWriter] at hstep
  split_ifs at hstep with hidle
  obtain ⟨⟨item, wire⟩, hrecv, hitem⟩ := Option.bind_eq_some_iff.mp hstep
  obtain ⟨write, rfl, rfl⟩ := Option.map_eq_some_iff.mp hitem
  have hfifo := h.wireFifo.recv h.running.2.2 hrecv
  obtain ⟨_, queue, heq, hqueue, rfl⟩ | ⟨hnone, -⟩ := Channel.recv_cases hrecv
  · obtain rfl := Option.some.inj heq
    exact { h with
      requested := fun hdone => (h.requested hdone).of_same rfl rfl rfl rfl rfl id
      running := ⟨h.running.1, TunnelWriter.noConfusion, h.running.2.2⟩
      wireFifo := hfifo
      written := by simpa [hidle, pendingWrite] using h.written }
  · cases hnone

theorem Invariant.sent (h : Invariant c payloads s) (hstep : s.step c .sent = some s') :
    Invariant c payloads s' := by
  simp only [step, stepWriter] at hstep
  split at hstep
  next write hwriter =>
    obtain rfl := Option.some.inj hstep
    exact { h with
      requested := fun hdone => (h.requested hdone).of_same rfl rfl rfl rfl rfl id
      running := ⟨h.running.1, TunnelWriter.noConfusion, h.running.2.2⟩
      written := by simpa [hwriter, pendingWrite] using h.written }
  next => cases hstep

/-! ### The loop -/

theorem Invariant.responseDone (h : Invariant c payloads s)
    (hstep : s.step c .responseDone = some s') : Invariant c payloads s' := by
  simp only [step, stepLoop] at hstep
  split_ifs at hstep with hready
  obtain ⟨hloop, htask, -⟩ := hready
  obtain rfl := Option.some.inj hstep
  exact { h with
    requested := fun hdone => by cases hdone
    done := fun _ => ⟨htask, hloop⟩
    bodyFifo := h.bodyFifo.dropSender }

theorem Invariant.bodySent (h : Invariant c payloads s) (hstep : s.step c .bodySent = some s') :
    Invariant c payloads s' := by
  simp only [step, stepLoop] at hstep
  split at hstep
  next part hloop =>
    have hnotDone : s.responseDone = false := by
      cases hdone : s.responseDone with
      | false => rfl
      | true => rw [(h.done hdone).2] at hloop; cases hloop
    cases h.requested hnotDone with
    | ended _ _ hselect => rw [hselect] at hloop; cases hloop
    | @goingOn rest hopen hsending huploads hsent =>
      rw [hloop, pendingPart] at hsent
      split_ifs at hstep with hreceiving
      · obtain ⟨body, hsend, rfl⟩ := Option.map_eq_some_iff.mp hstep
        have hfifo := h.bodyFifo.send hsend
        obtain ⟨-, rfl⟩ := Channel.send_eq_some hsend
        exact { h with
          goesOn := .inl rfl
          requested := fun _ => .goingOn hopen hsending huploads
            (by simpa [pendingPart] using hsent)
          done := fun hdone => ⟨(h.done hdone).1, rfl⟩
          bodyFifo := hfifo
          sent_prefix := ⟨rest, hsent⟩ }
      · -- the handler has dropped the body
        obtain rfl := Option.some.inj hstep
        exact { h with
          goesOn := .inl rfl
          requested := fun _ => .ended rfl rfl rfl fun hrx => absurd hrx hreceiving
          done := fun hdone => ⟨(h.done hdone).1, rfl⟩
          bodyFifo := h.bodyFifo.dropSender }
  next => cases hstep

theorem decode_requestBody (payload : List UInt8) :
    decodeRelayHttpTunnelFrame c (encodeRelayHttpTunnelRequestBody payload) =
      some (.requestBody payload) :=
  decodeRelayHttpTunnelFrame_encode (.requestBody payload) trivial

theorem decode_requestEnd :
    decodeRelayHttpTunnelFrame c encodeRelayHttpTunnelRequestEnd = some .requestEnd :=
  decodeRelayHttpTunnelFrame_encode .requestEnd trivial

/-- A frame of the request that the guard admits. -/
theorem Invariant.request (h : Invariant c payloads s) {raw : List UInt8}
    {inbound : List TunnelMessage} (hinbound : s.inbound = .binary raw :: inbound)
    (hselect : s.loop = .select) (hguard : s.requestOpen || s.responseDone) :
    Invariant c payloads ({ s with inbound }.request c raw) := by
  have hharmless : ∀ message ∈ inbound, Harmless message :=
    fun message hmem => h.harmless message (hinbound ▸ List.mem_cons_of_mem _ hmem)
  obtain hdone | hdone := Bool.eq_false_or_eq_true s.responseDone
  · have hsame : { s with inbound }.request c raw = { s with inbound } := by
      simp [RelayHttpTunnelStream.request, hdone]
    rw [hsame]
    exact { h with
      harmless := hharmless
      requested := fun hnot => by rw [hdone] at hnot; cases hnot }
  · rw [hdone, Bool.or_false] at hguard
    cases h.requested hdone with
    | ended hclosed => rw [hclosed] at hguard; cases hguard
    | @goingOn rest hopen hsending huploads hsent =>
      have hsent : s.body.sent ++ rest = payloads := by simpa [hselect, pendingPart] using hsent
      rw [hinbound] at huploads
      cases huploads with
      | @body messages payload rest huploads =>
        have hnext : { s with inbound }.request c (encodeRelayHttpTunnelRequestBody payload) =
            { s with inbound, loop := .sendingBody payload } := by
          simp [RelayHttpTunnelStream.request, hdone, hopen, decode_requestBody, hsending]
        rw [hnext]
        exact { h with
          goesOn := .inr ⟨payload, rfl⟩
          harmless := hharmless
          requested := fun _ => .goingOn hopen hsending huploads
            (by simpa [pendingPart] using hsent)
          done := fun hdone' => by rw [hdone] at hdone'; cases hdone' }
      | ended hpings =>
        have hnext : { s with inbound }.request c encodeRelayHttpTunnelRequestEnd =
            { s with inbound, requestOpen := false, body := s.body.dropSender } := by
          simp [RelayHttpTunnelStream.request, hdone, hopen, decode_requestEnd]
        rw [hnext]
        rw [List.append_nil] at hsent
        exact { h with
          harmless := hharmless
          requested := fun _ => .ended rfl rfl hselect fun _ => hsent
          bodyFifo := h.bodyFifo.dropSender }

/-- A ping is answered, or not. -/
theorem Invariant.ping (h : Invariant c payloads s) {payload : List UInt8}
    {inbound : List TunnelMessage} (hinbound : s.inbound = .ping payload :: inbound) :
    Invariant c payloads ({ s with inbound }.message c (.ping payload)) := by
  have hinvariant : Invariant c payloads { s with inbound } := { h with
    harmless := fun message hmem => h.harmless message (hinbound ▸ List.mem_cons_of_mem _ hmem)
    requested := fun hdone => by
      cases h.requested hdone with
      | @goingOn rest hopen hsending huploads hsent =>
        rw [hinbound] at huploads
        cases huploads with
        | ping _ huploads => exact .goingOn hopen hsending huploads hsent
      | ended hopen hsending hloop hsent => exact .ended hopen hsending hloop hsent }
  have hpayload : Harmless (.ping payload) := h.harmless _ (hinbound ▸ List.mem_cons_self ..)
  simp only [message]
  split
  next disconnected hcontrol => exact absurd hcontrol (hpayload disconnected)
  next =>
    split
    next wire hsend =>
      have hfifo := h.wireFifo.send hsend
      obtain ⟨-, rfl⟩ := Channel.send_eq_some hsend
      exact { hinvariant with
        requested := fun hdone =>
          (hinvariant.requested hdone).of_same rfl rfl rfl rfl rfl id
        wireFifo := hfifo
        queued := by
          rw [frames_append]
          exact (List.append_nil _).trans h.queued }
    next => exact hinvariant

theorem Invariant.receive (h : Invariant c payloads s) (hguard : s.awaited .receive)
    (hstep : s.step c .receive = some s') : Invariant c payloads s' := by
  simp only [step, stepLoop] at hstep
  split at hstep
  next received inbound hselect hinbound =>
    obtain rfl := Option.some.inj hstep
    have hharmless := h.harmless received (hinbound ▸ List.mem_cons_self ..)
    cases received with
    | binary raw =>
      simp only [awaited, hinbound] at hguard
      exact h.request hinbound hselect hguard
    | ping payload => exact h.ping hinbound
    | _ => exact hharmless.elim
  next => cases hstep

/-- The guard keeps the invariant. -/
theorem Invariant.step (h : Invariant c payloads s) {op : TunnelOp} (hguard : s.awaited op)
    (hstep : s.step c op = some s') : Invariant c payloads s' := by
  cases op with
  | readBody => exact h.readBody hstep
  | dropBody => exact h.dropBody hstep
  | respond => exact h.respond hstep
  | chunk => exact h.chunk hstep
  | finish => exact h.finish hstep
  | responseDone => exact h.responseDone hstep
  | receive => exact h.receive hguard hstep
  | bodySent => exact h.bodySent hstep
  | dequeue => exact h.dequeue hstep
  | sent => exact h.sent hstep
  | cleaned | abortWriter =>
    -- the loop has not given up
    simp only [RelayHttpTunnelStream.step, stepLoop, stepWriter] at hstep
    obtain hloop | ⟨part, hloop⟩ := h.goesOn <;> rw [hloop] at hstep <;> cases hstep

/-! ### Runs -/

theorem Invariant.intact (h : Invariant c payloads s) : Intact c payloads s where
  goesOn := h.goesOn
  written_prefix := by
    rw [← h.queued]
    have hwritten : s.written <+: s.wire.received := h.written ▸ List.prefix_append ..
    exact (hwritten.trans h.wireFifo.received_prefix).filterMap _
  complete _ hqueue hwriter := by
    have hwritten := h.written
    have hsent := h.wireFifo.queued h.running.2.2
    rw [hwriter] at hwritten
    rw [hqueue, List.append_nil, ← hwritten] at hsent
    rw [← h.queued, ← hsent]
    exact congrArg frames (List.append_nil _).symm
  read_prefix := h.bodyFifo.received_prefix.trans h.sent_prefix
  read_all := h.read_all
  writes hpending := by
    cases hwriter : s.writer with
    | aborted => exact absurd hwriter h.running.2.1
    | writing write => exact .inr (by simp [RelayHttpTunnelStream.step, stepWriter, hwriter])
    | idle =>
      refine .inl ?_
      obtain hqueue | hwriting := hpending
      · obtain ⟨write, queue, hqueue⟩ := List.exists_cons_of_ne_nil hqueue
        simp [RelayHttpTunnelStream.step, stepWriter, hwriter, Channel.recv, hqueue]
      · exact absurd hwriter hwriting
  feeds hreceiving hrecv := by
    obtain ⟨hqueue, hsending⟩ := Channel.recv_eq_none_iff.mp hrecv
    have hnotDone : s.responseDone = false :=
      h.not_done fun hfinished => by rw [h.finished hfinished] at hreceiving; cases hreceiving
    cases h.requested hnotDone with
    | ended _ hclosed => rw [hclosed] at hsending; cases hsending
    | goingOn _ _ huploads _ =>
      obtain hloop | ⟨part, hloop⟩ := h.goesOn
      · obtain ⟨message, inbound, hinbound⟩ := List.exists_cons_of_ne_nil huploads.ne_nil
        exact .inl (by simp [RelayHttpTunnelStream.step, stepLoop, hloop, hinbound])
      · refine .inr ?_
        simp [RelayHttpTunnelStream.step, stepLoop, hloop, hreceiving, Channel.send, hqueue,
          RELAY_DATA_WIRE_QUEUE_CAPACITY]

theorem cleanup_loop (s : RelayHttpTunnelStream) (result : TunnelEnd) :
    (s.cleanup result).loop = .returned result ∨ (s.cleanup result).loop = .cleanup result := by
  rw [cleanup]
  split_ifs <;> simp

/-- A frame that comes too late makes the loop give up. -/
theorem not_intact_of_not_awaited {op : TunnelOp}
    (hguard : ¬s.awaited op) (hstep : s.step c op = some s') : ¬Intact c payloads s' := by
  intro hintact
  cases op with
  | receive =>
    simp only [RelayHttpTunnelStream.step, stepLoop] at hstep
    split at hstep
    next received inbound hselect hinbound =>
      obtain rfl := Option.some.inj hstep
      simp only [awaited, hinbound] at hguard
      split at hguard
      next raw _ heq =>
        obtain ⟨rfl, -⟩ := List.cons.inj heq
        simp only [Bool.or_eq_true, not_or, Bool.not_eq_true] at hguard
        have hnext : { s with inbound }.message c (.binary raw) =
            { s with inbound }.cleanup .invalidEnvelope := by
          simp [message, RelayHttpTunnelStream.request, hguard.1, hguard.2]
        have hgoesOn := hintact.goesOn
        rw [hnext] at hgoesOn
        obtain hloop | hloop := cleanup_loop { s with inbound } .invalidEnvelope <;>
          simp [hloop] at hgoesOn
      next => exact hguard rfl
    next => cases hstep
  | _ => exact hguard rfl

/-- **Exactly when the response is delivered**: no frame of the request is received between the time
when a part was refused and the end of the response. -/
theorem intact_iff_awaited (clientId : RelayClientId) (download : Bool)
    {inbound : List TunnelMessage} {ops : List TunnelOp} (huploads : Uploads inbound payloads)
    (hrun : exec (step c) (start clientId download inbound) ops = some s) :
    (∀ ops₁ ops₂ t, ops = ops₁ ++ ops₂ →
      exec (step c) (start clientId download inbound) ops₁ = some t → Intact c payloads t) ↔
      Along (step c) (fun s op => s.awaited op) (start clientId download inbound) ops :=
  forall_reached_iff_along (I := Invariant c payloads) (fun _ h => h.intact)
    (fun _ _ _ h hguard hstep => h.step hguard hstep)
    (fun _ _ _ _ hguard hstep => not_intact_of_not_awaited hguard hstep) (.start huploads) hrun

/-- The JSON of the one head below. -/
def unauthorizedJson : JsonCodec where
  parseJson _ := none
  renderJson _ := utf8Bytes "\x7b\"status\":401,\"headers\":[]\x7d"

/-- A request body of two parts. -/
def twoParts : List TunnelMessage :=
  [.binary (encodeRelayHttpTunnelRequestBody [1]), .binary (encodeRelayHttpTunnelRequestBody [2]),
    .binary encodeRelayHttpTunnelRequestEnd]

theorem uploads_twoParts : Uploads twoParts [[1], [2]] :=
  .body (.body (.ended fun _ hmem => by cases hmem))

/-- The handler answers before the second part arrives, and the loop hears of it. -/
theorem intact_of_early_response : ∃ s,
    exec (step unauthorizedJson) (start ⟨1⟩ false twoParts)
      [.dropBody, .receive, .bodySent, .respond 401 [], .dequeue, .finish, .responseDone, .receive,
        .sent, .dequeue, .sent] = some s ∧
      Intact unauthorizedJson [[1], [2]] s ∧
      frames s.written = s.response.map (·.encode unauthorizedJson) := by
  let ops : List TunnelOp := [.dropBody, .receive, .bodySent, .respond 401 [], .dequeue, .finish,
    .responseDone, .receive, .sent, .dequeue, .sent]
  have hops : (decide (Along (step unauthorizedJson) (fun s op => s.awaited op = true)
      (start ⟨1⟩ false twoParts) ops) &&
      (exec (step unauthorizedJson) (start ⟨1⟩ false twoParts) ops).any fun s =>
        s.task = .finished && s.wire.queue = [] && s.writer = .idle) = true := by
    decide +kernel
  rw [Bool.and_eq_true, decide_eq_true_eq] at hops
  obtain ⟨s, hs, hend⟩ := (Option.any_eq_true ..).mp hops.2
  simp only [Bool.and_eq_true, decide_eq_true_eq] at hend
  have hintact := (intact_iff_awaited ⟨1⟩ false uploads_twoParts hs).mpr hops.1 ops [] s
    (List.append_nil ops).symm hs
  exact ⟨s, hs, hintact, hintact.complete hend.1.1 hend.1.2 hend.2⟩

/-- The second part arrives while the response is being written. -/
theorem not_intact_of_second_part :
    ¬∀ (c : JsonCodec) (clientId : RelayClientId) (download : Bool) (inbound : List TunnelMessage)
      (payloads : List (List UInt8)) (ops : List TunnelOp) (s : RelayHttpTunnelStream),
      Uploads inbound payloads → exec (step c) (start clientId download inbound) ops = some s →
        (∀ result, s.loop = .returned result → result ≠ .invalidEnvelope) ∨
          frames s.written = s.response.map (·.encode c) := by
  intro h
  let ops : List TunnelOp := [.dropBody, .receive, .bodySent, .receive, .respond 401 [], .dequeue,
    .finish, .cleaned, .abortWriter]
  have hops : ((exec (step unauthorizedJson) (start ⟨1⟩ false twoParts) ops).any fun s =>
      s.loop = .returned .invalidEnvelope && s.written = [] && s.head.isSome) = true := by
    decide +kernel
  obtain ⟨s, hs, hend⟩ := (Option.any_eq_true ..).mp hops
  simp only [Bool.and_eq_true, decide_eq_true_eq] at hend
  obtain ⟨head, hhead⟩ := Option.isSome_iff_exists.mp hend.2
  obtain hgoesOn | hwritten := h _ _ _ _ _ ops s uploads_twoParts hs
  · exact hgoesOn _ hend.1.1 rfl
  · simp [hend.1.2, frames, response, hhead] at hwritten

end RelayHttpTunnelStream

end Termd.Relay
