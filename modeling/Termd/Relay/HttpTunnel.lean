import Termd.Library.Channel
import Termd.Library.Transition
import Termd.Relay.Budget
import Termd.Relay.Codec

/-!
# The relay's end of an HTTP tunnel

For a request of a browser the relay registers a synthetic client. Its handler forwards the head
of the request to the daemon, starts a task that forwards the body, and waits for the head of a
response in the queue of the client. Then it answers the browser and leaves the queue to a second
task, which passes on the body of the response and cleans up.

A daemon may answer while the request is still being forwarded, and close its line. The next part of
the request cannot be forwarded then, and both the handler and the second task look at the result of
the first task before they look at the queue: a response that is there already is dropped.

Deadlines for the pairing and for the head of the response do not pass here.

## Main definitions

* `relayHttpResponseHeaders`: the headers that are passed on
* `HttpTunnel`: handler, tasks, queue, and what the browser has received
* `HttpTunnel.step`: one step of the handler, a task, the browser or the rest of the relay
* `answer`: the response that the daemon has enqueued
* `HttpTunnel.Delivers`: the browser gets the answer, a clean end only with all of it, and nothing
  is left behind
* `HttpTunnel.unhurried`: the guard of the failure that comes too late

## Main results

* `HttpTunnel.delivers_iff_unhurried`: the runs in which an answer that is complete is delivered
-/

namespace Termd.Relay

def DATA_CHANNEL_CAPACITY : ℕ := 32 * 1024
def HTTP_TUNNEL_BODY_CHANNEL_CAPACITY : ℕ := 1

/-! ### Headers and status -/

/-- Header names and values of the `http` crate: a name is read in lower case, a value may be valid,
and a valid value may be visible text. -/
structure HttpTypes where
  headerName : String → Option String
  isHeaderValue : String → Bool
  isVisible : String → Bool

def relayHttpHeaderIsHopByHop (name : String) : Bool :=
  name ∈ ["connection", "keep-alive", "proxy-authenticate", "proxy-authorization", "te", "trailer",
    "transfer-encoding", "upgrade"]

/-- The names in a `connection` header. -/
def connectionNamed (http : HttpTypes) (value : String) : Option (List String) :=
  if http.isVisible value then
    (value.splitOn ",").mapM fun token =>
      let token := token.trimAscii.toString
      if token = "" then none else http.headerName token
  else none

def relayHttpResponseHeaders (http : HttpTypes) (headers : HttpHeaders) : Option HttpHeaders := do
  let parsed ← headers.mapM fun (name, value) => do
    let name ← http.headerName name
    if http.isHeaderValue value then some (name, value) else none
  let named ← (parsed.filter fun (name, _) => name = "connection").mapM fun (_, value) =>
    connectionNamed http value
  some (parsed.filter fun (name, _) =>
    !(relayHttpHeaderIsHopByHop name || named.flatten.contains name))

def BAD_REQUEST : ℕ := 400
def BAD_GATEWAY : ℕ := 502
def GATEWAY_TIMEOUT : ℕ := 504

/-- `StatusCode::from_u16` -/
def statusFromU16 (status : UInt16) : Option ℕ :=
  if 100 ≤ status.toNat ∧ status.toNat < 1000 then some status.toNat else none

/-! ### The tunnel -/

structure HttpResponse where
  status : ℕ
  headers : HttpHeaders
deriving DecidableEq

/-- How far `http_tunnel` is. -/
inductive TunnelHandler
  | waitingPair
  | forwardingHead
  | awaitingHead
  | responded (response : HttpResponse)
  | failed (status : ℕ)
  /-- The server has dropped the future. -/
  | cancelled
deriving DecidableEq

/-- How far `relay_http_tunnel_forward_request_body` is. -/
inductive RequestTask
  | notStarted
  | running (firstChunk : Bool)
  | finished
  | aborted
deriving DecidableEq

def RequestTask.abort : RequestTask → RequestTask
  | .running _ => .aborted
  | task => task

inductive RequestResult
  | ok
  | error (status : ℕ)
deriving DecidableEq

/-- How far `relay_http_tunnel_forward_response_body` is. -/
inductive ResponseTask
  | notStarted
  | select
  /-- Before the channel of the body has taken a part. -/
  | sending (part : List UInt8)
  /-- Before the errors that are left are sent. -/
  | failing (errors : ℕ)
  | done
deriving DecidableEq

inductive BodyItem
  | part (bytes : List UInt8)
  | error

inductive BodyEnd
  | clean
  | error
deriving DecidableEq

structure HttpTunnel where
  /-- The method has a deadline for the first part of the body. -/
  firstChunkDeadline : Bool
  /-- The data queue of the synthetic client; the room has its sender. -/
  queue : Channel RelayOutbound := {}
  registered : Bool := true
  handler : TunnelHandler := .waitingPair
  requestTask : RequestTask := .notStarted
  /-- What the task has sent to `request_result_rx`. -/
  requestResult : Option RequestResult := none
  requestDone : Bool := false
  responseTask : ResponseTask := .notStarted
  body : Channel BodyItem := {}
  /-- What the browser has read of the body, and how the body ended. -/
  received : List (List UInt8) := []
  ending : Option BodyEnd := none
  /-- What was enqueued when the tunnel gave up the response. -/
  failedAt : Option (List RelayOutbound) := none

inductive HttpTunnelOp
  /-- The room: a frame of the daemon is enqueued, or the client is unregistered. -/
  | enqueue (outbound : RelayOutbound)
  | closeQueue
  /-- `http_tunnel` -/
  | paired
  | forwardHead (delivered : Bool)
  | cancel
  /-- `http_tunnel` or the task of the response looks at a channel. -/
  | requestResult
  | receive
  /-- The task of the response. -/
  | bodySent
  | bodyClosed
  | errorSent
  /-- The task of the request. -/
  | requestChunk (bytes : List UInt8) (delivered : Bool)
  | requestError
  | requestDeadline
  | requestEnd (delivered : Bool)
  /-- The browser. -/
  | readBody
  | dropBody

/-- The frame of an outbound message. -/
def tunnelFrame (c : JsonCodec) : RelayOutbound → Option RelayHttpTunnelFrame
  | .frame (.binary raw) => decodeRelayHttpTunnelFrame c raw
  | _ => none

namespace HttpTunnel

variable (http : HttpTypes) (c : JsonCodec) (s : HttpTunnel)

/-- The registration guard is dropped. -/
def exit (handler : TunnelHandler) : HttpTunnel :=
  { s with
    handler, requestTask := s.requestTask.abort, registered := false
    queue := s.queue.dropSender.dropReceiver }

/-- The task of the response has returned. -/
def finish : HttpTunnel :=
  { s with
    responseTask := .done, requestTask := s.requestTask.abort, registered := false
    queue := s.queue.dropSender.dropReceiver, body := s.body.dropSender }

def giveUp : HttpTunnel := { s with failedAt := some s.queue.sent }

/-- A message for the handler. -/
def awaitHead : Option RelayOutbound → HttpTunnel
  | none => s.giveUp.exit (.failed BAD_GATEWAY)
  | some outbound =>
    match tunnelFrame c outbound with
    | some (.responseHead status headers) =>
      match relayHttpResponseHeaders http headers with
      | none => s.giveUp.exit (.failed BAD_GATEWAY)
      | some headers =>
        let status := (statusFromU16 status).getD BAD_GATEWAY
        { s with handler := .responded { status, headers }, responseTask := .select }
    | _ => s

/-- A message for the task of the response. -/
def forwardBody : Option RelayOutbound → HttpTunnel
  | none => { s.giveUp with responseTask := .failing 1 }
  | some outbound =>
    match tunnelFrame c outbound with
    | some (.responseBody part) => { s with responseTask := .sending part }
    | some .responseEnd => s.finish
    | _ => s

def stepRoom (s : HttpTunnel) : HttpTunnelOp → Option HttpTunnel
  | .enqueue outbound =>
    -- the daemon answers what it has received
    if s.queue.sending && s.queue.receiving && s.requestTask ≠ .notStarted then
      (s.queue.send DATA_CHANNEL_CAPACITY outbound).map fun queue => { s with queue }
    else none
  | .closeQueue => some { s with registered := false, queue := s.queue.dropSender }
  | _ => none

def stepHandler (s : HttpTunnel) : HttpTunnelOp → Option HttpTunnel
  | .paired =>
    if s.handler = .waitingPair then some { s with handler := .forwardingHead } else none
  | .forwardHead delivered =>
    if s.handler = .forwardingHead then
      if delivered then some { s with handler := .awaitingHead, requestTask := .running true }
      else some (s.giveUp.exit (.failed BAD_GATEWAY))
    else none
  | .cancel =>
    match s.handler with
    | .waitingPair | .forwardingHead | .awaitingHead => some (s.exit .cancelled)
    | _ => none
  | .requestResult =>
    match s.requestDone, s.requestResult with
    | false, some .ok =>
      if s.handler = .awaitingHead ∨ s.responseTask = .select then
        some { s with requestDone := true }
      else none
    | false, some (.error status) =>
      if s.handler = .awaitingHead then
        some ({ s with requestDone := true }.giveUp.exit (.failed status))
      else if s.responseTask = .select then
        -- one error for the request, and one for the early end
        some { s.giveUp with requestDone := true, responseTask := .failing 2 }
      else none
    | _, _ => none
  | .receive =>
    if s.handler = .awaitingHead then
      s.queue.recv.map fun (item, queue) => { s with queue }.awaitHead http c item
    else if s.responseTask = .select then
      s.queue.recv.map fun (item, queue) => { s with queue }.forwardBody c item
    else none
  | _ => none

def stepResponse (s : HttpTunnel) : HttpTunnelOp → Option HttpTunnel
  | .bodySent =>
    match s.responseTask with
    | .sending part =>
      if s.body.receiving then
        (s.body.send HTTP_TUNNEL_BODY_CHANNEL_CAPACITY (.part part)).map fun body =>
          { s with body, responseTask := .select }
      else some { s with responseTask := .failing 1 }
    | _ => none
  | .bodyClosed =>
    if s.responseTask = .select ∧ s.body.receiving = false then
      some { s with responseTask := .failing 1 }
    else none
  | .errorSent =>
    match s.responseTask with
    | .failing errors =>
      (if s.body.receiving then s.body.send HTTP_TUNNEL_BODY_CHANNEL_CAPACITY .error
        else some s.body).map fun body =>
          if errors ≤ 1 then { s with body }.finish
          else { s with body, responseTask := .failing (errors - 1) }
    | _ => none
  | _ => none

/-- The task of the request has returned. -/
def requestReturned (result : RequestResult) : HttpTunnel :=
  { s with requestTask := .finished, requestResult := some result }

def stepRequest (s : HttpTunnel) (op : HttpTunnelOp) : Option HttpTunnel :=
  match s.requestTask, op with
  | .running _, .requestChunk bytes delivered =>
    if bytes = [] ∨ delivered then some { s with requestTask := .running false }
    else some (s.requestReturned (.error BAD_GATEWAY))
  | .running _, .requestError => some (s.requestReturned (.error BAD_REQUEST))
  | .running firstChunk, .requestDeadline =>
    if firstChunk && s.firstChunkDeadline then some (s.requestReturned (.error GATEWAY_TIMEOUT))
    else none
  | .running _, .requestEnd delivered =>
    some (s.requestReturned (if delivered then .ok else .error BAD_GATEWAY))
  | _, _ => none

def stepBrowser (s : HttpTunnel) : HttpTunnelOp → Option HttpTunnel
  | .readBody =>
    match s.handler with
    | .responded _ =>
      if s.body.receiving && s.ending.isNone then
        s.body.recv.map fun (item, body) =>
          match item with
          | some (.part bytes) => { s with body, received := s.received ++ [bytes] }
          | some .error => { s with body := body.dropReceiver, ending := some .error }
          | none => { s with body, ending := some .clean }
      else none
    | _ => none
  | .dropBody =>
    match s.handler with
    | .responded _ => some { s with body := s.body.dropReceiver }
    | _ => none
  | _ => none

def step (s : HttpTunnel) (op : HttpTunnelOp) : Option HttpTunnel :=
  match op with
  | .enqueue _ | .closeQueue => s.stepRoom op
  | .paired | .forwardHead _ | .cancel | .requestResult | .receive => s.stepHandler http c op
  | .bodySent | .bodyClosed | .errorSent => s.stepResponse op
  | .requestChunk .. | .requestError | .requestDeadline | .requestEnd _ => s.stepRequest op
  | .readBody | .dropBody => s.stepBrowser op

end HttpTunnel

/-! ### The answer of the daemon -/

/-- A response as far as it is enqueued. -/
structure Answer where
  status : UInt16
  headers : HttpHeaders
  parts : List (List UInt8) := []
  ended : Bool := false
deriving DecidableEq

section Answer

variable (http : HttpTypes) (c : JsonCodec)

/-- What one more message adds: frames before the head and behind the end do not count. -/
def Answer.next : Option Answer → RelayOutbound → Option Answer
  | none, outbound =>
    match tunnelFrame c outbound with
    | some (.responseHead status headers) => some { status, headers }
    | _ => none
  | some a, outbound =>
    if a.ended then some a
    else match tunnelFrame c outbound with
      | some (.responseBody part) => some { a with parts := a.parts ++ [part] }
      | some .responseEnd => some { a with ended := true }
      | _ => some a

/-- The answer in a queue. -/
def answer (outbounds : List RelayOutbound) : Option Answer := outbounds.foldl (Answer.next c) none

/-- The response that the browser is to get; its status and its headers have to be valid. -/
def Answer.response (a : Answer) : Option HttpResponse := do
  let status ← statusFromU16 a.status
  let headers ← relayHttpResponseHeaders http a.headers
  some { status, headers }

/-- All of a valid answer is enqueued. -/
def complete (outbounds : List RelayOutbound) : Bool :=
  (answer c outbounds).any fun a => a.ended && (a.response http).isSome

end Answer

namespace HttpTunnel

/-- The tunnel has come to an end, in one way or another. -/
def Exited (s : HttpTunnel) : Prop :=
  s.handler = .cancelled ∨ (∃ status, s.handler = .failed status) ∨ s.responseTask = .done

/-- There is something to do for the browser, which waits for the head or reads the body: what is
enqueued, or an end. -/
def Busy (s : HttpTunnel) : Prop :=
  (s.handler = .awaitingHead ∧ (s.queue.queue ≠ [] ∨ s.queue.sending = false)) ∨
    ((∃ response, s.handler = .responded response) ∧ s.body.receiving = true ∧ s.ending = none ∧
      (s.responseTask = .select → s.queue.queue ≠ [] ∨ s.queue.sending = false))

def handlerWork : TunnelHandler → ℕ
  | .awaitingHead => 1
  | _ => 0

def taskWork : ResponseTask → ℕ
  | .notStarted | .done => 0
  | .select => 3
  | .sending _ => 5
  | .failing errors => 2 * errors

def endingWork : Option BodyEnd → ℕ
  | none => 1
  | some _ => 0

/-- How much there is left to do. -/
def work (s : HttpTunnel) : ℕ :=
  4 * s.queue.queue.length + s.body.queue.length + handlerWork s.handler + taskWork s.responseTask +
    endingWork s.ending

/-- **The answer is delivered.** The tunnel does not give up a complete answer, and sends no error
otherwise. What the browser gets is the answer in the queue; it hears of a clean end only when it
has all of an answer that has ended. When the tunnel is left, the client is unregistered and the
request is not forwarded any more. There is always a step that brings a busy tunnel nearer to its
end. -/
structure Delivers (http : HttpTypes) (c : JsonCodec) (s : HttpTunnel) : Prop where
  not_given_up : ∀ outbounds, s.failedAt = some outbounds → ¬complete http c outbounds
  no_error : s.failedAt = none → (∀ status, s.handler ≠ .failed status) ∧ s.ending ≠ some .error
  head : ∀ response, s.handler = .responded response → ∃ a, answer c s.queue.sent = some a ∧
    response.status = (statusFromU16 a.status).getD BAD_GATEWAY ∧
      relayHttpResponseHeaders http a.headers = some response.headers ∧
      s.received <+: a.parts ∧ (s.ending = some .clean → a.ended ∧ s.received = a.parts)
  cleaned_up : s.Exited → s.registered = false ∧ ∀ first, s.requestTask ≠ .running first
  advances : s.Busy → ∃ op ∈ [HttpTunnelOp.receive, .bodySent, .errorSent, .readBody],
    ∃ s', s.step http c op = some s' ∧ s'.work < s.work

/-- **The guard**: the failure of the request is not looked at when a complete answer is there. -/
def unhurried (http : HttpTypes) (c : JsonCodec) (s : HttpTunnel) : HttpTunnelOp → Bool
  | .requestResult =>
    match s.requestResult with
    | some (.error _) => s.requestDone || !complete http c s.queue.sent
    | _ => true
  | _ => true

end HttpTunnel

/-! ### How answers grow -/

section Answer

variable {http : HttpTypes} {c : JsonCodec} {a b : Answer} {xs ys : List RelayOutbound}

variable (c xs) in
theorem answer_append_singleton (outbound : RelayOutbound) :
    answer c (xs ++ [outbound]) = Answer.next c (answer c xs) outbound := by
  simp [answer]

/-- One answer is the beginning of another. -/
structure Answer.Extends (a b : Answer) : Prop where
  status : b.status = a.status
  headers : b.headers = a.headers
  parts : a.parts <+: b.parts
  ended : a.ended → b = a

theorem Answer.Extends.trans {d : Answer} (hab : a.Extends b) (hbd : b.Extends d) :
    a.Extends d where
  status := hbd.status.trans hab.status
  headers := hbd.headers.trans hab.headers
  parts := hab.parts.trans hbd.parts
  ended hended := by
    obtain rfl := hab.ended hended
    exact hbd.ended hended

theorem Answer.extends_next (outbound : RelayOutbound) :
    ∃ b, Answer.next c (some a) outbound = some b ∧ a.Extends b := by
  rw [Answer.next]
  split_ifs with hended
  · exact ⟨a, rfl, rfl, rfl, List.prefix_rfl, fun _ => rfl⟩
  · split
    · exact ⟨_, rfl, rfl, rfl, List.prefix_append .., fun h => absurd h hended⟩
    · exact ⟨_, rfl, rfl, rfl, List.prefix_rfl, fun h => absurd h hended⟩
    · exact ⟨a, rfl, rfl, rfl, List.prefix_rfl, fun _ => rfl⟩

/-- What is enqueued later only adds to an answer. -/
theorem extends_of_prefix (hpre : xs <+: ys) (ha : answer c xs = some a) :
    ∃ b, answer c ys = some b ∧ a.Extends b := by
  obtain ⟨zs, rfl⟩ := hpre
  induction zs using List.reverseRecOn with
  | nil => exact ⟨a, by rwa [List.append_nil], rfl, rfl, List.prefix_rfl, fun _ => rfl⟩
  | append_singleton zs outbound ih =>
    obtain ⟨b, hb, hab⟩ := ih
    obtain ⟨d, hd, hbd⟩ := Answer.extends_next (c := c) (a := b) outbound
    refine ⟨d, ?_, hab.trans hbd⟩
    rw [← List.append_assoc, answer_append_singleton, hb, hd]

/-- An answer that has not ended is not complete. -/
theorem not_complete_of_not_ended (ha : answer c xs = some a) (hended : a.ended = false) :
    ¬complete http c xs := by
  simp [complete, ha, hended]

end Answer

namespace HttpTunnel

variable {http : HttpTypes} {c : JsonCodec} {s s' : HttpTunnel}

/-- What the task of the response has done with what it has taken of an answer. -/
def Forwarded (s : HttpTunnel) (a : Answer) : Prop :=
  match s.responseTask with
  | .notStarted => False
  | .select => a.ended = false ∧ s.body.sent = a.parts.map .part
  | .sending part => a.ended = false ∧ s.body.sent ++ [.part part] = a.parts.map .part
  | .failing errors => 0 < errors ∧ a.ended = false ∧
      (∃ parts k, s.body.sent = parts.map .part ++ List.replicate k .error ∧ parts <+: a.parts) ∧
      (s.failedAt = none → s.body.receiving = false)
  | .done => s.body.sending = false ∧
      (a.ended ∧ s.body.sent = a.parts.map .part ∨
        ∃ parts k, s.body.sent = parts.map .part ++ List.replicate k .error ∧ parts <+: a.parts ∧
          (s.body.receiving = true → 0 < k))

/-- What holds in every run. -/
structure Invariant (http : HttpTypes) (c : JsonCodec) (s : HttpTunnel) : Prop where
  queueFifo : s.queue.Fifo
  bodyFifo : s.body.Fifo
  idle : s.handler = .waitingPair ∨ s.handler = .forwardingHead →
    s.requestTask = .notStarted ∧ s.queue.sent = [] ∧ s.queue.receiving = true
  notAnswered : (∀ response, s.handler ≠ .responded response) →
    s.responseTask = .notStarted ∧ s.body.sent = [] ∧ s.ending = none
  awaiting : s.handler = .awaitingHead →
    s.queue.receiving = true ∧ answer c s.queue.received = none
  receiving : s.responseTask = .select ∨ (∃ part, s.responseTask = .sending part) →
    s.queue.receiving = true
  bodyOpen : s.responseTask ≠ .done → s.body.sending = true
  answered : ∀ response, s.handler = .responded response →
    ∃ a, answer c s.queue.received = some a ∧
      response.status = (statusFromU16 a.status).getD BAD_GATEWAY ∧
      relayHttpResponseHeaders http a.headers = some response.headers ∧ s.Forwarded a
  received : s.ending ≠ some .error → s.body.received = s.received.map .part
  read_error : s.ending = some .error → s.failedAt ≠ none ∧ s.body.receiving = false ∧
    s.received.map .part <+: s.body.sent
  read_clean : s.ending = some .clean →
    ∃ a, answer c s.queue.received = some a ∧ a.ended ∧ s.received = a.parts
  no_error : s.failedAt = none →
    (∀ status, s.handler ≠ .failed status) ∧ BodyItem.error ∉ s.body.sent
  cleaned_up : s.Exited → s.registered = false ∧ ∀ first, s.requestTask ≠ .running first

/-- A new tunnel. -/
def start (firstChunkDeadline : Bool) : HttpTunnel := { firstChunkDeadline }

theorem Invariant.start (firstChunkDeadline : Bool) :
    Invariant http c (start firstChunkDeadline) where
  queueFifo := .new
  bodyFifo := .new
  idle _ := ⟨rfl, rfl, rfl⟩
  notAnswered _ := ⟨rfl, rfl, rfl⟩
  awaiting h := by cases h
  receiving h := by
    obtain h | ⟨_, h⟩ := h <;> cases h
  bodyOpen _ := rfl
  answered _ h := by cases h
  received _ := rfl
  read_error h := by cases h
  read_clean h := by cases h
  no_error _ := ⟨fun _ h => TunnelHandler.noConfusion h, List.not_mem_nil⟩
  cleaned_up h := by
    obtain h | ⟨_, h⟩ | h := h <;> cases h

/-! ### The room and the request -/

theorem Invariant.enqueue (h : Invariant http c s) {outbound : RelayOutbound}
    (hstep : s.step http c (.enqueue outbound) = some s') : Invariant http c s' := by
  simp only [step, stepRoom] at hstep
  split_ifs at hstep with hopen
  obtain ⟨queue, hsend, rfl⟩ := Option.map_eq_some_iff.mp hstep
  have hfifo := h.queueFifo.send hsend
  obtain ⟨-, rfl⟩ := Channel.send_eq_some hsend
  simp only [Bool.and_eq_true, decide_eq_true_eq] at hopen
  exact { h with
    queueFifo := hfifo
    idle := fun hidle => absurd (h.idle hidle).1 hopen.2 }

theorem Invariant.closeQueue (h : Invariant http c s)
    (hstep : s.step http c .closeQueue = some s') : Invariant http c s' := by
  obtain rfl := Option.some.inj hstep
  exact { h with
    queueFifo := h.queueFifo.dropSender
    cleaned_up := fun hexited => ⟨rfl, (h.cleaned_up hexited).2⟩ }

/-- The task of the request goes on or returns. -/
theorem Invariant.request (h : Invariant http c s) {op : HttpTunnelOp}
    (hstep : s.stepRequest op = some s') : Invariant http c s' := by
  have hrunning : ∃ first task result, s.requestTask = .running first ∧ task ≠ .notStarted ∧
      s' = { s with requestTask := task, requestResult := result } := by
    rw [stepRequest.eq_def] at hstep
    split at hstep
    next first bytes delivered htask =>
      split_ifs at hstep
      · exact ⟨first, .running false, s.requestResult, htask, RequestTask.noConfusion,
          (Option.some.inj hstep).symm⟩
      · exact ⟨first, .finished, _, htask, RequestTask.noConfusion, (Option.some.inj hstep).symm⟩
    next first htask =>
      exact ⟨first, .finished, _, htask, RequestTask.noConfusion, (Option.some.inj hstep).symm⟩
    next first htask =>
      split_ifs at hstep
      exact ⟨first, .finished, _, htask, RequestTask.noConfusion, (Option.some.inj hstep).symm⟩
    next first delivered htask =>
      exact ⟨first, .finished, _, htask, RequestTask.noConfusion, (Option.some.inj hstep).symm⟩
    next => cases hstep
  obtain ⟨first, task, result, htask, -, rfl⟩ := hrunning
  exact { h with
    idle := fun hidle => by
      have hnot := (h.idle hidle).1
      rw [htask] at hnot
      cases hnot
    cleaned_up := fun hexited => absurd htask ((h.cleaned_up hexited).2 first) }

/-! ### The handler -/

theorem RequestTask.abort_ne_running (task : RequestTask) (first : Bool) :
    task.abort ≠ .running first := by
  cases task <;> exact RequestTask.noConfusion

/-- The handler is left before it has answered. -/
theorem Invariant.exit (h : Invariant http c s)
    (hnot : ∀ response, s.handler ≠ .responded response) {handler : TunnelHandler}
    {queue : Channel RelayOutbound} {failedAt : Option (List RelayOutbound)} {requestDone : Bool}
    (hfifo : queue.Fifo)
    (hhandler : handler = .cancelled ∧ failedAt = s.failedAt ∨
      (∃ status, handler = .failed status) ∧ failedAt ≠ none) :
    Invariant http c ({ s with queue, failedAt, requestDone }.exit handler) := by
  obtain ⟨htask, hsent, hending⟩ := h.notAnswered hnot
  have hleft : handler = .cancelled ∨ ∃ status, handler = .failed status :=
    hhandler.imp And.left And.left
  exact { h with
    queueFifo := hfifo.dropSender.dropReceiver
    idle := fun hidle => by
      obtain rfl | ⟨status, rfl⟩ := hleft <;> obtain hidle | hidle := hidle <;> cases hidle
    notAnswered := fun _ => ⟨htask, hsent, hending⟩
    awaiting := fun hawaiting => by
      obtain rfl | ⟨status, rfl⟩ := hleft <;> cases hawaiting
    receiving := fun hreceiving => by
      obtain hselect | ⟨part, hsending⟩ := hreceiving
      · cases htask.symm.trans hselect
      · cases htask.symm.trans hsending
    bodyOpen := fun hnotDone => h.bodyOpen hnotDone
    answered := fun response hresponse => by
      obtain rfl | ⟨status, rfl⟩ := hleft <;> cases hresponse
    read_error := fun herror => by cases hending.symm.trans herror
    read_clean := fun hclean => by cases hending.symm.trans hclean
    no_error := fun hnone => by
      obtain ⟨rfl, hsame⟩ | ⟨-, hfailed⟩ := hhandler
      · exact ⟨fun _ => TunnelHandler.noConfusion, (h.no_error (hsame.symm.trans hnone)).2⟩
      · exact absurd hnone hfailed
    cleaned_up := fun _ => ⟨rfl, RequestTask.abort_ne_running s.requestTask⟩ }

theorem Invariant.paired (h : Invariant http c s) (hstep : s.step http c .paired = some s') :
    Invariant http c s' := by
  simp only [step, stepHandler] at hstep
  split_ifs at hstep with hwaiting
  obtain rfl := Option.some.inj hstep
  have hnot : ∀ response, s.handler ≠ .responded response := fun response hresponse => by
    rw [hwaiting] at hresponse
    cases hresponse
  exact { h with
    idle := fun _ => h.idle (.inl hwaiting)
    notAnswered := fun _ => h.notAnswered hnot
    awaiting := fun hawaiting => by cases hawaiting
    answered := fun response hresponse => by cases hresponse
    no_error := fun hnone => ⟨fun _ hfailed => (by cases hfailed), (h.no_error hnone).2⟩
    cleaned_up := fun hexited => by
      obtain hcancelled | ⟨status, hfailed⟩ | hdone := hexited
      · cases hcancelled
      · cases hfailed
      · exact absurd ((h.notAnswered hnot).1.symm.trans hdone) ResponseTask.noConfusion }

theorem not_responded {handler : TunnelHandler} (hhandler : s.handler = handler)
    (hne : ∀ response, handler ≠ .responded response) (response : HttpResponse) :
    s.handler ≠ .responded response := hhandler ▸ hne response

theorem Invariant.forwardHead (h : Invariant http c s) {delivered : Bool}
    (hstep : s.step http c (.forwardHead delivered) = some s') : Invariant http c s' := by
  simp only [step, stepHandler] at hstep
  split_ifs at hstep with hforwarding hdelivered
  · obtain rfl := Option.some.inj hstep
    have hnot := not_responded hforwarding fun _ => TunnelHandler.noConfusion
    obtain ⟨-, hsent, hreceiving⟩ := h.idle (.inr hforwarding)
    have hnone : answer c s.queue.received = none := by
      have hreceived := h.queueFifo.received_prefix
      rw [hsent] at hreceived
      rw [List.prefix_nil.mp hreceived]
      rfl
    exact { h with
      idle := fun hidle => by
        obtain hidle | hidle := hidle <;> cases hidle
      notAnswered := fun _ => h.notAnswered hnot
      awaiting := fun _ => ⟨hreceiving, hnone⟩
      answered := fun response hresponse => by cases hresponse
      no_error := fun hnone => ⟨fun _ => TunnelHandler.noConfusion, (h.no_error hnone).2⟩
      cleaned_up := fun hexited => by
        obtain hcancelled | ⟨status, hfailed⟩ | hdone := hexited
        · cases hcancelled
        · cases hfailed
        · exact absurd ((h.notAnswered hnot).1.symm.trans hdone) ResponseTask.noConfusion }
  · obtain rfl := Option.some.inj hstep
    have hnot := not_responded hforwarding fun _ => TunnelHandler.noConfusion
    exact h.exit hnot h.queueFifo (.inr ⟨⟨_, rfl⟩, Option.some_ne_none _⟩)

theorem Invariant.cancel (h : Invariant http c s) (hstep : s.step http c .cancel = some s') :
    Invariant http c s' := by
  simp only [step, stepHandler] at hstep
  split at hstep
  iterate 3
    next hhandler =>
      obtain rfl := Option.some.inj hstep
      exact h.exit (not_responded hhandler fun _ => TunnelHandler.noConfusion) h.queueFifo
        (.inl ⟨rfl, rfl⟩)
  next => cases hstep

theorem Invariant.requestDone (h : Invariant http c s) :
    Invariant http c { s with requestDone := true } :=
  { h with }

/-- Once the task of the response is running, the handler has answered. -/
theorem Invariant.exists_response (h : Invariant http c s) (htask : s.responseTask ≠ .notStarted) :
    ∃ response, s.handler = .responded response := by
  by_contra hnot
  exact htask (h.notAnswered fun response hresponse => hnot ⟨response, hresponse⟩).1

/-- The task of the response goes on, with the queue, with the body, or with nothing. -/
theorem Invariant.respond (h : Invariant http c s) (htask : s.responseTask ≠ .notStarted)
    {queue : Channel RelayOutbound} {task : ResponseTask}
    {body : Channel BodyItem} {failedAt : Option (List RelayOutbound)} {requestDone : Bool}
    (hqueueFifo : queue.Fifo) (hbodyFifo : body.Fifo)
    (hreceiving : (task = .select ∨ ∃ part, task = .sending part) → queue.receiving = true)
    (hnotDone : s.responseTask ≠ .done) (htask' : task ≠ .done)
    (hsending : body.sending = s.body.sending) (hreceived : body.received = s.body.received)
    (hrx : body.receiving = s.body.receiving) (hsent : s.body.sent <+: body.sent)
    (herror : failedAt = none → s.failedAt = none ∧ BodyItem.error ∉ body.sent)
    (hforwarded : ∀ a, answer c s.queue.received = some a → s.Forwarded a →
      ∃ b, answer c queue.received = some b ∧ a.Extends b ∧
        Forwarded { s with queue, responseTask := task, body, failedAt, requestDone } b) :
    Invariant http c { s with queue, responseTask := task, body, failedAt, requestDone } := by
  obtain ⟨response, hresponse⟩ := h.exists_response htask
  obtain ⟨a, ha, hstatus, hheaders, hforward⟩ := h.answered response hresponse
  obtain ⟨b, hb, hextends, hforward'⟩ := hforwarded a ha hforward
  exact { h with
    queueFifo := hqueueFifo
    bodyFifo := hbodyFifo
    idle := fun hidle => by
      rw [show s.handler = _ from hresponse] at hidle
      obtain hidle | hidle := hidle <;> cases hidle
    notAnswered := fun hnot => absurd hresponse (hnot response)
    awaiting := fun hawaiting => by
      cases hresponse.symm.trans hawaiting
    receiving := hreceiving
    bodyOpen := fun _ => hsending.trans (h.bodyOpen hnotDone)
    answered := fun response' hresponse' => by
      obtain rfl := TunnelHandler.responded.inj (hresponse.symm.trans hresponse')
      exact ⟨b, hb, by rw [hextends.status, hstatus], by rw [hextends.headers, hheaders], hforward'⟩
    received := fun hending => hreceived.trans (h.received hending)
    read_error := fun hending => by
      obtain ⟨hfailed, hnot, hpre⟩ := h.read_error hending
      exact ⟨fun hnone => hfailed (herror hnone).1, hrx.trans hnot, hpre.trans hsent⟩
    read_clean := fun hending => by
      obtain ⟨a', ha', hended, hall⟩ := h.read_clean hending
      obtain rfl := Option.some.inj (ha.symm.trans ha')
      exact ⟨b, hb, (hextends.ended hended).symm ▸ hended, (hextends.ended hended).symm ▸ hall⟩
    no_error := fun hnone => ⟨(h.no_error (herror hnone).1).1, (herror hnone).2⟩
    cleaned_up := fun hexited => h.cleaned_up (by
      obtain hcancelled | hfailed | hdone := hexited
      · exact .inl hcancelled
      · exact .inr (.inl hfailed)
      · exact absurd hdone htask') }

theorem answer_extends_self {a : Answer} : a.Extends a := ⟨rfl, rfl, List.prefix_rfl, fun _ => rfl⟩

/-- The task of the response gives up, for a reason of its own or since nobody reads the body. -/
theorem Invariant.failing (h : Invariant http c s) (hselect : s.responseTask = .select)
    {errors : ℕ} (herrors : 0 < errors) {failedAt : Option (List RelayOutbound)}
    {requestDone : Bool}
    (hfailed : failedAt = none → s.failedAt = none ∧ s.body.receiving = false) :
    Invariant http c { s with failedAt, requestDone, responseTask := .failing errors } := by
  refine h.respond (by rw [hselect]; exact ResponseTask.noConfusion) h.queueFifo h.bodyFifo
    (fun _ => h.receiving (.inl hselect)) (by rw [hselect]; exact ResponseTask.noConfusion)
    ResponseTask.noConfusion rfl rfl rfl List.prefix_rfl
    (fun hnone => ⟨(hfailed hnone).1, (h.no_error (hfailed hnone).1).2⟩)
    fun a ha hforwarded => ⟨a, ha, answer_extends_self, ?_⟩
  simp only [Forwarded, hselect] at hforwarded ⊢
  obtain ⟨hended, hsent⟩ := hforwarded
  exact ⟨herrors, hended, ⟨a.parts, 0, by simpa using hsent, List.prefix_rfl⟩,
    fun hnone => (hfailed hnone).2⟩

theorem Invariant.requestResult (h : Invariant http c s)
    (hstep : s.step http c .requestResult = some s') : Invariant http c s' := by
  simp only [step, stepHandler] at hstep
  split at hstep
  next =>
    split_ifs at hstep
    obtain rfl := Option.some.inj hstep
    exact h.requestDone
  next =>
    split_ifs at hstep with hawaiting hselect
    · obtain rfl := Option.some.inj hstep
      have hnot := not_responded hawaiting fun _ => TunnelHandler.noConfusion
      exact h.exit hnot h.queueFifo (.inr ⟨⟨_, rfl⟩, Option.some_ne_none _⟩)
    · obtain rfl := Option.some.inj hstep
      exact h.failing hselect (by decide) fun hnone => by cases hnone
  next => cases hstep

/-! ### Receiving -/

/-- The head of a response ends the waiting. -/
theorem Invariant.awaitHead (h : Invariant http c s) (hawaiting : s.handler = .awaitingHead)
    {item : Option RelayOutbound} {queue : Channel RelayOutbound}
    (hrecv : s.queue.recv = some (item, queue)) :
    Invariant http c ({ s with queue }.awaitHead http c item) := by
  obtain ⟨hreceiving, hnone⟩ := h.awaiting hawaiting
  have hnot := not_responded hawaiting fun _ => TunnelHandler.noConfusion
  obtain ⟨htask, hsent, hending⟩ := h.notAnswered hnot
  have hfifo := h.queueFifo.recv hreceiving hrecv
  obtain ⟨outbound, rest, rfl, hqueue, rfl⟩ | ⟨rfl, -, -, rfl⟩ := Channel.recv_cases hrecv
  · have hnext := answer_append_singleton c s.queue.received outbound
    rw [hnone, Answer.next] at hnext
    simp only [HttpTunnel.awaitHead]
    split
    next status headers hframe =>
      rw [hframe] at hnext
      split
      next => exact h.exit hnot hfifo (.inr ⟨⟨_, rfl⟩, Option.some_ne_none _⟩)
      next kept hkept =>
        exact { h with
          queueFifo := hfifo
          idle := fun hidle => by
            obtain hidle | hidle := hidle <;> cases hidle
          notAnswered := fun hnot => absurd rfl (hnot _)
          awaiting := fun hawaiting => by cases hawaiting
          receiving := fun _ => hreceiving
          bodyOpen := fun _ => h.bodyOpen (by rw [htask]; exact ResponseTask.noConfusion)
          answered := fun response hresponse => by
            obtain rfl := TunnelHandler.responded.inj hresponse
            exact ⟨_, hnext, rfl, hkept, rfl, hsent⟩
          read_clean := fun hclean => by cases hending.symm.trans hclean
          no_error := fun hfailed => ⟨fun _ => TunnelHandler.noConfusion, (h.no_error hfailed).2⟩
          cleaned_up := fun hexited => by
            obtain hcancelled | ⟨status, hfailed⟩ | hdone := hexited
            · cases hcancelled
            · cases hfailed
            · cases hdone }
    next hother =>
      have hstill : answer c (s.queue.received ++ [outbound]) = none := by
        rw [hnext]
        split
        next status headers hframe => exact absurd hframe (hother status headers)
        next => rfl
      exact { h with
        queueFifo := hfifo
        awaiting := fun _ => ⟨hreceiving, hstill⟩
        idle := fun hidle => by
          rw [show s.handler = _ from hawaiting] at hidle
          obtain hidle | hidle := hidle <;> cases hidle
        receiving := fun _ => hreceiving
        answered := fun response hresponse => absurd hresponse (hnot response)
        read_clean := fun hclean => by cases hending.symm.trans hclean }
  · exact h.exit hnot h.queueFifo (.inr ⟨⟨_, rfl⟩, Option.some_ne_none _⟩)

/-- The client is unregistered when the task of the response returns. -/
theorem Invariant.finish (h : Invariant http c s) {a b : Answer} {queue : Channel RelayOutbound}
    {body : Channel BodyItem} (hresponded : ∃ response, s.handler = .responded response)
    (ha : answer c s.queue.received = some a) (hb : answer c queue.received = some b)
    (hextends : a.Extends b) (hqueueFifo : queue.Fifo) (hbodyFifo : body.Fifo)
    (hreceived : body.received = s.body.received) (hrx : body.receiving = s.body.receiving)
    (hsent : s.body.sent <+: body.sent)
    (herror : s.failedAt = none → BodyItem.error ∉ body.sent)
    (hdone : b.ended ∧ body.sent = b.parts.map .part ∨
      ∃ parts k, body.sent = parts.map .part ++ List.replicate k .error ∧ parts <+: b.parts ∧
        (body.receiving = true → 0 < k)) :
    Invariant http c ({ s with queue, body }.finish) := by
  obtain ⟨response, hresponse⟩ := hresponded
  exact { h with
    queueFifo := hqueueFifo.dropSender.dropReceiver
    bodyFifo := hbodyFifo.dropSender
    idle := fun hidle => by
      rw [show s.handler = _ from hresponse] at hidle
      obtain hidle | hidle := hidle <;> cases hidle
    notAnswered := fun hnot => absurd hresponse (hnot response)
    awaiting := fun hawaiting => by cases hresponse.symm.trans hawaiting
    receiving := fun hreceiving => by
      obtain hselect | ⟨part, hsending⟩ := hreceiving
      · cases hselect
      · cases hsending
    bodyOpen := fun hnotDone => absurd rfl hnotDone
    answered := fun response' hresponse' => by
      obtain ⟨a', ha', hstatus, hheaders, -⟩ := h.answered response' hresponse'
      obtain rfl := Option.some.inj (ha.symm.trans ha')
      exact ⟨b, hb, by rw [hextends.status, hstatus], by rw [hextends.headers, hheaders], rfl,
        hdone⟩
    received := fun hending => hreceived.trans (h.received hending)
    read_error := fun hending => by
      obtain ⟨hfailed, hnot, hpre⟩ := h.read_error hending
      exact ⟨hfailed, hrx.trans hnot, hpre.trans hsent⟩
    read_clean := fun hending => by
      obtain ⟨a', ha', hended, hall⟩ := h.read_clean hending
      obtain rfl := Option.some.inj (ha.symm.trans ha')
      exact ⟨b, hb, (hextends.ended hended).symm ▸ hended, (hextends.ended hended).symm ▸ hall⟩
    no_error := fun hnone => ⟨(h.no_error hnone).1, herror hnone⟩
    cleaned_up := fun _ => ⟨rfl, RequestTask.abort_ne_running s.requestTask⟩ }

/-- A part of the body is passed on, and the end is noticed. -/
theorem Invariant.forwardBody (h : Invariant http c s) (hselect : s.responseTask = .select)
    {item : Option RelayOutbound} {queue : Channel RelayOutbound}
    (hrecv : s.queue.recv = some (item, queue)) :
    Invariant http c ({ s with queue }.forwardBody c item) := by
  have hreceiving := h.receiving (.inl hselect)
  have hfifo := h.queueFifo.recv hreceiving hrecv
  have hstarted : s.responseTask ≠ .notStarted := by
    rw [hselect]
    exact ResponseTask.noConfusion
  have hnotDone : s.responseTask ≠ .done := by
    rw [hselect]
    exact ResponseTask.noConfusion
  obtain ⟨outbound, rest, rfl, hqueue, rfl⟩ | ⟨rfl, -, -, rfl⟩ := Channel.recv_cases hrecv
  · obtain ⟨response, hresponse⟩ := h.exists_response hstarted
    obtain ⟨a, ha, -, -, hforwarded⟩ := h.answered response hresponse
    simp only [Forwarded, hselect] at hforwarded
    obtain ⟨hended, hsent⟩ := hforwarded
    have hnext := answer_append_singleton c s.queue.received outbound
    rw [ha, Answer.next, hended, if_neg Bool.false_ne_true] at hnext
    simp only [HttpTunnel.forwardBody]
    split
    next part hframe =>
      rw [hframe] at hnext
      refine h.respond hstarted hfifo h.bodyFifo (fun _ => hreceiving)
        hnotDone ResponseTask.noConfusion rfl rfl rfl List.prefix_rfl
        (fun hnone => ⟨hnone, (h.no_error hnone).2⟩) fun a' ha' _ => ?_
      obtain rfl := Option.some.inj (ha.symm.trans ha')
      exact ⟨_, hnext, ⟨rfl, rfl, List.prefix_append .., fun h => absurd h (by simp [hended])⟩,
        rfl, by simp [hsent]⟩
    next hframe =>
      rw [hframe] at hnext
      exact h.finish ⟨response, hresponse⟩ ha hnext
        ⟨rfl, rfl, List.prefix_rfl, fun h => absurd h (by simp [hended])⟩ hfifo h.bodyFifo rfl rfl
        List.prefix_rfl (fun hnone => (h.no_error hnone).2) (.inl ⟨rfl, hsent⟩)
    next hpart hend =>
      have hsame : answer c (s.queue.received ++ [outbound]) = some a := by
        rw [hnext]
        split
        next part hframe => exact absurd hframe (hpart part)
        next hframe => exact absurd hframe hend
        next => rfl
      refine h.respond hstarted hfifo h.bodyFifo (fun _ => hreceiving)
        hnotDone hnotDone rfl rfl rfl List.prefix_rfl
        (fun hnone => ⟨hnone, (h.no_error hnone).2⟩) fun a' ha' hforwarded => ?_
      obtain rfl := Option.some.inj (ha.symm.trans ha')
      exact ⟨a, hsame, answer_extends_self, hforwarded⟩
  · exact h.failing hselect (by decide) fun hnone => by cases hnone

theorem Invariant.receive (h : Invariant http c s) (hstep : s.step http c .receive = some s') :
    Invariant http c s' := by
  simp only [step, stepHandler] at hstep
  split_ifs at hstep with hawaiting hselect
  · obtain ⟨⟨item, queue⟩, hrecv, rfl⟩ := Option.map_eq_some_iff.mp hstep
    exact h.awaitHead hawaiting hrecv
  · obtain ⟨⟨item, queue⟩, hrecv, rfl⟩ := Option.map_eq_some_iff.mp hstep
    exact h.forwardBody hselect hrecv

/-! ### The task of the response -/

theorem Invariant.bodySent (h : Invariant http c s) (hstep : s.step http c .bodySent = some s') :
    Invariant http c s' := by
  simp only [step, stepResponse] at hstep
  split at hstep
  next part htask =>
    have hstarted : s.responseTask ≠ .notStarted := by
      rw [htask]
      exact ResponseTask.noConfusion
    have hnotDone : s.responseTask ≠ .done := by
      rw [htask]
      exact ResponseTask.noConfusion
    have hreceiving := h.receiving (.inr ⟨part, htask⟩)
    split_ifs at hstep with hrx
    · obtain ⟨body, hsend, rfl⟩ := Option.map_eq_some_iff.mp hstep
      have hfifo := h.bodyFifo.send hsend
      obtain ⟨-, rfl⟩ := Channel.send_eq_some hsend
      refine h.respond hstarted h.queueFifo hfifo (fun _ => hreceiving)
        hnotDone ResponseTask.noConfusion rfl rfl rfl (List.prefix_append ..)
        (fun hnone => ⟨hnone, by simpa using (h.no_error hnone).2⟩) fun a ha hforwarded => ?_
      simp only [Forwarded, htask] at hforwarded
      exact ⟨a, ha, answer_extends_self, hforwarded⟩
    · obtain rfl := Option.some.inj hstep
      refine h.respond hstarted h.queueFifo h.bodyFifo (fun _ => hreceiving)
        hnotDone ResponseTask.noConfusion rfl rfl rfl List.prefix_rfl
        (fun hnone => ⟨hnone, (h.no_error hnone).2⟩) fun a ha hforwarded => ?_
      simp only [Forwarded, htask] at hforwarded
      -- the part was not sent
      refine ⟨a, ha, answer_extends_self, Nat.one_pos, hforwarded.1,
        ⟨a.parts.dropLast, 0, ?_, List.dropLast_prefix _⟩, fun _ => by simpa using hrx⟩
      rw [List.replicate_zero, List.append_nil, List.map_dropLast, ← hforwarded.2,
        List.dropLast_concat]
  next => cases hstep

theorem Invariant.bodyClosed (h : Invariant http c s)
    (hstep : s.step http c .bodyClosed = some s') : Invariant http c s' := by
  simp only [step, stepResponse] at hstep
  split_ifs at hstep with hclosed
  obtain rfl := Option.some.inj hstep
  exact h.failing hclosed.1 Nat.one_pos fun hnone => ⟨hnone, hclosed.2⟩

theorem Invariant.errorSent (h : Invariant http c s) (hstep : s.step http c .errorSent = some s') :
    Invariant http c s' := by
  simp only [step, stepResponse] at hstep
  split at hstep
  next errors htask =>
    obtain ⟨body, hbody, rfl⟩ := Option.map_eq_some_iff.mp hstep
    have hstarted : s.responseTask ≠ .notStarted := by
      rw [htask]
      exact ResponseTask.noConfusion
    obtain ⟨response, hresponse⟩ := h.exists_response hstarted
    obtain ⟨a, ha, -, -, hforwarded⟩ := h.answered response hresponse
    simp only [Forwarded, htask] at hforwarded
    obtain ⟨-, hended, ⟨parts, k, hparts, hpre⟩, hclosed⟩ := hforwarded
    -- the error is sent, or nobody reads the body
    have hsent : ∃ l, body.Fifo ∧ body.sending = s.body.sending ∧ body.received = s.body.received ∧
        body.receiving = s.body.receiving ∧ s.body.sent <+: body.sent ∧
        body.sent = parts.map .part ++ List.replicate l .error ∧
        (body.receiving = true → 0 < l) ∧ (s.failedAt = none → BodyItem.error ∉ body.sent) := by
      split_ifs at hbody with hrx
      · have hfifo := h.bodyFifo.send hbody
        obtain ⟨-, rfl⟩ := Channel.send_eq_some hbody
        refine ⟨k + 1, hfifo, rfl, rfl, rfl, List.prefix_append .., ?_, fun _ => k.succ_pos,
          fun hnone => ?_⟩
        · rw [hparts, List.append_assoc, List.replicate_succ']
        · rw [hclosed hnone] at hrx
          cases hrx
      · obtain rfl := Option.some.inj hbody
        exact ⟨k, h.bodyFifo, rfl, rfl, rfl, List.prefix_rfl, hparts, fun hrx' => absurd hrx' hrx,
          fun hnone => (h.no_error hnone).2⟩
    obtain ⟨l, hfifo, hsending, hreceived, hrx, hpre', hparts', hpos, herror⟩ := hsent
    split_ifs with herrors
    · exact h.finish ⟨response, hresponse⟩ ha ha answer_extends_self h.queueFifo hfifo hreceived hrx
        hpre' herror (.inr ⟨parts, l, hparts', hpre, hpos⟩)
    · refine h.respond hstarted h.queueFifo hfifo (fun hreceiving => ?_)
        (by rw [htask]; exact ResponseTask.noConfusion) ResponseTask.noConfusion hsending hreceived
        hrx hpre'
        (fun hnone => ⟨hnone, herror hnone⟩) fun a' ha' _ => ?_
      · obtain hselect | ⟨part, hsending⟩ := hreceiving
        · cases hselect
        · cases hsending
      · obtain rfl := Option.some.inj (ha.symm.trans ha')
        exact ⟨a, ha, answer_extends_self, by omega, hended, ⟨parts, l, hparts', hpre⟩,
          fun hnone => hrx.trans (hclosed hnone)⟩
  next => cases hstep

/-! ### The browser -/

/-- What the browser does changes nothing else. -/
theorem Forwarded.of_body {a : Answer} (h : s.Forwarded a) {body : Channel BodyItem}
    {received : List (List UInt8)} {ending : Option BodyEnd}
    (hsending : body.sending = s.body.sending)
    (hsent : body.sent = s.body.sent) (hrx : body.receiving = true → s.body.receiving = true) :
    Forwarded { s with body, received, ending } a := by
  cases htask : s.responseTask with
  | notStarted => simp [Forwarded, htask] at h
  | select => simpa [Forwarded, htask, hsent] using h
  | sending part => simpa [Forwarded, htask, hsent] using h
  | failing errors =>
    simp only [Forwarded, htask, hsent] at h ⊢
    refine ⟨h.1, h.2.1, h.2.2.1, fun hnone => ?_⟩
    by_contra hreceiving
    rw [Bool.not_eq_false] at hreceiving
    exact absurd (hrx hreceiving) (by simp [h.2.2.2 hnone])
  | done =>
    simp only [Forwarded, htask, hsent, hsending] at h ⊢
    refine ⟨h.1, h.2.imp_right ?_⟩
    rintro ⟨parts, k, hparts, hpre, hpos⟩
    exact ⟨parts, k, hparts, hpre, fun hreceiving => hpos (hrx hreceiving)⟩

theorem Invariant.dropBody (h : Invariant http c s) (hstep : s.step http c .dropBody = some s') :
    Invariant http c s' := by
  simp only [step, stepBrowser] at hstep
  split at hstep
  next response hresponse =>
    obtain rfl := Option.some.inj hstep
    exact { h with
      bodyFifo := h.bodyFifo.dropReceiver
      answered := fun response' hresponse' => by
        obtain ⟨a, ha, hstatus, hheaders, hforwarded⟩ := h.answered response' hresponse'
        exact ⟨a, ha, hstatus, hheaders, hforwarded.of_body rfl rfl fun hrx => by cases hrx⟩
      read_error := fun hending => ⟨(h.read_error hending).1, rfl, (h.read_error hending).2.2⟩ }
  next => cases hstep

theorem prefix_of_map_part {parts received : List (List UInt8)} {k : ℕ}
    (h : received.map BodyItem.part <+: parts.map .part ++ List.replicate k .error) :
    received <+: parts := by
  induction received generalizing parts with
  | nil => exact List.nil_prefix
  | cons bytes received ih =>
    cases parts with
    | nil =>
      cases k with
      | zero => cases List.prefix_nil.mp h
      | succ k => cases (List.cons_prefix_cons.mp h).1
    | cons part parts =>
      obtain ⟨hpart, hrest⟩ := List.cons_prefix_cons.mp h
      obtain rfl := BodyItem.part.inj hpart
      exact List.cons_prefix_cons.mpr ⟨rfl, ih hrest⟩

theorem map_part_injective : Function.Injective (List.map BodyItem.part) :=
  List.map_injective_iff.mpr fun _ _ h => BodyItem.part.inj h

theorem Invariant.readBody (h : Invariant http c s) (hstep : s.step http c .readBody = some s') :
    Invariant http c s' := by
  simp only [step, stepBrowser] at hstep
  split at hstep
  next response hresponse =>
    split_ifs at hstep with hreading
    obtain ⟨hreceiving, hending⟩ := Bool.and_eq_true_iff.mp hreading
    rw [Option.isNone_iff_eq_none] at hending
    obtain ⟨⟨item, body⟩, hrecv, rfl⟩ := Option.map_eq_some_iff.mp hstep
    have hfifo := h.bodyFifo.recv hreceiving hrecv
    have hreceived := h.received (by simp [hending])
    obtain ⟨item, queue, rfl, hqueue, rfl⟩ | ⟨rfl, -, hsending, rfl⟩ := Channel.recv_cases hrecv
    · cases item with
      | part bytes =>
        exact { h with
          bodyFifo := hfifo
          answered := fun response' hresponse' => by
            obtain ⟨a, ha, hstatus, hheaders, hforwarded⟩ := h.answered response' hresponse'
            exact ⟨a, ha, hstatus, hheaders, hforwarded.of_body rfl rfl id⟩
          received := fun _ => by simp [hreceived]
          read_error := fun herror => by cases hending.symm.trans herror
          read_clean := fun hclean => by cases hending.symm.trans hclean }
      | error =>
        have hmem : BodyItem.error ∈ s.body.sent :=
          hfifo.received_prefix.subset (List.mem_append_right _ (List.mem_singleton_self _))
        exact { h with
          bodyFifo := hfifo.dropReceiver
          notAnswered := fun hnot => absurd hresponse (hnot response)
          answered := fun response' hresponse' => by
            obtain ⟨a, ha, hstatus, hheaders, hforwarded⟩ := h.answered response' hresponse'
            exact ⟨a, ha, hstatus, hheaders, hforwarded.of_body rfl rfl fun hrx => by cases hrx⟩
          received := fun hne => absurd rfl hne
          read_error := fun _ => ⟨fun hnone => (h.no_error hnone).2 hmem, rfl,
            hreceived ▸ h.bodyFifo.received_prefix⟩
          read_clean := fun hclean => by cases hclean }
    · have hall := h.bodyFifo.received_eq_sent hreceiving hrecv
      have hdone : s.responseTask = .done := by
        by_contra hnotDone
        cases (h.bodyOpen hnotDone).symm.trans hsending
      exact { h with
        bodyFifo := hfifo
        notAnswered := fun hnot => absurd hresponse (hnot response)
        answered := fun response' hresponse' => by
          obtain ⟨a, ha, hstatus, hheaders, hforwarded⟩ := h.answered response' hresponse'
          exact ⟨a, ha, hstatus, hheaders, hforwarded.of_body rfl rfl id⟩
        received := fun _ => hreceived
        read_error := fun herror => by cases herror
        read_clean := fun _ => by
          obtain ⟨a, ha, -, -, hforwarded⟩ := h.answered response hresponse
          simp only [Forwarded, hdone] at hforwarded
          rw [← hall, hreceived] at hforwarded
          obtain ⟨-, ⟨hended, hparts⟩ | ⟨parts, k, hparts, -, hpos⟩⟩ := hforwarded
          · exact ⟨a, ha, hended, map_part_injective hparts⟩
          · have hmem : BodyItem.error ∈ s.received.map BodyItem.part := by
              rw [hparts]
              exact List.mem_append_right _ (List.mem_replicate.mpr ⟨(hpos hreceiving).ne', rfl⟩)
            simp at hmem }
  next => cases hstep

/-- Every step keeps the invariant. -/
theorem Invariant.step (h : Invariant http c s) {op : HttpTunnelOp}
    (hstep : s.step http c op = some s') : Invariant http c s' := by
  cases op with
  | enqueue => exact h.enqueue hstep
  | closeQueue => exact h.closeQueue hstep
  | paired => exact h.paired hstep
  | forwardHead => exact h.forwardHead hstep
  | cancel => exact h.cancel hstep
  | requestResult => exact h.requestResult hstep
  | receive => exact h.receive hstep
  | bodySent => exact h.bodySent hstep
  | bodyClosed => exact h.bodyClosed hstep
  | errorSent => exact h.errorSent hstep
  | readBody => exact h.readBody hstep
  | dropBody => exact h.dropBody hstep
  | requestChunk | requestError | requestDeadline | requestEnd => exact h.request hstep

/-! ### Giving up -/

/-- The tunnel has not given up a complete answer. -/
def KeepsComplete (http : HttpTypes) (c : JsonCodec) (s : HttpTunnel) : Prop :=
  ∀ outbounds, s.failedAt = some outbounds → ¬complete http c outbounds

theorem Invariant.keepsComplete_awaitHead (h : Invariant http c s)
    (hkeeps : KeepsComplete http c s) (hawaiting : s.handler = .awaitingHead)
    {item : Option RelayOutbound} {queue : Channel RelayOutbound}
    (hrecv : s.queue.recv = some (item, queue)) :
    KeepsComplete http c ({ s with queue }.awaitHead http c item) := by
  obtain ⟨hreceiving, hnone⟩ := h.awaiting hawaiting
  have hfifo := h.queueFifo.recv hreceiving hrecv
  obtain ⟨outbound, rest, rfl, hqueue, rfl⟩ | ⟨rfl, -, -, rfl⟩ := Channel.recv_cases hrecv
  · simp only [HttpTunnel.awaitHead]
    split
    next status headers hframe =>
      split
      next hinvalid =>
        -- the headers stay invalid, whatever follows
        have hnext := answer_append_singleton c s.queue.received outbound
        rw [hnone, Answer.next, hframe] at hnext
        obtain ⟨b, hb, hextends⟩ := extends_of_prefix hfifo.received_prefix hnext
        intro outbounds hfailed
        obtain rfl := Option.some.inj hfailed
        have hresponse : b.response http = none := by
          simp [Answer.response, hextends.headers, hinvalid]
        have hsent : answer c s.queue.sent = some b := hb
        simp [complete, hsent, hresponse]
      next => exact hkeeps
    next => exact hkeeps
  · have hall := h.queueFifo.received_eq_sent hreceiving hrecv
    intro outbounds hfailed
    obtain rfl := Option.some.inj hfailed
    simp [complete, ← hall, hnone]

theorem Invariant.keepsComplete_forwardBody (h : Invariant http c s)
    (hkeeps : KeepsComplete http c s) (hselect : s.responseTask = .select)
    {item : Option RelayOutbound} {queue : Channel RelayOutbound}
    (hrecv : s.queue.recv = some (item, queue)) :
    KeepsComplete http c ({ s with queue }.forwardBody c item) := by
  have hreceiving := h.receiving (.inl hselect)
  obtain ⟨outbound, rest, rfl, hqueue, rfl⟩ | ⟨rfl, -, -, rfl⟩ := Channel.recv_cases hrecv
  · simp only [HttpTunnel.forwardBody]
    split <;> exact hkeeps
  · have hall := h.queueFifo.received_eq_sent hreceiving hrecv
    have hstarted : s.responseTask ≠ .notStarted := by
      rw [hselect]
      exact ResponseTask.noConfusion
    obtain ⟨response, hresponse⟩ := h.exists_response hstarted
    obtain ⟨a, ha, -, -, hforwarded⟩ := h.answered response hresponse
    simp only [Forwarded, hselect] at hforwarded
    intro outbounds hfailed
    obtain rfl := Option.some.inj hfailed
    exact not_complete_of_not_ended (hall ▸ ha) hforwarded.1

/-- The guard keeps a complete answer. -/
theorem Invariant.keepsComplete (h : Invariant http c s) (hkeeps : KeepsComplete http c s)
    {op : HttpTunnelOp} (hguard : s.unhurried http c op) (hstep : s.step http c op = some s') :
    KeepsComplete http c s' := by
  have hsame : s'.failedAt = s.failedAt → KeepsComplete http c s' :=
    fun hsame outbounds hfailed => hkeeps outbounds (hsame ▸ hfailed)
  cases op with
  | receive =>
    simp only [HttpTunnel.step, stepHandler] at hstep
    split_ifs at hstep with hawaiting hselect
    · obtain ⟨⟨item, queue⟩, hrecv, rfl⟩ := Option.map_eq_some_iff.mp hstep
      exact h.keepsComplete_awaitHead hkeeps hawaiting hrecv
    · obtain ⟨⟨item, queue⟩, hrecv, rfl⟩ := Option.map_eq_some_iff.mp hstep
      exact h.keepsComplete_forwardBody hkeeps hselect hrecv
  | forwardHead delivered =>
    simp only [HttpTunnel.step, stepHandler] at hstep
    split_ifs at hstep with hforwarding
    · obtain rfl := Option.some.inj hstep
      exact hkeeps
    · obtain rfl := Option.some.inj hstep
      intro outbounds hfailed
      obtain rfl := Option.some.inj hfailed
      rw [(h.idle (.inr hforwarding)).2.1]
      exact Bool.false_ne_true
  | requestResult =>
    simp only [HttpTunnel.step, stepHandler] at hstep
    split at hstep
    next =>
      split_ifs at hstep
      obtain rfl := Option.some.inj hstep
      exact hkeeps
    next status hdone hresult =>
      simp only [unhurried, hresult, hdone, Bool.false_or, Bool.not_eq_true'] at hguard
      split_ifs at hstep <;> obtain rfl := Option.some.inj hstep <;>
      · intro outbounds hfailed
        obtain rfl := Option.some.inj hfailed
        exact Bool.eq_false_iff.mp hguard
    next => cases hstep
  | enqueue =>
    simp only [HttpTunnel.step, stepRoom] at hstep
    split_ifs at hstep
    obtain ⟨queue, -, rfl⟩ := Option.map_eq_some_iff.mp hstep
    exact hkeeps
  | _ =>
    refine hsame ?_
    simp only [HttpTunnel.step, stepHandler, stepRoom, stepResponse, stepRequest, stepBrowser]
      at hstep
    grind [HttpTunnel.exit, HttpTunnel.finish, requestReturned, Option.map_eq_some_iff]

/-- A failure that is looked at too late makes the tunnel give up a complete answer. -/
theorem not_keepsComplete {op : HttpTunnelOp} (hguard : ¬s.unhurried http c op)
    (hstep : s.step http c op = some s') : ¬KeepsComplete http c s' := by
  cases op with
  | requestResult =>
    simp only [unhurried] at hguard
    split at hguard
    next status hresult =>
      simp only [Bool.or_eq_true, Bool.not_eq_true', not_or, Bool.not_eq_true, Bool.not_eq_false]
        at hguard
      obtain ⟨hdone, hcomplete⟩ := hguard
      simp only [HttpTunnel.step, stepHandler, hdone, hresult] at hstep
      split_ifs at hstep <;> obtain rfl := Option.some.inj hstep <;>
        exact fun hkeeps => hkeeps s.queue.sent rfl hcomplete
    next => exact absurd rfl hguard
  | _ => exact absurd rfl hguard

/-! ### What is delivered -/

/-- Every message brings the handler nearer to its answer. -/
theorem work_awaitHead (http : HttpTypes) (c : JsonCodec) (hawaiting : s.handler = .awaitingHead)
    (htask : s.responseTask = .notStarted) {item : Option RelayOutbound}
    {queue : Channel RelayOutbound} (hrecv : s.queue.recv = some (item, queue)) :
    ({ s with queue }.awaitHead http c item).work < s.work := by
  obtain ⟨outbound, rest, rfl, hqueue, rfl⟩ | ⟨rfl, hqueue, -, rfl⟩ := Channel.recv_cases hrecv
  · simp only [HttpTunnel.awaitHead]
    split
    · split <;>
      · simp only [work, HttpTunnel.exit, giveUp, Channel.dropReceiver, hqueue, hawaiting, htask,
          List.length_cons, List.length_nil, handlerWork, taskWork]
        omega
    · simp only [work, hqueue, List.length_cons]
      omega
  · simp only [HttpTunnel.awaitHead, work, HttpTunnel.exit, giveUp, Channel.dropReceiver, hqueue,
      hawaiting, htask, List.length_nil, handlerWork, taskWork]
    omega

theorem work_forwardBody (c : JsonCodec) (hselect : s.responseTask = .select)
    {item : Option RelayOutbound} {queue : Channel RelayOutbound} (hrecv : s.queue.recv = some (item, queue)) :
    ({ s with queue }.forwardBody c item).work < s.work := by
  obtain ⟨outbound, rest, rfl, hqueue, rfl⟩ | ⟨rfl, hqueue, -, rfl⟩ := Channel.recv_cases hrecv
  · simp only [HttpTunnel.forwardBody]
    split <;>
    · simp only [work, HttpTunnel.finish, Channel.dropReceiver, Channel.dropSender, hqueue, hselect,
        List.length_cons, List.length_nil, taskWork]
      omega
  · simp only [HttpTunnel.forwardBody, work, giveUp, hqueue, hselect, taskWork]
    omega

theorem exists_recv {α : Type*} {channel : Channel α}
    (h : channel.queue ≠ [] ∨ channel.sending = false) : ∃ next, channel.recv = some next := by
  rw [← Option.ne_none_iff_exists']
  intro hnone
  obtain ⟨hqueue, hsending⟩ := Channel.recv_eq_none_iff.mp hnone
  obtain hne | hclosed := h
  · exact hne hqueue
  · cases hsending.symm.trans hclosed

/-- There is always a step that brings a busy tunnel nearer to its end. -/
theorem Invariant.advances (h : Invariant http c s) (hbusy : s.Busy) :
    ∃ op ∈ [HttpTunnelOp.receive, .bodySent, .errorSent, .readBody],
      ∃ s', s.step http c op = some s' ∧ s'.work < s.work := by
  obtain ⟨hawaiting, hqueue⟩ | ⟨⟨response, hresponse⟩, hreceiving, hending, hqueue⟩ := hbusy
  · obtain ⟨⟨item, queue⟩, hrecv⟩ := exists_recv hqueue
    have hnot := not_responded hawaiting fun _ => TunnelHandler.noConfusion
    have hwork := work_awaitHead http c hawaiting (h.notAnswered hnot).1 hrecv
    have hstep : s.step http c .receive = some ({ s with queue }.awaitHead http c item) := by
      simp only [HttpTunnel.step, stepHandler, if_pos hawaiting, hrecv, Option.map_some]
    exact ⟨.receive, List.mem_cons_self .., _, hstep, hwork⟩
  have hnotAwaiting : s.handler ≠ .awaitingHead := by
    rw [hresponse]
    exact TunnelHandler.noConfusion
  cases hbody : s.body.queue with
  | cons item rest =>
    refine ⟨.readBody, by simp, ?_⟩
    simp only [HttpTunnel.step, stepBrowser, hresponse, hreceiving, hending, Option.isNone_none,
      Bool.and_self, if_true, Channel.recv, hbody, Option.map_some]
    refine ⟨_, rfl, ?_⟩
    cases item <;>
    · simp only [work, hbody, hending, hresponse, Channel.dropReceiver, List.length_cons,
        List.length_nil, handlerWork, endingWork]
      omega
  | nil =>
    cases htask : s.responseTask with
    | notStarted =>
      obtain ⟨a, -, -, -, hforwarded⟩ := h.answered response hresponse
      simp [Forwarded, htask] at hforwarded
    | select =>
      obtain ⟨⟨item, queue⟩, hrecv⟩ := exists_recv (hqueue htask)
      have hwork := work_forwardBody c htask hrecv
      have hstep : s.step http c .receive = some ({ s with queue }.forwardBody c item) := by
        simp only [HttpTunnel.step, stepHandler, if_neg hnotAwaiting, if_pos htask, hrecv,
          Option.map_some]
      exact ⟨.receive, List.mem_cons_self .., _, hstep, hwork⟩
    | sending part =>
      refine ⟨.bodySent, by simp, ?_⟩
      simp only [HttpTunnel.step, stepResponse, htask, hreceiving, Channel.send, hbody,
        List.length_nil, HTTP_TUNNEL_BODY_CHANNEL_CAPACITY, Nat.one_pos, if_true, Option.map_some]
      refine ⟨_, rfl, ?_⟩
      simp only [work, hbody, htask, List.length_append, List.length_cons, List.length_nil,
        taskWork]
      omega
    | failing errors =>
      obtain ⟨a, -, -, -, hforwarded⟩ := h.answered response hresponse
      simp only [Forwarded, htask] at hforwarded
      have herrors := hforwarded.1
      refine ⟨.errorSent, by simp, ?_⟩
      simp only [HttpTunnel.step, stepResponse, htask, hreceiving, Channel.send, hbody,
        List.length_nil, HTTP_TUNNEL_BODY_CHANNEL_CAPACITY, Nat.one_pos, if_true, Option.map_some]
      refine ⟨_, rfl, ?_⟩
      split_ifs
      · simp only [work, HttpTunnel.finish, Channel.dropReceiver, Channel.dropSender, hbody, htask,
          List.length_append, List.length_cons, List.length_nil, taskWork]
        omega
      · simp only [work, hbody, htask, List.length_append, List.length_cons, List.length_nil,
          taskWork]
        omega
    | done =>
      obtain ⟨a, -, -, -, hforwarded⟩ := h.answered response hresponse
      simp only [Forwarded, htask] at hforwarded
      refine ⟨.readBody, by simp, ?_⟩
      simp only [HttpTunnel.step, stepBrowser, hresponse, hreceiving, hending, Option.isNone_none,
        Bool.and_self, if_true, Channel.recv, hbody, hforwarded.1, Bool.false_eq_true, if_false,
        Option.map_some]
      refine ⟨_, rfl, ?_⟩
      simp only [work, hbody, hending, hresponse, endingWork]
      omega

/-- What the browser has read is the beginning of the answer. -/
theorem Invariant.received_prefix (h : Invariant http c s) {a : Answer}
    (hforwarded : s.Forwarded a) : s.received <+: a.parts := by
  have hparts : ∃ parts k, s.body.sent = parts.map .part ++ List.replicate k .error ∧
      parts <+: a.parts := by
    cases htask : s.responseTask with
    | notStarted => simp [Forwarded, htask] at hforwarded
    | select =>
      simp only [Forwarded, htask] at hforwarded
      exact ⟨a.parts, 0, by simpa using hforwarded.2, List.prefix_rfl⟩
    | sending part =>
      simp only [Forwarded, htask] at hforwarded
      refine ⟨a.parts.dropLast, 0, ?_, List.dropLast_prefix _⟩
      rw [List.replicate_zero, List.append_nil, List.map_dropLast, ← hforwarded.2,
        List.dropLast_concat]
    | failing errors =>
      simp only [Forwarded, htask] at hforwarded
      exact hforwarded.2.2.1
    | done =>
      simp only [Forwarded, htask] at hforwarded
      obtain ⟨-, ⟨-, hsent⟩ | ⟨parts, k, hsent, hpre, -⟩⟩ := hforwarded
      · exact ⟨a.parts, 0, by simpa using hsent, List.prefix_rfl⟩
      · exact ⟨parts, k, hsent, hpre⟩
  obtain ⟨parts, k, hsent, hpre⟩ := hparts
  refine (prefix_of_map_part (k := k) ?_).trans hpre
  rw [← hsent]
  by_cases herror : s.ending = some .error
  · exact (h.read_error herror).2.2
  · exact h.received herror ▸ h.bodyFifo.received_prefix

theorem Invariant.delivers (h : Invariant http c s) (hkeeps : KeepsComplete http c s) :
    s.Delivers http c where
  not_given_up := hkeeps
  no_error hnone := by
    refine ⟨(h.no_error hnone).1, fun herror => ?_⟩
    exact (h.read_error herror).1 hnone
  head response hresponse := by
    obtain ⟨a, ha, hstatus, hheaders, hforwarded⟩ := h.answered response hresponse
    obtain ⟨b, hb, hextends⟩ := extends_of_prefix h.queueFifo.received_prefix ha
    refine ⟨b, hb, by rw [hextends.status, hstatus], by rw [hextends.headers, hheaders], ?_, ?_⟩
    · exact (h.received_prefix hforwarded).trans hextends.parts
    · intro hclean
      obtain ⟨a', ha', hended, hall⟩ := h.read_clean hclean
      obtain rfl := Option.some.inj (ha.symm.trans ha')
      rw [hextends.ended hended]
      exact ⟨hended, hall⟩
  cleaned_up := h.cleaned_up
  advances := h.advances

/-- **Exactly when an answer is delivered**: no failure of the request is looked at after all of the
answer is enqueued. -/
theorem delivers_iff_unhurried (http : HttpTypes) (c : JsonCodec) (firstChunkDeadline : Bool)
    {ops : List HttpTunnelOp} (hrun : exec (step http c) (start firstChunkDeadline) ops = some s) :
    (∀ ops₁ ops₂ t, ops = ops₁ ++ ops₂ →
      exec (step http c) (start firstChunkDeadline) ops₁ = some t → t.Delivers http c) ↔
      Along (step http c) (fun s op => s.unhurried http c op) (start firstChunkDeadline) ops :=
  forall_reached_iff_along (I := fun s => Invariant http c s ∧ KeepsComplete http c s)
    (fun _ h => h.1.delivers h.2)
    (fun _ _ _ h hguard hstep => ⟨h.1.step hstep, h.1.keepsComplete h.2 hguard hstep⟩)
    (fun _ _ _ _ hguard hstep hdelivers => not_keepsComplete hguard hstep hdelivers.not_given_up)
    ⟨.start firstChunkDeadline, fun _ hfailed => by cases hfailed⟩ hrun

/-- Header names in lower case, with visible values. -/
def plainHttpTypes : HttpTypes where
  headerName name := some name
  isHeaderValue _ := true
  isVisible _ := true

def unauthorizedHead : RelayHttpTunnelResponseHead := { status := 401, headers := [] }

/-- The JSON of the one head below. -/
def unauthorizedCodec : JsonCodec where
  parseJson raw := if raw = utf8Bytes "\x7b\"status\":401,\"headers\":[]\x7d" then
    some unauthorizedHead.toJson else none
  renderJson _ := utf8Bytes "\x7b\"status\":401,\"headers\":[]\x7d"

/-- The daemon answers when it has read the head of the request. -/
def earlyAnswer : List HttpTunnelOp :=
  [.paired, .forwardHead true,
    .enqueue (.frame (.binary
      (encodeRelayHttpTunnelResponseHeadWithHeaders unauthorizedCodec 401 []))),
    .enqueue (.frame (.binary (encodeRelayHttpTunnelResponseBody [7]))),
    .enqueue (.frame (.binary encodeRelayHttpTunnelResponseEnd))]

/-- The answer is passed on while the request is still being forwarded. -/
theorem delivers_of_early_answer : ∃ s,
    exec (step plainHttpTypes unauthorizedCodec) (start true) (earlyAnswer ++
      [.receive, .receive, .requestChunk [1] true, .bodySent, .receive, .readBody, .readBody]) =
        some s ∧
      s.Delivers plainHttpTypes unauthorizedCodec ∧
      s.handler = .responded { status := 401, headers := [] } ∧ s.received = [[7]] ∧
      s.ending = some .clean := by
  let ops := earlyAnswer ++
    [.receive, .receive, .requestChunk [1] true, .bodySent, .receive, .readBody, .readBody]
  have hops : (decide (Along (step plainHttpTypes unauthorizedCodec)
      (fun s op => s.unhurried plainHttpTypes unauthorizedCodec op = true) (start true) ops) &&
      (exec (step plainHttpTypes unauthorizedCodec) (start true) ops).any fun s =>
        s.handler = .responded { status := 401, headers := [] } && s.received = [[7]] &&
          s.ending = some .clean) = true := by
    decide +kernel
  rw [Bool.and_eq_true, decide_eq_true_eq] at hops
  obtain ⟨s, hs, hend⟩ := (Option.any_eq_true ..).mp hops.2
  simp only [Bool.and_eq_true, decide_eq_true_eq] at hend
  have hdelivers := (delivers_iff_unhurried plainHttpTypes unauthorizedCodec true hs).mpr hops.1
    ops [] s (List.append_nil ops).symm hs
  exact ⟨s, hs, hdelivers, hend.1.1, hend.1.2, hend.2⟩

/-- The request fails when the answer is in the queue: the browser gets another status. -/
theorem answer_dropped :
    ¬∀ (http : HttpTypes) (c : JsonCodec) (firstChunkDeadline : Bool) (ops : List HttpTunnelOp)
      (s : HttpTunnel), exec (step http c) (start firstChunkDeadline) ops = some s →
        complete http c s.queue.sent → ∀ status, s.handler ≠ .failed status := by
  intro h
  have hops : ((exec (step plainHttpTypes unauthorizedCodec) (start true) (earlyAnswer ++
      [.requestChunk [1] false, .requestResult])).any fun s =>
        complete plainHttpTypes unauthorizedCodec s.queue.sent && s.handler = .failed BAD_GATEWAY) =
      true := by
    decide +kernel
  obtain ⟨s, hs, hend⟩ := (Option.any_eq_true ..).mp hops
  simp only [Bool.and_eq_true, decide_eq_true_eq] at hend
  exact h _ _ true _ s hs hend.1 _ hend.2

end HttpTunnel

end Termd.Relay
