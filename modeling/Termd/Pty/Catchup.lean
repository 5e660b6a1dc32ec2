import Termd.Pty.Resume

/-!
# Resumed connections

What the daemon is sent on a connection are the events from the commit on, and the snapshot covers the
events up to the `AttachSync`. If nothing is recorded between the two, and no reader applies an event
before the snapshot is in place, the mirror never skips an event, however the supervisor, the readers
and the resuming thread take turns.

## Main definitions

* `IpcConnection.Kept`: the events on a connection are consecutive
* `PhaseOk`: what holds while the connection is resumed
* `IpcResume.Invariant`: the invariant of every run
* `IpcResume.Gapless`: the steps after which nothing is missing

## Main results

* `IpcResume.noSkip_of_gapless`: a mirror that never skips an event
* `IpcResume.not_noSkip_of_event_before_commit`: an event between the snapshot and the commit is lost
-/

namespace Termd.Pty

open Screen

/-! ### What a connection keeps -/

/-- The event that a frame carries. -/
def SupervisorFrame.event? : SupervisorFrame → Option PtyTerminalFrame
  | terminalFrame frame => some frame
  | response _ => none

@[simp] theorem SupervisorFrame.event?_terminalFrame (frame : PtyTerminalFrame) :
    (terminalFrame frame).event? = some frame := rfl

@[simp] theorem SupervisorFrame.event?_response (response : ResumeResponse) :
    (SupervisorFrame.response response).event? = none := rfl

@[simp] theorem BoundedOutput.drained_values {α : Type} (q : BoundedOutput α) :
    q.drained.values = [] := rfl

namespace IpcConnection

/-- The events that are on their way, and the one that the reader holds. -/
def stream (connection : IpcConnection) : List PtyTerminalFrame :=
  connection.hand.toList ++ (connection.socket.filterMap SupervisorFrame.event? ++
    (connection.data ++ connection.rx.values))

/-- **The invariant of a connection** whose reader has dealt with the events up to `handled`. -/
structure Kept (log : List CacheOp) (controllerId : ℕ) (registered : Bool) (handled : ℕ)
    (connection : IpcConnection) : Prop where
  piped : ∃ n, connection.stream = eventsAfter log handled n ∧ handled + n ≤ log.length ∧
    (registered = true → connection.rx.receiver = true → handled + n = log.length)
  unread : connection.reading = false → connection.hand = none ∧ handled = connection.baseSeq
  uncommitted : connection.controllerIdentity = none →
    connection.stream = [] ∧ registered = false ∧ connection.reading = false
  candidate : ∀ identity, connection.pendingResumeIdentity = some identity →
    connection.controllerIdentity = none ∧ identity.id = controllerId

/-- The resuming thread waits for an answer. Events come only after it. -/
structure Awaits (connection : IpcConnection) (request : ResumeRequest)
    (Expected : ResumeResponse → Prop) : Prop where
  reading_eq : connection.reading = false
  request_eq : connection.request = some request ∧ connection.control = [] ∧
      connection.socket = [] ∧ connection.controllerIdentity = none ∨
    connection.request = none ∧
      ((∃ response, Expected response ∧ connection.control = [response] ∧ connection.socket = []) ∨
        (∃ response, ∃ frames : List PtyTerminalFrame, Expected response ∧ connection.control = [] ∧
          connection.socket = .response response :: frames.map .terminalFrame) ∨
        connection.closed = true ∧ connection.control = [] ∧ connection.socket = [])

variable {log : List CacheOp} {controllerId : ℕ} {registered : Bool} {handled : ℕ}
  {connection : IpcConnection}

theorem kept_default : Kept log controllerId false 0 {} where
  piped := ⟨0, rfl, Nat.zero_le _, nofun⟩
  unread _ := ⟨rfl, rfl⟩
  uncommitted _ := ⟨rfl, rfl, rfl⟩
  candidate := nofun

/-- The supervisor passes frames and answers on. -/
theorem Kept.pass (h : connection.Kept log controllerId registered handled)
    {connection' : IpcConnection} (hstream : connection'.stream = connection.stream)
    (hreceiver : connection'.rx.receiver = connection.rx.receiver)
    (hreading : connection'.reading = connection.reading) (hhand : connection'.hand = connection.hand)
    (hbase : connection'.baseSeq = connection.baseSeq)
    (hidentity : connection'.controllerIdentity = connection.controllerIdentity)
    (hpending : connection'.pendingResumeIdentity = connection.pendingResumeIdentity) :
    connection'.Kept log controllerId registered handled where
  piped := by
    rw [hstream, hreceiver]
    exact h.piped
  unread := by
    rw [hreading, hhand, hbase]
    exact h.unread
  uncommitted := by
    rw [hidentity, hstream, hreading]
    exact h.uncommitted
  candidate := by
    rw [hpending, hidentity]
    exact h.candidate

/-- The connection ends at the supervisor. -/
theorem Kept.close (h : connection.Kept log controllerId registered handled) {registered' : Bool}
    (hregistered : registered' = true → registered = true) :
    Kept log controllerId registered' handled
      { connection with
        request := none, control := [], data := [], closed := true
        rx := { connection.rx with queue := [], receiver := false } } := by
  obtain ⟨n, hstream, hle, -⟩ := h.piped
  rw [stream, ← List.append_assoc] at hstream
  -- what was not written is lost
  obtain ⟨m, hm, hread⟩ : ∃ m ≤ n,
      connection.hand.toList ++ connection.socket.filterMap SupervisorFrame.event? =
        eventsAfter log handled m := ⟨_, Nat.min_le_right .., eventsAfter_of_append hstream⟩
  refine ⟨⟨m, ?_, by omega, by simp⟩, h.unread, fun hidentity => ?_, h.candidate⟩
  · rw [← hread]
    simp [stream, BoundedOutput.values]
  · obtain ⟨hnil, hno, hreading⟩ := h.uncommitted hidentity
    refine ⟨?_, ?_, hreading⟩
    · simp only [stream, List.append_eq_nil_iff] at hnil
      simp [stream, BoundedOutput.values, hnil.1, hnil.2.1]
    · cases hregistered' : registered' with
      | false => rfl
      | true =>
        rw [hregistered hregistered'] at hno
        cases hno

theorem Kept.mono (h : connection.Kept log controllerId registered handled) {registered' : Bool}
    (himp : registered' = true → registered = true) :
    connection.Kept log controllerId registered' handled := by
  obtain ⟨n, hstream, hle, hall⟩ := h.piped
  refine ⟨⟨n, hstream, hle, fun hr => hall (himp hr)⟩, h.unread, fun hidentity => ?_, h.candidate⟩
  obtain ⟨hnil, hno, hreading⟩ := h.uncommitted hidentity
  refine ⟨hnil, ?_, hreading⟩
  cases hregistered' : registered' with
  | false => rfl
  | true => exact nomatch hno.symm.trans (himp hregistered')

/-- An event is recorded that the connection is not sent. -/
theorem Kept.snoc (h : connection.Kept log controllerId registered handled) (op : CacheOp) :
    connection.Kept (log ++ [op]) controllerId false handled := by
  obtain ⟨n, hstream, hle, -⟩ := h.piped
  refine ⟨⟨n, ?_, ?_, nofun⟩, h.unread, fun hidentity => ?_, h.candidate⟩
  · rw [eventsAfter_snoc hle]
    exact hstream
  · rw [List.length_append, List.length_singleton]
    omega
  · obtain ⟨hnil, -, hreading⟩ := h.uncommitted hidentity
    exact ⟨hnil, rfl, hreading⟩

/-- An event is recorded that the queue refuses. -/
theorem Kept.refused (h : connection.Kept log controllerId registered handled) (op : CacheOp)
    {rx : BoundedOutput PtyTerminalFrame} (hvalues : rx.values = connection.rx.values) :
    Kept (log ++ [op]) controllerId false handled { connection with rx } := by
  have hstream : stream { connection with rx } = connection.stream := by
    simp [stream, hvalues]
  have hsnoc := h.snoc op
  refine ⟨?_, hsnoc.unread, ?_, hsnoc.candidate⟩
  · obtain ⟨n, heq, hle, -⟩ := hsnoc.piped
    exact ⟨n, hstream.trans heq, hle, nofun⟩
  · rw [hstream]
    exact hsnoc.uncommitted

/-- An event is recorded that the queue takes. -/
theorem Kept.sent (h : connection.Kept log controllerId true handled) (op : CacheOp)
    {rx : BoundedOutput PtyTerminalFrame} (hreceiver : connection.rx.receiver = true)
    (hvalues : rx.values = connection.rx.values ++
      [(op.event (log.length + 1)).toTerminalFrame]) :
    Kept (log ++ [op]) controllerId true handled { connection with rx } := by
  obtain ⟨n, hstream, hle, hall⟩ := h.piped
  have hlength := hall rfl hreceiver
  refine ⟨⟨n + 1, ?_, ?_, fun _ _ => ?_⟩, h.unread, fun hidentity => ?_, h.candidate⟩
  · rw [eventsAfter_succ hlength, ← hstream]
    simp [stream, hvalues]
  · rw [List.length_append, List.length_singleton]
    omega
  · rw [List.length_append, List.length_singleton]
    omega
  · exact nomatch (h.uncommitted hidentity).2.1

/-- The connection asks for the lease, and is told where the supervisor is. -/
theorem Kept.sync (h : connection.Kept log controllerId registered handled)
    (hidentity : connection.controllerIdentity = none) {identity : ControllerIdentity}
    (hid : identity.id = controllerId) :
    Kept log controllerId registered log.length
      { connection with
        pendingResumeIdentity := some identity, baseSeq := log.length
        rx := connection.rx.drained } := by
  obtain ⟨hnil, hregistered, hreading⟩ := h.uncommitted hidentity
  simp only [stream, List.append_eq_nil_iff] at hnil
  have hstream : stream { connection with
      pendingResumeIdentity := some identity, baseSeq := log.length
      rx := connection.rx.drained } = [] := by
    simp [stream, hnil.1, hnil.2.1, hnil.2.2.1]
  refine ⟨⟨0, hstream, le_rfl, fun _ _ => rfl⟩, fun _ => ⟨(h.unread hreading).1, rfl⟩,
    fun _ => ⟨hstream, hregistered, hreading⟩, ?_⟩
  rintro identity' ⟨⟩
  exact ⟨hidentity, hid⟩

/-- The connection gets the lease, at the event that it was told. -/
theorem Kept.commit (h : connection.Kept log controllerId registered handled)
    {candidate : ControllerIdentity} (hcandidate : connection.pendingResumeIdentity = some candidate)
    (hbase : log.length = connection.baseSeq) (committed : ControllerIdentity)
    (transactionId : Option ℕ) :
    Kept log controllerId true handled
      { connection with
        controllerIdentity := some committed, pendingResumeIdentity := none
        committedResumeTransactionId := transactionId } := by
  obtain ⟨hnil, -, hreading⟩ := h.uncommitted (h.candidate candidate hcandidate).1
  obtain ⟨hhand, hhandled⟩ := h.unread hreading
  have hlength : handled + 0 = log.length := by omega
  exact ⟨⟨0, hnil, hlength.le, fun _ _ => hlength⟩, fun _ => ⟨hhand, hhandled⟩, nofun, nofun⟩

/-- The reader takes a frame from the socket. -/
theorem Kept.take (h : connection.Kept log controllerId registered handled)
    (hreading : connection.reading = true) {socket : List SupervisorFrame}
    {hand : Option PtyTerminalFrame}
    (hstream : stream { connection with socket, hand } = connection.stream) :
    Kept log controllerId registered handled { connection with socket, hand } where
  piped := by
    rw [hstream]
    exact h.piped
  unread hno := nomatch hreading.symm.trans hno
  uncommitted hidentity := nomatch hreading.symm.trans (h.uncommitted hidentity).2.2
  candidate := h.candidate

/-- The reader is done with an event. -/
theorem Kept.handle (h : connection.Kept log controllerId registered handled)
    (hreading : connection.reading = true) {frame : PtyTerminalFrame}
    {socket : List SupervisorFrame} {hand : Option PtyTerminalFrame}
    (hstream : connection.stream = frame :: stream { connection with socket, hand }) :
    IsEvent log (handled + 1) frame ∧
      Kept log controllerId registered (handled + 1) { connection with socket, hand } := by
  obtain ⟨n, heq, hle, hall⟩ := h.piped
  obtain ⟨m, rfl, hevent, hrest⟩ := eventsAfter_eq_cons (heq.symm.trans hstream)
  refine ⟨hevent, ⟨m, hrest, by omega, fun hr hreceiver => ?_⟩,
    fun hno => (nomatch hreading.symm.trans hno),
    fun hidentity => (nomatch hreading.symm.trans (h.uncommitted hidentity).2.2), h.candidate⟩
  have := hall hr hreceiver
  omega

/-- The reader is started. -/
theorem Kept.start (h : connection.Kept log controllerId registered handled)
    (hidentity : connection.controllerIdentity.isSome) :
    Kept log controllerId registered handled { connection with reading := true } where
  piped := h.piped
  unread := nofun
  uncommitted hnone := by
    rw [hnone] at hidentity
    cases hidentity
  candidate := h.candidate

/-! ### Waiting for an answer -/

variable {request : ResumeRequest} {Expected : ResumeResponse → Prop}

theorem Awaits.congr (h : connection.Awaits request Expected) {connection' : IpcConnection}
    (hreading : connection'.reading = connection.reading)
    (hrequest : connection'.request = connection.request)
    (hcontrol : connection'.control = connection.control)
    (hsocket : connection'.socket = connection.socket)
    (hidentity : connection'.controllerIdentity = connection.controllerIdentity)
    (hclosed : connection'.closed = connection.closed) : connection'.Awaits request Expected := by
  refine ⟨hreading.trans h.reading_eq, ?_⟩
  rw [hrequest, hcontrol, hsocket, hidentity, hclosed]
  exact h.request_eq

theorem Awaits.imp (h : connection.Awaits request Expected) {Expected' : ResumeResponse → Prop}
    (himp : ∀ response, Expected response → Expected' response) :
    connection.Awaits request Expected' := by
  refine ⟨h.reading_eq, ?_⟩
  obtain hsent | ⟨hnone, ⟨r, hr, hanswer⟩ | ⟨r, frames, hr, hanswer⟩ | hlost⟩ := h.request_eq
  · exact .inl hsent
  · exact .inr ⟨hnone, .inl ⟨r, himp r hr, hanswer⟩⟩
  · exact .inr ⟨hnone, .inr (.inl ⟨r, frames, himp r hr, hanswer⟩)⟩
  · exact .inr ⟨hnone, .inr (.inr hlost)⟩

/-- The answer is written. -/
theorem Awaits.write_control (h : connection.Awaits request Expected) {response : ResumeResponse}
    {control : List ResumeResponse} (hcontrol : connection.control = response :: control) :
    Awaits { connection with
      control, socket := connection.socket ++ [.response response] } request Expected := by
  refine ⟨h.reading_eq, ?_⟩
  obtain ⟨-, hnil, -⟩ | ⟨hrequest, ⟨r, hr, hone, hsocket⟩ | ⟨r, frames, -, hnil, -⟩ | ⟨-, hnil, -⟩⟩ :=
    h.request_eq
  · exact nomatch hcontrol.symm.trans hnil
  · obtain ⟨rfl, rfl⟩ := List.cons.inj (hcontrol.symm.trans hone)
    refine .inr ⟨hrequest, .inr (.inl ⟨response, [], hr, rfl, ?_⟩)⟩
    rw [hsocket]
    rfl
  · exact nomatch hcontrol.symm.trans hnil
  · exact nomatch hcontrol.symm.trans hnil

/-- An event is written: the answer is already out. -/
theorem Awaits.write_data (h : connection.Awaits request Expected)
    (hkept : connection.Kept log controllerId registered handled) (hopen : connection.closed = false)
    (hcontrol : connection.control = []) {frame : PtyTerminalFrame} {data : List PtyTerminalFrame}
    (hdata : connection.data = frame :: data) :
    Awaits { connection with data, socket := connection.socket ++ [.terminalFrame frame] }
      request Expected := by
  refine ⟨h.reading_eq, ?_⟩
  obtain ⟨-, -, -, hidentity⟩ | ⟨hrequest, ⟨r, -, hone, -⟩ | ⟨r, frames, hr, hnil, hsocket⟩ |
    ⟨hclosed, -⟩⟩ := h.request_eq
  · -- a connection that has not committed carries no events
    have hnil := (hkept.uncommitted hidentity).1
    simp [stream, hdata] at hnil
  · exact nomatch hcontrol.symm.trans hone
  · refine .inr ⟨hrequest, .inr (.inl ⟨r, frames ++ [frame], hr, hnil, ?_⟩)⟩
    rw [hsocket]
    simp
  · exact nomatch hopen.symm.trans hclosed

theorem Awaits.close (h : connection.Awaits request Expected) (rx : BoundedOutput PtyTerminalFrame) :
    Awaits { connection with request := none, control := [], data := [], closed := true, rx }
      request Expected := by
  refine ⟨h.reading_eq, .inr ⟨rfl, ?_⟩⟩
  obtain ⟨-, -, hsocket, -⟩ | ⟨-, ⟨r, -, -, hsocket⟩ | ⟨r, frames, hr, -, hsocket⟩ |
    ⟨-, -, hsocket⟩⟩ := h.request_eq
  · exact .inr (.inr ⟨rfl, rfl, hsocket⟩)
  · exact .inr (.inr ⟨rfl, rfl, hsocket⟩)
  · exact .inr (.inl ⟨r, frames, hr, rfl, hsocket⟩)
  · exact .inr (.inr ⟨rfl, rfl, hsocket⟩)

/-- A request that is waiting to be handled is the one that was sent. -/
theorem Awaits.sent (h : connection.Awaits request Expected) {request' : ResumeRequest}
    (hrequest : connection.request = some request') :
    request' = request ∧ connection.control = [] ∧ connection.socket = [] := by
  obtain ⟨hsome, hnil, hempty, -⟩ | ⟨hnone, -⟩ := h.request_eq
  · exact ⟨Option.some.inj (hrequest.symm.trans hsome), hnil, hempty⟩
  · exact nomatch hrequest.symm.trans hnone

/-- The request is handled. -/
theorem Awaits.serve (h : connection.Awaits request Expected) {request' : ResumeRequest}
    (hrequest : connection.request = some request') (connection' : IpcConnection)
    (hreading : connection'.reading = connection.reading)
    (hcontrol : connection'.control = connection.control)
    (hsocket : connection'.socket = connection.socket) {response : ResumeResponse}
    {Expected' : ResumeResponse → Prop} (hresponse : Expected' response) :
    Awaits { connection' with request := none, control := connection'.control ++ [response] }
      request Expected' := by
  obtain ⟨-, hnil, hempty⟩ := h.sent hrequest
  refine ⟨hreading.trans h.reading_eq, .inr ⟨rfl, .inl ⟨response, hresponse, ?_, ?_⟩⟩⟩
  · rw [hcontrol, hnil]
    rfl
  · exact hsocket.trans hempty

/-- What the resuming thread reads is the answer. -/
theorem Awaits.receive (h : connection.Awaits request Expected) {frame : SupervisorFrame}
    {socket : List SupervisorFrame} (hsocket : connection.socket = frame :: socket) :
    ∃ response, ∃ frames : List PtyTerminalFrame, Expected response ∧ frame = .response response ∧
      socket = frames.map .terminalFrame ∧ connection.request = none ∧ connection.control = [] := by
  obtain ⟨-, -, hempty, -⟩ | ⟨hnone, ⟨r, -, -, hempty⟩ | ⟨r, frames, hr, hnil, hfull⟩ |
    ⟨-, -, hempty⟩⟩ := h.request_eq
  · exact nomatch hsocket.symm.trans hempty
  · exact nomatch hsocket.symm.trans hempty
  · obtain ⟨rfl, rfl⟩ := List.cons.inj (hsocket.symm.trans hfull)
    exact ⟨r, frames, hr, rfl, rfl, hnone, hnil⟩
  · exact nomatch hsocket.symm.trans hempty

end IpcConnection

/-! ### The phases -/

section Phase

variable (width : Char → Option (Fin 3)) (size : PtySize)

/-- The answer to `AttachSync` is a snapshot at its base. -/
structure SyncOk (log : List CacheOp) (base : ℕ) (sync : SupervisorAttachSyncPayload) : Prop where
  base_eq : sync.baseSeq = base
  le : base ≤ log.length
  frames_eq : ∃ c, exec (SupervisorTerminalCache.step width) (.new size) (log.take base) = some c ∧
    sync.frames = [.snapshot base c.size c.snapshotOutput]

/-- What is left of `seed_attach_sync`: the snapshot, and events in order. -/
def SeedOk (log : List CacheOp) (base current : ℕ) (todo : List PtyTerminalFrame) : Prop :=
  ∃ live, InOrder live ∧ (∀ frame ∈ live, frame.terminalSeq.isSome) ∧
    (todo = live ∧ base ≤ current ∨ base ≤ log.length ∧ ∃ c,
      exec (SupervisorTerminalCache.step width) (.new size) (log.take base) = some c ∧
      todo = .snapshot base c.size c.snapshotOutput :: live)

/-- What holds of the connection that is being resumed. -/
def PhaseOk (log : List CacheOp) (current : ℕ) (bootstrap : Option (List PtyTerminalFrame))
    (c : IpcConnection) : ResumePhase → Prop
  | .idle | .done => bootstrap = none
  | .sync => bootstrap = none ∧ c.controllerIdentity = none ∧
      c.Awaits .attachSync fun response => ∀ sync, response = .attachSync sync →
        SyncOk width size log c.baseSeq sync
  | .ping sync => bootstrap = none ∧ c.controllerIdentity = none ∧
      SyncOk width size log c.baseSeq sync ∧ c.Awaits .ping fun _ => True
  | .snapshot sync => bootstrap = none ∧ c.controllerIdentity = none ∧
      SyncOk width size log c.baseSeq sync ∧ c.Awaits .snapshot fun _ => True
  | .commit sync => bootstrap = none ∧ SyncOk width size log c.baseSeq sync ∧
      c.Awaits .commitControllerResume fun response => ∀ controller,
        response = .controllerResumeStatus controller → c.controllerIdentity.isSome
  | .committed sync => bootstrap = none ∧ SyncOk width size log c.baseSeq sync ∧
      c.controllerIdentity.isSome ∧ c.reading = false
  | .started sync => bootstrap = none ∧ SyncOk width size log c.baseSeq sync ∧
      c.controllerIdentity.isSome
  | .buffering sync => (∃ buffered, bootstrap = some buffered ∧
      ∀ frame ∈ buffered, frame.terminalSeq.isSome) ∧
      SyncOk width size log c.baseSeq sync ∧ c.controllerIdentity.isSome
  | .seeding todo => bootstrap = some [] ∧ SeedOk width size log c.baseSeq current todo ∧
      c.controllerIdentity.isSome

variable {width size} {log : List CacheOp} {current : ℕ}
  {bootstrap : Option (List PtyTerminalFrame)} {c : IpcConnection} {phase : ResumePhase}

theorem SyncOk.snoc {base : ℕ} {sync : SupervisorAttachSyncPayload}
    (h : SyncOk width size log base sync) (op : CacheOp) :
    SyncOk width size (log ++ [op]) base sync := by
  have hle := h.le
  refine ⟨h.base_eq, by rw [List.length_append]; omega, ?_⟩
  rw [List.take_append_of_le_length hle]
  exact h.frames_eq

theorem SeedOk.mono {log' : List CacheOp} {base current' : ℕ} {todo : List PtyTerminalFrame}
    (h : SeedOk width size log base current todo) (hlog : log <+: log') (hcurrent : current ≤ current') :
    SeedOk width size log' base current' todo := by
  obtain ⟨live, horder, hevents, ⟨rfl, hbase⟩ | ⟨hbase, c, hc, rfl⟩⟩ := h
  · exact ⟨todo, horder, hevents, .inl ⟨rfl, hbase.trans hcurrent⟩⟩
  · obtain ⟨rest, rfl⟩ := hlog
    refine ⟨live, horder, hevents, .inr ⟨by rw [List.length_append]; omega, c, ?_, rfl⟩⟩
    rwa [List.take_append_of_le_length hbase]

/-- The first frame was applied. -/
theorem SeedOk.tail {base current' : ℕ} {frame : PtyTerminalFrame} {todo : List PtyTerminalFrame}
    (h : SeedOk width size log base current (frame :: todo)) (hcurrent : current ≤ current')
    (hreaches : frame.reaches ≤ current') : SeedOk width size log base current' todo := by
  obtain ⟨live, horder, hevents, ⟨rfl, hbase⟩ | ⟨-, c, -, heq⟩⟩ := h
  · exact ⟨todo, (List.pairwise_cons.mp horder).2,
      fun frame' hframe' => hevents frame' (List.mem_cons_of_mem _ hframe'),
      .inl ⟨rfl, hbase.trans hcurrent⟩⟩
  · obtain ⟨rfl, rfl⟩ := List.cons.inj heq
    exact ⟨todo, horder, hevents, .inl ⟨rfl, hreaches⟩⟩

/-- More events, or a mirror that has seen more. -/
theorem PhaseOk.mono (h : PhaseOk width size log current bootstrap c phase) {log' : List CacheOp}
    {current' : ℕ} (hlog : log' = log ∨ ∃ op, log' = log ++ [op]) (hcurrent : current ≤ current') :
    PhaseOk width size log' current' bootstrap c phase := by
  have hsync : ∀ sync, SyncOk width size log c.baseSeq sync →
      SyncOk width size log' c.baseSeq sync := by
    intro sync hsync
    rcases hlog with rfl | ⟨op, rfl⟩
    · exact hsync
    · exact hsync.snoc op
  have hsub : log <+: log' := by
    rcases hlog with rfl | ⟨op, rfl⟩
    · exact List.prefix_rfl
    · exact List.prefix_append ..
  cases phase with
  | idle => exact h
  | sync =>
    exact ⟨h.1, h.2.1, h.2.2.imp fun response hresponse sync heq => hsync sync (hresponse sync heq)⟩
  | ping sync => exact ⟨h.1, h.2.1, hsync sync h.2.2.1, h.2.2.2⟩
  | snapshot sync => exact ⟨h.1, h.2.1, hsync sync h.2.2.1, h.2.2.2⟩
  | commit sync => exact ⟨h.1, hsync sync h.2.1, h.2.2⟩
  | committed sync => exact ⟨h.1, hsync sync h.2.1, h.2.2⟩
  | started sync => exact ⟨h.1, hsync sync h.2.1, h.2.2⟩
  | buffering sync => exact ⟨h.1, hsync sync h.2.1, h.2.2⟩
  | seeding todo => exact ⟨h.1, h.2.1.mono hsub hcurrent, h.2.2⟩
  | done => exact h

/-- Before the commit nothing is buffered. -/
theorem PhaseOk.bootstrap_eq_none (h : PhaseOk width size log current bootstrap c phase)
    (hidentity : c.controllerIdentity = none) : bootstrap = none := by
  have hcommitted : c.controllerIdentity.isSome → False := by simp [hidentity]
  cases phase
  case idle => exact h
  case done => exact h
  case buffering => exact (hcommitted h.2.2).elim
  case seeding => exact (hcommitted h.2.2).elim
  all_goals exact h.1

/-- Frames are buffered only for the snapshot. -/
theorem PhaseOk.buffering_or_seeding {buffered : List PtyTerminalFrame}
    (h : PhaseOk width size log current (some buffered) c phase) :
    (∃ sync, phase = .buffering sync) ∨ ∃ todo, phase = .seeding todo := by
  cases phase
  case buffering sync => exact .inl ⟨sync, rfl⟩
  case seeding todo => exact .inr ⟨todo, rfl⟩
  case idle => exact nomatch h
  case done => exact nomatch h
  all_goals exact nomatch h.1

/-- The supervisor passes something on. -/
theorem PhaseOk.pass (h : PhaseOk width size log current bootstrap c phase) {c' : IpcConnection}
    (hbase : c'.baseSeq = c.baseSeq) (hreading : c'.reading = c.reading)
    (hidentity : c'.controllerIdentity = c.controllerIdentity)
    (hawaits : ∀ request Expected, c.Awaits request Expected → c'.Awaits request Expected) :
    PhaseOk width size log current bootstrap c' phase := by
  cases phase <;> simp only [PhaseOk, hbase, hreading, hidentity] at h ⊢
  case sync => exact ⟨h.1, h.2.1, hawaits _ _ h.2.2⟩
  case ping => exact ⟨h.1, h.2.1, h.2.2.1, hawaits _ _ h.2.2.2⟩
  case snapshot => exact ⟨h.1, h.2.1, h.2.2.1, hawaits _ _ h.2.2.2⟩
  case commit => exact ⟨h.1, h.2.1, hawaits _ _ h.2.2⟩
  all_goals exact h

/-- A reader takes something; while an answer is awaited, the connection is not read. -/
theorem PhaseOk.read (h : PhaseOk width size log current bootstrap c phase) {c' : IpcConnection}
    (hbase : c'.baseSeq = c.baseSeq) (hreading : c'.reading = c.reading)
    (hread : c'.controllerIdentity = c.controllerIdentity ∧ (c' = c ∨ c.reading = true)) :
    PhaseOk width size log current bootstrap c' phase := by
  refine h.pass hbase hreading hread.1 fun request Expected hawaits => ?_
  rcases hread.2 with rfl | hyes
  · exact hawaits
  · exact nomatch hawaits.reading_eq.symm.trans hyes

/-- A request is refused, or changes nothing. -/
theorem PhaseOk.serve (h : PhaseOk width size log current bootstrap c phase)
    {request : ResumeRequest} (hrequest : c.request = some request) {response : ResumeResponse}
    (hsync : ∀ sync, response ≠ .attachSync sync)
    (hcommit : ∀ controller, response ≠ .controllerResumeStatus controller) :
    PhaseOk width size log current bootstrap
      { c with request := none, control := c.control ++ [response] } phase := by
  cases phase
  case sync =>
    refine ⟨h.1, h.2.1, h.2.2.serve hrequest c rfl rfl rfl fun sync heq => ?_⟩
    exact absurd heq (hsync sync)
  case ping => exact ⟨h.1, h.2.1, h.2.2.1, h.2.2.2.serve hrequest c rfl rfl rfl trivial⟩
  case snapshot => exact ⟨h.1, h.2.1, h.2.2.1, h.2.2.2.serve hrequest c rfl rfl rfl trivial⟩
  case commit =>
    refine ⟨h.1, h.2.1, h.2.2.serve hrequest c rfl rfl rfl fun controller heq => ?_⟩
    exact absurd heq (hcommit controller)
  all_goals exact h

/-- The connection is told where the supervisor is. -/
theorem PhaseOk.serve_sync (h : PhaseOk width size log current bootstrap c phase)
    (hrequest : c.request = some .attachSync) (hidentity : c.controllerIdentity = none)
    {identity : ControllerIdentity} {sync : SupervisorAttachSyncPayload}
    {rx : BoundedOutput PtyTerminalFrame} (hsync : SyncOk width size log sync.baseSeq sync) :
    PhaseOk width size log current bootstrap
      { c with
        pendingResumeIdentity := some identity, baseSeq := sync.baseSeq, rx, request := none
        control := c.control ++ [.attachSync sync] } phase := by
  have hcommitted : c.controllerIdentity.isSome → False := by simp [hidentity]
  cases phase
  case sync =>
    refine ⟨h.1, hidentity, h.2.2.serve hrequest
      { c with pendingResumeIdentity := some identity, baseSeq := sync.baseSeq, rx } rfl rfl rfl ?_⟩
    rintro sync' ⟨⟩
    exact hsync
  case ping => exact nomatch (h.2.2.2.sent hrequest).1
  case snapshot => exact nomatch (h.2.2.2.sent hrequest).1
  case commit => exact nomatch (h.2.2.sent hrequest).1
  case idle => exact h
  case done => exact h
  case committed => exact (hcommitted h.2.2.1).elim
  all_goals exact (hcommitted h.2.2).elim

/-- The connection gets the lease. -/
theorem PhaseOk.serve_commit (h : PhaseOk width size log current bootstrap c phase)
    (hrequest : c.request = some .commitControllerResume) (hidentity : c.controllerIdentity = none)
    {committed : ControllerIdentity} {transactionId : Option ℕ} :
    PhaseOk width size log current bootstrap
      { c with
        controllerIdentity := some committed, pendingResumeIdentity := none
        committedResumeTransactionId := transactionId, request := none
        control := c.control ++ [.controllerResumeStatus committed] } phase := by
  have hcommitted : c.controllerIdentity.isSome → False := by simp [hidentity]
  cases phase
  case sync => exact nomatch (h.2.2.sent hrequest).1
  case ping => exact nomatch (h.2.2.2.sent hrequest).1
  case snapshot => exact nomatch (h.2.2.2.sent hrequest).1
  case commit =>
    exact ⟨h.1, h.2.1, h.2.2.serve hrequest
      { c with
        controllerIdentity := some committed, pendingResumeIdentity := none
        committedResumeTransactionId := transactionId } rfl rfl rfl fun _ _ => rfl⟩
  case idle => exact h
  case done => exact h
  case committed => exact (hcommitted h.2.2.1).elim
  all_goals exact (hcommitted h.2.2).elim

end Phase

/-- The reader runs, and the snapshot may not be in place. -/
def ResumePhase.isBootstrap : ResumePhase → Bool
  | started _ | buffering _ | seeding _ => true
  | _ => false

namespace IpcResume

section Caught

variable (w : IpcResume)

/-- The frames that wait for the snapshot. -/
def waiting : List PtyTerminalFrame :=
  match w.phase with
  | .seeding todo => todo
  | _ => w.bootstrap.getD []

/-- Up to here the mirror is given everything without the reader of a connection. -/
def floor (i : ℕ) : ℕ :=
  if w.bootstrap.isSome then (w.connections w.attempt).baseSeq else (w.connections i).baseSeq

/-- **The readers and the mirror**: what a reader has dealt with is in the mirror, in the snapshot or
among the frames that wait. -/
structure Caught (handled : ℕ → ℕ) : Prop where
  hand_le : ∀ i, (w.connections i).hand.isSome →
    handled i ≤ max (w.connections i).baseSeq w.mirror.currentTerminalSeq
  base_le : ∀ i, (w.connections i).reading = true →
    (i = w.attempt → w.phase.isBootstrap = false) →
      (w.connections i).baseSeq ≤ w.mirror.currentTerminalSeq
  caught : ∀ i, (w.connections i).reading = true → ∀ seq, w.floor i < seq →
    w.mirror.currentTerminalSeq < seq → seq ≤ handled i →
      ∃ frame ∈ w.waiting, frame.terminalSeq = some seq
  waits : ∀ frame ∈ w.waiting, ∀ seq, frame.terminalSeq = some seq →
    seq ≤ w.mirror.currentTerminalSeq ∨
      IsEvent w.log seq frame ∧ ∃ i, (w.connections i).reading = true ∧ seq ≤ handled i

variable {w} {w' : IpcResume} {handled : ℕ → ℕ}

/-- A step that concerns neither the readers nor the mirror. -/
theorem Caught.congr (h : w.Caught handled)
    (hconnections : ∀ i, (w'.connections i).reading = (w.connections i).reading ∧
      (w'.connections i).hand = (w.connections i).hand ∧
      (w'.connections i).baseSeq = (w.connections i).baseSeq)
    (hlog : w'.log = w.log ∨ ∃ op, w'.log = w.log ++ [op])
    (hphase : w'.attempt = w.attempt ∧ w'.phase.isBootstrap = w.phase.isBootstrap ∨
      w.bootstrap = none ∧ w.phase.isBootstrap = false)
    (hwaiting : w'.waiting = w.waiting) (hmirror : w'.mirror = w.mirror)
    (hbootstrap : w'.bootstrap = w.bootstrap) : w'.Caught handled := by
  have hfloor (i : ℕ) : w'.floor i = w.floor i := by
    rw [floor, floor, hbootstrap, (hconnections _).2.2, (hconnections _).2.2]
    rcases hphase with ⟨hattempt, -⟩ | ⟨hnone, -⟩
    · rw [hattempt]
    · rw [hnone]
      rfl
  refine ⟨fun i => ?_, fun i hreading hattempt => ?_, fun i => ?_, ?_⟩
  · rw [(hconnections i).2.1, (hconnections i).2.2, hmirror]
    exact h.hand_le i
  · rw [(hconnections i).1] at hreading
    rw [(hconnections i).2.2, hmirror]
    rcases hphase with ⟨hsame, hphase⟩ | ⟨-, hfalse⟩
    · rw [hsame, hphase] at hattempt
      exact h.base_le i hreading hattempt
    · exact h.base_le i hreading fun _ => hfalse
  · rw [(hconnections i).1, hfloor, hmirror, hwaiting]
    exact h.caught i
  · rw [hwaiting, hmirror]
    intro frame hframe seq hseq
    refine (h.waits frame hframe seq hseq).imp_right fun ⟨hevent, i, hreading, hle⟩ => ⟨?_, i, ?_, hle⟩
    · rcases hlog with hlog | ⟨op, hlog⟩
      · rwa [hlog]
      · rw [hlog]
        exact hevent.snoc op
    · rwa [(hconnections i).1]

/-- A step on a connection that is not read. -/
theorem Caught.unread (h : w.Caught handled) {i n : ℕ} {state : SupervisorState}
    {connection : IpcConnection} (hold : (w.connections i).reading = false)
    (hnew : connection.reading = false) (hhand : connection.hand = none)
    (hbootstrap : i = w.attempt → w.bootstrap = none) :
    (setConnection { w with state } i connection).Caught (Function.update handled i n) := by
  have hself : (setConnection { w with state } i connection).connections i = connection :=
    Function.update_self ..
  have hother (j : ℕ) (hj : j ≠ i) : (setConnection { w with state } i connection).connections j =
      w.connections j := Function.update_of_ne hj ..
  have hfloor (j : ℕ) (hj : j ≠ i) :
      (setConnection { w with state } i connection).floor j = w.floor j := by
    change (if w.bootstrap.isSome then
      ((setConnection { w with state } i connection).connections w.attempt).baseSeq else _) = _
    rw [hother j hj, floor]
    rcases eq_or_ne i w.attempt with rfl | hattempt
    · rw [hbootstrap rfl]
      rfl
    · rw [hother _ hattempt.symm]
  refine ⟨fun j => ?_, fun j => ?_, fun j => ?_, fun frame hframe seq hseq => ?_⟩
  · rcases eq_or_ne j i with rfl | hj
    · rw [hself, hhand]
      exact nofun
    · rw [hother j hj, Function.update_of_ne hj]
      exact h.hand_le j
  · rcases eq_or_ne j i with rfl | hj
    · rw [hself, hnew]
      exact nofun
    · rw [hother j hj]
      exact h.base_le j
  · rcases eq_or_ne j i with rfl | hj
    · rw [hself, hnew]
      exact nofun
    · rw [hother j hj, hfloor j hj, Function.update_of_ne hj]
      exact h.caught j
  · refine (h.waits frame hframe seq hseq).imp_right fun ⟨hevent, j, hreading, hle⟩ => ?_
    have hj : j ≠ i := by
      rintro rfl
      exact nomatch hold.symm.trans hreading
    refine ⟨hevent, j, ?_, ?_⟩
    · rwa [hother j hj]
    · rwa [Function.update_of_ne hj]

/-- A reader takes a frame into its hand. -/
theorem Caught.take (h : w.Caught handled) {i : ℕ} {connection : IpcConnection}
    (hreading : connection.reading = (w.connections i).reading)
    (hbase : connection.baseSeq = (w.connections i).baseSeq)
    (hle : handled i ≤ max (w.connections i).baseSeq w.mirror.currentTerminalSeq) :
    (w.setConnection i connection).Caught handled := by
  have hsame (j : ℕ) : ((w.setConnection i connection).connections j).reading =
        (w.connections j).reading ∧
      ((w.setConnection i connection).connections j).baseSeq = (w.connections j).baseSeq := by
    rcases eq_or_ne j i with rfl | hj
    · simpa only [setConnection, Function.update_self] using ⟨hreading, hbase⟩
    · simp only [setConnection, Function.update_of_ne hj, and_self]
  refine ⟨fun j hj => ?_, fun j hj => ?_, fun j hj seq hlt => ?_, fun frame hframe seq hseq => ?_⟩
  · rcases eq_or_ne j i with rfl | hne
    · rw [(hsame j).2]
      exact hle
    · simp only [setConnection, Function.update_of_ne hne] at hj ⊢
      exact h.hand_le j hj
  · rw [(hsame j).1] at hj
    rw [(hsame j).2]
    exact h.base_le j hj
  · rw [(hsame j).1] at hj
    rw [floor, (hsame _).2, (hsame _).2] at hlt
    exact h.caught j hj seq hlt
  · refine (h.waits frame hframe seq hseq).imp_right fun ⟨hevent, j, hj, hle⟩ => ?_
    exact ⟨hevent, j, (hsame j).1.trans hj, hle⟩

/-- A reader has dealt with one more event: it is in the mirror, or it waits. -/
theorem Caught.handle (h : w.Caught handled) {i : ℕ}
    (hother : ∀ j, j ≠ i → w'.connections j = w.connections j)
    (hold : (w.connections i).reading = true) (hreading : (w'.connections i).reading = true)
    (hhand : (w'.connections i).hand = none)
    (hbase : (w'.connections i).baseSeq = (w.connections i).baseSeq)
    (hlog : w'.log = w.log) (hattempt : w'.attempt = w.attempt) (hphase : w'.phase = w.phase)
    (hbootstrap : w'.bootstrap.isSome = w.bootstrap.isSome)
    (hcurrent : w.mirror.currentTerminalSeq ≤ w'.mirror.currentTerminalSeq)
    (hwaiting : ∀ frame ∈ w.waiting, frame ∈ w'.waiting)
    (hnew : handled i + 1 ≤ w'.mirror.currentTerminalSeq ∨
      ∃ frame ∈ w'.waiting, frame.terminalSeq = some (handled i + 1))
    (hwaits : ∀ frame ∈ w'.waiting, frame ∈ w.waiting ∨ IsEvent w.log (handled i + 1) frame) :
    w'.Caught (Function.update handled i (handled i + 1)) := by
  have hsame (j : ℕ) : (w'.connections j).reading = (w.connections j).reading ∧
      (w'.connections j).baseSeq = (w.connections j).baseSeq := by
    rcases eq_or_ne j i with rfl | hj
    · exact ⟨hreading.trans hold.symm, hbase⟩
    · rw [hother j hj]
      exact ⟨rfl, rfl⟩
  have hfloor (j : ℕ) : w'.floor j = w.floor j := by
    rw [floor, floor, hbootstrap, hattempt, (hsame _).2, (hsame _).2]
  have hhandled (j : ℕ) : handled j ≤ Function.update handled i (handled i + 1) j := by
    rcases eq_or_ne j i with rfl | hj
    · rw [Function.update_self]
      omega
    · rw [Function.update_of_ne hj]
  have hearlier (j : ℕ) (hj : (w'.connections j).reading = true) (seq : ℕ) (hlt : w'.floor j < seq)
      (hseq : w'.mirror.currentTerminalSeq < seq) (hle : seq ≤ handled j) :
      ∃ frame ∈ w'.waiting, frame.terminalSeq = some seq := by
    rw [(hsame j).1] at hj
    rw [hfloor j] at hlt
    obtain ⟨frame, hframe, heq⟩ := h.caught j hj seq hlt (hcurrent.trans_lt hseq) hle
    exact ⟨frame, hwaiting frame hframe, heq⟩
  refine ⟨fun j hj => ?_, fun j hj hboot => ?_, fun j hj seq hlt hseq hle => ?_,
    fun frame hframe seq hseq => ?_⟩
  · rcases eq_or_ne j i with rfl | hne
    · rw [hhand] at hj
      cases hj
    · rw [hother j hne] at hj ⊢
      rw [Function.update_of_ne hne]
      exact (h.hand_le j hj).trans (max_le_max_left _ hcurrent)
  · rw [(hsame j).1] at hj
    rw [hattempt, hphase] at hboot
    rw [(hsame j).2]
    exact (h.base_le j hj hboot).trans hcurrent
  · rcases eq_or_ne j i with rfl | hne
    · rw [Function.update_self] at hle
      rcases Nat.lt_or_ge (handled j) seq with hgt | hge
      · obtain rfl : seq = handled j + 1 := by omega
        exact hnew.resolve_left (Nat.not_le.mpr hseq)
      · exact hearlier j hj seq hlt hseq hge
    · rw [Function.update_of_ne hne] at hle
      exact hearlier j hj seq hlt hseq hle
  · rcases hwaits frame hframe with hframe | hevent
    · rcases h.waits frame hframe seq hseq with hle | ⟨hevent, j, hj, hle⟩
      · exact .inl (hle.trans hcurrent)
      · refine .inr ⟨hlog ▸ hevent, j, ?_, hle.trans (hhandled j)⟩
        rwa [(hsame j).1]
    · obtain rfl : seq = handled i + 1 := Option.some.inj (hseq.symm.trans hevent.terminalSeq_eq)
      refine .inr ⟨hlog ▸ hevent, i, hreading, ?_⟩
      rw [Function.update_self]

theorem waiting_of_isBootstrap (h : w.phase.isBootstrap = false) :
    w.waiting = w.bootstrap.getD [] := by
  rw [waiting]
  split
  · rename_i heq
    rw [heq] at h
    cases h
  · rfl

end Caught

section Invariant

variable (width : Char → Option (Fin 3)) (size : PtySize)

/-- **The invariant of every run**, where the reader of connection `i` has dealt with the events up to
`handled i`. -/
structure Invariant (handled : ℕ → ℕ) (w : IpcResume) : Prop where
  run_eq : exec (SupervisorTerminalCache.step width) (.new size) w.log = some w.state.terminal
  inStep : InStep width size w.log w.mirror w.pending w.accepted
  kept : ∀ i, (w.connections i).Kept w.log w.controllerId (w.registered i) (handled i)
  fresh : ∀ i, w.attempt < i → w.connections i = {} ∧ w.registered i = false
  caught : w.Caught handled
  phase_ok : PhaseOk width size w.log w.mirror.currentTerminalSeq w.bootstrap
    (w.connections w.attempt) w.phase

variable {width size} {w w' : IpcResume} {handled : ℕ → ℕ}

/-- A step on one connection that leaves the mirror alone. -/
theorem Invariant.update (h : w.Invariant width size handled) {i : ℕ} (hi : i ≤ w.attempt)
    {state : SupervisorState} {connection : IpcConnection} {n : ℕ}
    (hterminal : state.terminal = w.state.terminal)
    (hregistered : ∀ j, j ≠ i →
      (state.controllers w.controllerId).any (·.tx = j) = true → w.registered j = true)
    (hkept : connection.Kept w.log w.controllerId
      ((state.controllers w.controllerId).any (·.tx = i)) n)
    (hcaught : (setConnection { w with state } i connection).Caught (Function.update handled i n))
    (hphase : i = w.attempt → PhaseOk width size w.log w.mirror.currentTerminalSeq w.bootstrap
      connection w.phase) :
    (setConnection { w with state } i connection).Invariant width size
      (Function.update handled i n) := by
  have hself : (setConnection { w with state } i connection).connections i = connection :=
    Function.update_self ..
  have hother (j : ℕ) (hj : j ≠ i) : (setConnection { w with state } i connection).connections j =
      w.connections j := Function.update_of_ne hj ..
  refine ⟨h.run_eq.trans (congrArg some hterminal.symm), h.inStep, fun j => ?_, fun j hj => ?_,
    hcaught, ?_⟩
  · by_cases hj : j = i
    · subst hj
      rw [hself, Function.update_self]
      exact hkept
    · rw [hother j hj, Function.update_of_ne hj]
      exact (h.kept j).mono (hregistered j hj)
  · change w.attempt < j at hj
    have hne : j ≠ i := by omega
    obtain ⟨hdefault, hno⟩ := h.fresh j hj
    refine ⟨(hother j hne).trans hdefault, ?_⟩
    rw [← Bool.not_eq_true] at hno ⊢
    exact fun hyes => hno (hregistered j hne hyes)
  · change PhaseOk width size w.log _ w.bootstrap
      ((setConnection { w with state } i connection).connections w.attempt) w.phase
    rcases eq_or_ne i w.attempt with rfl | hattempt
    · rw [hself]
      exact hphase rfl
    · rw [hother _ hattempt.symm]
      exact h.phase_ok

/-- The supervisor passes something on. -/
theorem Invariant.supervise (h : w.Invariant width size handled) {i : ℕ} (hi : i ≤ w.attempt)
    {state : SupervisorState} {connection : IpcConnection}
    (hterminal : state.terminal = w.state.terminal)
    (hregistered : ∀ j, j ≠ i →
      (state.controllers w.controllerId).any (·.tx = j) = true → w.registered j = true)
    (hsame : connection.reading = (w.connections i).reading ∧
      connection.hand = (w.connections i).hand ∧ connection.baseSeq = (w.connections i).baseSeq)
    (hkept : connection.Kept w.log w.controllerId
      ((state.controllers w.controllerId).any (·.tx = i)) (handled i))
    (hphase : ∀ log current bootstrap phase,
      PhaseOk width size log current bootstrap (w.connections i) phase →
        PhaseOk width size log current bootstrap connection phase) :
    (setConnection { w with state } i connection).Invariant width size handled := by
  have hinvariant := h.update hi hterminal hregistered hkept ?_ ?_
  · rwa [Function.update_eq_self] at hinvariant
  · rw [Function.update_eq_self]
    refine h.caught.congr (fun j => ?_) (.inl rfl) (.inl ⟨rfl, rfl⟩) rfl rfl rfl
    by_cases hj : j = i
    · subst hj
      simpa only [setConnection, Function.update_self] using hsame
    · simp only [setConnection, Function.update_of_ne hj, and_self]
  · rintro rfl
    exact hphase _ _ _ _ h.phase_ok

/-! ### The steps of the supervisor -/

theorem Invariant.le_attempt (h : w.Invariant width size handled) {i : ℕ}
    (hne : w.connections i ≠ {}) : i ≤ w.attempt := by
  by_contra hlt
  exact hne (h.fresh i (by omega)).1

/-- Who is not removed was registered before. -/
theorem removeController_controllers {s : SupervisorState} {controller : ControllerIdentity} {id : ℕ}
    {handle : ControllerHandle}
    (h : (s.removeController controller).controllers id = some handle) :
    s.controllers id = some handle := by
  have hremoved : ∀ {controllers : ℕ → Option ControllerHandle},
      Function.update controllers controller.id none id = some handle →
        controllers id = some handle := by
    intro controllers hmem
    by_cases hid : id = controller.id
    · subst hid
      simp at hmem
    · rwa [Function.update_of_ne hid] at hmem
  simp only [SupervisorState.removeController] at h
  split_ifs at h
  · exact hremoved h
  · exact hremoved h
  · exact h
  · exact h

theorem leave_terminal (connection : IpcConnection) :
    (w.leave connection).terminal = w.state.terminal := by
  rw [leave]
  split
  · rfl
  · dsimp only
    split
    · rfl
    · exact SupervisorState.removeController_terminal _

theorem leave_registered {connection : IpcConnection} {j : ℕ}
    (h : ((w.leave connection).controllers w.controllerId).any (·.tx = j) = true) :
    w.registered j = true := by
  obtain ⟨handle, hhandle, htx⟩ := (Option.any_eq_true ..).mp h
  refine (Option.any_eq_true ..).mpr ⟨handle, ?_, htx⟩
  rw [leave] at hhandle
  split at hhandle
  · exact hhandle
  · dsimp only at hhandle
    split at hhandle
    · exact hhandle
    · exact removeController_controllers hhandle

theorem Invariant.closeConnection (h : w.Invariant width size handled) {i : ℕ} (hi : i ≤ w.attempt) :
    (w.closeConnection i).Invariant width size handled :=
  h.supervise hi (leave_terminal _) (fun _ _ => leave_registered) ⟨rfl, rfl, rfl⟩
    ((h.kept i).close leave_registered) fun _ _ _ _ hok =>
      hok.pass rfl rfl rfl fun _ _ hawaits => hawaits.close _

theorem Invariant.forward (h : w.Invariant width size handled) {i : ℕ}
    (hstep : step width w (.forward i) = some w') : w'.Invariant width size handled := by
  simp only [step] at hstep
  split at hstep
  · cases hstep
  split at hstep
  · cases hstep
  rename_i frame rx hrecv
  have hvalues := BoundedOutput.recv_eq_some hrecv
  have hi : i ≤ w.attempt := h.le_attempt fun hdefault => by
    rw [hdefault] at hrecv
    cases hrecv
  split at hstep <;> cases hstep
  · refine h.supervise hi rfl (fun _ _ hyes => hyes) ⟨rfl, rfl, rfl⟩ ?_ fun _ _ _ _ hok =>
      hok.pass rfl rfl rfl fun _ _ hawaits => hawaits.congr rfl rfl rfl rfl rfl rfl
    refine (h.kept i).pass ?_ (BoundedOutput.recv_receiver hrecv) rfl rfl rfl rfl rfl
    simp [IpcConnection.stream, hvalues]
  · exact h.closeConnection hi

theorem Invariant.write (h : w.Invariant width size handled) {i : ℕ}
    (hstep : step width w (.write i) = some w') : w'.Invariant width size handled := by
  simp only [step] at hstep
  split at hstep
  · cases hstep
  rename_i hclosed
  rw [Bool.not_eq_true] at hclosed
  split at hstep <;> cases hstep
  · rename_i response control hcontrol
    refine h.supervise (h.le_attempt fun hdefault => ?_) rfl (fun _ _ hyes => hyes) ⟨rfl, rfl, rfl⟩ ?_
      fun _ _ _ _ hok => hok.pass rfl rfl rfl fun _ _ hawaits => hawaits.write_control hcontrol
    · rw [hdefault] at hcontrol
      cases hcontrol
    · refine (h.kept i).pass ?_ rfl rfl rfl rfl rfl rfl
      simp [IpcConnection.stream, List.filterMap_cons]
  · rename_i frame data hcontrol hdata
    refine h.supervise (h.le_attempt fun hdefault => ?_) rfl (fun _ _ hyes => hyes) ⟨rfl, rfl, rfl⟩ ?_
      fun _ _ _ _ hok => hok.pass rfl rfl rfl fun _ _ hawaits =>
        hawaits.write_data (h.kept i) hclosed hcontrol hdata
    · rw [hdefault] at hdata
      cases hdata
    · refine (h.kept i).pass ?_ rfl rfl rfl rfl rfl rfl
      simp [IpcConnection.stream, hdata]

/-- What handling a request can do. -/
theorem handle_cases (w : IpcResume) (i : ℕ) (processId : Option ℕ) (c : IpcConnection)
    (request : ResumeRequest) :
    let result := w.handle i processId c request
    (result.1 = w.state ∧ result.2.1 = c ∧ (∀ sync, result.2.2 ≠ .attachSync sync) ∧
        ∀ controller, result.2.2 ≠ .controllerResumeStatus controller) ∨
      (request = .attachSync ∧ c.controllerIdentity = none ∧ ∃ identity sync,
        identity.id = w.controllerId ∧ result.1.terminal = w.state.terminal ∧
        result.1.controllers = w.state.controllers ∧
        (sync.baseSeq, sync.frames) = w.state.terminal.terminalSnapshotOrTail none ∧
        result.2.1 = { c with
          pendingResumeIdentity := some identity, baseSeq := sync.baseSeq, rx := c.rx.drained } ∧
        result.2.2 = .attachSync sync) ∨
      request = .commitControllerResume ∧ ∃ candidate committed handle,
        c.pendingResumeIdentity = some candidate ∧ result.1.terminal = w.state.terminal ∧
        handle.tx = i ∧
        result.1.controllers = Function.update w.state.controllers candidate.id (some handle) ∧
        result.2.1 = { c with
          controllerIdentity := some committed, pendingResumeIdentity := none
          committedResumeTransactionId := some w.transactionId } ∧
        result.2.2 = .controllerResumeStatus committed := by
  intro result
  cases request with
  | attachSync =>
    simp only [result, handle]
    split
    · exact .inl ⟨rfl, rfl, nofun, nofun⟩
    rename_i hidentity
    split
    · exact .inl ⟨rfl, rfl, nofun, nofun⟩
    split
    · exact .inl ⟨rfl, rfl, nofun, nofun⟩
    rename_i state identity sync hresume
    rw [SupervisorState.resumeAttachSync] at hresume
    split_ifs at hresume
    cases hresume
    exact .inr (.inl ⟨trivial, by simpa using hidentity, _, _, rfl, rfl, rfl, rfl, rfl, rfl⟩)
  | ping =>
    simp only [result, handle]
    split <;> exact .inl ⟨rfl, rfl, nofun, nofun⟩
  | snapshot =>
    simp only [result, handle]
    split <;> exact .inl ⟨rfl, rfl, nofun, nofun⟩
  | commitControllerResume =>
    simp only [result, handle]
    split
    · exact .inl ⟨rfl, rfl, nofun, nofun⟩
    rename_i candidate hcandidate
    split
    · exact .inl ⟨rfl, rfl, nofun, nofun⟩
    rename_i state committed hcommit
    rw [SupervisorState.commitControllerResume] at hcommit
    split at hcommit
    · rename_i earlier _
      split at hcommit <;> cases hcommit
      rename_i hid
      rw [not_not] at hid
      refine .inr (.inr ⟨trivial, candidate, committed, ⟨i, committed.connectionId⟩, hcandidate, rfl, rfl,
        ?_, rfl, rfl⟩)
      rw [← hid]
      rfl
    · split at hcommit <;> cases hcommit
      exact .inr (.inr ⟨trivial, candidate, candidate, ⟨i, candidate.connectionId⟩, hcandidate, rfl, rfl,
        rfl, rfl, rfl⟩)

/-- **The steps after which nothing is missing**: a lease is resumed at the event of the snapshot, and
a reader applies an event only when the snapshot is in place. -/
def Gapless (w : IpcResume) : ResumeOp → Prop
  | .serve i _ => (w.connections i).request = some .commitControllerResume →
      w.log.length = (w.connections i).baseSeq
  | .apply i => (w.connections i).baseSeq ≤ w.mirror.currentTerminalSeq
  | _ => True

instance decidableGapless (w : IpcResume) : ∀ op, Decidable (w.Gapless op)
  | .serve i _ => inferInstanceAs (Decidable ((w.connections i).request = some _ → _))
  | .apply i => inferInstanceAs (Decidable ((w.connections i).baseSeq ≤ _))
  | .record _ | .forward _ | .write _ | .close _ | .reconnect _ | .connect | .receive | .fail | .start
  | .buffer | .seed | .seedNext | .read _ | .consume => .isTrue trivial

/-- The connection is told where the supervisor is. -/
theorem Invariant.sync (h : w.Invariant width size handled) {i : ℕ} (hi : i ≤ w.attempt)
    {state : SupervisorState} (hterminal : state.terminal = w.state.terminal)
    (hcontrollers : state.controllers = w.state.controllers)
    (hrequest : (w.connections i).request = some .attachSync)
    (hidentity : (w.connections i).controllerIdentity = none) {identity : ControllerIdentity}
    (hid : identity.id = w.controllerId) {sync : SupervisorAttachSyncPayload}
    (hanswer : (sync.baseSeq, sync.frames) = w.state.terminal.terminalSnapshotOrTail none) :
    (setConnection { w with state } i
      { w.connections i with
        pendingResumeIdentity := some identity, baseSeq := sync.baseSeq
        rx := (w.connections i).rx.drained, request := none
        control := (w.connections i).control ++ [.attachSync sync] }).Invariant width size
          (Function.update handled i w.log.length) := by
  have hbase : sync.baseSeq = w.log.length := by
    obtain ⟨c, hc, hexact⟩ := SupervisorTerminalCache.exact_of_run width size w.log
    obtain rfl : c = w.state.terminal := Option.some.inj (hc.symm.trans h.run_eq)
    rw [← hexact.current_eq none, ← hanswer]
  have hsync : SyncOk width size w.log sync.baseSeq sync := by
    refine ⟨rfl, hbase.le, w.state.terminal, ?_, ?_⟩
    · rw [hbase, List.take_length]
      exact h.run_eq
    · rw [(Prod.mk.inj hanswer).1, (Prod.mk.inj hanswer).2]
      rfl
  have hnotreading : (w.connections i).reading = false := ((h.kept i).uncommitted hidentity).2.2
  have hkept := (h.kept i).sync hidentity hid
  rw [← hbase] at hkept ⊢
  have hregistered : (state.controllers w.controllerId).any (·.tx = i) = w.registered i := by
    rw [hcontrollers]
    rfl
  refine h.update hi hterminal (fun j _ hyes => ?_) ?_ ?_ ?_
  · rwa [hcontrollers] at hyes
  · rw [hregistered]
    exact hkept.pass rfl rfl rfl rfl rfl rfl rfl
  · refine h.caught.unread hnotreading hnotreading ((h.kept i).unread hnotreading).1 ?_
    rintro rfl
    exact h.phase_ok.bootstrap_eq_none hidentity
  · rintro rfl
    exact h.phase_ok.serve_sync hrequest hidentity hsync

/-- The connection gets the lease. -/
theorem Invariant.commit (h : w.Invariant width size handled) {i : ℕ} (hi : i ≤ w.attempt)
    {state : SupervisorState} (hterminal : state.terminal = w.state.terminal)
    (hrequest : (w.connections i).request = some .commitControllerResume)
    (hbase : w.log.length = (w.connections i).baseSeq) {candidate committed : ControllerIdentity}
    {handle : ControllerHandle} (htx : handle.tx = i)
    (hcandidate : (w.connections i).pendingResumeIdentity = some candidate)
    (hcontrollers : state.controllers =
      Function.update w.state.controllers candidate.id (some handle)) :
    (setConnection { w with state } i
      { w.connections i with
        controllerIdentity := some committed, pendingResumeIdentity := none
        committedResumeTransactionId := some w.transactionId, request := none
        control := (w.connections i).control ++ [.controllerResumeStatus committed] }).Invariant
          width size handled := by
  obtain ⟨hidentity, hid⟩ := (h.kept i).candidate candidate hcandidate
  have hhandle : state.controllers w.controllerId = some handle := by
    rw [hcontrollers, ← hid, Function.update_self]
  have hregistered : (state.controllers w.controllerId).any (·.tx = i) = true := by
    simp [hhandle, htx]
  refine h.supervise hi hterminal (fun j hj hyes => ?_) ⟨rfl, rfl, rfl⟩ ?_ fun _ _ _ _ hok =>
    hok.serve_commit hrequest hidentity
  · simp [hhandle, htx, hj.symm] at hyes
  · rw [hregistered]
    have hkept := (h.kept i).commit hcandidate hbase committed (some w.transactionId)
    exact hkept.pass rfl rfl rfl rfl rfl rfl rfl

theorem Invariant.serve (h : w.Invariant width size handled) {i : ℕ} {processId : Option ℕ}
    (hgapless : w.Gapless (.serve i processId))
    (hstep : step width w (.serve i processId) = some w') :
    ∃ handled', w'.Invariant width size handled' := by
  simp only [step] at hstep
  split at hstep <;> cases hstep
  rename_i request hrequest _
  have hi : i ≤ w.attempt := h.le_attempt fun hdefault => by
    rw [hdefault] at hrequest
    cases hrequest
  rcases w.handle_cases i processId (w.connections i) request with
    ⟨hstate, hsame, hsync, hcommit⟩ |
    ⟨rfl, hidentity, identity, sync, hid, hterminal, hcontrollers, hanswer, hsame, hresponse⟩ |
    ⟨rfl, candidate, committed, handle, hcandidate, hterminal, htx, hcontrollers, hsame, hresponse⟩
  · refine ⟨handled, ?_⟩
    rw [hstate, hsame]
    refine h.supervise hi rfl (fun _ _ hyes => hyes) ⟨rfl, rfl, rfl⟩ ?_ fun _ _ _ _ hok =>
      hok.serve hrequest hsync hcommit
    exact (h.kept i).pass rfl rfl rfl rfl rfl rfl rfl
  · refine ⟨Function.update handled i w.log.length, ?_⟩
    rw [hsame, hresponse]
    exact h.sync hi hterminal hcontrollers hrequest hidentity hid hanswer
  · refine ⟨handled, ?_⟩
    rw [hsame, hresponse]
    exact h.commit hi hterminal hrequest (hgapless hrequest) htx hcandidate hcontrollers

/-- An event is recorded, and at most one queue changes. -/
theorem Invariant.recorded (h : w.Invariant width size handled) {op : CacheOp}
    {state : SupervisorState} {i : ℕ} (hi : i ≤ w.attempt) {rx : BoundedOutput PtyTerminalFrame}
    (hrun : exec (SupervisorTerminalCache.step width) (.new size) (w.log ++ [op]) =
      some state.terminal)
    (hkept : IpcConnection.Kept (w.log ++ [op]) w.controllerId
      ((state.controllers w.controllerId).any (·.tx = i)) (handled i) { w.connections i with rx })
    (hothers : ∀ j, j ≠ i → (state.controllers w.controllerId).any (·.tx = j) = false) :
    (setConnection { w with state, log := w.log ++ [op] } i
      { w.connections i with rx }).Invariant width size handled := by
  set next := setConnection { w with state, log := w.log ++ [op] } i { w.connections i with rx }
    with hnext
  have hself : next.connections i = { w.connections i with rx } := Function.update_self ..
  have hother (j : ℕ) (hj : j ≠ i) : next.connections j = w.connections j :=
    Function.update_of_ne hj ..
  refine ⟨hrun, h.inStep.snoc op, fun j => ?_, fun j hj => ?_,
    h.caught.congr (fun j => ?_) (.inr ⟨op, rfl⟩) (.inl ⟨rfl, rfl⟩) rfl rfl rfl, ?_⟩
  · rcases eq_or_ne j i with rfl | hj
    · rw [hself]
      exact hkept
    · rw [hother j hj]
      refine ((h.kept j).snoc op).mono fun hyes => ?_
      exact nomatch (hothers j hj).symm.trans hyes
  · change w.attempt < j at hj
    have hne : j ≠ i := by omega
    exact ⟨(hother j hne).trans (h.fresh j hj).1, hothers j hne⟩
  · rcases eq_or_ne j i with rfl | hj
    · rw [hself]
      exact ⟨rfl, rfl, rfl⟩
    · rw [hother j hj]
      exact ⟨rfl, rfl, rfl⟩
  · change PhaseOk width size (w.log ++ [op]) w.mirror.currentTerminalSeq w.bootstrap
      (next.connections w.attempt) w.phase
    have hok := h.phase_ok.mono (.inr ⟨op, rfl⟩) le_rfl
    rcases eq_or_ne i w.attempt with rfl | hattempt
    · rw [hself]
      exact hok.pass rfl rfl rfl fun _ _ hawaits => hawaits.congr rfl rfl rfl rfl rfl rfl
    · rwa [hother _ hattempt.symm]

theorem removeController_controllers_self {s : SupervisorState} {id : ℕ} {handle : ControllerHandle}
    (h : s.controllers id = some handle) :
    (s.removeController ⟨id, handle.connectionId⟩).controllers id = none := by
  simp only [SupervisorState.removeController, h, Option.any_some, decide_true, if_true]
  split_ifs <;> simp

theorem Invariant.record (h : w.Invariant width size handled) {op : CacheOp}
    (hstep : step width w (.record op) = some w') : w'.Invariant width size handled := by
  simp only [step, Option.bind_eq_bind, Option.bind_eq_some_iff, Option.pure_def,
    Option.some.injEq] at hstep
  obtain ⟨⟨state, frame⟩, hrecord, rfl⟩ := hstep
  have hcall := SupervisorState.record_eq_some hrecord
  have hcontrollers := SupervisorState.record_controllers hrecord
  have hframe : frame = (op.event (w.log.length + 1)).toTerminalFrame := by
    obtain ⟨c, hc, hfollows⟩ := SupervisorTerminalCache.follows_of_run width size w.log
    obtain rfl : c = w.state.terminal := Option.some.inj (hc.symm.trans h.run_eq)
    obtain ⟨r, hr, -, hr₂⟩ := hfollows.call op
    rw [← hr₂, Option.some.inj (hr.symm.trans hcall)]
  have hrun : exec (SupervisorTerminalCache.step width) (.new size) (w.log ++ [op]) =
      some state.terminal := by
    rw [exec_snoc, h.run_eq, Option.bind_some, SupervisorTerminalCache.step, hcall]
    rfl
  simp only [broadcastTerminalFrame]
  split
  · -- nobody is registered
    rename_i hnone
    have hkept : (w.connections w.attempt).Kept (w.log ++ [op]) w.controllerId
        ((state.controllers w.controllerId).any (·.tx = w.attempt)) (handled w.attempt) := by
      rw [hnone]
      exact (h.kept w.attempt).snoc op
    have hinvariant := h.recorded le_rfl hrun hkept fun j _ => by rw [hnone]; rfl
    rwa [setConnection, Function.update_eq_self] at hinvariant
  · rename_i handle hhandle
    have hregistered : w.registered handle.tx = true := by
      rw [registered, ← hcontrollers, hhandle]
      simp
    have hi : handle.tx ≤ w.attempt := by
      by_contra hlt
      rw [(h.fresh handle.tx (by omega)).2] at hregistered
      cases hregistered
    have hkept := h.kept handle.tx
    rcases (w.connections handle.tx).rx.trySend_cases frame frame.retainedBytes with
      ⟨hsent, hvalues⟩ | ⟨hrefused, hvalues⟩
    · rw [if_pos hsent]
      have hreceiver := BoundedOutput.receiver_of_trySend hsent
      refine h.recorded hi hrun ?_ fun j hj => by rw [hhandle]; simpa using hj.symm
      rw [hregistered] at hkept
      rw [hhandle, Option.any_some, decide_eq_true rfl]
      exact hkept.sent op hreceiver (hframe ▸ hvalues)
    · rw [if_neg (by simp [hrefused])]
      have hnone := removeController_controllers_self hhandle
      have hrun' : exec (SupervisorTerminalCache.step width) (.new size) (w.log ++ [op]) =
          some (state.removeController ⟨w.controllerId, handle.connectionId⟩).terminal := by
        rw [SupervisorState.removeController_terminal]
        exact hrun
      have hkept' : IpcConnection.Kept (w.log ++ [op]) w.controllerId
          (((state.removeController ⟨w.controllerId, handle.connectionId⟩).controllers
            w.controllerId).any (·.tx = handle.tx)) (handled handle.tx)
          { w.connections handle.tx with
            rx := ((w.connections handle.tx).rx.trySend frame frame.retainedBytes).1 } := by
        rw [hnone]
        exact hkept.refused op hvalues
      have hinvariant := h.recorded hi hrun' hkept' fun j _ => by rw [hnone]; rfl
      exact hinvariant

/-! ### The steps of the resuming thread -/

/-- The resuming thread goes on, and no reader is concerned. -/
theorem Invariant.proceed (h : w.Invariant width size handled) {phase : ResumePhase}
    {connection : IpcConnection}
    (hsame : connection.reading = (w.connections w.attempt).reading ∧
      connection.hand = (w.connections w.attempt).hand ∧
      connection.baseSeq = (w.connections w.attempt).baseSeq)
    (hkept : connection.Kept w.log w.controllerId (w.registered w.attempt) (handled w.attempt))
    (hold : w.phase.isBootstrap = false) (hnew : phase.isBootstrap = false)
    (hok : PhaseOk width size w.log w.mirror.currentTerminalSeq w.bootstrap connection phase) :
    (setConnection { w with phase } w.attempt connection).Invariant width size handled := by
  set next := setConnection { w with phase } w.attempt connection with hnext
  have hself : next.connections w.attempt = connection := Function.update_self ..
  have hother (j : ℕ) (hj : j ≠ w.attempt) : next.connections j = w.connections j :=
    Function.update_of_ne hj ..
  have hwaiting : next.waiting = w.waiting := by
    rw [waiting_of_isBootstrap hnew, waiting_of_isBootstrap hold]
    rfl
  refine ⟨h.run_eq, h.inStep, fun j => ?_, fun j hj => ?_,
    h.caught.congr (fun j => ?_) (.inl rfl) (.inl ⟨rfl, hnew.trans hold.symm⟩) hwaiting rfl rfl, ?_⟩
  · rcases eq_or_ne j w.attempt with rfl | hj
    · rw [hself]
      exact hkept
    · rw [hother j hj]
      exact h.kept j
  · change w.attempt < j at hj
    rw [hother j (by omega)]
    exact h.fresh j hj
  · rcases eq_or_ne j w.attempt with rfl | hj
    · rw [hself]
      exact hsame
    · rw [hother j hj]
      exact ⟨rfl, rfl, rfl⟩
  · change PhaseOk width size w.log w.mirror.currentTerminalSeq w.bootstrap
      (next.connections w.attempt) phase
    rwa [hself]

/-- The attempt is given up, or another one is begun. -/
theorem Invariant.rest (h : w.Invariant width size handled) (hold : w.phase.isBootstrap = false)
    (hbootstrap : w.bootstrap = none) (transactionId : ℕ) :
    ({ w with phase := .idle, transactionId } : IpcResume).Invariant width size handled := by
  have hwaiting : ({ w with phase := .idle, transactionId } : IpcResume).waiting = w.waiting := by
    rw [waiting_of_isBootstrap hold]
    rfl
  exact ⟨h.run_eq, h.inStep, h.kept, h.fresh, h.caught.congr (fun _ => ⟨rfl, rfl, rfl⟩) (.inl rfl)
    (.inr ⟨hbootstrap, hold⟩) hwaiting rfl rfl, hbootstrap⟩

theorem Invariant.connect (h : w.Invariant width size handled) (hphase : w.phase = .idle) :
    (setConnection { w with phase := .sync, attempt := w.attempt + 1 } (w.attempt + 1)
      { request := some .attachSync }).Invariant width size handled := by
  have hold : w.phase.isBootstrap = false := by rw [hphase]; rfl
  have hbootstrap : w.bootstrap = none := by
    have hok := h.phase_ok
    rwa [hphase] at hok
  obtain ⟨hdefault, hno⟩ := h.fresh (w.attempt + 1) (Nat.lt_succ_self _)
  set next := setConnection { w with phase := .sync, attempt := w.attempt + 1 } (w.attempt + 1)
    { request := some .attachSync } with hnext
  have hself : next.connections (w.attempt + 1) = { request := some .attachSync } :=
    Function.update_self ..
  have hother (j : ℕ) (hj : j ≠ w.attempt + 1) : next.connections j = w.connections j :=
    Function.update_of_ne hj ..
  have hsame (j : ℕ) : (next.connections j).reading = (w.connections j).reading ∧
      (next.connections j).hand = (w.connections j).hand ∧
      (next.connections j).baseSeq = (w.connections j).baseSeq := by
    rcases eq_or_ne j (w.attempt + 1) with rfl | hj
    · rw [hself, hdefault]
      exact ⟨rfl, rfl, rfl⟩
    · rw [hother j hj]
      exact ⟨rfl, rfl, rfl⟩
  have hwaiting : next.waiting = w.waiting := by
    rw [waiting_of_isBootstrap hold]
    rfl
  have hok : PhaseOk width size w.log w.mirror.currentTerminalSeq w.bootstrap
      (next.connections (w.attempt + 1)) .sync := by
    rw [hself]
    exact ⟨hbootstrap, rfl, rfl, .inl ⟨rfl, rfl, rfl, rfl⟩⟩
  refine ⟨h.run_eq, h.inStep, fun j => ?_, fun j hj => ?_,
    h.caught.congr hsame (.inl rfl) (.inr ⟨hbootstrap, hold⟩) hwaiting rfl rfl, hok⟩
  · rcases eq_or_ne j (w.attempt + 1) with rfl | hj
    · have hkept := h.kept (w.attempt + 1)
      rw [hdefault] at hkept
      rw [hself]
      exact hkept.pass rfl rfl rfl rfl rfl rfl rfl
    · rw [hother j hj]
      exact h.kept j
  · change w.attempt + 1 < j at hj
    rw [hother j (by omega)]
    exact h.fresh j (by omega)

/-- The answer was read, and the next request is sent on a connection without events. -/
theorem Invariant.sendRequest (h : w.Invariant width size handled)
    {response : ResumeResponse} {frames : List PtyTerminalFrame}
    (hsocket : (w.connections w.attempt).socket = .response response :: frames.map .terminalFrame)
    (hcontrol : (w.connections w.attempt).control = [])
    (hreading : (w.connections w.attempt).reading = false)
    (hidentity : (w.connections w.attempt).controllerIdentity = none)
    (hold : w.phase.isBootstrap = false) {phase : ResumePhase} {request : ResumeRequest}
    (hnew : phase.isBootstrap = false)
    (hok : ∀ c : IpcConnection, c.controllerIdentity = none →
      c.baseSeq = (w.connections w.attempt).baseSeq → (∀ Expected, c.Awaits request Expected) →
        PhaseOk width size w.log w.mirror.currentTerminalSeq w.bootstrap c phase) :
    (w.sendRequest (frames.map .terminalFrame) phase request).Invariant width size handled := by
  have hkept := h.kept w.attempt
  have hframes : frames = [] := by
    have hnil := (hkept.uncommitted hidentity).1
    simp only [IpcConnection.stream, hsocket, List.append_eq_nil_iff] at hnil
    simpa [List.filterMap_cons, List.filterMap_map, Function.comp_def] using hnil.2.1
  subst hframes
  refine h.proceed ⟨rfl, rfl, rfl⟩ (hkept.pass ?_ rfl rfl rfl rfl rfl rfl) hold hnew
    (hok _ hidentity rfl fun Expected => ⟨hreading, .inl ⟨rfl, hcontrol, rfl, hidentity⟩⟩)
  simp [IpcConnection.stream, hsocket, List.filterMap_cons]

/-- The answer was read, and nothing is sent. -/
theorem Invariant.answered (h : w.Invariant width size handled)
    {response : ResumeResponse} {socket : List SupervisorFrame}
    (hsocket : (w.connections w.attempt).socket = .response response :: socket)
    (hold : w.phase.isBootstrap = false) {phase : ResumePhase} (hnew : phase.isBootstrap = false)
    (hok : ∀ c : IpcConnection, c.controllerIdentity = (w.connections w.attempt).controllerIdentity →
      c.baseSeq = (w.connections w.attempt).baseSeq →
      c.reading = (w.connections w.attempt).reading →
        PhaseOk width size w.log w.mirror.currentTerminalSeq w.bootstrap c phase) :
    ({ w.setConnection w.attempt { w.connections w.attempt with socket } with
      phase } : IpcResume).Invariant width size handled := by
  change (setConnection { w with phase } w.attempt
    { w.connections w.attempt with socket }).Invariant width size handled
  refine h.proceed ⟨rfl, rfl, rfl⟩ ((h.kept w.attempt).pass ?_ rfl rfl rfl rfl rfl rfl) hold hnew
    (hok _ rfl rfl rfl)
  simp [IpcConnection.stream, hsocket, List.filterMap_cons]

theorem Invariant.receive (h : w.Invariant width size handled) (hstep : w.receive = some w') :
    w'.Invariant width size handled := by
  have hok := h.phase_ok
  rw [IpcResume.receive] at hstep
  split at hstep
  · cases hstep
  rename_i frame socket hsocket
  cases hphase : w.phase with
  | sync =>
    have hold : w.phase.isBootstrap = false := by rw [hphase]; rfl
    rw [hphase] at hok
    obtain ⟨hbootstrap, hidentity, hawaits⟩ := hok
    obtain ⟨response, frames, hexpected, rfl, rfl, -, hcontrol⟩ := hawaits.receive hsocket
    cases response <;> simp only [hphase] at hstep
    case attachSync sync =>
      cases hstep
      exact h.sendRequest hsocket hcontrol hawaits.reading_eq hidentity hold rfl
        fun c hc hbase hawaits => ⟨hbootstrap, hc, hbase ▸ hexpected sync rfl, hawaits _⟩
    all_goals
      cases hstep
      exact h.answered hsocket hold rfl fun _ _ _ _ => hbootstrap
  | ping sync =>
    have hold : w.phase.isBootstrap = false := by rw [hphase]; rfl
    rw [hphase] at hok
    obtain ⟨hbootstrap, hidentity, hsync, hawaits⟩ := hok
    obtain ⟨response, frames, -, rfl, rfl, -, hcontrol⟩ := hawaits.receive hsocket
    cases response <;> simp only [hphase] at hstep
    case empty =>
      cases hstep
      exact h.sendRequest hsocket hcontrol hawaits.reading_eq hidentity hold rfl
        fun c hc hbase hawaits => ⟨hbootstrap, hc, hbase ▸ hsync, hawaits _⟩
    all_goals
      cases hstep
      exact h.answered hsocket hold rfl fun _ _ _ _ => hbootstrap
  | snapshot sync =>
    have hold : w.phase.isBootstrap = false := by rw [hphase]; rfl
    rw [hphase] at hok
    obtain ⟨hbootstrap, hidentity, hsync, hawaits⟩ := hok
    obtain ⟨response, frames, -, rfl, rfl, -, hcontrol⟩ := hawaits.receive hsocket
    cases response <;> simp only [hphase] at hstep
    case snapshot snapshot =>
      cases hstep
      exact h.sendRequest hsocket hcontrol hawaits.reading_eq hidentity hold rfl
        fun c hc hbase hawaits => ⟨hbootstrap, hbase ▸ hsync, hawaits _⟩
    all_goals
      cases hstep
      exact h.answered hsocket hold rfl fun _ _ _ _ => hbootstrap
  | commit sync =>
    have hold : w.phase.isBootstrap = false := by rw [hphase]; rfl
    rw [hphase] at hok
    obtain ⟨hbootstrap, hsync, hawaits⟩ := hok
    obtain ⟨response, frames, hexpected, rfl, rfl, -, -⟩ := hawaits.receive hsocket
    cases response <;> simp only [hphase] at hstep
    case controllerResumeStatus controller =>
      cases hstep
      refine h.answered hsocket hold rfl fun c hc hbase hreading => ?_
      exact ⟨hbootstrap, hbase ▸ hsync, hc ▸ hexpected controller rfl,
        hreading.trans hawaits.reading_eq⟩
    all_goals
      cases hstep
      exact h.answered hsocket hold rfl fun _ _ _ _ => hbootstrap
  | idle => simp [hphase] at hstep
  | committed sync => simp [hphase] at hstep
  | started sync => simp [hphase] at hstep
  | buffering sync => simp [hphase] at hstep
  | seeding todo => simp [hphase] at hstep
  | done => simp [hphase] at hstep

theorem Invariant.start (h : w.Invariant width size handled) {sync : SupervisorAttachSyncPayload}
    (hphase : w.phase = .committed sync) :
    (setConnection { w with phase := .started sync } w.attempt
      { w.connections w.attempt with reading := true }).Invariant width size handled := by
  have hok := h.phase_ok
  rw [hphase] at hok
  obtain ⟨hbootstrap, hsync, hidentity, hreading⟩ := hok
  obtain ⟨hhand, hhandled⟩ := (h.kept w.attempt).unread hreading
  set next := setConnection { w with phase := .started sync } w.attempt
    { w.connections w.attempt with reading := true } with hnext
  have hself : next.connections w.attempt = { w.connections w.attempt with reading := true } :=
    Function.update_self ..
  have hother (j : ℕ) (hj : j ≠ w.attempt) : next.connections j = w.connections j :=
    Function.update_of_ne hj ..
  have hsame (j : ℕ) : (next.connections j).hand = (w.connections j).hand ∧
      (next.connections j).baseSeq = (w.connections j).baseSeq := by
    rcases eq_or_ne j w.attempt with rfl | hj
    · rw [hself]
      exact ⟨rfl, rfl⟩
    · rw [hother j hj]
      exact ⟨rfl, rfl⟩
  have hwaiting : next.waiting = w.waiting := by
    rw [waiting_of_isBootstrap (w := w) (by rw [hphase]; rfl)]
    rfl
  have hfloor (j : ℕ) : next.floor j = w.floor j := by
    rw [floor, floor, (hsame j).2, (hsame _).2]
    rfl
  have hreads (j : ℕ) (hj : (w.connections j).reading = true) :
      (next.connections j).reading = true := by
    rcases eq_or_ne j w.attempt with rfl | hne
    · rw [hself]
    · rwa [hother j hne]
  have hok : PhaseOk width size w.log w.mirror.currentTerminalSeq w.bootstrap
      (next.connections w.attempt) (.started sync) := by
    rw [hself]
    exact ⟨hbootstrap, hsync, hidentity⟩
  refine ⟨h.run_eq, h.inStep, fun j => ?_, fun j hj => ?_, ⟨fun j => ?_, fun j hj hattempt => ?_,
    fun j hj seq hlt => ?_, fun frame hframe seq hseq => ?_⟩, hok⟩
  · rcases eq_or_ne j w.attempt with rfl | hj
    · rw [hself]
      exact (h.kept w.attempt).start hidentity
    · rw [hother j hj]
      exact h.kept j
  · change w.attempt < j at hj
    rw [hother j (by omega)]
    exact h.fresh j hj
  · rw [(hsame j).1, (hsame j).2]
    exact h.caught.hand_le j
  · have hne : j ≠ w.attempt := fun heq => nomatch hattempt heq
    rw [hother j hne] at hj ⊢
    exact h.caught.base_le j hj fun heq => absurd heq hne
  · rw [hfloor j] at hlt
    rcases eq_or_ne j w.attempt with rfl | hne
    · -- the reader has dealt with nothing yet
      rw [floor, hbootstrap, Option.isSome_none] at hlt
      intro _ hle
      rw [hhandled] at hle
      exact absurd hle (Nat.not_le.mpr hlt)
    · rw [hwaiting]
      rw [hother j hne] at hj
      exact h.caught.caught j hj seq hlt
  · rw [hwaiting] at hframe
    refine (h.caught.waits frame hframe seq hseq).imp_right fun ⟨hevent, j, hj, hle⟩ => ?_
    exact ⟨hevent, j, hreads j hj, hle⟩

theorem Invariant.buffer (h : w.Invariant width size handled) {sync : SupervisorAttachSyncPayload}
    (hphase : w.phase = .started sync) :
    ({ w with bootstrap := some [], phase := .buffering sync } : IpcResume).Invariant
      width size handled := by
  have hok := h.phase_ok
  rw [hphase] at hok
  obtain ⟨hbootstrap, hsync, hidentity⟩ := hok
  have hwaiting : w.waiting = [] := by
    rw [waiting, hphase, hbootstrap]
    rfl
  refine ⟨h.run_eq, h.inStep, h.kept, h.fresh, ⟨h.caught.hand_le, fun j hj hattempt => ?_,
    fun j hj seq hlt hcurrent hle => ?_, nofun⟩, ⟨[], rfl, nofun⟩, hsync, hidentity⟩
  · exact h.caught.base_le j hj fun heq => nomatch hattempt heq
  · -- nothing waited before, so that every other reader has caught up
    have hnone : ¬w.floor j < seq := by
      intro hfloor
      obtain ⟨frame, hframe, -⟩ := h.caught.caught j hj seq hfloor hcurrent hle
      rw [hwaiting] at hframe
      cases hframe
    rw [floor, hbootstrap, Option.isSome_none] at hnone
    rcases eq_or_ne j w.attempt with rfl | hne
    · exact absurd hlt hnone
    · have hbase := h.caught.base_le j hj fun heq => absurd heq hne
      exact absurd (hbase.trans_lt hcurrent) hnone

theorem Invariant.seed (h : w.Invariant width size handled) {sync : SupervisorAttachSyncPayload}
    (hphase : w.phase = .buffering sync) :
    ({ w with
      pending := []
      bootstrap := w.bootstrap.map fun _ => []
      phase := .seeding (sync.frames ++ sortFrames
        ((w.pending.filter fun frame => frame.terminalSeq.any (sync.baseSeq < ·)) ++
          w.bootstrap.getD [])) } : IpcResume).Invariant width size handled := by
  have hok := h.phase_ok
  rw [hphase] at hok
  obtain ⟨⟨buffered, hbootstrap, hevents⟩, hsync, hidentity⟩ := hok
  obtain ⟨c, hc, hframes⟩ := hsync.frames_eq
  have hwaiting : w.waiting = buffered := by
    rw [waiting, hphase, hbootstrap]
    rfl
  set live := sortFrames
    ((w.pending.filter fun frame => frame.terminalSeq.any (sync.baseSeq < ·)) ++
      w.bootstrap.getD []) with hlive
  have hmem (frame : PtyTerminalFrame) (hframe : frame ∈ live) :
      frame.terminalSeq.isSome ∧ (frame ∈ w.pending ∨ frame ∈ buffered) := by
    have hframe' := mem_of_mem_sortFrames hframe
    rw [hbootstrap, Option.getD_some] at hframe'
    rcases List.mem_append.mp hframe' with hpending | hbuffered
    · obtain ⟨hold, hseq⟩ := List.mem_filter.mp hpending
      exact ⟨Option.isSome_of_any hseq, .inl hold⟩
    · exact ⟨hevents frame hbuffered, .inr hbuffered⟩
  have hseed : SeedOk width size w.log (w.connections w.attempt).baseSeq
      w.mirror.currentTerminalSeq (sync.frames ++ live) := by
    refine ⟨live, inOrder_sortFrames _, fun frame hframe => (hmem frame hframe).1,
      .inr ⟨hsync.le, c, hc, ?_⟩⟩
    rw [hframes]
    rfl
  have hempty : w.bootstrap.map (fun _ => ([] : List PtyTerminalFrame)) = some [] := by
    rw [hbootstrap]
    rfl
  refine ⟨h.run_eq, ⟨h.inStep.seen, h.inStep.accepted_next, nofun⟩, h.kept, h.fresh,
    ⟨h.caught.hand_le, fun j hj hattempt => ?_, fun j hj seq hlt hcurrent hle => ?_,
      fun frame hframe seq hseq => ?_⟩, hempty, hseed, hidentity⟩
  · exact h.caught.base_le j hj fun heq => nomatch hattempt heq
  · have hfloor : w.floor j < seq := by
      rw [floor, hbootstrap, Option.isSome_some, if_pos rfl]
      rwa [floor, hempty, Option.isSome_some, if_pos rfl] at hlt
    obtain ⟨frame, hframe, hseq⟩ := h.caught.caught j hj seq hfloor hcurrent hle
    rw [hwaiting] at hframe
    obtain ⟨frame', hframe', hseq'⟩ := exists_mem_sortFrames (List.mem_append_right
      (w.pending.filter fun frame => frame.terminalSeq.any (sync.baseSeq < ·)) hframe)
    rw [← Option.getD_some (a := buffered) (b := []), ← hbootstrap] at hframe'
    exact ⟨frame', List.mem_append_right _ hframe', hseq'.trans hseq⟩
  · rcases List.mem_append.mp hframe with hsnapshot | hframe
    · rw [hframes] at hsnapshot
      rw [List.mem_singleton.mp hsnapshot] at hseq
      cases hseq
    · rcases (hmem frame hframe).2 with hpending | hbuffered
      · exact .inl (h.inStep.pending_le frame hpending seq hseq)
      · exact h.caught.waits frame (hwaiting ▸ hbuffered) seq hseq

/-! ### The steps of the readers and of the mirror -/

/-- What the first frame of the seed is. -/
theorem Invariant.fitting (h : w.Invariant width size handled) {frame : PtyTerminalFrame}
    {todo : List PtyTerminalFrame} (hphase : w.phase = .seeding (frame :: todo)) :
    Fitting width size w.log w.mirror frame := by
  have hok := h.phase_ok
  rw [hphase] at hok
  obtain ⟨hbootstrap, ⟨live, horder, hevents, ⟨rfl, hbase⟩ | ⟨hbase, c, hc, heq⟩⟩, -⟩ := hok
  · obtain ⟨seq, hseq⟩ := Option.isSome_iff_exists.mp (hevents frame List.mem_cons_self)
    have hwaiting : w.waiting = frame :: todo := by rw [waiting, hphase]
    rcases h.caught.waits frame (by rw [hwaiting]; exact List.mem_cons_self) seq hseq with
      hle | ⟨hevent, i, hreading, hle⟩
    · exact .inl ⟨seq, hseq, hle⟩
    · by_cases hold : seq ≤ w.mirror.currentTerminalSeq
      · exact .inl ⟨seq, hseq, hold⟩
      · -- the event after the current one waits, and nothing comes before the first frame
        have hfloor : w.floor i < w.mirror.currentTerminalSeq + 1 := by
          rw [floor, hbootstrap, Option.isSome_some, if_pos rfl]
          omega
        obtain ⟨frame', hframe', hseq'⟩ := h.caught.caught i hreading
          (w.mirror.currentTerminalSeq + 1) hfloor (by omega) (by omega)
        have hfirst : seq ≤ w.mirror.currentTerminalSeq + 1 := by
          rw [hwaiting] at hframe'
          rcases List.mem_cons.mp hframe' with rfl | hlater
          · rw [hseq] at hseq'
            exact (Option.some.inj hseq').le
          · have := (List.pairwise_cons.mp horder).1 frame' hlater
            rwa [hseq, hseq', Option.getD_some, Option.getD_some] at this
        obtain rfl : seq = w.mirror.currentTerminalSeq + 1 := by omega
        exact .inr (.inl hevent)
  · obtain ⟨rfl, rfl⟩ := List.cons.inj heq
    exact .inr (.inr ⟨_, c, hbase, hc, rfl⟩)

theorem Invariant.seedNext (h : w.Invariant width size handled)
    (hstep : step width w .seedNext = some w') : w'.Invariant width size handled := by
  have hok := h.phase_ok
  simp only [step] at hstep
  split at hstep
  · rename_i hphase
    cases hstep
    rw [hphase] at hok
    obtain ⟨hbootstrap, ⟨live, -, -, ⟨-, hbase⟩ | ⟨-, c, -, heq⟩⟩, -⟩ := hok
    · have hcaught (j : ℕ) (hj : (w.connections j).reading = true) :
          handled j ≤ w.mirror.currentTerminalSeq := by
        by_contra hlt
        have hfloor : w.floor j < handled j := by
          rw [floor, hbootstrap, Option.isSome_some, if_pos rfl]
          omega
        obtain ⟨frame, hframe, -⟩ := h.caught.caught j hj _ hfloor (by omega) le_rfl
        rw [waiting, hphase] at hframe
        cases hframe
      refine ⟨h.run_eq, h.inStep, h.kept, h.fresh, ⟨h.caught.hand_le, fun j hj _ => ?_,
        fun j hj seq _ hcurrent hle => ?_, nofun⟩, rfl⟩
      · rcases eq_or_ne j w.attempt with rfl | hne
        · exact hbase
        · exact h.caught.base_le j hj fun heq => absurd heq hne
      · exact absurd (hle.trans (hcaught j hj)) (Nat.not_le.mpr hcurrent)
    · cases heq
  · rename_i frame todo hphase
    obtain ⟨mirror, pending, accepted, happly, hin, hcurrent, hreaches⟩ :=
      InStep.applyAndEnqueue (w := { w with phase := .seeding todo }) h.inStep (h.fitting hphase)
    obtain rfl := Option.some.inj (happly.symm.trans hstep)
    have hwaiting : w.waiting = frame :: todo := by rw [waiting, hphase]
    change w.mirror.currentTerminalSeq ≤ mirror.currentTerminalSeq at hcurrent
    rw [hphase] at hok
    refine ⟨h.run_eq, hin, h.kept, h.fresh, ⟨fun j hj => ?_, fun j hj hattempt => ?_,
      fun j hj seq hfloor hlt hle => ?_, fun frame' hframe' seq hseq => ?_⟩, hok.1,
      hok.2.1.tail hcurrent hreaches, hok.2.2⟩
    · exact (h.caught.hand_le j hj).trans (max_le_max_left _ hcurrent)
    · exact (h.caught.base_le j hj fun heq => nomatch hattempt heq).trans hcurrent
    · obtain ⟨frame', hframe', hseq⟩ := h.caught.caught j hj seq hfloor (hcurrent.trans_lt hlt) hle
      rw [hwaiting] at hframe'
      rcases List.mem_cons.mp hframe' with rfl | hlater
      · rw [PtyTerminalFrame.reaches_eq hseq] at hreaches
        exact absurd hreaches (Nat.not_le.mpr hlt)
      · exact ⟨frame', hlater, hseq⟩
    · refine (h.caught.waits frame' (by rw [hwaiting]; exact List.mem_cons_of_mem _ hframe') seq
        hseq).imp_left fun hle => hle.trans hcurrent
  · cases hstep

theorem Invariant.consume (h : w.Invariant width size handled) :
    ({ w with pending := w.pending.tail } : IpcResume).Invariant width size handled := by
  refine ⟨h.run_eq, ⟨h.inStep.seen, h.inStep.accepted_next, fun frame hframe => ?_⟩, h.kept, h.fresh,
    h.caught.congr (fun _ => ⟨rfl, rfl, rfl⟩) (.inl rfl) (.inl ⟨rfl, rfl⟩) rfl rfl rfl, h.phase_ok⟩
  exact h.inStep.pending_le frame (List.mem_of_mem_tail hframe)

theorem Invariant.reading_of_hand (h : w.Invariant width size handled) {i : ℕ}
    {frame : PtyTerminalFrame} (hhand : (w.connections i).hand = some frame) :
    (w.connections i).reading = true := by
  by_contra hno
  have hnone := ((h.kept i).unread (by simpa using hno)).1
  exact nomatch hnone.symm.trans hhand

theorem Invariant.apply (h : w.Invariant width size handled) {i : ℕ} (hgapless : w.Gapless (.apply i))
    (hstep : step width w (.apply i) = some w') :
    ∃ handled', w'.Invariant width size handled' := by
  simp only [step] at hstep
  split at hstep
  · cases hstep
  rename_i frame hhand
  have hreading := h.reading_of_hand hhand
  have hstream : (w.connections i).stream =
      frame :: IpcConnection.stream { w.connections i with hand := none } := by
    simp [IpcConnection.stream, hhand]
  obtain ⟨hevent, hkept⟩ := (h.kept i).handle hreading hstream
  have hhandled : handled i ≤ w.mirror.currentTerminalSeq := by
    have hle := h.caught.hand_le i (by rw [hhand]; rfl)
    rwa [Nat.max_eq_right hgapless] at hle
  have hfitting : Fitting width size w.log w.mirror frame := by
    rcases Nat.lt_or_ge (handled i) w.mirror.currentTerminalSeq with hlt | hge
    · exact .inl ⟨handled i + 1, hevent.terminalSeq_eq, hlt⟩
    · rw [Nat.le_antisymm hhandled hge] at hevent
      exact .inr (.inl hevent)
  set applied := w.setConnection i { w.connections i with hand := none } with happlied
  have hself : applied.connections i = { w.connections i with hand := none } :=
    Function.update_self ..
  have hother (j : ℕ) (hj : j ≠ i) : applied.connections j = w.connections j :=
    Function.update_of_ne hj ..
  have hsame (j : ℕ) : (applied.connections j).reading = (w.connections j).reading ∧
      (applied.connections j).baseSeq = (w.connections j).baseSeq := by
    rcases eq_or_ne j i with rfl | hj
    · rw [hself]
      exact ⟨rfl, rfl⟩
    · rw [hother j hj]
      exact ⟨rfl, rfl⟩
  obtain ⟨mirror, pending, accepted, happly, hin, hcurrent, hreaches⟩ :=
    InStep.applyAndEnqueue (w := applied) h.inStep hfitting
  obtain rfl := Option.some.inj (happly.symm.trans hstep)
  change w.mirror.currentTerminalSeq ≤ mirror.currentTerminalSeq at hcurrent
  rw [PtyTerminalFrame.reaches_eq hevent.terminalSeq_eq] at hreaches
  have hok : PhaseOk width size w.log mirror.currentTerminalSeq w.bootstrap
      (applied.connections w.attempt) w.phase := by
    refine (h.phase_ok.mono (.inl rfl) hcurrent).read (hsame _).2 (hsame _).1 ?_
    rcases eq_or_ne i w.attempt with rfl | hattempt
    · rw [hself]
      exact ⟨rfl, .inr hreading⟩
    · rw [hother _ hattempt.symm]
      exact ⟨rfl, .inl rfl⟩
  have hkept (j : ℕ) : (applied.connections j).Kept w.log w.controllerId (w.registered j)
      (Function.update handled i (handled i + 1) j) := by
    rcases eq_or_ne j i with rfl | hj
    · rw [hself, Function.update_self]
      exact hkept
    · rw [hother j hj, Function.update_of_ne hj]
      exact h.kept j
  have hfresh (j : ℕ) (hj : w.attempt < j) : applied.connections j = {} ∧ w.registered j = false := by
    have hne : j ≠ i := by
      rintro rfl
      rw [(h.fresh j hj).1] at hhand
      cases hhand
    rw [hother j hne]
    exact h.fresh j hj
  refine ⟨Function.update handled i (handled i + 1), h.run_eq, hin, hkept, hfresh, ?_, hok⟩
  refine h.caught.handle hother hreading ?_ ?_ (hsame i).2 rfl rfl rfl rfl hcurrent
    (fun _ hframe => hframe) (.inl hreaches) fun _ hframe => .inl hframe
  · exact (hsame i).1.trans hreading
  · change (applied.connections i).hand = none
    rw [hself]

/-- A reader buffers a frame. -/
theorem Invariant.buffered (h : w.Invariant width size handled) {i : ℕ} (hi : i ≤ w.attempt)
    (hreading : (w.connections i).reading = true) (hhand : (w.connections i).hand = none)
    {frame : PtyTerminalFrame} {socket : List SupervisorFrame}
    (hsocket : (w.connections i).socket = .terminalFrame frame :: socket)
    {sync : SupervisorAttachSyncPayload} (hphase : w.phase = .buffering sync)
    {buffered : List PtyTerminalFrame} (hbootstrap : w.bootstrap = some buffered) :
    (setConnection { w with bootstrap := some (buffered ++ [frame]) } i
      { w.connections i with socket }).Invariant width size
        (Function.update handled i (handled i + 1)) := by
  have hstream : (w.connections i).stream =
      frame :: IpcConnection.stream { w.connections i with socket } := by
    simp [IpcConnection.stream, hsocket, hhand]
  obtain ⟨hevent, hkept⟩ := (h.kept i).handle hreading hstream
  set next := setConnection { w with bootstrap := some (buffered ++ [frame]) } i
    { w.connections i with socket } with hnext
  have hself : next.connections i = { w.connections i with socket } := Function.update_self ..
  have hother (j : ℕ) (hj : j ≠ i) : next.connections j = w.connections j :=
    Function.update_of_ne hj ..
  have hwaiting : w.waiting = buffered := by
    rw [waiting, hphase, hbootstrap]
    rfl
  have hwaiting' : next.waiting = buffered ++ [frame] := by
    have hphase' : next.phase = .buffering sync := hphase
    rw [waiting, hphase']
    rfl
  have hok : PhaseOk width size w.log w.mirror.currentTerminalSeq (some (buffered ++ [frame]))
      (next.connections w.attempt) w.phase := by
    have hok := h.phase_ok
    rw [hphase] at hok ⊢
    obtain ⟨⟨buffered', hbuffered, hevents⟩, hsync, hidentity⟩ := hok
    obtain rfl : buffered = buffered' := Option.some.inj (hbootstrap.symm.trans hbuffered)
    refine ⟨⟨_, rfl, fun frame' hframe' => ?_⟩, ?_⟩
    · rcases List.mem_append.mp hframe' with hold | hnew
      · exact hevents frame' hold
      · rw [List.mem_singleton.mp hnew, hevent.terminalSeq_eq]
        rfl
    · rcases eq_or_ne i w.attempt with rfl | hattempt
      · rw [hself]
        exact ⟨hsync, hidentity⟩
      · rw [hother _ hattempt.symm]
        exact ⟨hsync, hidentity⟩
  refine ⟨h.run_eq, h.inStep, fun j => ?_, fun j hj => ?_,
    h.caught.handle hother hreading ?_ ?_ ?_ rfl rfl rfl ?_ le_rfl ?_ (.inr ?_) ?_, hok⟩
  · rcases eq_or_ne j i with rfl | hj
    · rw [hself, Function.update_self]
      exact hkept
    · rw [hother j hj, Function.update_of_ne hj]
      exact h.kept j
  · change w.attempt < j at hj
    rw [hother j (by omega)]
    exact h.fresh j hj
  · rw [hself]
    exact hreading
  · rw [hself]
    exact hhand
  · rw [hself]
  · rw [hbootstrap]
    rfl
  · rw [hwaiting, hwaiting']
    exact fun _ hframe => List.mem_append_left _ hframe
  · rw [hwaiting']
    exact ⟨frame, by simp, hevent.terminalSeq_eq⟩
  · rw [hwaiting, hwaiting']
    intro frame' hframe'
    rcases List.mem_append.mp hframe' with hold | hnew
    · exact .inl hold
    · rw [List.mem_singleton.mp hnew]
      exact .inr hevent

theorem Invariant.read (h : w.Invariant width size handled) {i : ℕ}
    (hstep : w.read i = some w') :
    w'.transportError = true ∨ ∃ handled', w'.Invariant width size handled' := by
  simp only [IpcResume.read] at hstep
  split at hstep
  · cases hstep
  rename_i hready
  rw [not_or, not_not, Bool.not_eq_true, Option.isSome_eq_false_iff, Option.isNone_iff_eq_none]
    at hready
  obtain ⟨hreading, hhand⟩ := hready
  have hi : i ≤ w.attempt := h.le_attempt fun hdefault => by
    rw [hdefault] at hreading
    cases hreading
  split at hstep
  · cases hstep
  · rename_i response socket hsocket
    cases hstep
    refine .inr ⟨handled, h.supervise hi rfl (fun _ _ hyes => hyes) ⟨rfl, rfl, rfl⟩ ?_
      fun _ _ _ _ hok => hok.read rfl rfl ⟨rfl, .inr hreading⟩⟩
    refine (h.kept i).pass ?_ rfl rfl rfl rfl rfl rfl
    simp [IpcConnection.stream, hsocket, List.filterMap_cons]
  · rename_i frame socket hsocket
    have hok := h.phase_ok
    split at hstep
    · cases hstep
    · rename_i hbootstrap hseeding
      cases hstep
      have hwaiting : w.waiting = [] := by
        rw [waiting]
        split
        · rename_i heq
          exact (hseeding _ heq).elim
        · rw [hbootstrap]
          rfl
      -- nothing waits, so that the reader is not ahead of the mirror
      have hle : handled i ≤ max (w.connections i).baseSeq w.mirror.currentTerminalSeq := by
        by_contra hgt
        rw [Nat.not_le, max_lt_iff] at hgt
        have hfloor : w.floor i < handled i := by
          rw [floor, hbootstrap, Option.isSome_none]
          exact hgt.1
        obtain ⟨frame', hframe', -⟩ := h.caught.caught i hreading _ hfloor hgt.2 le_rfl
        rw [hwaiting] at hframe'
        cases hframe'
      have hkept : IpcConnection.Kept w.log w.controllerId (w.registered i) (handled i)
          { w.connections i with socket, hand := some frame } := by
        refine (h.kept i).take hreading ?_
        simp [IpcConnection.stream, hsocket, hhand]
      have hinvariant := h.update hi rfl (fun _ _ hyes => hyes) hkept ?_ ?_
      · rw [Function.update_eq_self] at hinvariant
        exact .inr ⟨handled, hinvariant⟩
      · rw [Function.update_eq_self]
        exact h.caught.take rfl rfl hle
      · rintro rfl
        exact hok.read rfl rfl ⟨rfl, .inr hreading⟩
    · rename_i buffered hbootstrap hseeding
      obtain ⟨sync, hphase⟩ : ∃ sync, w.phase = .buffering sync := by
        rw [hbootstrap] at hok
        exact hok.buffering_or_seeding.resolve_right fun ⟨todo, heq⟩ => hseeding todo heq
      split at hstep <;> cases hstep
      · exact .inr ⟨_, h.buffered hi hreading hhand hsocket hphase hbootstrap⟩
      · exact .inl rfl

/-! ### Runs -/

/-- **What every step keeps** that leaves no gap. -/
theorem Invariant.step (h : w.Invariant width size handled) {op : ResumeOp} (hgapless : w.Gapless op)
    (hstep : IpcResume.step width w op = some w') :
    w'.transportError = true ∨ ∃ handled', w'.Invariant width size handled' := by
  have hok := h.phase_ok
  cases op with
  | record op => exact .inr ⟨handled, h.record hstep⟩
  | serve i processId => exact .inr (h.serve hgapless hstep)
  | forward i => exact .inr ⟨handled, h.forward hstep⟩
  | write i => exact .inr ⟨handled, h.write hstep⟩
  | close i =>
    simp only [IpcResume.step] at hstep
    split at hstep <;> cases hstep
    rename_i hopen
    exact .inr ⟨handled, h.closeConnection (Nat.not_lt.mp (not_or.mp hopen).2)⟩
  | reconnect transactionId =>
    simp only [IpcResume.step] at hstep
    split at hstep <;> cases hstep
    rename_i hphase
    rw [not_not] at hphase
    rw [hphase] at hok
    exact .inr ⟨handled, h.rest (by rw [hphase]; rfl) hok transactionId⟩
  | connect =>
    simp only [IpcResume.step] at hstep
    split at hstep <;> cases hstep
    rename_i hphase
    exact .inr ⟨handled, h.connect (not_not.mp hphase)⟩
  | receive => exact .inr ⟨handled, h.receive hstep⟩
  | fail =>
    simp only [IpcResume.step] at hstep
    split at hstep <;> cases hstep
    all_goals
      rename_i hphase
      rw [hphase] at hok
      exact .inr ⟨handled, h.rest (by rw [hphase]; rfl) hok.1 w.transactionId⟩
  | start =>
    simp only [IpcResume.step] at hstep
    split at hstep <;> cases hstep
    rename_i hphase
    exact .inr ⟨handled, h.start hphase⟩
  | buffer =>
    simp only [IpcResume.step] at hstep
    split at hstep <;> cases hstep
    rename_i hphase
    exact .inr ⟨handled, h.buffer hphase⟩
  | seed =>
    simp only [IpcResume.step] at hstep
    split at hstep <;> cases hstep
    rename_i hphase
    exact .inr ⟨handled, h.seed hphase⟩
  | seedNext => exact .inr ⟨handled, h.seedNext hstep⟩
  | read i => exact h.read hstep
  | apply i => exact .inr (h.apply hgapless hstep)
  | consume =>
    simp only [IpcResume.step] at hstep
    split at hstep <;> cases hstep
    exact .inr ⟨handled, h.consume⟩

/-- An error is never forgotten. -/
theorem transportError_of_step {op : ResumeOp} (h : w.transportError = true)
    (hstep : IpcResume.step width w op = some w') : w'.transportError = true := by
  have happly {w : IpcResume} {frame : PtyTerminalFrame}
      (hstep : w.applyAndEnqueue width frame = some w') : w'.transportError = w.transportError := by
    simp only [applyAndEnqueue, Option.bind_eq_bind, Option.bind_eq_some_iff] at hstep
    obtain ⟨⟨mirror, applied⟩, -, hstep⟩ := hstep
    dsimp only at hstep
    split at hstep <;> cases hstep <;> rfl
  cases op <;> simp only [IpcResume.step] at hstep
  case record op =>
    simp only [Option.bind_eq_bind, Option.bind_eq_some_iff, Option.pure_def,
      Option.some.injEq] at hstep
    obtain ⟨⟨state, frame⟩, -, rfl⟩ := hstep
    simp only [broadcastTerminalFrame]
    split
    · exact h
    · split <;> exact h
  case receive =>
    rw [IpcResume.receive] at hstep
    split at hstep
    · cases hstep
    · dsimp only at hstep
      split at hstep <;> cases hstep <;> exact h
  case read i =>
    simp only [IpcResume.read] at hstep
    split at hstep
    · cases hstep
    · split at hstep
      · cases hstep
      · cases hstep
        exact h
      · split at hstep
        · cases hstep
        · cases hstep
          exact h
        · split at hstep <;> cases hstep
          · exact h
          · rfl
  case seedNext =>
    split at hstep
    · cases hstep
      exact h
    · exact (happly hstep).trans h
    · cases hstep
  case apply i =>
    split at hstep
    · cases hstep
    · exact (happly hstep).trans h
  case forward i =>
    split at hstep
    · cases hstep
    · split at hstep
      · cases hstep
      · split at hstep <;> cases hstep <;> exact h
  case write i =>
    split at hstep
    · cases hstep
    · split at hstep <;> cases hstep <;> exact h
  all_goals
    split at hstep <;> cases hstep <;> exact h

/-- The terminal of a supervisor that has recorded some events. -/
theorem exec_record {s s' : SupervisorState} {ops : List CacheOp}
    (h : exec (fun s op => (s.record width op).map Prod.fst) s ops = some s') :
    exec (SupervisorTerminalCache.step width) s.terminal ops = some s'.terminal := by
  induction ops generalizing s with
  | nil =>
    cases h
    rfl
  | cons op ops ih =>
    rw [exec_cons] at h ⊢
    obtain ⟨s₁, hs₁, h⟩ := Option.bind_eq_some_iff.mp h
    obtain ⟨⟨s₁', frame⟩, hrecord, rfl⟩ := Option.map_eq_some_iff.mp hs₁
    rw [SupervisorTerminalCache.step, SupervisorState.record_eq_some hrecord]
    exact ih h

theorem invariant_attached {mirrorSize : PtySize} {cleanupCapability : Option (List UInt8)}
    {prior : List CacheOp} (h : attached width size mirrorSize cleanupCapability prior = some w) :
    w.Invariant width size fun i => if i = 0 then prior.length else 0 := by
  simp only [attached, Option.bind_eq_bind, Option.bind_eq_some_iff, Option.pure_def,
    Option.some.injEq] at h
  obtain ⟨state, hstate, mirror, hmirror, rfl⟩ := h
  have hrun : exec (SupervisorTerminalCache.step width) (.new size) prior = some state.terminal :=
    exec_record hstate
  have hbase : (state.terminal.terminalSnapshotOrTail none).1 = prior.length := by
    obtain ⟨c, hc, hexact⟩ := SupervisorTerminalCache.exact_of_run width size prior
    obtain rfl : c = state.terminal := Option.some.inj (hc.symm.trans hrun)
    exact hexact.current_eq none
  have hreset : (SupervisorTerminalMirror.new mirrorSize).resetFromSnapshot width state.terminal.size
      prior.length state.terminal.snapshotOutput = some mirror := by
    change exec (SupervisorTerminalMirror.feed width) _
      [.snapshot (state.terminal.terminalSnapshotOrTail none).1 state.terminal.size
        state.terminal.snapshotOutput] = some mirror at hmirror
    rw [hbase, exec_cons, SupervisorTerminalMirror.feed] at hmirror
    obtain ⟨m, hm, hmirror⟩ := Option.bind_eq_some_iff.mp hmirror
    cases hmirror
    obtain ⟨⟨m, applied⟩, happly, rfl⟩ := Option.map_eq_some_iff.mp hm
    have hnew : ¬prior.length < (SupervisorTerminalMirror.new mirrorSize).currentTerminalSeq :=
      Nat.not_lt_zero _
    rw [SupervisorTerminalMirror.applyFrame, if_neg hnew] at happly
    obtain ⟨m', hm', happly⟩ := Option.bind_eq_some_iff.mp happly
    cases happly
    exact hm'
  have hcurrent : mirror.currentTerminalSeq = prior.length := by
    have hnew : (SupervisorTerminalMirror.new mirrorSize).currentTerminalSeq ≤ prior.length :=
      Nat.zero_le _
    obtain ⟨m, hm, hfollows⟩ := SupervisorTerminalMirror.followsFrom_reset width hnew le_rfl
      state.terminal.size state.terminal.snapshotOutput
    obtain rfl : m = mirror := Option.some.inj (hm.symm.trans hreset)
    rw [hfollows.current_eq, List.take_length]
  have hseen : Seen width size prior mirror := by
    refine ⟨prior.length, state.terminal, _, mirror, hcurrent.ge, hcurrent.le, ?_, hreset, hcurrent, ?_⟩
    · rwa [List.take_length]
    · rw [hcurrent, Nat.sub_self]
      rfl
  have hregistered (i : ℕ) : (((state.attachSync 0 none none).1.controllers
      (state.attachSync 0 none none).2.1.id).any (·.tx = i)) = decide (i = 0) := by
    simp [SupervisorState.attachSync, eq_comm]
  refine ⟨hrun, ⟨hseen, by simp, by simp⟩, fun i => ?_, fun i hi => ?_,
    ⟨fun i => ?_, fun i hi _ => ?_, fun i hi seq hlt hseq hle => ?_, by simp [waiting]⟩, rfl⟩
  · by_cases hi : i = 0
    · subst hi
      exact ⟨⟨0, rfl, le_rfl, fun _ _ => rfl⟩, by simp, by simp, by simp⟩
    · simp only [if_neg hi]
      refine IpcConnection.kept_default.mono fun hyes => ?_
      exact absurd (of_decide_eq_true ((hregistered i).symm.trans hyes)) hi
  · have hne : i ≠ 0 := Nat.ne_of_gt hi
    exact ⟨if_neg hne, (hregistered i).trans (decide_eq_false hne)⟩
  · by_cases hi : i = 0
    · subst hi
      simp
    · simp [if_neg hi]
  · by_cases hi' : i = 0
    · subst hi'
      exact hbase.le.trans hcurrent.ge
    · simp [if_neg hi'] at hi
  · by_cases hi' : i = 0
    · subst hi'
      exact absurd (hcurrent.ge.trans_lt hseq) (Nat.not_lt.mpr hle)
    · simp [if_neg hi'] at hi

/-- **The mirror skips nothing.** -/
structure NoSkip (width : Char → Option (Fin 3)) (size : PtySize) (w : IpcResume) : Prop where
  accepted_next : ∀ prev frame, (prev, frame) ∈ w.accepted → ∀ seq, frame.terminalSeq = some seq →
    seq = prev + 1
  seen : Seen width size w.log w.mirror

/-- **A mirror that never skips an event**: in every run in which a lease is resumed at the event of the
snapshot and no reader is faster than the snapshot. -/
theorem noSkip_of_gapless (width : Char → Option (Fin 3)) (size mirrorSize : PtySize)
    (cleanupCapability : Option (List UInt8)) (prior : List CacheOp) (w₀ w : IpcResume)
    (ops : List ResumeOp)
    (hattached : attached width size mirrorSize cleanupCapability prior = some w₀)
    (hgapless : Along (IpcResume.step width) Gapless w₀ ops)
    (hrun : exec (IpcResume.step width) w₀ ops = some w) (herror : w.transportError = false) :
    NoSkip width size w := by
  have hinvariant : w.transportError = true ∨ ∃ handled, w.Invariant width size handled := by
    refine exec_induction_along
      (I := fun w => w.transportError = true ∨ ∃ handled, w.Invariant width size handled)
      (fun w op w' h hgapless hstep => ?_) (.inr ⟨_, invariant_attached hattached⟩) hgapless hrun
    rcases h with herror | ⟨handled, h⟩
    · exact .inl (transportError_of_step herror hstep)
    · exact h.step hgapless hstep
  obtain ⟨handled, h⟩ := hinvariant.resolve_left (by rw [herror]; exact nofun)
  exact ⟨h.inStep.accepted_next, h.inStep.seen⟩

/-- A lease is resumed, and an event comes before the mirror has the snapshot. -/
theorem noSkip_of_event_after_commit : ∃ w₀ w,
    attached (fun _ => some 1) ⟨2, 4, 0, 0⟩ ⟨2, 4, 0, 0⟩ none [] = some w₀ ∧
      exec (IpcResume.step fun _ => some 1) w₀
        [.reconnect 7, .connect, .serve 1 none, .write 1, .receive, .serve 1 none, .write 1, .receive,
          .serve 1 none, .write 1, .receive, .serve 1 none, .write 1, .receive, .start, .buffer,
          .record (.output [0x61]), .forward 1, .write 1, .read 1, .seed, .seedNext, .seedNext,
          .seedNext, .record (.output [0x62]), .forward 1, .write 1, .read 1, .apply 1] = some w ∧
      w.accepted.length = 3 ∧ NoSkip (fun _ => some 1) ⟨2, 4, 0, 0⟩ w := by
  let ops : List ResumeOp := [.reconnect 7, .connect, .serve 1 none, .write 1, .receive,
    .serve 1 none, .write 1, .receive, .serve 1 none, .write 1, .receive, .serve 1 none, .write 1,
    .receive, .start, .buffer, .record (.output [0x61]), .forward 1, .write 1, .read 1, .seed,
    .seedNext, .seedNext, .seedNext, .record (.output [0x62]), .forward 1, .write 1, .read 1, .apply 1]
  have hrun : ((attached (fun _ => some 1) ⟨2, 4, 0, 0⟩ ⟨2, 4, 0, 0⟩ none []).any fun w₀ =>
      decide (Along (IpcResume.step fun _ => some 1) Gapless w₀ ops) &&
        (exec (IpcResume.step fun _ => some 1) w₀ ops).any fun w =>
          !w.transportError && decide (w.accepted.length = 3)) = true := by
    decide +kernel
  obtain ⟨w₀, hw₀, hrun⟩ := (Option.any_eq_true ..).mp hrun
  rw [Bool.and_eq_true, decide_eq_true_eq] at hrun
  obtain ⟨w, hw, hrest⟩ := (Option.any_eq_true ..).mp hrun.2
  rw [Bool.and_eq_true, Bool.not_eq_true', decide_eq_true_eq] at hrest
  exact ⟨w₀, w, hw₀, hw, hrest.2, noSkip_of_gapless _ _ _ none [] w₀ w ops hw₀ hrun.1 hw hrest.1⟩

/-- An event is recorded between the snapshot and the commit. The resume succeeds, and the next event is
accepted in its place. -/
theorem not_noSkip_of_event_before_commit :
    ¬∀ (width : Char → Option (Fin 3)) (size mirrorSize : PtySize)
      (cleanupCapability : Option (List UInt8)) (prior : List CacheOp) (w₀ w : IpcResume)
      (ops : List ResumeOp),
      attached width size mirrorSize cleanupCapability prior = some w₀ →
        exec (IpcResume.step width) w₀ ops = some w → w.phase = .done → w.transportError = false →
          NoSkip width size w := by
  intro h
  let ops : List ResumeOp := [.reconnect 7, .connect, .serve 1 none, .write 1, .receive,
    .serve 1 none, .write 1, .receive, .serve 1 none, .write 1, .receive, .record (.output [0x61]),
    .serve 1 none, .write 1, .receive, .start, .buffer, .seed, .seedNext, .seedNext,
    .record (.output [0x62]), .forward 1, .write 1, .read 1, .apply 1]
  have hrun : ((attached (fun _ => some 1) ⟨2, 4, 0, 0⟩ ⟨2, 4, 0, 0⟩ none []).any fun w₀ =>
      (exec (IpcResume.step fun _ => some 1) w₀ ops).any fun w =>
        decide (w.phase = .done) && !w.transportError &&
          decide ((0, .output 2 [0x62]) ∈ w.accepted)) = true := by
    decide +kernel
  obtain ⟨w₀, hw₀, hrun⟩ := (Option.any_eq_true ..).mp hrun
  obtain ⟨w, hw, hrest⟩ := (Option.any_eq_true ..).mp hrun
  rw [Bool.and_eq_true, Bool.and_eq_true, decide_eq_true_eq, Bool.not_eq_true',
    decide_eq_true_eq] at hrest
  have hskip := h _ _ _ none [] w₀ w ops hw₀ hw hrest.1.1 hrest.1.2
  exact absurd (hskip.accepted_next 0 _ hrest.2 2 rfl) (by decide)

end Invariant

end IpcResume

end Termd.Pty
