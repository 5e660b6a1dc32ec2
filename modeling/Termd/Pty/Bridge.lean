import Termd.Pty.Pump

/-!
# The bridge from the PTY to its readers

A thread reads the PTY and sends what it gets into a bounded queue. Two calls of the session take
from the queue, `read` and `snapshot`, and what a call has taken but not returned stays with the
session. The calls exclude each other, but the thread may send between any two rounds of a drain.

What waits is the chunks of the session, its error and what is in the queue, in this order. A `read`
takes from its front, and a `snapshot` leaves it alone unless nothing but the error of the thread is
left, which it returns.

## Main definitions

* `drainRound`, `retainedOutput`: what a call does between two sends
* `OutputBridge`, `OutputBridge.step`: the thread, the queue and the running call
* `NonBlockingPortablePtySession.waiting`: what no call has returned
* `OutputBridge.LossFree`: nothing is lost, doubled or left without a signal

## Main results

* `OutputBridge.lossFree_of_run`: every run is loss free
* `OutputBridge.exec_read`: between two sends a whole `read` runs as one step
* `OutputBridge.error_not_read`: a snapshot that returns the error of the thread
-/

namespace Termd.Pty

/-- What `usize` may hold. -/
def usizeMax : ℕ := 2 ^ 64 - 1

namespace NonBlockingPortablePtySession

/-- One round of the loop of `drain_ready_output`; with the counters of the next round. -/
def drainRound (session : NonBlockingPortablePtySession) (chunks bytes : ℕ) :
    NonBlockingPortablePtySession × Option (ℕ × ℕ) :=
  if readyOutputDrainMaxChunks ≤ chunks ∨ readyOutputDrainMaxBytes ≤ bytes then (session, none)
  else if outputQueueMaxMessages ≤ session.pendingOutput.length ∨
      outputQueueMaxBytes - readerChunkBytes < session.pendingOutputBytes then
    (session, none)
  else match session.outputRx with
    | [] => (session, none)
    | .ok chunk :: rx =>
      if chunk ≠ [] then
        ({ session with
          outputRx := rx
          pendingOutputBytes := session.pendingOutputBytes + chunk.length
          pendingOutput := session.pendingOutput ++ [chunk] },
          some (chunks + 1, bytes + chunk.length))
      else ({ session with outputRx := rx }, some (chunks, bytes))
    | .error error :: rx => ({ session with outputRx := rx, pendingError := some error }, none)

variable (session : NonBlockingPortablePtySession)

/-- What `snapshot` does after its drain. -/
def retainedOutput : NonBlockingPortablePtySession × OutputMessage :=
  match session.pendingOutput, session.pendingError with
  | [], some error => ({ session with pendingError := none }, .error error)
  | _, _ => (session, .ok session.pendingOutput.flatten)

/-- What no call has returned: the chunks, the error, and what is in the queue. -/
def waiting : List OutputMessage :=
  session.pendingOutput.map .ok ++
    (session.pendingError.toList.map .error ++ session.outputRx)

end NonBlockingPortablePtySession

open NonBlockingPortablePtySession

/-- The calls that take from the queue. -/
inductive SessionCall
  | read (bufferLen : ℕ)
  | snapshot
deriving DecidableEq

/-- How far the call is that has the session. -/
inductive CallPhase
  | none
  /-- At the head of the loop of `drain_ready_output`. -/
  | draining (call : SessionCall) (chunks bytes : ℕ)
  /-- `drain_ready_output` has returned. -/
  | drained (call : SessionCall)
deriving DecidableEq

/-- The thread, the session and its running call. -/
structure OutputBridge where
  reader : ReaderPhase := .reading
  session : NonBlockingPortablePtySession := {}
  phase : CallPhase := .none
  /-- All messages that the thread has sent. -/
  sent : List OutputMessage := []
  /-- The calls that have returned, with their results. -/
  answers : List (SessionCall × OutputMessage) := []
  /-- How often the signal was sent when the last `read` began. -/
  signalAtRead : ℕ := 0

inductive BridgeOp
  /-- `reader.read` returns a chunk. -/
  | readPty (chunk : List UInt8)
  | readEof
  | readError (error : String)
  /-- `output_tx.send` returns. -/
  | send
  /-- `output_signal_tx.send` -/
  | signal
  | call (call : SessionCall)
  /-- A round of the running drain. -/
  | drain
  /-- The running call returns. -/
  | finish

namespace OutputBridge

variable (b : OutputBridge)

/-- The thread sends nothing after an error. -/
def isLast : OutputMessage → Bool
  | .ok _ => false
  | .error _ => true

/-- A step of the thread, or of the running call. -/
def step (b : OutputBridge) : BridgeOp → Option OutputBridge
  | .readPty chunk =>
    if b.reader = .reading ∧ chunk ≠ [] ∧ chunk.length ≤ readerChunkBytes then
      some { b with reader := .sending (.ok chunk) }
    else none
  | .readEof => if b.reader = .reading then some { b with reader := .ended } else none
  | .readError error =>
    if b.reader = .reading then some { b with reader := .sending (.error error) } else none
  | .send =>
    match b.reader with
    | .sending message =>
      if outputQueueMaxMessages ≤ b.session.outputRx.length then none
      else some { b with
        session := { b.session with outputRx := b.session.outputRx ++ [message] }
        reader := .signalling (isLast message)
        sent := b.sent ++ [message] }
    | _ => none
  | .signal =>
    match b.reader with
    | .signalling last => some { b with
        session := b.session.signalPendingOutput
        reader := if last then .ended else .reading }
    | _ => none
  | .call call =>
    if b.phase ≠ .none then none
    -- an empty buffer is returned at once
    else if call = .read 0 then some b
    else some { b with
      phase := if b.session.pendingError.isSome then .drained call else .draining call 0 0
      signalAtRead := if call = .snapshot then b.signalAtRead else b.session.outputSignal }
  | .drain =>
    match b.phase with
    | .draining call chunks bytes =>
      match b.session.drainRound chunks bytes with
      | (session, some (chunks, bytes)) => some { b with
          session, phase := .draining call chunks bytes }
      | (session, none) => some { b with session, phase := .drained call }
    | _ => none
  | .finish =>
    match b.phase with
    | .drained call =>
      let (session, answer) := match call with
        | .read bufferLen => b.session.takeOutput bufferLen
        | .snapshot => b.session.retainedOutput
      some { b with session, phase := .none, answers := b.answers ++ [(call, answer)] }
    | _ => none

/-! ### What waits -/

/-- What a `read` takes from the messages that wait. -/
def takeMessage (bufferLen : ℕ) : List OutputMessage → List OutputMessage × OutputMessage
  | [] => ([], .ok [])
  | .ok chunk :: rest =>
    (if chunk.drop bufferLen ≠ [] then .ok (chunk.drop bufferLen) :: rest else rest,
      .ok (chunk.take bufferLen))
  | .error error :: rest => (rest, .error error)

/-- The bytes that the calls of `read` have returned. -/
def returned : List UInt8 :=
  b.answers.flatMap fun
    | (.read _, answer) => messageData answer
    | (.snapshot, _) => []

/-- The error of a message. -/
def messageError : OutputMessage → Option String
  | .ok _ => none
  | .error error => some error

/-- The errors that the calls have returned. -/
def errors : List String := b.answers.filterMap fun answer => messageError answer.2

/-- The errors that `read` has returned. -/
def readErrors : List String :=
  b.answers.filterMap fun
    | (.read _, answer) => messageError answer
    | (.snapshot, _) => none

/-- No call is running, and the thread is not between a message and its signal. -/
def quiet : Prop := b.phase = .none ∧ ∀ last, b.reader ≠ .signalling last

/-- The sums of the next step fit into `usize`, and what is subtracted is there. -/
def Fits : Prop :=
  (∀ call chunks bytes chunk rx, b.phase = .draining call chunks bytes →
    b.session.outputRx = .ok chunk :: rx →
      chunks + 1 ≤ usizeMax ∧ bytes + chunk.length ≤ usizeMax ∧
        b.session.pendingOutputBytes + chunk.length ≤ usizeMax) ∧
  ∀ chunk pending, b.session.pendingOutput = chunk :: pending →
    chunk.length ≤ b.session.pendingOutputBytes ∧ b.session.pendingOutputBytes ≤ usizeMax

/-- **The bridge is loss free.** -/
structure LossFree (b : OutputBridge) : Prop where
  returned_prefix : b.returned <+: b.sent.flatMap messageData
  bytes_eq : b.session.pendingOutputBytes = b.session.pendingOutput.flatten.length
  bytes_le : b.session.pendingOutputBytes ≤ outputQueueMaxBytes
  entries_le : b.session.pendingOutput.length ≤ outputQueueMaxMessages
  fits : b.Fits
  /-- The thread's error waits or was returned, by one call. -/
  error_once :
    b.errors ++ b.session.waiting.filterMap messageError = b.sent.filterMap messageError ∧
      (b.sent.filterMap messageError).length ≤ 1
  error_last : b.errors ≠ [] → b.returned = b.sent.flatMap messageData
  /-- A snapshot takes nothing but an error that it returns. -/
  snapshot_keeps : ∀ op b', b.step op = some b' →
    (op = .call .snapshot ∨ b.phase = .drained .snapshot ∧ op = .finish ∨
      ∃ chunks bytes, b.phase = .draining .snapshot chunks bytes ∧ op = .drain) →
      b'.session.waiting = b.session.waiting ∨
        ∃ error, b.session.waiting = [.error error] ∧ b'.session.waiting = [] ∧
          b'.answers = b.answers ++ [(.snapshot, .error error)]
  /-- A `read` takes the first of what waits, or there was nothing when it drained. -/
  read_takes : ∀ bufferLen b', b.phase = .drained (.read bufferLen) → b.step .finish = some b' →
    ∃ answer, b'.answers = b.answers ++ [(.read bufferLen, answer)] ∧
      ((b'.session.waiting, answer) = takeMessage bufferLen b.session.waiting ∨
        answer = .ok [] ∧ b'.session.waiting = b.session.waiting ∧
          (b.signalAtRead < b.session.outputSignal ∨ ∃ last, b.reader = .signalling last))
  /-- A `read` in which nothing is sent is the one of the session. -/
  read_alone : ∀ bufferLen, bufferLen ≠ 0 → b.phase = .none → ∃ rounds,
    exec OutputBridge.step b
        (.call (.read bufferLen) :: (List.replicate rounds .drain ++ [.finish])) = some { b with
        session := (b.session.read bufferLen).1
        answers := b.answers ++ [(.read bufferLen, (b.session.read bufferLen).2)]
        signalAtRead := b.session.outputSignal }
  signalled : b.quiet → b.session.waiting ≠ [] → b.signalAtRead < b.session.outputSignal

end OutputBridge

/-! ### What a call does to what waits -/

namespace NonBlockingPortablePtySession

open OutputBridge

variable {session session' : NonBlockingPortablePtySession}

/-- What the session knows of what waits. -/
structure Valid (session : NonBlockingPortablePtySession) : Prop where
  bytes_eq : session.pendingOutputBytes = session.pendingOutput.flatten.length
  bytes_le : session.pendingOutputBytes ≤ outputQueueMaxBytes
  entries_le : session.pendingOutput.length ≤ outputQueueMaxMessages
  chunks : ∀ chunk, .ok chunk ∈ session.waiting → chunk ≠ [] ∧ chunk.length ≤ readerChunkBytes
  error_last : ∀ front error back, session.waiting = front ++ .error error :: back → back = []

theorem Valid.outputRx_eq_nil (h : session.Valid) {error : String}
    (herror : session.pendingError = some error) : session.outputRx = [] := by
  refine h.error_last (session.pendingOutput.map .ok) error _ ?_
  rw [waiting, herror]
  rfl

/-- A session that has at most one chunk drains on. -/
theorem Valid.pendingOutputBytes_le (h : session.Valid) (hlen : session.pendingOutput.length ≤ 1) :
    session.pendingOutputBytes ≤ readerChunkBytes := by
  rw [h.bytes_eq]
  cases hpending : session.pendingOutput with
  | nil => exact Nat.zero_le _
  | cons chunk pending =>
    obtain rfl : pending = [] := by
      rw [hpending, List.length_cons] at hlen
      exact List.length_eq_zero_iff.mp (by omega)
    rw [List.flatten_singleton]
    exact (h.chunks chunk (by simp [waiting, hpending])).2

/-- What a round of the drain does. -/
structure Drained (session session' : NonBlockingPortablePtySession) (chunks bytes : ℕ)
    (next : Option (ℕ × ℕ)) : Prop where
  valid : session'.Valid
  waiting_eq : session'.waiting = session.waiting
  signal_eq : session'.outputSignal = session.outputSignal
  /-- The loop returns when it has found nothing more, or enough. -/
  returned : next = none → session'.pendingOutput.length ≤ 1 → session'.pendingError = none →
    session'.outputRx = []
  going : ∀ next', next = some next' → session'.pendingError = none ∧
    next'.1 ≤ readyOutputDrainMaxChunks ∧ next'.1 ≤ session'.pendingOutput.length ∧
      next'.2 ≤ next'.1 * readerChunkBytes

theorem Valid.drainRound (h : session.Valid) (herror : session.pendingError = none)
    {chunks bytes : ℕ} (hchunks : chunks ≤ session.pendingOutput.length) (hbytes : bytes ≤ chunks * readerChunkBytes) :
    Drained session (session.drainRound chunks bytes).1 chunks bytes
      (session.drainRound chunks bytes).2 := by
  have hstay : (session.pendingOutput.length ≤ 1 → session.outputRx = []) →
      Drained session session chunks bytes none := fun hreturned =>
    ⟨h, rfl, rfl, fun _ hlen _ => hreturned hlen, fun _ hnext => by cases hnext⟩
  rw [NonBlockingPortablePtySession.drainRound]
  split_ifs with htick hqueue
  · refine hstay fun hlen => ?_
    simp only [readyOutputDrainMaxChunks, readyOutputDrainMaxBytes, readerChunkBytes]
      at htick hbytes
    omega
  · refine hstay fun hlen => ?_
    have hle := h.pendingOutputBytes_le hlen
    simp only [outputQueueMaxMessages, outputQueueMaxBytes, readerChunkBytes] at hqueue hle
    omega
  · rw [not_or, not_le, not_le] at htick
    rw [not_or, not_le, not_lt] at hqueue
    have hwaiting : session.waiting = session.pendingOutput.map .ok ++ session.outputRx := by
      rw [waiting, herror]
      rfl
    split
    next hrx => exact hstay fun _ => hrx
    next chunk rx hrx =>
      rw [hrx] at hwaiting
      have hchunk := h.chunks chunk (by simp [hwaiting])
      rw [if_pos hchunk.1]
      have hsame : waiting { session with
          outputRx := rx
          pendingOutputBytes := session.pendingOutputBytes + chunk.length
          pendingOutput := session.pendingOutput ++ [chunk] } = session.waiting := by
        rw [hwaiting, waiting, herror]
        simp
      refine ⟨⟨?_, ?_, ?_, by rw [hsame]; exact h.chunks, by rw [hsame]; exact h.error_last⟩, hsame,
        rfl, (fun hnext => by cases hnext), ?_⟩
      · dsimp only
        rw [h.bytes_eq, List.flatten_append, List.length_append, List.flatten_singleton]
      · have hle := hqueue.2
        dsimp only
        simp only [outputQueueMaxBytes, readerChunkBytes] at hle hchunk ⊢
        omega
      · rw [List.length_append]
        exact hqueue.1
      · rintro _ ⟨⟩
        refine ⟨herror, htick.1, ?_, ?_⟩
        · rw [List.length_append]
          exact Nat.add_le_add_right hchunks 1
        · rw [Nat.add_mul, Nat.one_mul]
          exact Nat.add_le_add hbytes hchunk.2
    next error rx hrx =>
      rw [hrx] at hwaiting
      obtain rfl : rx = [] := h.error_last _ error rx hwaiting
      have hsame : waiting { session with outputRx := [], pendingError := some error } =
          session.waiting := by
        rw [hwaiting, waiting]
        rfl
      exact ⟨⟨h.bytes_eq, h.bytes_le, h.entries_le, by rw [hsame]; exact h.chunks,
        by rw [hsame]; exact h.error_last⟩, hsame, rfl, (fun _ _ hnone => by cases hnone),
        fun _ hnext => by cases hnext⟩

/-- What `read` does after its drain. -/
structure Takes (session : NonBlockingPortablePtySession) (bufferLen : ℕ)
    (result : NonBlockingPortablePtySession × OutputMessage) : Prop where
  valid : result.1.Valid
  /-- The first of what waits is taken, or the drain has found nothing. -/
  taken : (result.1.waiting, result.2) = takeMessage bufferLen session.waiting ∨
    result = (session, .ok []) ∧ session.pendingOutput = [] ∧ session.pendingError = none
  signal_le : session.outputSignal ≤ result.1.outputSignal
  /-- What is left with the session is signalled. -/
  signalled : result.1.pendingOutput ≠ [] ∨ result.1.pendingError.isSome →
    session.outputSignal < result.1.outputSignal
  few : result.1.pendingOutput = [] → session.pendingOutput.length ≤ 1
  rest : result.1.waiting ≠ [] →
    result.1.outputRx = session.outputRx ∧ result.1.pendingError = session.pendingError

theorem Valid.takeOutput (h : session.Valid) {bufferLen : ℕ} (hlen : 0 < bufferLen) :
    session.Takes bufferLen (session.takeOutput bufferLen) := by
  rw [NonBlockingPortablePtySession.takeOutput]
  split
  next hpending =>
    split
    next error herror =>
      have hrx := h.outputRx_eq_nil herror
      have hwaiting : session.waiting = [.error error] := by
        rw [waiting, hpending, herror, hrx]
        rfl
      have hempty : waiting { session with pendingError := none } = [] := by
        rw [waiting, hpending, hrx]
        rfl
      refine ⟨⟨h.bytes_eq, h.bytes_le, h.entries_le, ?_, ?_⟩, .inl ?_, le_rfl, ?_, fun _ => ?_,
        fun hne => absurd hempty hne⟩
      · rw [hempty]
        exact fun chunk hmem => absurd hmem List.not_mem_nil
      · rw [hempty]
        exact fun front error back heq => by simp at heq
      · rw [hempty, hwaiting, takeMessage]
      · rintro (hne | hsome)
        · exact absurd hpending hne
        · cases hsome
      · rw [hpending]
        exact Nat.zero_le 1
    next herror =>
      refine ⟨h, .inr ⟨rfl, hpending, herror⟩, le_rfl, ?_, fun _ => ?_, fun _ => ⟨rfl, rfl⟩⟩
      · rintro (hne | hsome)
        · exact absurd hpending hne
        · rw [herror] at hsome
          cases hsome
      · rw [hpending]
        exact Nat.zero_le 1
  next chunk pending hpending =>
    have hwaiting : session.waiting = .ok chunk :: (pending.map .ok ++
        (session.pendingError.toList.map .error ++ session.outputRx)) := by
      rw [waiting, hpending]
      rfl
    have hbytes := h.bytes_eq
    rw [hpending, List.flatten_cons, List.length_append] at hbytes
    have hbound := h.bytes_le
    have hentries := h.entries_le
    rw [hpending, List.length_cons] at hentries
    dsimp only
    -- what is left of the session before it signals
    generalize hleft : (if chunk.drop bufferLen ≠ [] then
      ({ session with
        pendingOutput := chunk.drop bufferLen :: pending
        pendingOutputBytes := session.pendingOutputBytes - chunk.length +
          (chunk.drop bufferLen).length } : NonBlockingPortablePtySession)
      else { session with
        pendingOutput := pending
        pendingOutputBytes := session.pendingOutputBytes - chunk.length }) = left
    have hspec : left.Valid ∧
        (left.waiting, .ok (chunk.take bufferLen)) = takeMessage bufferLen session.waiting ∧
          left.outputSignal = session.outputSignal ∧
            (left.pendingOutput = [] → session.pendingOutput.length ≤ 1) ∧
              left.outputRx = session.outputRx ∧ left.pendingError = session.pendingError := by
      have hchunks := h.chunks
      have hlast := h.error_last
      rw [hwaiting] at hchunks hlast
      rw [hwaiting, takeMessage, ← hleft]
      split_ifs with hrest
      · have hsame : waiting { session with
            pendingOutput := chunk.drop bufferLen :: pending
            pendingOutputBytes := session.pendingOutputBytes - chunk.length +
              (chunk.drop bufferLen).length } = .ok (chunk.drop bufferLen) :: (pending.map .ok ++
                (session.pendingError.toList.map .error ++ session.outputRx)) := rfl
        refine ⟨⟨?_, ?_, hentries, ?_, ?_⟩, by rw [hsame], rfl, (fun hnil => by cases hnil),
          rfl, rfl⟩
        · rw [List.flatten_cons, List.length_append]
          dsimp only
          omega
        · dsimp only
          rw [List.length_drop]
          omega
        · rw [hsame]
          intro chunk' hmem
          rcases List.mem_cons.mp hmem with heq | hmem
          · obtain rfl := Except.ok.inj heq
            refine ⟨hrest, ?_⟩
            rw [List.length_drop]
            exact (Nat.sub_le _ _).trans (hchunks chunk List.mem_cons_self).2
          · exact hchunks chunk' (List.mem_cons_of_mem _ hmem)
        · rw [hsame]
          intro front error back heq
          cases front with
          | nil => cases (List.cons.inj heq).1
          | cons message front =>
            exact hlast (.ok chunk :: front) error back
              (congrArg (Except.ok chunk :: ·) (List.cons.inj heq).2)
      · have hsame : waiting { session with
            pendingOutput := pending
            pendingOutputBytes := session.pendingOutputBytes - chunk.length } =
              pending.map .ok ++
                (session.pendingError.toList.map .error ++ session.outputRx) := rfl
        refine ⟨⟨?_, ?_, (Nat.le_succ _).trans hentries, ?_, ?_⟩, by rw [hsame], rfl,
          fun hnil => ?_, rfl, rfl⟩
        · dsimp only
          omega
        · dsimp only
          omega
        · rw [hsame]
          exact fun chunk' hmem => hchunks chunk' (List.mem_cons_of_mem _ hmem)
        · rw [hsame]
          exact fun front error back heq => hlast (.ok chunk :: front) error back
            (congrArg (Except.ok chunk :: ·) heq)
        · rw [hpending, show pending = [] from hnil]
          exact le_rfl
    obtain ⟨hvalid, htaken, hsignal, hfew, hrest⟩ := hspec
    split_ifs with hkept
    · refine ⟨⟨hvalid.bytes_eq, hvalid.bytes_le, hvalid.entries_le, hvalid.chunks,
        hvalid.error_last⟩, .inl htaken, ?_, fun _ => ?_, hfew, fun _ => hrest⟩
      · rw [← hsignal]
        exact Nat.le_succ _
      · rw [← hsignal]
        exact Nat.lt_succ_self _
    · exact ⟨hvalid, .inl htaken, hsignal.ge, fun hleft => absurd hleft hkept, hfew, fun _ => hrest⟩

/-- A snapshot leaves what waits, or it returns the error that is left. -/
theorem Valid.retainedOutput (h : session.Valid) :
    (session.retainedOutput.1 = session ∧ messageError session.retainedOutput.2 = none) ∨
      ∃ error, session.waiting = [.error error] ∧
        session.retainedOutput = ({ session with pendingError := none }, .error error) ∧
          waiting { session with pendingError := none } = [] := by
  rw [NonBlockingPortablePtySession.retainedOutput]
  split
  next error hpending herror =>
    have hrx := h.outputRx_eq_nil herror
    refine .inr ⟨error, ?_, rfl, ?_⟩
    · rw [waiting, hpending, herror, hrx]
      rfl
    · rw [waiting, hpending, hrx]
      rfl
  next => exact .inl ⟨rfl, rfl⟩

end NonBlockingPortablePtySession

/-! ### Runs of the bridge -/

namespace OutputBridge

variable {b b' : OutputBridge}

theorem data_takeMessage (bufferLen : ℕ) (messages : List OutputMessage) :
    messageData (takeMessage bufferLen messages).2 ++
      (takeMessage bufferLen messages).1.flatMap messageData = messages.flatMap messageData := by
  cases messages with
  | nil => rfl
  | cons message rest =>
    cases message with
    | error error => rfl
    | ok chunk =>
      rw [takeMessage]
      dsimp only
      split_ifs with hrest
      · rw [List.flatMap_cons, List.flatMap_cons, ← List.append_assoc]
        exact congrArg (· ++ rest.flatMap messageData) (List.take_append_drop bufferLen chunk)
      · rw [List.flatMap_cons]
        have hall : chunk.take bufferLen = chunk :=
          List.take_of_length_le (List.drop_eq_nil_iff.mp (not_not.mp hrest))
        rw [hall]

theorem errors_takeMessage (bufferLen : ℕ) (messages : List OutputMessage) :
    (messageError (takeMessage bufferLen messages).2).toList ++
      (takeMessage bufferLen messages).1.filterMap messageError =
        messages.filterMap messageError := by
  cases messages with
  | nil => rfl
  | cons message rest =>
    cases message with
    | error error => rfl
    | ok chunk =>
      rw [takeMessage]
      dsimp only
      split_ifs <;> rfl

/-- The signal was sent since the last `read` began, or the thread is about to send it. -/
def owed (b : OutputBridge) : Prop :=
  b.signalAtRead < b.session.outputSignal ∨ ∃ last, b.reader = .signalling last

/-- What no `read` has seen is signalled. -/
def SignalledIn (session : NonBlockingPortablePtySession) (owed : Prop) : CallPhase → Prop
  | .draining (.read _) _ _ => True
  | .drained (.read _) => session.pendingOutput.length ≤ 1 → session.pendingError = none →
    session.outputRx ≠ [] → owed
  | .none | .draining .snapshot _ _ | .drained .snapshot => session.waiting ≠ [] → owed

theorem SignalledIn.imp {session : NonBlockingPortablePtySession} {owed owed' : Prop}
    {phase : CallPhase} (h : SignalledIn session owed phase) (himp : owed → owed') :
    SignalledIn session owed' phase := by
  rcases phase with _ | ⟨_ | _, _, _⟩ | ⟨_ | _⟩
  · exact fun hwaiting => himp (h hwaiting)
  · trivial
  · exact fun hwaiting => himp (h hwaiting)
  · exact fun hlen herror hrx => himp (h hlen herror hrx)
  · exact fun hwaiting => himp (h hwaiting)

theorem signalledIn_of_owed (session : NonBlockingPortablePtySession) {owed : Prop}
    (phase : CallPhase) (howed : owed) : SignalledIn session owed phase := by
  rcases phase with _ | ⟨_ | _, _, _⟩ | ⟨_ | _⟩
  · exact fun _ => howed
  · trivial
  · exact fun _ => howed
  · exact fun _ _ _ => howed
  · exact fun _ => howed

/-- **The invariant of every run.** -/
structure Invariant (b : OutputBridge) : Prop where
  valid : b.session.Valid
  sending : ∀ chunk, b.reader = .sending (.ok chunk) →
    chunk ≠ [] ∧ chunk.length ≤ readerChunkBytes
  carried : b.returned ++ b.session.waiting.flatMap messageData = b.sent.flatMap messageData
  errors_eq : b.errors ++ b.session.waiting.filterMap messageError =
    b.sent.filterMap messageError
  errors_le : (b.sent.filterMap messageError).length ≤ 1
  clean : b.reader.mayRead → b.sent.filterMap messageError = []
  /-- The error was the last message. -/
  closed : b.errors ≠ [] → b.session.waiting = []
  draining : ∀ call chunks bytes, b.phase = .draining call chunks bytes →
    call ≠ .read 0 ∧ b.session.pendingError = none ∧ chunks ≤ readyOutputDrainMaxChunks ∧
      chunks ≤ b.session.pendingOutput.length ∧ bytes ≤ chunks * readerChunkBytes
  drained : b.phase ≠ .drained (.read 0)
  signal_le : b.signalAtRead ≤ b.session.outputSignal
  signalled : SignalledIn b.session b.owed b.phase

theorem invariant_new : Invariant {} where
  valid := ⟨rfl, Nat.zero_le _, Nat.zero_le _, fun _ hmem => absurd hmem List.not_mem_nil,
    fun _ _ _ heq => by simp [waiting] at heq⟩
  sending _ h := by cases h
  carried := rfl
  errors_eq := rfl
  errors_le := Nat.zero_le 1
  clean _ := rfl
  closed h := absurd rfl h
  draining _ _ _ h := by cases h
  drained h := by cases h
  signal_le := le_rfl
  signalled h := absurd rfl h

/-- The thread reads on, or has ended. -/
theorem Invariant.read (h : b.Invariant) (hreader : b.reader = .reading) {reader : ReaderPhase}
    (hsending : ∀ chunk, reader = .sending (.ok chunk) →
      chunk ≠ [] ∧ chunk.length ≤ readerChunkBytes) :
    Invariant { b with reader } := by
  have howed : b.owed → owed { b with reader } := by
    rintro (hlt | ⟨last, hlast⟩)
    · exact .inl hlt
    · cases hreader.symm.trans hlast
  exact {
    h with
    sending := hsending
    clean := fun _ => h.clean (by rw [hreader]; rfl)
    signalled := h.signalled.imp howed }

theorem Invariant.send (h : b.Invariant) {message : OutputMessage}
    (hreader : b.reader = .sending message) :
    Invariant { b with
      session := { b.session with outputRx := b.session.outputRx ++ [message] }
      reader := .signalling (isLast message)
      sent := b.sent ++ [message] } := by
  have hmay : b.reader.mayRead := by
    rw [hreader]
    rfl
  have hsent := h.clean hmay
  have herrors := h.errors_eq
  rw [hsent, List.append_eq_nil_iff] at herrors
  have hwaiting : waiting { b.session with outputRx := b.session.outputRx ++ [message] } =
      b.session.waiting ++ [message] := by
    simp [waiting]
  -- no error waits yet
  have hok : ∀ error, .error error ∉ b.session.waiting := fun error hmem => by
    have hmem' : error ∈ b.session.waiting.filterMap messageError :=
      List.mem_filterMap.mpr ⟨_, hmem, rfl⟩
    rw [herrors.2] at hmem'
    cases hmem'
  refine {
    h with
    valid := ⟨h.valid.bytes_eq, h.valid.bytes_le, h.valid.entries_le, ?_, ?_⟩
    sending := fun chunk hchunk => by cases hchunk
    carried := ?_
    errors_eq := ?_
    errors_le := ?_
    clean := ?_
    closed := fun hne => absurd herrors.1 hne
    draining := h.draining
    signalled := signalledIn_of_owed _ _ (.inr ⟨_, rfl⟩) }
  · rw [hwaiting]
    intro chunk hmem
    rcases List.mem_append.mp hmem with hmem | hmem
    · exact h.valid.chunks chunk hmem
    · obtain rfl := List.mem_singleton.mp hmem
      exact h.sending chunk hreader
  · rw [hwaiting]
    intro front error back heq
    obtain rfl | ⟨back', last, rfl⟩ := List.eq_nil_or_concat back
    · rfl
    · rw [List.concat_eq_append, ← List.cons_append, ← List.append_assoc] at heq
      have hfront := (List.append_inj' heq rfl).1
      exact absurd (by rw [hfront]; simp) (hok error)
  · dsimp only
    rw [hwaiting, List.flatMap_append, List.flatMap_append, ← h.carried, List.append_assoc]
    rfl
  · dsimp only
    rw [hwaiting, List.filterMap_append, List.filterMap_append, hsent, herrors.2, List.nil_append]
    exact congrArg (· ++ _) herrors.1
  · dsimp only
    rw [List.filterMap_append, hsent, List.nil_append]
    exact List.length_filterMap_le _ _
  · intro hmay'
    dsimp only
    rw [List.filterMap_append, hsent, List.nil_append]
    cases message with
    | ok chunk => rfl
    | error error => cases hmay'

theorem Invariant.signal (h : b.Invariant) {last : Bool} (hreader : b.reader = .signalling last) :
    Invariant { b with
      session := b.session.signalPendingOutput
      reader := if last then .ended else .reading } := by
  refine {
    h with
    valid := ⟨h.valid.bytes_eq, h.valid.bytes_le, h.valid.entries_le, h.valid.chunks,
      h.valid.error_last⟩
    sending := fun chunk hchunk => by cases last <;> cases hchunk
    clean := fun hmay => h.clean ?_
    draining := h.draining
    signal_le := h.signal_le.trans (Nat.le_succ _)
    signalled := signalledIn_of_owed _ _ (.inl (Nat.lt_succ_of_le h.signal_le)) }
  rw [hreader]
  cases last with
  | false => rfl
  | true => cases hmay

theorem Invariant.call (h : b.Invariant) (hphase : b.phase = .none) {call : SessionCall}
    (hcall : call ≠ .read 0) :
    Invariant { b with
      phase := if b.session.pendingError.isSome then .drained call else .draining call 0 0
      signalAtRead := if call = .snapshot then b.signalAtRead else b.session.outputSignal } := by
  have hsignalled := h.signalled
  rw [hphase] at hsignalled
  refine {
    h with
    draining := ?_
    drained := ?_
    signal_le := ?_
    signalled := ?_ }
  · dsimp only
    intro call' chunks bytes heq
    split_ifs at heq with herror
    cases heq
    exact ⟨hcall, Option.not_isSome_iff_eq_none.mp herror, Nat.zero_le _, Nat.zero_le _,
      Nat.zero_le _⟩
  · dsimp only
    split_ifs
    · exact fun heq => hcall (CallPhase.drained.inj heq)
    · exact fun heq => by cases heq
  · dsimp only
    split_ifs
    · exact h.signal_le
    · exact le_rfl
  · dsimp only
    cases call with
    | snapshot =>
      rw [if_pos (c := SessionCall.snapshot = .snapshot) rfl]
      split_ifs
      · exact hsignalled
      · exact hsignalled
    | read bufferLen =>
      cases herror : b.session.pendingError with
      | none => exact trivial
      | some error => exact fun _ hnone => by cases herror.symm.trans hnone

theorem Invariant.drain (h : b.Invariant) {call : SessionCall} {chunks bytes : ℕ}
    (hphase : b.phase = .draining call chunks bytes) {session : NonBlockingPortablePtySession}
    {next : Option (ℕ × ℕ)} (hround : b.session.drainRound chunks bytes = (session, next)) :
    Invariant { b with
      session
      phase := next.elim (.drained call) fun next => .draining call next.1 next.2 } := by
  obtain ⟨hcall, herror, hlimit, hchunks, hbytes⟩ := h.draining call chunks bytes hphase
  have hspec := h.valid.drainRound herror hchunks hbytes
  rw [hround] at hspec
  have hsignalled := h.signalled
  rw [hphase] at hsignalled
  have howed : b.owed ↔ owed { b with
      session
      phase := next.elim (.drained call) fun next => .draining call next.1 next.2 } := by
    rw [owed, owed, hspec.signal_eq]
  refine {
    h with
    valid := hspec.valid
    carried := ?_
    errors_eq := ?_
    closed := ?_
    draining := ?_
    drained := ?_
    signal_le := ?_
    signalled := ?_ }
  · dsimp only
    rw [hspec.waiting_eq]
    exact h.carried
  · dsimp only
    rw [hspec.waiting_eq]
    exact h.errors_eq
  · dsimp only
    rw [hspec.waiting_eq]
    exact h.closed
  · intro call' chunks' bytes' heq
    cases next with
    | none => cases heq
    | some next =>
      cases heq
      obtain ⟨herror', hlimit', hchunks', hbytes'⟩ := hspec.going next rfl
      exact ⟨hcall, herror', hlimit', hchunks', hbytes'⟩
  · cases next with
    | none => exact fun heq => hcall (CallPhase.drained.inj heq)
    | some next => exact fun heq => by cases heq
  · dsimp only
    rw [hspec.signal_eq]
    exact h.signal_le
  · refine SignalledIn.imp ?_ howed.mp
    dsimp only
    cases call with
    | snapshot =>
      have hwaiting : session.waiting ≠ [] → b.owed := fun hne =>
        hsignalled (hspec.waiting_eq ▸ hne)
      cases next with
      | none => exact hwaiting
      | some next => exact hwaiting
    | read bufferLen =>
      cases next with
      | none => exact fun hlen hnone hrx => absurd (hspec.returned rfl hlen hnone) hrx
      | some next => trivial

theorem returned_snoc (b : OutputBridge) (bufferLen : ℕ) (answer : OutputMessage) :
    returned { b with answers := b.answers ++ [(.read bufferLen, answer)] } =
      b.returned ++ messageData answer := by
  simp [returned]

theorem errors_snoc (b : OutputBridge) (call : SessionCall) (answer : OutputMessage) :
    errors { b with answers := b.answers ++ [(call, answer)] } =
      b.errors ++ (messageError answer).toList := by
  rw [errors, errors, List.filterMap_append]
  cases answer <;> rfl

theorem Invariant.finishRead (h : b.Invariant) {bufferLen : ℕ}
    (hphase : b.phase = .drained (.read bufferLen)) :
    Invariant { b with
      session := (b.session.takeOutput bufferLen).1
      phase := .none
      answers := b.answers ++ [(.read bufferLen, (b.session.takeOutput bufferLen).2)] } := by
  have hlen : 0 < bufferLen := Nat.pos_of_ne_zero fun hzero => h.drained (hzero ▸ hphase)
  have hspec := h.valid.takeOutput hlen
  have hsignalled := h.signalled
  rw [hphase] at hsignalled
  generalize b.session.takeOutput bufferLen = result at hspec
  obtain ⟨session, answer⟩ := result
  obtain ⟨hvalid, htaken, hle, hkept, hfew, hrest⟩ := hspec
  have hdata : messageData answer ++ session.waiting.flatMap messageData =
      b.session.waiting.flatMap messageData := by
    obtain htaken | ⟨heq, -⟩ := htaken
    · rw [← data_takeMessage bufferLen b.session.waiting, ← htaken]
    · obtain ⟨rfl, rfl⟩ := Prod.mk.inj heq
      rfl
  have herrors : (messageError answer).toList ++ session.waiting.filterMap messageError =
      b.session.waiting.filterMap messageError := by
    obtain htaken | ⟨heq, -⟩ := htaken
    · rw [← errors_takeMessage bufferLen b.session.waiting, ← htaken]
    · obtain ⟨rfl, rfl⟩ := Prod.mk.inj heq
      rfl
  refine {
    h with
    valid := hvalid
    carried := ?_
    errors_eq := ?_
    closed := ?_
    draining := fun call chunks bytes heq => by cases heq
    drained := fun heq => by cases heq
    signal_le := h.signal_le.trans hle
    signalled := ?_ }
  · exact (congrArg (· ++ session.waiting.flatMap messageData)
      (returned_snoc b bufferLen answer)).trans (by
        rw [List.append_assoc, hdata]
        exact h.carried)
  · exact (congrArg (· ++ session.waiting.filterMap messageError)
      (errors_snoc b (.read bufferLen) answer)).trans (by
        rw [List.append_assoc, herrors]
        exact h.errors_eq)
  · intro hne
    have hne : b.errors ++ (messageError answer).toList ≠ [] := fun hnil =>
      hne ((errors_snoc b (.read bufferLen) answer).trans hnil)
    have hempty : b.session.waiting = [] → session.waiting = [] := by
      intro hnil
      obtain htaken | ⟨heq, -⟩ := htaken
      · rw [hnil, takeMessage] at htaken
        exact (Prod.mk.inj htaken).1
      · obtain ⟨rfl, -⟩ := Prod.mk.inj heq
        exact hnil
    by_cases hold : b.errors = []
    · -- the read returns the error, which is the last message
      rw [hold, List.nil_append] at hne
      obtain htaken | ⟨heq, -⟩ := htaken
      · cases hwaiting : b.session.waiting with
        | nil => exact hempty hwaiting
        | cons message rest =>
          rw [hwaiting] at htaken
          cases message with
          | ok chunk =>
            rw [takeMessage] at htaken
            have hanswer : answer = .ok (chunk.take bufferLen) := (Prod.mk.inj htaken).2
            rw [hanswer] at hne
            exact absurd rfl hne
          | error error =>
            rw [takeMessage] at htaken
            obtain rfl := h.valid.error_last [] error rest hwaiting
            exact (Prod.mk.inj htaken).1
      · have hanswer : answer = .ok [] := (Prod.mk.inj heq).2
        rw [hanswer] at hne
        exact absurd rfl hne
    · exact hempty (h.closed hold)
  · -- what is left with the session was signalled, and the queue was empty when it drained
    intro hwaiting
    by_cases hleft : session.pendingOutput ≠ [] ∨ session.pendingError.isSome
    · exact .inl (h.signal_le.trans_lt (hkept hleft))
    · rw [not_or, not_not, Option.not_isSome_iff_eq_none] at hleft
      obtain ⟨hrx, herror⟩ := hrest hwaiting
      have hqueue : b.session.outputRx ≠ [] := by
        rw [← hrx]
        rw [waiting, hleft.1, hleft.2] at hwaiting
        exact hwaiting
      have howed : b.owed := hsignalled (hfew hleft.1) (herror.symm.trans hleft.2) hqueue
      exact howed.imp (fun hlt => hlt.trans_le hle) id

theorem returned_snoc_snapshot (b : OutputBridge) (answer : OutputMessage) :
    returned { b with answers := b.answers ++ [(.snapshot, answer)] } = b.returned := by
  simp [returned]

theorem Invariant.finishSnapshot (h : b.Invariant) (hphase : b.phase = .drained .snapshot) :
    Invariant { b with
      session := b.session.retainedOutput.1
      phase := .none
      answers := b.answers ++ [(.snapshot, b.session.retainedOutput.2)] } := by
  have hsignalled := h.signalled
  rw [hphase] at hsignalled
  have herrors := errors_snoc b .snapshot b.session.retainedOutput.2
  have hreturned := returned_snoc_snapshot b b.session.retainedOutput.2
  obtain ⟨hsession, hnone⟩ | ⟨error, hwaiting, hresult, hempty⟩ := h.valid.retainedOutput
  · rw [hnone, Option.toList_none, List.append_nil] at herrors
    rw [hsession]
    exact {
      h with
      carried := (congrArg (· ++ _) hreturned).trans h.carried
      errors_eq := (congrArg (· ++ _) herrors).trans h.errors_eq
      closed := fun hne => h.closed fun hnil => hne (herrors.trans hnil)
      draining := fun call chunks bytes heq => by cases heq
      drained := fun heq => by cases heq
      signalled := hsignalled }
  · rw [hresult] at herrors hreturned ⊢
    have hcarried := h.carried
    have herrors' := h.errors_eq
    rw [hwaiting] at hcarried herrors'
    refine {
      h with
      valid := ⟨h.valid.bytes_eq, h.valid.bytes_le, h.valid.entries_le, ?_, ?_⟩
      carried := ?_
      errors_eq := ?_
      closed := fun _ => hempty
      draining := fun call chunks bytes heq => by cases heq
      drained := fun heq => by cases heq
      signalled := fun hne => absurd hempty hne }
    · rw [hempty]
      exact fun chunk hmem => absurd hmem List.not_mem_nil
    · rw [hempty]
      exact fun front error back heq => by simp at heq
    · dsimp only
      rw [hempty]
      exact (congrArg (· ++ _) hreturned).trans hcarried
    · dsimp only
      rw [hempty]
      exact (congrArg (· ++ _) herrors).trans ((List.append_nil _).trans herrors')

/-- **What every step keeps.** -/
theorem Invariant.step (h : b.Invariant) {op : BridgeOp} (hstep : b.step op = some b') :
    b'.Invariant := by
  cases op with
  | readPty chunk =>
    rw [OutputBridge.step] at hstep
    split_ifs at hstep with hread
    obtain rfl := Option.some.inj hstep
    refine h.read hread.1 fun chunk' heq => ?_
    obtain rfl := Except.ok.inj (ReaderPhase.sending.inj heq)
    exact hread.2
  | readEof =>
    rw [OutputBridge.step] at hstep
    split_ifs at hstep with hread
    obtain rfl := Option.some.inj hstep
    exact h.read hread fun chunk' heq => by cases heq
  | readError error =>
    rw [OutputBridge.step] at hstep
    split_ifs at hstep with hread
    obtain rfl := Option.some.inj hstep
    exact h.read hread fun chunk' heq => by cases heq
  | send =>
    rw [OutputBridge.step] at hstep
    split at hstep
    next message hreader =>
      split_ifs at hstep
      obtain rfl := Option.some.inj hstep
      exact h.send hreader
    next => cases hstep
  | signal =>
    rw [OutputBridge.step] at hstep
    split at hstep
    next last hreader =>
      obtain rfl := Option.some.inj hstep
      exact h.signal hreader
    next => cases hstep
  | call call =>
    rw [OutputBridge.step] at hstep
    by_cases hphase : b.phase = .none
    · rw [if_neg (not_not.mpr hphase)] at hstep
      by_cases hcall : call = .read 0
      · rw [if_pos hcall] at hstep
        exact Option.some.inj hstep ▸ h
      · rw [if_neg hcall] at hstep
        obtain rfl := Option.some.inj hstep
        exact h.call hphase hcall
    · rw [if_pos hphase] at hstep
      cases hstep
  | drain =>
    rw [OutputBridge.step] at hstep
    split at hstep
    next call chunks bytes hphase =>
      split at hstep
      next session chunks' bytes' hround =>
        obtain rfl := Option.some.inj hstep
        exact h.drain hphase hround
      next session hround =>
        obtain rfl := Option.some.inj hstep
        exact h.drain hphase hround
    next => cases hstep
  | finish =>
    rw [OutputBridge.step] at hstep
    split at hstep
    next call hphase =>
      obtain rfl := Option.some.inj hstep
      cases call with
      | read bufferLen => exact h.finishRead hphase
      | snapshot => exact h.finishSnapshot hphase
    next => cases hstep

theorem Invariant.fits (h : b.Invariant) : b.Fits := by
  constructor
  · intro call chunks bytes chunk rx hphase hrx
    obtain ⟨-, -, hlimit, -, hbytes⟩ := h.draining call chunks bytes hphase
    have hchunk := (h.valid.chunks chunk (by simp [waiting, hrx])).2
    have hle := h.valid.bytes_le
    simp only [readyOutputDrainMaxChunks, readerChunkBytes, outputQueueMaxBytes] at *
    simp only [usizeMax]
    omega
  · intro chunk pending hpending
    have hbytes := h.valid.bytes_eq
    have hle := h.valid.bytes_le
    rw [hpending, List.flatten_cons, List.length_append] at hbytes
    simp only [outputQueueMaxBytes] at hle
    simp only [usizeMax]
    omega

theorem Invariant.snapshot_keeps (h : b.Invariant) {op : BridgeOp} (hstep : b.step op = some b')
    (hop : op = .call .snapshot ∨ b.phase = .drained .snapshot ∧ op = .finish ∨
      ∃ chunks bytes, b.phase = .draining .snapshot chunks bytes ∧ op = .drain) :
    b'.session.waiting = b.session.waiting ∨
      ∃ error, b.session.waiting = [.error error] ∧ b'.session.waiting = [] ∧
        b'.answers = b.answers ++ [(.snapshot, .error error)] := by
  rcases hop with rfl | ⟨hphase, rfl⟩ | ⟨chunks, bytes, hphase, rfl⟩
  · rw [OutputBridge.step] at hstep
    by_cases hphase : b.phase = .none
    · rw [if_neg (not_not.mpr hphase), if_neg (by simp)] at hstep
      obtain rfl := Option.some.inj hstep
      exact .inl rfl
    · rw [if_pos hphase] at hstep
      cases hstep
  · rw [OutputBridge.step, hphase] at hstep
    obtain rfl := Option.some.inj hstep
    obtain ⟨hsession, -⟩ | ⟨error, hwaiting, hresult, hempty⟩ := h.valid.retainedOutput
    · exact .inl (congrArg waiting hsession)
    · refine .inr ⟨error, hwaiting, ?_, ?_⟩
      · exact (congrArg (fun result => waiting result.1) hresult).trans hempty
      · exact congrArg (fun result => b.answers ++ [(.snapshot, result.2)]) hresult
  · obtain ⟨-, herror, -, hchunks, hbytes⟩ := h.draining _ _ _ hphase
    have hspec := h.valid.drainRound herror hchunks hbytes
    rw [OutputBridge.step, hphase] at hstep
    dsimp only at hstep
    split at hstep
    next session chunks' bytes' hround =>
      obtain rfl := Option.some.inj hstep
      rw [hround] at hspec
      exact .inl hspec.waiting_eq
    next session hround =>
      obtain rfl := Option.some.inj hstep
      rw [hround] at hspec
      exact .inl hspec.waiting_eq

theorem Invariant.read_takes (h : b.Invariant) {bufferLen : ℕ}
    (hphase : b.phase = .drained (.read bufferLen)) (hstep : b.step .finish = some b') :
    ∃ answer, b'.answers = b.answers ++ [(.read bufferLen, answer)] ∧
      ((b'.session.waiting, answer) = takeMessage bufferLen b.session.waiting ∨
        answer = .ok [] ∧ b'.session.waiting = b.session.waiting ∧
          (b.signalAtRead < b.session.outputSignal ∨ ∃ last, b.reader = .signalling last)) := by
  have hlen : 0 < bufferLen := Nat.pos_of_ne_zero fun hzero => h.drained (hzero ▸ hphase)
  have hspec := h.valid.takeOutput hlen
  have hsignalled := h.signalled
  rw [hphase] at hsignalled
  rw [OutputBridge.step, hphase] at hstep
  obtain rfl := Option.some.inj hstep
  refine ⟨_, rfl, ?_⟩
  obtain htaken | ⟨heq, hpending, herror⟩ := hspec.taken
  · exact .inl htaken
  · have hwaiting : b.session.waiting = b.session.outputRx := by
      rw [waiting, hpending, herror]
      rfl
    show ((b.session.takeOutput bufferLen).1.waiting, (b.session.takeOutput bufferLen).2) = _ ∨
      (b.session.takeOutput bufferLen).2 = _ ∧ (b.session.takeOutput bufferLen).1.waiting = _ ∧ _
    rw [heq]
    cases hrx : b.session.outputRx with
    | nil =>
      rw [hwaiting, hrx]
      exact .inl rfl
    | cons message rx =>
      refine .inr ⟨rfl, rfl, hsignalled (by simp [hpending]) herror (by simp [hrx])⟩

/-! ### A whole call -/

theorem drainLoop_outputRx (session : NonBlockingPortablePtySession) (queue rx : List OutputMessage)
    (chunks bytes : ℕ) :
    drainLoop { session with outputRx := queue } chunks bytes rx =
      session.drainLoop chunks bytes rx := by
  induction rx generalizing session chunks bytes with
  | nil => rfl
  | cons message rx ih =>
    rw [drainLoop.eq_def, drainLoop.eq_def session]
    dsimp only
    split_ifs
    · rfl
    · rfl
    · cases message with
      | error error => rfl
      | ok chunk =>
        dsimp only
        split_ifs
        · exact ih { session with
            pendingOutputBytes := session.pendingOutputBytes + chunk.length
            pendingOutput := session.pendingOutput ++ [chunk] } _ _
        · exact ih session _ _

/-- A round is the first part of the loop. -/
theorem drainLoop_of_drainRound {session session' : NonBlockingPortablePtySession}
    {chunks bytes : ℕ} {next : Option (ℕ × ℕ)}
    (hround : session.drainRound chunks bytes = (session', next)) :
    match next with
    | none => session.drainLoop chunks bytes session.outputRx = session'
    | some (chunks', bytes') => session'.outputRx.length < session.outputRx.length ∧
      session.drainLoop chunks bytes session.outputRx =
        session'.drainLoop chunks' bytes' session'.outputRx := by
  rw [drainRound] at hround
  cases hrx : session.outputRx with
  | nil =>
    rw [hrx] at hround
    have hstay : (session, none) = (session', next) := by
      rw [← hround]
      split_ifs <;> rfl
    obtain ⟨rfl, rfl⟩ := Prod.mk.inj hstay
    dsimp only
    rw [drainLoop, ← hrx]
  | cons message rx =>
    rw [hrx] at hround
    rw [drainLoop.eq_def]
    dsimp only at hround ⊢
    split_ifs at hround ⊢ with htick hqueue
    · obtain ⟨rfl, rfl⟩ := Prod.mk.inj hround
      dsimp only
      rw [← hrx]
    · obtain ⟨rfl, rfl⟩ := Prod.mk.inj hround
      dsimp only
      rw [← hrx]
    · cases message with
      | error error =>
        obtain ⟨rfl, rfl⟩ := Prod.mk.inj hround
        rfl
      | ok chunk =>
        dsimp only at hround ⊢
        split_ifs at hround ⊢ with hchunk
        · obtain ⟨rfl, rfl⟩ := Prod.mk.inj hround
          exact ⟨Nat.lt_succ_self _, (drainLoop_outputRx { session with
            pendingOutputBytes := session.pendingOutputBytes + chunk.length
            pendingOutput := session.pendingOutput ++ [chunk] } rx rx _ _).symm⟩
        · obtain ⟨rfl, rfl⟩ := Prod.mk.inj hround
          exact ⟨Nat.lt_succ_self _, (drainLoop_outputRx session rx rx _ _).symm⟩

/-- **The rounds of a drain** in which nothing is sent. -/
theorem exec_drain (call : SessionCall) (b : OutputBridge) (chunks bytes : ℕ)
    (hphase : b.phase = .draining call chunks bytes) :
    ∃ rounds, exec OutputBridge.step b (List.replicate rounds .drain) = some { b with
      session := b.session.drainLoop chunks bytes b.session.outputRx, phase := .drained call } := by
  induction hn : b.session.outputRx.length using Nat.strong_induction_on
    generalizing b chunks bytes with
  | _ n ih =>
    cases hround : b.session.drainRound chunks bytes with
    | mk session next =>
      have hloop := drainLoop_of_drainRound hround
      cases next with
      | none =>
        refine ⟨1, ?_⟩
        rw [show b.session.drainLoop chunks bytes b.session.outputRx = session from hloop,
          List.replicate_one, exec_cons, OutputBridge.step, hphase]
        dsimp only
        rw [hround]
        rfl
      | some next =>
        obtain ⟨hlt, hloop⟩ := hloop
        obtain ⟨rounds, hrounds⟩ := ih session.outputRx.length (hn ▸ hlt)
          { b with session, phase := .draining call next.1 next.2 } next.1 next.2 rfl rfl
        refine ⟨rounds + 1, ?_⟩
        have hstep : b.step .drain =
            some { b with session, phase := .draining call next.1 next.2 } := by
          rw [OutputBridge.step, hphase]
          dsimp only
          rw [hround]
        rw [List.replicate_succ, exec_cons, hstep, Option.bind_some, hrounds, hloop]

/-- **A whole `read`** in which nothing is sent is one step of the session. -/
theorem exec_read (b : OutputBridge) {bufferLen : ℕ} (hlen : bufferLen ≠ 0)
    (hphase : b.phase = .none) :
    ∃ rounds, exec OutputBridge.step b
        (.call (.read bufferLen) :: (List.replicate rounds .drain ++ [.finish])) = some { b with
      session := (b.session.read bufferLen).1
      answers := b.answers ++ [(.read bufferLen, (b.session.read bufferLen).2)]
      signalAtRead := b.session.outputSignal } := by
  have hcall : b.step (.call (.read bufferLen)) = some { b with
      phase := if b.session.pendingError.isSome then .drained (.read bufferLen)
        else .draining (.read bufferLen) 0 0
      signalAtRead := b.session.outputSignal } := by
    rw [OutputBridge.step, if_neg (not_not.mpr hphase), if_neg (by simp [hlen])]
    rfl
  have hdrained : ∃ rounds, exec OutputBridge.step { b with
      phase := if b.session.pendingError.isSome then .drained (.read bufferLen)
        else .draining (.read bufferLen) 0 0
      signalAtRead := b.session.outputSignal } (List.replicate rounds .drain) = some { b with
        session := b.session.drainReadyOutput
        phase := .drained (.read bufferLen)
        signalAtRead := b.session.outputSignal } := by
    rw [drainReadyOutput]
    split_ifs
    · exact ⟨0, rfl⟩
    · exact exec_drain _ { b with
        phase := .draining (.read bufferLen) 0 0
        signalAtRead := b.session.outputSignal } 0 0 rfl
  obtain ⟨rounds, hrounds⟩ := hdrained
  refine ⟨rounds, ?_⟩
  rw [exec_cons, hcall, Option.bind_some, exec_append, hrounds, Option.bind_some,
    NonBlockingPortablePtySession.read, if_neg hlen, hphase]
  rfl

/-! ### Runs -/

theorem Invariant.lossFree (h : b.Invariant) : b.LossFree where
  returned_prefix := ⟨_, h.carried⟩
  bytes_eq := h.valid.bytes_eq
  bytes_le := h.valid.bytes_le
  entries_le := h.valid.entries_le
  fits := h.fits
  error_once := ⟨h.errors_eq, h.errors_le⟩
  error_last hne := by
    have hcarried := h.carried
    rw [h.closed hne, List.flatMap_nil, List.append_nil] at hcarried
    exact hcarried
  snapshot_keeps _ _ hstep hop := h.snapshot_keeps hstep hop
  read_takes _ _ hphase hstep := h.read_takes hphase hstep
  read_alone _ hlen hphase := b.exec_read hlen hphase
  signalled hquiet hwaiting := by
    have hsignalled := h.signalled
    rw [hquiet.1] at hsignalled
    exact (hsignalled hwaiting).resolve_right fun ⟨last, hlast⟩ => hquiet.2 last hlast

/-- **Every run of the bridge is loss free.** The error of the thread is returned once, by the first
call that finds nothing else, be it a `read` or a `snapshot`. -/
theorem lossFree_of_run {ops : List BridgeOp} (hrun : exec OutputBridge.step {} ops = some b) :
    b.LossFree :=
  (exec_induction (fun _ _ _ h hstep => h.step hstep) invariant_new hrun).lossFree

/-- A chunk that is read in two parts, and then the error. -/
theorem lossFree_of_error : ∃ b, exec OutputBridge.step {}
    [.readPty [1, 2, 3], .send, .signal, .readError "gone", .send, .call (.read 2), .drain, .drain,
      .signal, .finish, .call .snapshot, .finish, .call (.read 2), .finish, .call (.read 2),
      .finish] = some b ∧ b.LossFree ∧ b.returned = [1, 2, 3] ∧ b.errors = ["gone"] := by
  have hrun : ((exec OutputBridge.step {}
      [.readPty [1, 2, 3], .send, .signal, .readError "gone", .send, .call (.read 2), .drain, .drain,
        .signal, .finish, .call .snapshot, .finish, .call (.read 2), .finish, .call (.read 2),
        .finish]).any fun b => b.returned = [1, 2, 3] ∧ b.errors = ["gone"]) = true := by
    decide +kernel
  obtain ⟨b, hb, hread⟩ := (Option.any_eq_true ..).mp hrun
  exact ⟨b, hb, lossFree_of_run hb, of_decide_eq_true hread⟩

/-- The snapshot that finds only the error of the thread returns it, and no `read` does. Between the
send of a message and its signal there are bytes and no signal. -/
theorem error_not_read :
    (¬∀ (ops : List BridgeOp) (b : OutputBridge), exec OutputBridge.step {} ops = some b →
      b.reader = .ended → b.phase = .none → b.session.waiting = [] →
        b.readErrors = b.sent.filterMap messageError) ∧
    ¬∀ (ops : List BridgeOp) (b : OutputBridge), exec OutputBridge.step {} ops = some b →
      b.phase = .none → b.session.waiting ≠ [] → b.signalAtRead < b.session.outputSignal := by
  constructor
  · intro h
    have hread := h [.readError "gone", .send, .signal, .call .snapshot, .drain, .finish] _ rfl rfl
      rfl rfl
    exact absurd hread (by decide)
  · intro h
    exact absurd (h [.readPty [1], .send] _ rfl rfl (by decide)) (by decide)

end OutputBridge

end Termd.Pty
