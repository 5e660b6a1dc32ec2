import Termd.Pty.Attach

/-!
# The browser follows an attach

The first frame of an attach says up to which event the daemon brings the browser. It holds a
snapshot, or the events that the browser lacks, or nothing. The receive loop decides from it and
from the last event that was rendered what it enqueues for the writer of the terminal, and asks
for a full snapshot when there is a gap. The writer accepts an event only when it is the next one;
a `sync` item sets its cursor.

The frames are those of the daemon's log; a browser ignores the code of an exit.

## Main definitions

* `advanceSequenceCursor`, `ensureActiveWriteSequence`: the rule of the writer
* `ReceiveLoop.handle`: what the receive loop makes of a frame
* `Attach`: a browser and what the daemon answers to its attach
* `Attach.Exact`: the screen has every event once, or there is a request for a full snapshot

## Main results

* `Attach.exact_iff_fresh`: which attaches leave the screen exact
* `Attach.overlapping_tail`: a tail that begins with an event that was rendered
-/

namespace Termd.Browser

open Pty

/-! ### The writer -/

inductive TerminalOutputItem
  | data (bytes : List UInt8)
  | sync (baseSeq : ℕ)
  | snapshot (bytes : List UInt8) (baseSeq : ℕ) (size : PtySize)
  | output (bytes : List UInt8) (terminalSeq : ℕ)
  | resize (terminalSeq : ℕ) (size : PtySize)
  | exit (terminalSeq : ℕ)

namespace TerminalOutputItem

/-- The item for a frame of the daemon. -/
def ofFrame : PtyTerminalFrame → TerminalOutputItem
  | .snapshot baseSeq size bytes => snapshot bytes baseSeq size
  | .output terminalSeq bytes => output bytes terminalSeq
  | .resize terminalSeq size => resize terminalSeq size
  | .exit terminalSeq _ => exit terminalSeq

/-- The number of an event. -/
def terminalSeq : TerminalOutputItem → Option ℕ
  | output _ terminalSeq | resize terminalSeq _ | exit terminalSeq => some terminalSeq
  | data _ | sync _ | snapshot .. => none

/-- It sets the cursor, and the terminal does not get it. -/
def isSync : TerminalOutputItem → Bool
  | sync _ => true
  | data _ | snapshot .. | output .. | resize .. | exit _ => false

end TerminalOutputItem

open TerminalOutputItem

def advanceSequenceCursor (item : TerminalOutputItem) (current : Option ℕ) : Option ℕ :=
  match item with
  | .sync baseSeq | .snapshot _ baseSeq _ => some baseSeq
  | .output _ terminalSeq | .resize terminalSeq _ | .exit terminalSeq => some terminalSeq
  | .data _ => current

/-- The item may be written, as far as its number goes. -/
def ensureActiveWriteSequence (item : TerminalOutputItem) (sequenceCursor : Option ℕ) : Bool :=
  match item with
  | .output _ terminalSeq | .resize terminalSeq _ | .exit terminalSeq =>
    sequenceCursor.any fun current => terminalSeq = current + 1
  | .sync _ | .snapshot .. | .data _ => true

/-- The writer, as far as the order of the items goes. -/
structure OutputWriter where
  lastTerminalSeq : Option ℕ
  /-- The items that were written. -/
  written : List TerminalOutputItem := []
  /-- `onTerminalResync` was called. -/
  resync : Bool := false

namespace OutputWriter

/-- An item that may not be written is dropped. -/
def write (w : OutputWriter) (item : TerminalOutputItem) : OutputWriter :=
  if ensureActiveWriteSequence item w.lastTerminalSeq then
    { w with
      lastTerminalSeq := advanceSequenceCursor item w.lastTerminalSeq
      written := w.written ++ [item] }
  else { w with resync := true }

/-- What the terminal has got. -/
def shown (w : OutputWriter) : List TerminalOutputItem := w.written.filter fun item => !item.isSync

end OutputWriter

/-! ### The receive loop -/

/-- What the receive loop knows of a session. -/
structure ReceiveLoop where
  /-- `lastRenderedTerminalSeqRef` -/
  rendered : Option ℕ
  /-- There is a token: the client has asked for a full snapshot. -/
  snapshotToken : Bool := false
  primed : Bool := false
  /-- `bufferedPreSyncFrames` -/
  buffered : List TerminalOutputItem := []
  /-- All items that were enqueued. -/
  enqueued : List TerminalOutputItem := []
  /-- `attachReconnectHandlerRef` was asked for a full snapshot, and the loop has ended. -/
  resync : Bool := false

/-- The largest base of the snapshots in the frames. -/
def frameSnapshotBaseSeq (frames : List PtyTerminalFrame) : Option ℕ :=
  frames.foldl (fun current frame =>
    match frame with
    | .snapshot baseSeq _ _ => some (max (current.getD 0) baseSeq)
    | .output .. | .resize .. | .exit .. => current) none

/-- The loop of `tailFramesCoverBaseSeq`. -/
def coverLoop (baseSeq : ℕ) : List PtyTerminalFrame → ℕ → Bool
  | [], expectedSeq => baseSeq < expectedSeq
  | .snapshot .. :: _, _ => true
  | .output terminalSeq _ :: frames, expectedSeq
  | .resize terminalSeq _ :: frames, expectedSeq
  | .exit terminalSeq _ :: frames, expectedSeq =>
    if terminalSeq < expectedSeq then coverLoop baseSeq frames expectedSeq
    else if terminalSeq ≠ expectedSeq then false
    else if baseSeq < expectedSeq + 1 then true
    else coverLoop baseSeq frames (expectedSeq + 1)

def tailFramesCoverBaseSeq (previousRenderedSeq : Option ℕ) (baseSeq : ℕ)
    (frames : List PtyTerminalFrame) : Bool :=
  match previousRenderedSeq with
  | none => true
  | some previous => if baseSeq ≤ previous then true else coverLoop baseSeq frames (previous + 1)

/-- The seed of a tail: the event before the first one. -/
def tailOnlySyncSeed (frames : List PtyTerminalFrame) : Option ℕ :=
  (frames.findSome? PtyTerminalFrame.terminalSeq).map fun terminalSeq => terminalSeq - 1

/-- The items for the frames, but for the events that a snapshot covers. -/
def frameItems : List PtyTerminalFrame → Option ℕ → List TerminalOutputItem
  | [], _ => []
  | .snapshot baseSeq size bytes :: frames, covered =>
    .snapshot bytes baseSeq size :: frameItems frames (some (max (covered.getD 0) baseSeq))
  | frame :: frames, covered =>
    if covered.any fun seq => frame.terminalSeq.any fun terminalSeq => terminalSeq ≤ seq then
      frameItems frames covered
    else ofFrame frame :: frameItems frames covered

/-- `snapshotCoveredSeq` after the frames. -/
def coveredAfter : List PtyTerminalFrame → Option ℕ → Option ℕ
  | [], covered => covered
  | .snapshot baseSeq _ _ :: frames, covered =>
    coveredAfter frames (some (max (covered.getD 0) baseSeq))
  | .output .. :: frames, covered | .resize .. :: frames, covered | .exit .. :: frames, covered =>
    coveredAfter frames covered

/-- `flushBufferedPreSyncFrames` -/
def flushBufferedPreSyncFrames (pending : List TerminalOutputItem) (seedSequence : Bool)
    (coveredTerminalSeq : Option ℕ) : List TerminalOutputItem :=
  let filteredPending := pending.filter fun item =>
    !(coveredTerminalSeq.any fun seq => item.terminalSeq.any fun terminalSeq => terminalSeq ≤ seq)
  match filteredPending.findSome? TerminalOutputItem.terminalSeq with
  | some firstLive =>
    if seedSequence then .sync (firstLive - 1) :: filteredPending else filteredPending
  | none => filteredPending

namespace ReceiveLoop

variable (l : ReceiveLoop)

/-- The branch of `attach_sync`. -/
def attachSync (baseSeq : ℕ) (payload : SupervisorSnapshotPayload)
    (frames : List PtyTerminalFrame) : ReceiveLoop :=
  let frameSnapshot := frameSnapshotBaseSeq frames
  let hasSnapshotSeed :=
    l.snapshotToken || decide (payload.retainedOutput ≠ []) || frameSnapshot.isSome
  if !hasSnapshotSeed && l.rendered.any (· < baseSeq) &&
      !tailFramesCoverBaseSeq l.rendered baseSeq frames then
    { l with resync := true }
  else
    let retained := if frameSnapshot.isNone && hasSnapshotSeed then
        [TerminalOutputItem.snapshot payload.retainedOutput baseSeq payload.size]
      else []
    let covered := if frameSnapshot.isNone && hasSnapshotSeed then some baseSeq else frameSnapshot
    let seed := if hasSnapshotSeed then []
      else [TerminalOutputItem.sync ((tailOnlySyncSeed frames).getD baseSeq)]
    { l with
      primed := true
      snapshotToken := l.snapshotToken && !hasSnapshotSeed
      buffered := []
      enqueued := l.enqueued ++ retained ++ seed ++ frameItems frames covered ++
        flushBufferedPreSyncFrames l.buffered (!hasSnapshotSeed) (coveredAfter frames covered) }

/-- The branch of `terminal_frame`. -/
def terminalFrame (frame : PtyTerminalFrame) : ReceiveLoop :=
  match frame with
  | .snapshot .. => { l with primed := true, enqueued := l.enqueued ++ [ofFrame frame] }
  | .output .. | .resize .. | .exit .. =>
    if !l.primed && l.rendered.isNone then { l with buffered := l.buffered ++ [ofFrame frame] }
    else { l with enqueued := l.enqueued ++ [ofFrame frame] }

/-- What the loop makes of a frame; it has ended once it has asked for a full snapshot. -/
def handle : SupervisorTerminalServerFrame → ReceiveLoop
  | .attachSync baseSeq payload frames =>
    if l.resync then l else l.attachSync baseSeq payload frames
  | .terminalFrame frame => if l.resync then l else l.terminalFrame frame
  | .heartbeatPing _ | .close _ => l

end ReceiveLoop

/-! ### An attach -/

/-- The frames of an attach. -/
inductive SyncFrames
  | snapshot (size : PtySize) (bytes : List UInt8)
  /-- The events from `first` to the base, none when the base comes before `first`. -/
  | tail (first : ℕ)

def SyncFrames.frames (log : List CacheOp) (baseSeq : ℕ) : SyncFrames → List PtyTerminalFrame
  | snapshot size bytes => [.snapshot baseSeq size bytes]
  | tail first => eventsAfter log (first - 1) (baseSeq + 1 - first)

/-- A browser that has rendered the events up to `rendered`, and what a daemon with the events of
`log` sends it: the answer to the attach up to `baseSeq`, and the later events. -/
structure Attach where
  log : List CacheOp
  rendered : Option ℕ
  snapshotToken : Bool
  baseSeq : ℕ
  payload : SupervisorSnapshotPayload
  sync : SyncFrames
  rendered_le : rendered.getD 0 ≤ baseSeq
  baseSeq_le : baseSeq ≤ log.length
  /-- Without a snapshot there has to be something on the screen. -/
  sync_valid : ∀ first, sync = .tail first →
    rendered.isSome = true ∧ 1 ≤ first ∧ first ≤ baseSeq + 1

/-- Each event is the next one after the screen's position. -/
def Ordered : ℕ → List TerminalOutputItem → Prop
  | _, [] => True
  | _, .snapshot _ baseSeq _ :: items => Ordered baseSeq items
  | position, item :: items =>
    (∀ seq ∈ item.terminalSeq, seq = position + 1) ∧
      Ordered (item.terminalSeq.getD position) items

namespace Attach

variable (a : Attach)

/-- The items of the events after `base`. -/
def itemsAfter (base : ℕ) : List TerminalOutputItem :=
  (eventsAfter a.log base (a.log.length - base)).map ofFrame

/-- All frames that the browser gets. -/
def messages : List SupervisorTerminalServerFrame :=
  .attachSync a.baseSeq a.payload (a.sync.frames a.log a.baseSeq) ::
    (eventsAfter a.log a.baseSeq (a.log.length - a.baseSeq)).map .terminalFrame

def loop : ReceiveLoop :=
  a.messages.foldl ReceiveLoop.handle { rendered := a.rendered, snapshotToken := a.snapshotToken }

def writer : OutputWriter :=
  a.loop.enqueued.foldl OutputWriter.write { lastTerminalSeq := a.rendered }

/-- The snapshot that stands for the events up to the base; an older daemon puts it into the
payload. No bytes stand for no events. -/
def replacement : Option TerminalOutputItem :=
  match a.sync with
  | .snapshot size bytes => some (.snapshot bytes a.baseSeq size)
  | .tail _ =>
    if a.payload.retainedOutput ≠ [] ∨ a.baseSeq = 0 then
      some (.snapshot a.payload.retainedOutput a.baseSeq a.payload.size)
    else none

/-- The screen has every event once and in order, or there is a request for a full snapshot. -/
structure Exact : Prop where
  complete : a.loop.resync = true ∨ a.writer.resync = true ∨
    a.writer.shown = a.itemsAfter (a.rendered.getD 0) ∨
    ∃ snapshot ∈ a.replacement, a.writer.shown = snapshot :: a.itemsAfter a.baseSeq
  ordered : Ordered (a.rendered.getD 0) a.writer.shown

/-- What the frames have to be: a snapshot, or a tail of new events that no full snapshot was asked
for in place of. -/
def Fresh : Prop :=
  match a.sync with
  | .snapshot _ _ => True
  | .tail first => a.payload.retainedOutput ≠ [] ∨
      if a.snapshotToken then a.baseSeq = 0 else a.rendered.getD 0 < first

end Attach

/-! ### Events -/

section Events

variable {log : List CacheOp} {base n : ℕ}

theorem exists_eventsAfter_succ (h : base < log.length) : ∃ frame : PtyTerminalFrame,
    frame.terminalSeq = some (base + 1) ∧
      ∀ n, eventsAfter log base (n + 1) = frame :: eventsAfter log (base + 1) n := by
  have hbase : base < (recorded log).length := by rwa [length_recorded]
  refine ⟨(recorded log)[base].toTerminalFrame, ?_, fun n => ?_⟩
  · rw [terminalSeq_toTerminalFrame]
    simp [recorded]
  · rw [eventsAfter, eventsAfter, List.drop_eq_getElem_cons hbase, List.take_succ_cons,
      List.map_cons]

theorem terminalSeq_isSome_of_mem {frame : PtyTerminalFrame} (h : frame ∈ eventsAfter log base n) :
    frame.terminalSeq.isSome = true := by
  obtain ⟨event, -, rfl⟩ := List.mem_map.mp h
  rw [terminalSeq_toTerminalFrame, Option.isSome_some]

@[simp] theorem terminalSeq_ofFrame (frame : PtyTerminalFrame) :
    (ofFrame frame).terminalSeq = frame.terminalSeq := by
  cases frame <;> rfl

/-- What events do to a writer that has the events before them. -/
theorem foldl_write_events (h : base + n ≤ log.length) (w : OutputWriter)
    (hlast : w.lastTerminalSeq = some base) :
    ((eventsAfter log base n).map ofFrame).foldl OutputWriter.write w =
      { w with
        lastTerminalSeq := some (base + n)
        written := w.written ++ (eventsAfter log base n).map ofFrame } := by
  induction n generalizing base w with
  | zero => cases w; simp_all
  | succ n ih =>
    have hbase : base < log.length := by omega
    obtain ⟨frame, hseq, hevents⟩ := exists_eventsAfter_succ hbase
    have hwrite : w.write (ofFrame frame) =
        { w with lastTerminalSeq := some (base + 1), written := w.written ++ [ofFrame frame] } := by
      cases frame <;> cases hseq <;>
        simp [OutputWriter.write, ofFrame, ensureActiveWriteSequence, advanceSequenceCursor, hlast]
    rw [hevents, List.map_cons, List.foldl_cons, hwrite, ih (by omega) _ rfl]
    simp [Nat.add_assoc, Nat.add_comm 1]

theorem ordered_events (h : base + n ≤ log.length) :
    Ordered base ((eventsAfter log base n).map ofFrame) := by
  induction n generalizing base with
  | zero => trivial
  | succ n ih =>
    have hbase : base < log.length := by omega
    obtain ⟨frame, hseq, hevents⟩ := exists_eventsAfter_succ hbase
    rw [hevents, List.map_cons]
    have hnext : Ordered (base + 1) ((eventsAfter log (base + 1) n).map ofFrame) := ih (by omega)
    cases frame <;> cases hseq <;> exact ⟨by simp [ofFrame, TerminalOutputItem.terminalSeq], hnext⟩

/-- Events cover a base as soon as they begin early enough. -/
theorem coverLoop_events (h : base + n ≤ log.length) {expectedSeq : ℕ}
    (hexpected : expectedSeq ≤ base + n) :
    coverLoop (base + n) (eventsAfter log base n) expectedSeq =
      decide (base + 1 ≤ expectedSeq) := by
  induction n generalizing base expectedSeq with
  | zero =>
    rw [eventsAfter_zero, coverLoop, Nat.add_zero, decide_eq_decide, Nat.lt_iff_add_one_le]
  | succ n ih =>
    have hbase : base < log.length := by omega
    obtain ⟨frame, hseq, hevents⟩ := exists_eventsAfter_succ hbase
    have hcover : coverLoop (base + (n + 1)) (frame :: eventsAfter log (base + 1) n) expectedSeq =
        if base + 1 < expectedSeq then
          coverLoop (base + (n + 1)) (eventsAfter log (base + 1) n) expectedSeq
        else if base + 1 ≠ expectedSeq then false
        else if base + (n + 1) < expectedSeq + 1 then true
        else coverLoop (base + (n + 1)) (eventsAfter log (base + 1) n) (expectedSeq + 1) := by
      cases frame <;> cases hseq <;> rfl
    have hstep : base + (n + 1) = base + 1 + n := by omega
    rw [hevents, hcover, hstep]
    split_ifs with hlt hne hlast
    · rw [ih (by omega) (by omega), decide_eq_decide]
      omega
    · exact (decide_eq_false (by omega)).symm
    · exact (decide_eq_true (by omega)).symm
    · rw [ih (by omega) (by omega), decide_eq_decide]
      omega

theorem frameSnapshotBaseSeq_events : frameSnapshotBaseSeq (eventsAfter log base n) = none := by
  refine List.foldlRecOn (motive := (· = none)) _ _ rfl fun current hcurrent frame hframe => ?_
  have hseq := terminalSeq_isSome_of_mem hframe
  cases frame with
  | snapshot => cases hseq
  | output | resize | exit => exact hcurrent

theorem frameItems_cons {frame : PtyTerminalFrame} {seq : ℕ} (hseq : frame.terminalSeq = some seq)
    (frames : List PtyTerminalFrame) (covered : Option ℕ) :
    frameItems (frame :: frames) covered =
      if covered.any (seq ≤ ·) then frameItems frames covered
      else ofFrame frame :: frameItems frames covered := by
  cases frame with
  | snapshot => cases hseq
  | output | resize | exit =>
    cases hseq
    rfl

/-- Nothing is enqueued of the events up to a base that is covered. -/
theorem frameItems_covered {covered : ℕ} (h : base + n ≤ log.length)
    (hcovered : base + n ≤ covered) : frameItems (eventsAfter log base n) (some covered) = [] := by
  induction n generalizing base with
  | zero => rfl
  | succ n ih =>
    have hbase : base < log.length := by omega
    obtain ⟨frame, hseq, hevents⟩ := exists_eventsAfter_succ hbase
    have hle : base + 1 ≤ covered := by omega
    rw [hevents, frameItems_cons hseq, if_pos (by simpa using hle)]
    exact ih (by omega) (by omega)

theorem frameItems_none : ∀ {frames : List PtyTerminalFrame},
    (∀ frame ∈ frames, frame.terminalSeq.isSome = true) →
      frameItems frames none = frames.map ofFrame
  | [], _ => rfl
  | frame :: frames, h => by
    obtain ⟨hframe, hframes⟩ := List.forall_mem_cons.mp h
    obtain ⟨seq, hseq⟩ := Option.isSome_iff_exists.mp hframe
    rw [frameItems_cons hseq, if_neg (by simp), frameItems_none hframes, List.map_cons]

theorem eventsAfter_append (m : ℕ) :
    eventsAfter log base n ++ eventsAfter log (base + n) m = eventsAfter log base (n + m) := by
  rw [eventsAfter, eventsAfter, eventsAfter, ← List.map_append, List.take_add, List.drop_drop]

theorem tailOnlySyncSeed_events (h : base + n ≤ log.length) :
    (tailOnlySyncSeed (eventsAfter log base n)).getD (base + n) = base := by
  cases n with
  | zero => rfl
  | succ n =>
    have hbase : base < log.length := by omega
    obtain ⟨frame, hseq, hevents⟩ := exists_eventsAfter_succ hbase
    rw [tailOnlySyncSeed, hevents, List.findSome?_cons, hseq]
    rfl

end Events

/-! ### Live events -/

namespace ReceiveLoop

variable {l : ReceiveLoop} {baseSeq : ℕ} {payload : SupervisorSnapshotPayload}
  {frames : List PtyTerminalFrame}

/-- Without a snapshot among the frames, one is made of the payload. -/
theorem attachSync_of_seed (hframes : frameSnapshotBaseSeq frames = none)
    (hseed : (l.snapshotToken || decide (payload.retainedOutput ≠ [])) = true)
    (hbuffered : l.buffered = []) :
    l.attachSync baseSeq payload frames =
      { l with
        primed := true
        snapshotToken := false
        enqueued := l.enqueued ++ [.snapshot payload.retainedOutput baseSeq payload.size] ++
          frameItems frames (some baseSeq) } := by
  cases l
  cases hbuffered
  dsimp only at hseed
  simp only [attachSync, hframes, hseed]
  simp [flushBufferedPreSyncFrames]

/-- Without any snapshot the frames are a tail. -/
theorem attachSync_of_tail (hframes : frameSnapshotBaseSeq frames = none)
    (hseed : (l.snapshotToken || decide (payload.retainedOutput ≠ [])) = false)
    (hbuffered : l.buffered = []) :
    l.attachSync baseSeq payload frames =
      if l.rendered.any (· < baseSeq) && !tailFramesCoverBaseSeq l.rendered baseSeq frames then
        { l with resync := true }
      else
        { l with
          primed := true
          enqueued := l.enqueued ++ .sync ((tailOnlySyncSeed frames).getD baseSeq) ::
            frameItems frames none } := by
  cases l
  cases hbuffered
  dsimp only at hseed
  simp only [attachSync, hframes, hseed]
  simp [flushBufferedPreSyncFrames]

theorem foldl_handle_live (frames : List PtyTerminalFrame) (l : ReceiveLoop)
    (hprimed : l.primed = true) (hresync : l.resync = false) :
    (frames.map SupervisorTerminalServerFrame.terminalFrame).foldl ReceiveLoop.handle l =
      { l with enqueued := l.enqueued ++ frames.map ofFrame } := by
  induction frames generalizing l with
  | nil => simp
  | cons frame frames ih =>
    have hframe : l.handle (.terminalFrame frame) =
        { l with enqueued := l.enqueued ++ [ofFrame frame] } := by
      rw [handle, hresync]
      cases frame <;> simp [terminalFrame, hprimed, hresync]
    rw [List.map_cons, List.foldl_cons, hframe,
      ih { l with enqueued := l.enqueued ++ [ofFrame frame] } hprimed hresync]
    simp

theorem foldl_handle_resync (frames : List SupervisorTerminalServerFrame)
    (l : ReceiveLoop) (hresync : l.resync = true) : frames.foldl ReceiveLoop.handle l = l := by
  refine List.foldlRecOn (motive := (· = l)) _ _ rfl fun l' hl' frame _ => ?_
  rw [hl']
  cases frame with
  | attachSync | terminalFrame => rw [handle, if_pos hresync]
  | heartbeatPing | close => rfl

end ReceiveLoop

namespace Attach

variable (a : Attach)

/-! ### What is enqueued -/

/-- The loop before the answer. -/
def start : ReceiveLoop := { rendered := a.rendered, snapshotToken := a.snapshotToken }

/-- The later events follow what the answer enqueues. -/
theorem loop_of_attachSync {l : ReceiveLoop}
    (h : a.start.attachSync a.baseSeq a.payload (a.sync.frames a.log a.baseSeq) = l)
    (hprimed : l.primed = true) (hresync : l.resync = false) :
    a.loop = { l with enqueued := l.enqueued ++ a.itemsAfter a.baseSeq } := by
  rw [loop, messages, List.foldl_cons, ReceiveLoop.handle, if_neg (by simp)]
  rw [start] at h
  rw [h, ReceiveLoop.foldl_handle_live _ l hprimed hresync]
  rfl

/-- A seed sets the cursor of the writer to what the items begin after. -/
theorem writer_of_enqueued {seed : TerminalOutputItem} {base : ℕ} (hbase : base ≤ a.log.length)
    (hseed : seed = .sync base ∨ ∃ bytes size, seed = .snapshot bytes base size)
    (henqueued : a.loop.enqueued = seed :: a.itemsAfter base) :
    a.writer.resync = false ∧ a.writer.written = seed :: a.itemsAfter base := by
  have hwrite : OutputWriter.write { lastTerminalSeq := a.rendered } seed =
      { lastTerminalSeq := some base, written := [seed] } := by
    obtain rfl | ⟨bytes, size, rfl⟩ := hseed <;> rfl
  rw [writer, henqueued, List.foldl_cons, hwrite, itemsAfter, foldl_write_events (by omega) _ rfl]
  exact ⟨rfl, rfl⟩

theorem itemsAfter_append {base n : ℕ} (h : base + n = a.baseSeq) :
    (eventsAfter a.log base n).map ofFrame ++ a.itemsAfter a.baseSeq = a.itemsAfter base := by
  have hlog := a.baseSeq_le
  rw [itemsAfter, ← h, ← List.map_append, eventsAfter_append, itemsAfter]
  congr 2
  omega

theorem shown_of_written {seed : TerminalOutputItem} {base : ℕ}
    (hwritten : a.writer.written = seed :: a.itemsAfter base) :
    a.writer.shown = if seed.isSync then a.itemsAfter base else seed :: a.itemsAfter base := by
  have hitems : (a.itemsAfter base).filter (fun item => !item.isSync) = a.itemsAfter base := by
    refine List.filter_eq_self.mpr fun item hitem => ?_
    obtain ⟨frame, -, rfl⟩ := List.mem_map.mp hitem
    cases frame <;> rfl
  rw [OutputWriter.shown, hwritten, List.filter_cons, hitems]
  cases seed.isSync <;> rfl

variable {a}

/-- The answer is a snapshot, or one is made of the payload. -/
theorem loop_of_snapshot {bytes : List UInt8} {size : PtySize}
    (h : a.sync = .snapshot size bytes ∨
      (∃ first, a.sync = .tail first) ∧ bytes = a.payload.retainedOutput ∧ size = a.payload.size ∧
        (a.snapshotToken = true ∨ a.payload.retainedOutput ≠ [])) :
    a.loop.resync = false ∧
      a.loop.enqueued = .snapshot bytes a.baseSeq size :: a.itemsAfter a.baseSeq := by
  obtain hsync | ⟨⟨first, hsync⟩, rfl, rfl, hseed⟩ := h
  · have hattach := a.loop_of_attachSync (l := { a.start with
      primed := true, snapshotToken := false
      enqueued := [.snapshot bytes a.baseSeq size] }) ?_ rfl rfl
    · rw [hattach]
      exact ⟨rfl, rfl⟩
    · rw [hsync, ReceiveLoop.attachSync]
      simp [SyncFrames.frames, frameSnapshotBaseSeq, start, frameItems,
        flushBufferedPreSyncFrames]
  · have hattach := a.loop_of_attachSync (l := { a.start with
      primed := true, snapshotToken := false
      enqueued := [.snapshot a.payload.retainedOutput a.baseSeq a.payload.size] }) ?_ rfl rfl
    · rw [hattach]
      exact ⟨rfl, rfl⟩
    · obtain ⟨-, hfirst, hle⟩ := a.sync_valid first hsync
      have hbase := a.baseSeq_le
      rw [hsync, SyncFrames.frames, ReceiveLoop.attachSync_of_seed frameSnapshotBaseSeq_events
        (by simpa [start] using hseed) rfl, frameItems_covered (by omega) (by omega)]
      rfl

/-- The answer is a tail: it is refused when it comes too late. -/
theorem loop_of_tail {first : ℕ} (hsync : a.sync = .tail first) (htoken : a.snapshotToken = false)
    (hretained : a.payload.retainedOutput = []) :
    if a.rendered.getD 0 + 1 < first then a.loop.resync = true ∧ a.loop.enqueued = []
    else a.loop.resync = false ∧
      a.loop.enqueued = .sync (first - 1) :: a.itemsAfter (first - 1) := by
  obtain ⟨hsome, hfirst, hle⟩ := a.sync_valid first hsync
  obtain ⟨r, hr⟩ := Option.isSome_iff_exists.mp hsome
  have hbase := a.baseSeq_le
  have hrle := a.rendered_le
  rw [hr, Option.getD_some] at hrle ⊢
  -- the frames begin after `n` events
  obtain ⟨n, rfl⟩ := Nat.exists_eq_add_of_le' hfirst
  have hframes : a.sync.frames a.log a.baseSeq = eventsAfter a.log n (a.baseSeq - n) := by
    rw [hsync, SyncFrames.frames, Nat.add_sub_cancel, Nat.add_sub_add_right]
  have hn : n + (a.baseSeq - n) = a.baseSeq := by omega
  have hnle : n + (a.baseSeq - n) ≤ a.log.length := by omega
  have hseed := tailOnlySyncSeed_events hnle
  have hcover : (Option.any (· < a.baseSeq) a.rendered &&
      !tailFramesCoverBaseSeq a.rendered a.baseSeq (eventsAfter a.log n (a.baseSeq - n))) =
        decide (r < n) := by
    have hloop (hlt : r + 1 ≤ n + (a.baseSeq - n)) := coverLoop_events hnle hlt
    rw [hn] at hloop
    rw [hr, Option.any_some, tailFramesCoverBaseSeq, Bool.eq_iff_iff]
    split_ifs with hcovered
    · simp only [Bool.not_true, Bool.and_false, decide_eq_true_eq]
      exact iff_of_false (by simp) (by omega)
    · rw [hloop (by omega), Bool.and_eq_true, Bool.not_eq_true', decide_eq_true_eq,
        decide_eq_false_iff_not, decide_eq_true_eq]
      omega
  rw [hn] at hseed
  have hseedless : (a.start.snapshotToken || decide (a.payload.retainedOutput ≠ [])) = false := by
    simp [start, htoken, hretained]
  have htail : frameSnapshotBaseSeq (eventsAfter a.log n (a.baseSeq - n)) = none :=
    frameSnapshotBaseSeq_events
  have hattach := @ReceiveLoop.attachSync_of_tail a.start a.baseSeq a.payload _ htail hseedless rfl
  rw [← hframes] at hattach hseed hcover
  have hstart : a.start.rendered = a.rendered := rfl
  rw [hstart, hcover, hseed] at hattach
  by_cases hlate : n ≤ r
  · rw [if_neg (by simpa using hlate)] at hattach
    rw [if_neg (by omega), a.loop_of_attachSync hattach rfl rfl, hframes, Nat.add_sub_cancel,
      frameItems_none fun frame => terminalSeq_isSome_of_mem, ← a.itemsAfter_append hn]
    exact ⟨rfl, rfl⟩
  · rw [if_pos (by simpa using hlate)] at hattach
    rw [if_pos (by omega), loop, messages, List.foldl_cons, ReceiveLoop.handle, if_neg (by simp)]
    rw [start] at hattach
    rw [hattach, ReceiveLoop.foldl_handle_resync _ _ rfl]
    exact ⟨rfl, rfl⟩

/-! ### The screen -/

/-- What the terminal gets after a seed. -/
theorem shown_of_enqueued {seed : TerminalOutputItem} {base : ℕ} (hbase : base ≤ a.log.length)
    (hseed : seed = .sync base ∨ ∃ bytes size, seed = .snapshot bytes base size)
    (henqueued : a.loop.enqueued = seed :: a.itemsAfter base) :
    a.writer.resync = false ∧
      a.writer.shown = if seed.isSync then a.itemsAfter base else seed :: a.itemsAfter base := by
  obtain ⟨hresync, hwritten⟩ := a.writer_of_enqueued hbase hseed henqueued
  exact ⟨hresync, a.shown_of_written hwritten⟩

/-- Among events there is no snapshot. -/
theorem snapshot_notMem_itemsAfter {bytes : List UInt8} {base seq : ℕ} {size : PtySize} :
    TerminalOutputItem.snapshot bytes seq size ∉ a.itemsAfter base := by
  intro h
  obtain ⟨frame, hframe, hof⟩ := List.mem_map.mp h
  have hseq := terminalSeq_isSome_of_mem hframe
  cases frame with
  | snapshot => cases hseq
  | output | resize | exit => cases hof

theorem exists_of_mem_replacement {item : TerminalOutputItem} (h : item ∈ a.replacement) :
    ∃ bytes seq size, item = .snapshot bytes seq size := by
  rw [replacement] at h
  split at h
  · cases h
    exact ⟨_, _, _, rfl⟩
  · split_ifs at h <;> cases h
    exact ⟨_, _, _, rfl⟩

/-- A snapshot is exact if it is one that the daemon has sent. -/
theorem exact_iff_of_snapshot {bytes : List UInt8} {size : PtySize}
    (hresync : a.loop.resync = false)
    (henqueued : a.loop.enqueued = .snapshot bytes a.baseSeq size :: a.itemsAfter a.baseSeq) :
    a.Exact ↔ a.replacement = some (.snapshot bytes a.baseSeq size) := by
  obtain ⟨hwriter, hshown⟩ := shown_of_enqueued a.baseSeq_le (.inr ⟨bytes, size, rfl⟩) henqueued
  replace hshown : a.writer.shown = .snapshot bytes a.baseSeq size :: a.itemsAfter a.baseSeq :=
    hshown
  constructor
  · intro h
    obtain hloop | hresync | hevents | ⟨snapshot, hsnapshot, heq⟩ := h.complete
    · simp [hresync] at hloop
    · simp [hwriter] at hresync
    · exact absurd (hevents ▸ hshown ▸ List.mem_cons_self) snapshot_notMem_itemsAfter
    · rw [hshown] at heq
      rw [(List.cons.inj heq).1]
      exact hsnapshot
  · intro h
    refine ⟨.inr (.inr (.inr ⟨_, h, hshown⟩)), ?_⟩
    rw [hshown]
    exact ordered_events (by have := a.baseSeq_le; omega)

/-- A tail is exact if it begins after the last event that was rendered. -/
theorem exact_iff_of_tail {base : ℕ} (hbase : base ≤ a.log.length)
    (hle : base ≤ a.rendered.getD 0) (hresync : a.loop.resync = false)
    (henqueued : a.loop.enqueued = .sync base :: a.itemsAfter base) :
    a.Exact ↔ base = a.rendered.getD 0 := by
  obtain ⟨hwriter, hshown⟩ := shown_of_enqueued hbase (.inl rfl) henqueued
  replace hshown : a.writer.shown = a.itemsAfter base := hshown
  have hrendered := a.rendered_le
  have hlog := a.baseSeq_le
  have hlength (base : ℕ) (h : base ≤ a.log.length) :
      (a.itemsAfter base).length = a.log.length - base := by
    simp [itemsAfter, eventsAfter]
  constructor
  · intro h
    obtain hloop | hwrite | hevents | ⟨snapshot, hsnapshot, heq⟩ := h.complete
    · simp [hresync] at hloop
    · simp [hwriter] at hwrite
    · have hlen := congrArg List.length (hshown.symm.trans hevents)
      rw [hlength _ hbase, hlength _ (by omega)] at hlen
      omega
    · obtain ⟨bytes, seq, size, rfl⟩ := exists_of_mem_replacement hsnapshot
      exact absurd (hshown ▸ heq ▸ List.mem_cons_self) snapshot_notMem_itemsAfter
  · intro h
    refine ⟨.inr (.inr (.inl (hshown.trans (h ▸ rfl)))), ?_⟩
    rw [hshown, ← h]
    exact ordered_events (by omega)

/-- **The screen is exact** when the answer is fresh, and only then. -/
theorem exact_iff_fresh (a : Attach) : a.Exact ↔ a.Fresh := by
  rw [Fresh]
  split
  case h_1 size bytes hsync =>
    obtain ⟨hresync, henqueued⟩ := loop_of_snapshot (.inl hsync)
    rw [exact_iff_of_snapshot hresync henqueued, replacement, hsync]
    exact iff_of_true rfl trivial
  case h_2 first hsync =>
    by_cases hseed : a.snapshotToken = true ∨ a.payload.retainedOutput ≠ []
    · -- the payload stands for a snapshot
      obtain ⟨hresync, henqueued⟩ := loop_of_snapshot (.inr ⟨⟨first, hsync⟩, rfl, rfl, hseed⟩)
      rw [exact_iff_of_snapshot hresync henqueued, replacement, hsync]
      by_cases hretained : a.payload.retainedOutput = []
      · have htoken : a.snapshotToken = true := hseed.resolve_right (not_not_intro hretained)
        simp [hretained, htoken]
      · simp [hretained]
    · obtain ⟨htoken, hretained⟩ := not_or.mp hseed
      have hloop := loop_of_tail hsync (by simpa using htoken) (not_not.mp hretained)
      obtain ⟨-, hfirst, hle⟩ := a.sync_valid first hsync
      have hlog := a.baseSeq_le
      simp only [not_not.mp hretained, htoken, ne_eq, not_true_eq_false, false_or, if_false,
        Bool.false_eq_true]
      split_ifs at hloop with hlate
      · -- the browser asks for a snapshot and shows nothing
        refine iff_of_true ⟨.inl hloop.1, ?_⟩ (by omega)
        rw [writer, hloop.2]
        trivial
      · rw [exact_iff_of_tail (by omega) (by omega) hloop.1 hloop.2]
        omega

/-- The writer gets again an event that it has rendered since it named its last one. -/
theorem overlapping_tail : ¬∀ a : Attach, a.Exact := by
  intro h
  let a : Attach :=
    { log := [.output [65], .output [66]]
      rendered := some 1
      snapshotToken := false
      baseSeq := 2
      payload := ⟨⟨24, 80, 0, 0⟩, none, false, []⟩
      sync := .tail 1
      rendered_le := by decide
      baseSeq_le := by decide
      sync_valid := fun first hfirst => by cases hfirst; decide }
  exact absurd ((h a).ordered.1 1 rfl) (by decide)

end Attach

end Termd.Browser
