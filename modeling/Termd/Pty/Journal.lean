import Termd.Screen.Snapshot
import Termd.Screen.Stream

/-!
# The terminal journal

The supervisor of a session keeps the screen, the size and a journal of the most recent terminal
events. A client that attaches names the last event that it has seen and is answered with the
events since then, if all of them are in the journal and they are no dearer than a snapshot, or with
a snapshot. The daemon keeps a mirror of the same data, which it feeds with the frames that the
supervisor sends.

## Main definitions

* `TerminalEvent`, `PtyTerminalFrame`: events of the journal, and frames on the wire
* `SupervisorTerminalCache`: the supervisor's side
* `SupervisorTerminalMirror`: the daemon's side
* `recorded ops`: the events of a run
-/

namespace Termd.Pty

open Screen

structure PtySize where
  rows : UInt16
  cols : UInt16
  pixelWidth : UInt16
  pixelHeight : UInt16
deriving DecidableEq

inductive PtyTerminalFrame
  | snapshot (baseSeq : ℕ) (size : PtySize) (data : List UInt8)
  | output (terminalSeq : ℕ) (data : List UInt8)
  | resize (terminalSeq : ℕ) (size : PtySize)
  | exit (terminalSeq : ℕ) (code : Option Int32)
deriving DecidableEq

inductive TerminalEvent
  | output (seq : ℕ) (bytes : List UInt8)
  | resize (seq : ℕ) (size : PtySize)
  | exit (seq : ℕ) (code : Option Int32)
deriving DecidableEq

namespace TerminalEvent

def terminalSeq : TerminalEvent → ℕ
  | output seq _ | resize seq _ | exit seq _ => seq

def toTerminalFrame : TerminalEvent → PtyTerminalFrame
  | output seq bytes => .output seq bytes
  | resize seq size => .resize seq size
  | exit seq code => .exit seq code

def replayCostBytes : TerminalEvent → ℕ
  | output _ bytes => bytes.length
  | resize .. | exit .. => 1

def isResize : TerminalEvent → Bool
  | resize .. => true
  | output .. | exit .. => false

end TerminalEvent

@[irreducible] def terminalJournalMaxEvents : ℕ := 8192

@[irreducible] def terminalAttachTailMaxBytes : ℕ := 128 * 1024

def terminalAttachTailSnapshotRatio : ℕ := 2

/-- The first half of `push_journal`: the oldest events are popped until the journal has its size. -/
def pushEvent (journal : List TerminalEvent) (event : TerminalEvent) : List TerminalEvent :=
  window terminalJournalMaxEvents (journal ++ [event])

/-- The second half of `push_journal`: the sequence number of the first event, or of the next one. -/
def baseSeq (journal : List TerminalEvent) (next : ℕ) : ℕ :=
  (journal.head?.map TerminalEvent.terminalSeq).getD next

/-- `should_replay_attach_tail`, which the cache and the mirror have alike. -/
def shouldReplayAttachTail (screen : TerminalScreen) (tailEvents : List TerminalEvent) : Bool :=
  if tailEvents.any TerminalEvent.isResize then false
  else
    let tailBytes := (tailEvents.map TerminalEvent.replayCostBytes).sum
    if tailBytes ≤ terminalAttachTailMaxBytes then true
    else tailBytes ≤ screen.snapshotBytes.length * terminalAttachTailSnapshotRatio

/-- `terminal_snapshot_or_tail`, which the cache and the mirror have alike. -/
def snapshotOrTail (screen : TerminalScreen) (size : PtySize) (journal : List TerminalEvent)
    (journalBaseSeq currentSeq : ℕ) (lastTerminalSeq : Option ℕ) : ℕ × List PtyTerminalFrame :=
  let snapshot := (currentSeq, [.snapshot currentSeq size screen.snapshotBytes])
  match lastTerminalSeq with
  | none => snapshot
  | some last =>
    if last = currentSeq then (currentSeq, [])
    else if last < currentSeq ∧ journalBaseSeq ≤ last + 1 then
      let tailEvents := journal.filter fun event => last < event.terminalSeq
      if shouldReplayAttachTail screen tailEvents then
        (currentSeq, tailEvents.map TerminalEvent.toTerminalFrame)
      else snapshot
    else snapshot

/-! ### The supervisor's cache -/

structure SupervisorTerminalCache where
  nextTerminalSeq : ℕ
  journalBaseSeq : ℕ
  journal : List TerminalEvent
  screen : TerminalScreen
  size : PtySize

namespace SupervisorTerminalCache

variable (width : Char → Option (Fin 3)) (c : SupervisorTerminalCache)

def new (size : PtySize) : SupervisorTerminalCache where
  nextTerminalSeq := 1
  journalBaseSeq := 1
  journal := []
  screen := .new size.rows size.cols
  size := size

/-- `allocate_terminal_seq` and `push_journal`; the journal starts at the next number when it is
empty. -/
def pushJournal (event : ℕ → TerminalEvent) : SupervisorTerminalCache × PtyTerminalFrame :=
  let next := c.nextTerminalSeq + 1
  let journal := pushEvent c.journal (event c.nextTerminalSeq)
  ({ c with nextTerminalSeq := next, journal, journalBaseSeq := baseSeq journal next },
    (event c.nextTerminalSeq).toTerminalFrame)

def recordOutput (bytes : List UInt8) : Option (SupervisorTerminalCache × PtyTerminalFrame) := do
  let screen ← c.screen.apply width bytes
  return pushJournal { c with screen } fun seq => .output seq bytes

def resize (size : PtySize) : SupervisorTerminalCache × PtyTerminalFrame :=
  pushJournal { c with size, screen := c.screen.resize size.rows size.cols } fun seq =>
    .resize seq size

def recordExit (code : Option Int32) : SupervisorTerminalCache × PtyTerminalFrame :=
  c.pushJournal fun seq => .exit seq code

def snapshotOutput : List UInt8 := c.screen.snapshotBytes

def currentTerminalSeq : ℕ := c.nextTerminalSeq - 1

def terminalSnapshotOrTail (lastTerminalSeq : Option ℕ) : ℕ × List PtyTerminalFrame :=
  snapshotOrTail c.screen c.size c.journal c.journalBaseSeq c.currentTerminalSeq lastTerminalSeq

end SupervisorTerminalCache

/-- The calls that record an event. -/
inductive CacheOp
  | output (bytes : List UInt8)
  | resize (size : PtySize)
  | exit (code : Option Int32)
deriving DecidableEq

namespace CacheOp

/-- The event that a call records. -/
def event : CacheOp → ℕ → TerminalEvent
  | output bytes, seq => .output seq bytes
  | resize size, seq => .resize seq size
  | exit code, seq => .exit seq code

/-- What a call does to the screen. -/
def screenOps : CacheOp → List ScreenOp
  | output bytes => [.apply bytes]
  | resize size => [.resize size.rows size.cols]
  | exit _ => []

/-- What a call does to the size. -/
def sizeAfter : CacheOp → PtySize → PtySize
  | resize size, _ => size
  | output _, size | exit _, size => size

end CacheOp

/-- The cache after one call, and the frame that the call returned. -/
def SupervisorTerminalCache.call (width : Char → Option (Fin 3)) (c : SupervisorTerminalCache) :
    CacheOp → Option (SupervisorTerminalCache × PtyTerminalFrame)
  | .output bytes => c.recordOutput width bytes
  | .resize size => some (c.resize size)
  | .exit code => some (c.recordExit code)

def SupervisorTerminalCache.step (width : Char → Option (Fin 3)) (c : SupervisorTerminalCache)
    (op : CacheOp) : Option SupervisorTerminalCache := (c.call width op).map Prod.fst

/-- The events of a run, numbered from one. -/
def recorded (ops : List CacheOp) : List TerminalEvent := ops.mapIdx fun i op => op.event (i + 1)

/-! ### The daemon's mirror -/

structure SupervisorTerminalMirror where
  currentTerminalSeq : ℕ
  journalBaseSeq : ℕ
  journal : List TerminalEvent
  screen : TerminalScreen
  size : PtySize

namespace SupervisorTerminalMirror

variable (width : Char → Option (Fin 3)) (m : SupervisorTerminalMirror)

def new (size : PtySize) : SupervisorTerminalMirror where
  currentTerminalSeq := 0
  journalBaseSeq := 1
  journal := []
  screen := .new size.rows size.cols
  size := size

def resetFromSnapshot (size : PtySize) (base : ℕ) (bytes : List UInt8) :
    Option SupervisorTerminalMirror :=
  if base < m.currentTerminalSeq then some m
  else do
    let screen ← (TerminalScreen.new size.rows size.cols).apply width bytes
    return { currentTerminalSeq := base, journalBaseSeq := base + 1, journal := [], size, screen }

/-- `push_journal`, after the current number was advanced to that of the event. -/
def pushJournal (event : TerminalEvent) : SupervisorTerminalMirror :=
  let journal := pushEvent m.journal event
  { m with
    currentTerminalSeq := event.terminalSeq, journal
    journalBaseSeq := baseSeq journal (event.terminalSeq + 1) }

/-- `apply_frame`, with what it returns. -/
def applyFrame : PtyTerminalFrame → Option (SupervisorTerminalMirror × Bool)
  | .snapshot base size data =>
    if base < m.currentTerminalSeq then some (m, false)
    else do
      let m ← m.resetFromSnapshot width size base data
      return (m, true)
  | .output terminalSeq data =>
    if terminalSeq ≤ m.currentTerminalSeq then some (m, false)
    else do
      let screen ← m.screen.apply width data
      return (pushJournal { m with screen } (.output terminalSeq data), true)
  | .resize terminalSeq size =>
    if terminalSeq ≤ m.currentTerminalSeq then some (m, false)
    else
      some (pushJournal { m with size, screen := m.screen.resize size.rows size.cols }
        (.resize terminalSeq size), true)
  | .exit terminalSeq code =>
    if terminalSeq ≤ m.currentTerminalSeq then some (m, false)
    else some (m.pushJournal (.exit terminalSeq code), true)

def applySnapshotAndTail (size : PtySize) (base : ℕ) (bytes : List UInt8)
    (frames : List PtyTerminalFrame) : Option SupervisorTerminalMirror := do
  let m ← m.resetFromSnapshot width size base bytes
  frames.foldlM (fun m frame => (m.applyFrame width frame).map Prod.fst) m

def terminalSnapshotOrTail (lastTerminalSeq : Option ℕ) : ℕ × List PtyTerminalFrame :=
  snapshotOrTail m.screen m.size m.journal m.journalBaseSeq m.currentTerminalSeq lastTerminalSeq

end SupervisorTerminalMirror

end Termd.Pty
