import Mathlib.Data.Prod.Lex
import Termd.State.Store

/-!
# The history of the sessions

A second table keeps what clients see of a session, with a number for its place in their lists. A
session that is created gets a number below all others, one that is restored without a row gets a
number above all others, and a request for an order numbers the sessions that are not closed. The
rows of closed sessions keep their numbers. The table of the attached clients is left out.

## Main definitions

* `History`: the table
* `listSessions`: the sessions that are not closed, in their order
* `recordSessionOrder`, `recordSessionCreated`, `recordSessionRestored`, …: the operations
* `Op`, `run`: the operations one after another
-/

namespace Termd.State

open Ownership (SessionState)
open Pty (PtySize)

namespace History

/-- A row of `daemon_sessions`. -/
structure Row where
  name : Option String
  state : String
  rows : ℤ
  cols : ℤ
  pixelWidth : ℤ
  pixelHeight : ℤ
  rootPath : String
  filesPath : Option String
  displayOrder : ℤ
  createdAtMs : ℤ
  updatedAtMs : ℤ

structure SessionHistoryRecord where
  sessionId : String
  name : Option String
  state : SessionState
  size : PtySize
  rootPath : String
  filesPath : Option String
  displayOrder : ℤ
  createdAtMs : ℕ
  updatedAtMs : ℕ

end History

/-- `daemon_sessions` -/
abbrev History := Table String History.Row

namespace History

def Row.resize (row : Row) (size : PtySize) : Row :=
  { row with
    rows := size.rows.toNat
    cols := size.cols.toNat
    pixelWidth := size.pixelWidth.toNat
    pixelHeight := size.pixelHeight.toNat }

/-! ### Readers -/

def sessionHistoryRecordFromRow (sessionId : String) (row : Row) : Option SessionHistoryRecord := do
  let state ← parseSessionState row.state
  let rows ← integerToU16 row.rows
  let cols ← integerToU16 row.cols
  let pixelWidth ← integerToU16 row.pixelWidth
  let pixelHeight ← integerToU16 row.pixelHeight
  let createdAtMs ← integerToTimestamp row.createdAtMs
  let updatedAtMs ← integerToTimestamp row.updatedAtMs
  return ⟨sessionId, row.name, state, ⟨rows, cols, pixelWidth, pixelHeight⟩, row.rootPath,
    row.filesPath, row.displayOrder, createdAtMs, updatedAtMs⟩

/-- `ORDER BY display_order, created_at_ms, session_id` -/
def orderKey (entry : Sigma fun _ : String => Row) : ℤ ×ₗ ℤ ×ₗ String :=
  toLex (entry.2.displayOrder, toLex (entry.2.createdAtMs, entry.1))

def visibleInOrder (t : History) : List (Sigma fun _ : String => Row) :=
  (t.entries.filter fun entry => entry.2.state ≠ closedText).insertionSort fun a b =>
    orderKey a ≤ orderKey b

def listSessions (t : History) : Option (List SessionHistoryRecord) :=
  (visibleInOrder t).mapM fun entry => sessionHistoryRecordFromRow entry.1 entry.2

def sessionRecord (t : History) (sessionId : String) : Option SessionHistoryRecord :=
  (t.lookup sessionId).bind (sessionHistoryRecordFromRow sessionId)

/-! ### Operations -/

def displayOrders (t : History) : List ℤ := t.entries.map fun entry => entry.2.displayOrder

/-- `COALESCE((SELECT MIN(display_order) - 1 …), 0)` -/
def firstOrder (t : History) : ℤ := ((displayOrders t).min?.map (· - 1)).getD 0

/-- `COALESCE((SELECT MAX(display_order) + 1 …), 0)` -/
def lastOrder (t : History) : ℤ := ((displayOrders t).max?.map (· + 1)).getD 0

def insertCreated (sessionId : String) (state : SessionState) (size : PtySize)
    (name : Option String) (rootPath : String) (nowMs : ℕ) (t : History) : Option History :=
  let row := match t.lookup sessionId with
    | none =>
      { name
        state := sessionStateText state
        rows := size.rows.toNat
        cols := size.cols.toNat
        pixelWidth := size.pixelWidth.toNat
        pixelHeight := size.pixelHeight.toNat
        rootPath
        filesPath := none
        displayOrder := firstOrder t
        createdAtMs := toI64 nowMs
        updatedAtMs := toI64 nowMs }
    | some row =>
      { row.resize size with
        name := row.name.or name
        state := sessionStateText state
        rootPath
        updatedAtMs := toI64 nowMs }
  some (t.insert sessionId row)

def recordSessionCreated (fault : Option Fault) (sessionId : String) (state : SessionState)
    (size : PtySize) (name : Option String) (rootPath : String) (nowMs : ℕ) (t : History) :
    History × Outcome :=
  transaction fault [insertCreated sessionId state size name rootPath nowMs] t

def insertRestored (sessionId : String) (state : SessionState) (size : PtySize)
    (rootPath defaultName filesPath : String) (createdAtMs updatedAtMs : ℕ) (t : History) :
    Option History :=
  let row := match t.lookup sessionId with
    | none =>
      { name := some defaultName
        state := sessionStateText state
        rows := size.rows.toNat
        cols := size.cols.toNat
        pixelWidth := size.pixelWidth.toNat
        pixelHeight := size.pixelHeight.toNat
        rootPath
        filesPath := some filesPath
        displayOrder := lastOrder t
        createdAtMs := toI64 createdAtMs
        updatedAtMs := toI64 updatedAtMs }
    | some row =>
      { row.resize size with
        name := row.name.or (some defaultName)
        state := sessionStateText state
        filesPath := row.filesPath.or (some filesPath)
        updatedAtMs := toI64 updatedAtMs }
  some (t.insert sessionId row)

/-- The row is read back; if that fails, it stays. -/
def recordSessionRestored (fault : Option Fault) (sessionId : String) (state : SessionState)
    (size : PtySize) (rootPath defaultName filesPath : String) (createdAtMs updatedAtMs : ℕ)
    (t : History) : History × Outcome × Option SessionHistoryRecord :=
  match transaction fault [insertRestored sessionId state size rootPath defaultName filesPath
    createdAtMs updatedAtMs] t with
  | (t', .committed) => (t', .committed, sessionRecord t' sessionId)
  | (t', outcome) => (t', outcome, none)

/-- `UPDATE daemon_sessions SET … WHERE session_id = ? AND …` -/
def updateSession (fault : Option Fault) (sessionId : String) (p : Row → Bool) (f : Row → Row)
    (t : History) : History × Outcome :=
  transaction fault [fun t => some (t.updateWhere sessionId p f)] t

def recordSessionRuntimeState (fault : Option Fault) (sessionId : String) (state : SessionState)
    (size : PtySize) (nowMs : ℕ) : History → History × Outcome :=
  updateSession fault sessionId (fun row => row.state ≠ closedText) fun row =>
    { row.resize size with state := sessionStateText state, updatedAtMs := toI64 nowMs }

def recordSessionResized (fault : Option Fault) (sessionId : String) (size : PtySize)
    (nowMs : ℕ) : History → History × Outcome :=
  updateSession fault sessionId (fun _ => true) fun row =>
    { row.resize size with updatedAtMs := toI64 nowMs }

def recordSessionRenamed (fault : Option Fault) (sessionId : String) (name : Option String)
    (nowMs : ℕ) : History → History × Outcome :=
  updateSession fault sessionId (fun _ => true) fun row =>
    { row with name, updatedAtMs := toI64 nowMs }

def recordSessionFilesPath (fault : Option Fault) (sessionId filesPath : String) (nowMs : ℕ) :
    History → History × Outcome :=
  updateSession fault sessionId (fun _ => true) fun row =>
    { row with filesPath := some filesPath, updatedAtMs := toI64 nowMs }

def recordSessionClosed (fault : Option Fault) (sessionId : String) (nowMs : ℕ) :
    History → History × Outcome :=
  updateSession fault sessionId (fun _ => true) fun row =>
    { row with state := closedText, updatedAtMs := toI64 nowMs }

def deleteClosed (sessionId : String) (t : History) : Option History :=
  some (t.deleteWhere sessionId fun row => row.state = closedText)

/-- Whether a row is deleted. -/
def pruneClosedSession (fault : Option Fault) (sessionId : String) (t : History) :
    History × Option Bool :=
  match transaction fault [deleteClosed sessionId] t with
  | (t', .committed) =>
    (t', some ((t.lookup sessionId).any fun row => row.state = closedText))
  | (t', _) => (t', none)

def deletableSessions (protected_ : List String) (t : History) : List String :=
  t.select fun sessionId row =>
    if row.state = closedText ∧ sessionId ∉ protected_ then some sessionId else none

/-- The number of rows that are deleted. -/
def pruneClosedSessionsExcept (fault : Option Fault) (protected_ : List String) (t : History) :
    History × Option ℕ :=
  let deletable := deletableSessions protected_ t
  match transaction fault (deletable.map deleteClosed) t with
  | (t', .committed) => (t', some deletable.length)
  | (t', _) => (t', none)

/-- The loop over the requested sessions; `seen` are those it has been at. -/
def requestedOrder (known : List String) : List String → List String → List String
  | _, [] => []
  | seen, id :: ids =>
    if id ∉ known ∨ id ∈ seen then requestedOrder known seen ids
    else id :: requestedOrder known (id :: seen) ids

def recordKey (r : SessionHistoryRecord) : ℤ ×ₗ ℕ ×ₗ String :=
  toLex (r.displayOrder, toLex (r.createdAtMs, r.sessionId))

/-- The requested sessions, and after them the remaining ones. -/
def orderedSessions (sessionIds : List String) (known : List SessionHistoryRecord) : List String :=
  let requested := requestedOrder (known.map SessionHistoryRecord.sessionId) [] sessionIds
  let remaining := known.filter fun r => r.sessionId ∉ requested
  requested ++ (remaining.insertionSort fun a b => recordKey a ≤ recordKey b).map
    SessionHistoryRecord.sessionId

def setDisplayOrder (nowMs : ℕ) (entry : String × ℕ) (t : History) : Option History :=
  some (t.updateWhere entry.1 (fun _ => true) fun row =>
    { row with displayOrder := entry.2, updatedAtMs := toI64 nowMs })

def recordSessionOrder (fault : Option Fault) (sessionIds : List String) (nowMs : ℕ) (t : History) :
    History × Option (List String) :=
  match listSessions t with
  | none => (t, none)
  | some known =>
    let ordered := orderedSessions sessionIds known
    match transaction fault (ordered.zipIdx.map (setDisplayOrder nowMs)) t with
    | (t', .committed) => (t', some ordered)
    | (t', _) => (t', none)

/-! ### Runs -/

inductive Op
  | created (fault : Option Fault) (sessionId : String) (state : SessionState) (size : PtySize)
    (name : Option String) (rootPath : String) (nowMs : ℕ)
  | restored (fault : Option Fault) (sessionId : String) (state : SessionState) (size : PtySize)
    (rootPath defaultName filesPath : String) (createdAtMs updatedAtMs : ℕ)
  | runtimeState (fault : Option Fault) (sessionId : String) (state : SessionState) (size : PtySize)
    (nowMs : ℕ)
  | resized (fault : Option Fault) (sessionId : String) (size : PtySize) (nowMs : ℕ)
  | renamed (fault : Option Fault) (sessionId : String) (name : Option String) (nowMs : ℕ)
  | filesPath (fault : Option Fault) (sessionId filesPath : String) (nowMs : ℕ)
  | closed (fault : Option Fault) (sessionId : String) (nowMs : ℕ)
  | prune (fault : Option Fault) (sessionId : String)
  | pruneExcept (fault : Option Fault) (protected_ : List String)
  | order (fault : Option Fault) (sessionIds : List String) (nowMs : ℕ)

def Op.apply (t : History) : Op → History
  | created fault sessionId state size name rootPath nowMs =>
    (recordSessionCreated fault sessionId state size name rootPath nowMs t).1
  | restored fault sessionId state size rootPath defaultName path createdAtMs updatedAtMs =>
    (recordSessionRestored fault sessionId state size rootPath defaultName path createdAtMs
      updatedAtMs t).1
  | runtimeState fault sessionId state size nowMs =>
    (recordSessionRuntimeState fault sessionId state size nowMs t).1
  | resized fault sessionId size nowMs => (recordSessionResized fault sessionId size nowMs t).1
  | renamed fault sessionId name nowMs => (recordSessionRenamed fault sessionId name nowMs t).1
  | filesPath fault sessionId path nowMs => (recordSessionFilesPath fault sessionId path nowMs t).1
  | closed fault sessionId nowMs => (recordSessionClosed fault sessionId nowMs t).1
  | prune fault sessionId => (pruneClosedSession fault sessionId t).1
  | pruneExcept fault protected_ => (pruneClosedSessionsExcept fault protected_ t).1
  | order fault sessionIds nowMs => (recordSessionOrder fault sessionIds nowMs t).1

/-- The table after some operations. -/
def run (ops : List Op) : History := ops.foldl Op.apply ∅

end History

end Termd.State
