import Termd.Screen.Basic

/-!
# The snapshot of a screen

`snapshotBytes` writes a screen as a byte string that a terminal of the same size can read: the
lines from the first to the last one in use, then the modes, the scroll region, the saved cursor,
the cursor and the style. While the alternate screen is shown, the normal screen comes first.

## Main definitions

* `csiBytes`: a control sequence
* `rowAnsiBytes`, `snapshotStateBytes`: one row, one screen
* `TerminalScreen.snapshotBytes`: the whole snapshot
-/

namespace Termd.Screen

/-- Parameters separated by semicolons. -/
def joinParams : List ℕ → List UInt8
  | [] => []
  | [n] => decimal n
  | n :: ns => decimal n ++ 0x3b :: joinParams ns

/-- `ESC [`, an optional question mark, the parameters and the final byte. -/
def csiBytes (isPrivate : Bool) (params : List ℕ) (final : UInt8) : List UInt8 :=
  [0x1b, 0x5b] ++ (if isPrivate then [0x3f] else []) ++ joinParams params ++ [final]

def CellStyle.sgrBytes (style : CellStyle) (resetFirst : Bool) : List UInt8 :=
  if style.isDefault then csiBytes false [0] 0x6d
  else csiBytes false (style.sgrCodes resetFirst) 0x6d

/-- A mode is set by `h` and reset by `l`. -/
def modeFinal (enabled : Bool) : UInt8 := if enabled then 0x68 else 0x6c

def TerminalModes.restoreBytes (modes : TerminalModes) : List UInt8 :=
  csiBytes true [7] (modeFinal modes.autoWrap) ++
  csiBytes true [6] (modeFinal modes.origin) ++
  csiBytes false [4] (modeFinal modes.insert) ++
  csiBytes true [1] (modeFinal modes.applicationCursor) ++
  [0x1b, if modes.applicationKeypad then 0x3d else 0x3e] ++
  csiBytes true [2004] (modeFinal modes.bracketedPaste) ++
  (MouseMode.all.filter (· ∈ modes.mouseModes)).flatMap fun mode =>
    csiBytes true [mode.code] (modeFinal true)

/-- A line that is written even if it shows nothing. -/
def TerminalLine.inUse (line : TerminalLine) : Bool := line.touched || !line.isBlank

/-- `snapshot_line_bounds_for`: the lines to write, from the viewport or from the first line in
use, to the last line in use. -/
def snapshotLineBounds (lines : List TerminalLine) (rows : ℕ) : Option (ℕ × ℕ) := do
  let firstVisible ← lines.findIdx? TerminalLine.inUse
  let lastVisible := (rposition TerminalLine.inUse lines).getD firstVisible
  let visibleStart := lines.length - rows
  let start := if visibleStart ≤ firstVisible then visibleStart else firstVisible
  return (start, lastVisible + 1)

theorem snapshotLineBounds_eq_some {lines : List TerminalLine} {rows start stop : ℕ}
    (h : snapshotLineBounds lines rows = some (start, stop)) :
    ∃ first last, lines.findIdx? TerminalLine.inUse = some first ∧
      rposition TerminalLine.inUse lines = some last ∧ first ≤ last ∧ last < lines.length ∧
      start = min (lines.length - rows) first ∧ stop = last + 1 := by
  simp only [snapshotLineBounds, Option.bind_eq_bind, Option.bind_eq_some_iff] at h
  obtain ⟨first, hfirst, h⟩ := h
  obtain ⟨last, hlast, hle, hlt⟩ := exists_rposition_of_findIdx? hfirst
  rw [hlast] at h
  simp only [Option.getD_some, Option.pure_def, Option.some.injEq, Prod.mk.injEq] at h
  refine ⟨first, last, hfirst, hlast, hle, hlt, ?_, h.2.symm⟩
  rw [← h.1]
  split <;> omega

theorem snapshotLineBounds_lt {lines : List TerminalLine} {rows start stop : ℕ}
    (h : snapshotLineBounds lines rows = some (start, stop)) : start < stop ∧ stop ≤ lines.length := by
  obtain ⟨first, last, -, -, hle, hlt, rfl, rfl⟩ := snapshotLineBounds_eq_some h
  omega

/-- The loop of `row_ansi_bytes` over the cells that are shown. -/
def cellsAnsiBytes (activeStyle : CellStyle) : List TerminalCell → List UInt8
  | [] => if activeStyle.isDefault then [] else CellStyle.sgrBytes {} false
  | cell :: rest =>
    if cell.wideContinuation then cellsAnsiBytes activeStyle rest
    else
      (if cell.style = activeStyle then [] else cell.style.sgrBytes (!activeStyle.isDefault)) ++
        encodeUtf8 cell.character ++ cellsAnsiBytes cell.style rest

def rowAnsiBytes (row : TerminalLine) : List UInt8 :=
  let displayWidth := row.displayWidth
  if displayWidth = 0 then [] else cellsAnsiBytes {} (row.cells.take displayWidth)

/-- The rows, with a line break between two of them. -/
def rowsAnsiBytes : List TerminalLine → List UInt8
  | [] => []
  | [row] => rowAnsiBytes row
  | row :: rows => rowAnsiBytes row ++ [0x0d, 0x0a] ++ rowsAnsiBytes rows

def scrollRegionBytes (scrollTop scrollBottom rows : ℕ) : List UInt8 :=
  if scrollTop = 0 ∧ scrollBottom = rows then csiBytes false [] 0x72
  else csiBytes false [scrollTop + 1, max (min scrollBottom rows) 1] 0x72

def cursorPositionBytes (cursorRow cursorCol cols : ℕ) : List UInt8 :=
  csiBytes false [cursorRow + 1, min cursorCol (cols - 1) + 1] 0x48

/-- The cursor is moved to the saved position and saved there. -/
def savedCursorRestoreBytes (savedCursor : Option (ℕ × ℕ)) (cols rows : ℕ) : List UInt8 :=
  match savedCursor with
  | none => []
  | some (row, col) =>
    csiBytes false [min row (rows - 1) + 1, min col (cols - 1) + 1] 0x48 ++ [0x1b, 0x37]

/-- `snapshot_state_bytes`, for the screen in front or the one that was put aside. -/
def snapshotStateBytes (n : SavedScreen) (rows cols : ℕ) : List UInt8 :=
  (match snapshotLineBounds n.lines rows with
    | none => []
    | some (start, stop) => rowsAnsiBytes ((n.lines.drop start).take (stop - start))) ++
  n.modes.restoreBytes ++
  scrollRegionBytes n.scrollTop n.scrollBottom rows ++
  savedCursorRestoreBytes n.savedCursor cols rows ++
  cursorPositionBytes n.cursorRow n.cursorCol cols ++
  (if n.currentStyle.isDefault then [] else n.currentStyle.sgrBytes false)

namespace TerminalScreen

variable (s : TerminalScreen)

def needsStateRestore : Bool :=
  s.cursorRow != 0 || s.cursorCol != 0 || s.savedCursor.isSome || !s.currentStyle.isDefault ||
    s.modes != {} || s.scrollTop != 0 || s.scrollBottom != s.rows

/-- The snapshot; a screen that is as good as new has an empty one. -/
def snapshotBytes : List UInt8 :=
  if s.normalScreen.isNone ∧ s.pendingControl.isEmpty ∧ s.utf8Pending.isEmpty ∧
      s.needsStateRestore = false ∧ snapshotLineBounds s.lines s.rows = none then []
  else
    (match s.normalScreen with
      | some normal => snapshotStateBytes normal s.rows s.cols ++ csiBytes true [1049] 0x68
      | none => []) ++
    snapshotStateBytes s.save s.rows s.cols ++ s.pendingControl ++ s.utf8Pending

end TerminalScreen

end Termd.Screen
