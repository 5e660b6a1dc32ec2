import Termd.Library.Utf8
import Termd.Screen.Line

/-!
# The terminal screen

`TerminalScreen` is the screen cache of the daemon: the cached lines, of which the last `rows` are
visible, the state that later bytes are interpreted in, and the normal screen that is put aside
while the alternate one is shown. `apply` feeds it the bytes of a PTY, `resize` follows the size
of the PTY.

Every place where the code indexes, expects a line to exist or inserts into the queue of lines is
partial here, and `none` is the panic.

## Main definitions

* `Registers`: the state that decides what the next byte means
* `TerminalScreen`: the screen cache
* `TerminalScreen.apply`, `TerminalScreen.resize`: its two operations
-/

namespace Termd.Screen

/-- The mouse modes that are tracked, by their DEC private mode numbers. -/
inductive MouseMode
  | m1000
  | m1002
  | m1003
  | m1005
  | m1006
  | m1015
deriving DecidableEq

namespace MouseMode

def code : MouseMode → ℕ
  | m1000 => 1000
  | m1002 => 1002
  | m1003 => 1003
  | m1005 => 1005
  | m1006 => 1006
  | m1015 => 1015

/-- All modes in ascending order, the order of the `BTreeSet`. -/
def all : List MouseMode := [m1000, m1002, m1003, m1005, m1006, m1015]

def ofCode (code : ℕ) : Option MouseMode := all.find? fun mode => mode.code == code

end MouseMode

structure TerminalModes where
  autoWrap : Bool := true
  origin : Bool := false
  insert : Bool := false
  applicationCursor : Bool := false
  applicationKeypad : Bool := false
  bracketedPaste : Bool := false
  mouseModes : Finset MouseMode := ∅
deriving DecidableEq

inductive ParserState
  | ground
  | escape
  | escapeIntermediate
  | osc
  | oscEscape
  | csi (isPrivate : Bool) (params : List (Option ℕ)) (current : Option ℕ)
deriving DecidableEq

/-- What decides the meaning of the next byte, apart from the cells. -/
structure Registers where
  rows : ℕ
  cols : ℕ
  cursorRow : ℕ := 0
  cursorCol : ℕ := 0
  savedCursor : Option (ℕ × ℕ) := none
  currentStyle : CellStyle := {}
  modes : TerminalModes := {}
  parser : ParserState := .ground
  utf8Pending : List UInt8 := []
  scrollTop : ℕ := 0
  scrollBottom : ℕ

structure SavedScreen where
  lines : List TerminalLine
  nextLineIndex : ℕ
  cursorRow : ℕ
  cursorCol : ℕ
  savedCursor : Option (ℕ × ℕ)
  currentStyle : CellStyle
  modes : TerminalModes
  scrollTop : ℕ
  scrollBottom : ℕ
deriving DecidableEq

structure TerminalScreen extends Registers where
  maxCachedLines : ℕ
  lines : List TerminalLine
  nextLineIndex : ℕ
  pendingControl : List UInt8 := []
  pendingHomeClearCut : Bool := false
  normalScreen : Option SavedScreen := none
  requiresSnapshotRedraw : Bool := false

def defaultMaxCachedLines : ℕ := 1000

def maxPendingControlBytes : ℕ := 4096

/-- `saturating_add(1)` on the line index. -/
def nextIndex (index : ℕ) : ℕ := min (index + 1) (2 ^ 64 - 1)

/-- `param_or`: a parameter that is missing or zero has the default value. -/
def paramOr (params : List (Option ℕ)) (index default : ℕ) : ℕ :=
  match params[index]? with
  | some (some value) => if 0 < value then value else default
  | _ => default

def oneBasedParam (params : List (Option ℕ)) (index : ℕ) : ℕ := paramOr params index 1 - 1

/-- `terminal_character_width`, over the width table of the `unicode-width` crate. -/
def terminalCharacterWidth (width : Char → Option (Fin 3)) (character : Char) : ℕ :=
  max (((width character).map Fin.val).getD 0) 1

namespace Registers

variable (r : Registers)

def cursorRowFromParam (params : List (Option ℕ)) (index : ℕ) : ℕ :=
  let row := oneBasedParam params index
  if r.modes.origin then min (r.scrollTop + row) (r.scrollBottom - 1) else min row (r.rows - 1)

def homeRow : ℕ := if r.modes.origin then min r.scrollTop (r.rows - 1) else 0

def setScrollRegion (params : List (Option ℕ)) : Registers :=
  let top := min (oneBasedParam params 0) (r.rows - 1)
  let bottom := max (min (paramOr params 1 r.rows) r.rows) (top + 1)
  let r := { r with scrollTop := top, scrollBottom := bottom }
  { r with cursorRow := r.homeRow, cursorCol := 0 }

def setPublicModes (params : List (Option ℕ)) (enabled : Bool) : Registers :=
  (params.filterMap id).foldl
    (fun r param =>
      if param = 4 then { r with modes := { r.modes with insert := enabled } } else r) r

/-- The private modes other than the alternate screen. -/
def setPrivateMode (param : ℕ) (enabled : Bool) : Registers :=
  match MouseMode.ofCode param with
  | some mode =>
    let mouseModes :=
      if enabled then insert mode r.modes.mouseModes else r.modes.mouseModes.erase mode
    { r with modes := { r.modes with mouseModes } }
  | none =>
    if param = 1 then { r with modes := { r.modes with applicationCursor := enabled } }
    else if param = 6 then
      let r := { r with modes := { r.modes with origin := enabled } }
      { r with cursorRow := r.homeRow, cursorCol := 0 }
    else if param = 7 then { r with modes := { r.modes with autoWrap := enabled } }
    else if param = 66 then { r with modes := { r.modes with applicationKeypad := enabled } }
    else if param = 2004 then { r with modes := { r.modes with bracketedPaste := enabled } }
    else r

/-- `ESC 8` -/
def restoreCursor : Registers :=
  match r.savedCursor with
  | some (row, col) => { r with cursorRow := min row (r.rows - 1), cursorCol := min col (r.cols - 1) }
  | none => r

end Registers

namespace TerminalScreen

variable (s : TerminalScreen)

def withMaxCachedLines (rows cols : UInt16) (maxCachedLines : ℕ) : TerminalScreen :=
  let rows := max rows.toNat 1
  let cols := max cols.toNat 1
  { rows, cols
    maxCachedLines := max (max maxCachedLines rows) 1
    lines := (List.range rows).map fun index => .blank index cols false
    nextLineIndex := rows
    scrollBottom := rows }

def new (rows cols : UInt16) : TerminalScreen := withMaxCachedLines rows cols defaultMaxCachedLines

def visibleStart : ℕ := s.lines.length - s.rows

/-- `visible_line_mut`: the line must exist. -/
def visibleLineMut (row : ℕ) (edit : TerminalLine → Option TerminalLine) : Option TerminalScreen := do
  let index := s.visibleStart + min row (s.rows - 1)
  let line ← s.lines[index]?
  let line ← edit line
  return { s with lines := s.lines.set index line }

/-- The number of lines that are kept. -/
def maxLines : ℕ := if s.normalScreen.isSome then s.rows else s.maxCachedLines

def trimCachedLines : TerminalScreen :=
  { s with lines := s.lines.drop (s.lines.length - s.maxLines) }

def pushBlankLineWithStyle (touched : Bool) (style : CellStyle) : TerminalScreen :=
  trimCachedLines
    { s with
      nextLineIndex := nextIndex s.nextLineIndex
      lines := s.lines ++ [⟨s.nextLineIndex, List.replicate s.cols (.styledBlank style), touched⟩] }

/-- `VecDeque::insert`, which panics beyond the end. -/
def insertLine (lines : List TerminalLine) (index : ℕ) (line : TerminalLine) :
    Option (List TerminalLine) :=
  if index ≤ lines.length then some (lines.insertIdx index line) else none

def insertVisibleLine (index : ℕ) (style : CellStyle) : Option TerminalScreen := do
  let line : TerminalLine :=
    ⟨s.nextLineIndex, List.replicate s.cols (.styledBlank style), true⟩
  let lines ← insertLine s.lines (min index s.lines.length) line
  return trimCachedLines { s with nextLineIndex := nextIndex s.nextLineIndex, lines }

/-- One round of the loop in `scroll_up_region`. -/
def scrollUpOnce (top bottom : ℕ) (style : CellStyle) : Option TerminalScreen :=
  if s.normalScreen.isNone ∧ top = 0 then
    -- the line that is scrolled out stays in the scrollback
    s.insertVisibleLine (s.visibleStart + bottom) style
  else
    let start := s.visibleStart + top
    let insertAt := s.visibleStart + bottom - 1
    insertVisibleLine { s with lines := s.lines.eraseIdx start } insertAt style

def scrollUpRegion (count : ℕ) : Option TerminalScreen := do
  let top := min s.scrollTop (s.rows - 1)
  let bottom := max (min s.scrollBottom s.rows) (top + 1)
  let style := s.currentStyle
  let s ← iterM (fun s => s.scrollUpOnce top bottom style) (min count (bottom - top)) s
  return { s with cursorRow := min s.cursorRow (s.rows - 1) }

/-- One round of the loop in `scroll_down`. -/
def scrollDownOnce (top bottom : ℕ) (style : CellStyle) : Option TerminalScreen :=
  let start := s.visibleStart + top
  let stop := s.visibleStart + bottom
  insertVisibleLine { s with lines := s.lines.eraseIdx (stop - 1) } start style

def scrollDown (count : ℕ) : Option TerminalScreen := do
  let top := min s.scrollTop (s.rows - 1)
  let bottom := max (min s.scrollBottom s.rows) (top + 1)
  let style := s.currentStyle
  let s ← iterM (fun s => s.scrollDownOnce top bottom style) (min count (bottom - top)) s
  return { s with cursorRow := min s.cursorRow (s.rows - 1) }

def lineFeed : Option TerminalScreen :=
  if s.cursorRow + 1 = s.scrollBottom ∨ s.rows ≤ s.cursorRow + 1 then s.scrollUpRegion 1
  else
    visibleLineMut { s with cursorRow := s.cursorRow + 1 } (s.cursorRow + 1) fun line =>
      some { line with touched := true }

/-- `clear_screen`: both branches of the source clear the visible lines. -/
def clearScreen : TerminalScreen :=
  { s with
    lines := s.lines.take s.visibleStart ++
      (s.lines.drop s.visibleStart).map fun line => line.clearWithStyle s.currentStyle }

/-- The lines are replaced by `rows` blank ones. -/
def refill (touched : Bool) : TerminalScreen :=
  (fun t : TerminalScreen => t.pushBlankLineWithStyle touched s.currentStyle)^[s.rows]
    { s with lines := [] }

def clearScreenAndScrollback : TerminalScreen :=
  { s.refill true with
    cursorRow := min s.cursorRow (s.rows - 1), cursorCol := min s.cursorCol (s.cols - 1) }

def clearCachedLines : TerminalScreen :=
  { s.refill false with cursorRow := 0, cursorCol := 0 }

def resetScreenBuffer : TerminalScreen :=
  { s with
    lines := (List.range s.rows).map fun index => .blank index s.cols false
    nextLineIndex := s.rows
    cursorRow := 0
    cursorCol := 0
    savedCursor := none
    currentStyle := {}
    modes := {}
    scrollTop := 0
    scrollBottom := s.rows }

/-- The parts of the screen that are put aside. -/
def save : SavedScreen where
  lines := s.lines
  nextLineIndex := s.nextLineIndex
  cursorRow := s.cursorRow
  cursorCol := s.cursorCol
  savedCursor := s.savedCursor
  currentStyle := s.currentStyle
  modes := s.modes
  scrollTop := s.scrollTop
  scrollBottom := s.scrollBottom

def enterAlternateScreen : TerminalScreen :=
  let s := match s.normalScreen with
    | none => { s with normalScreen := some s.save }
    | some _ => s
  { s.resetScreenBuffer with currentStyle := s.currentStyle, modes := s.modes }

def leaveAlternateScreen : TerminalScreen :=
  match s.normalScreen with
  | some saved =>
    let scrollTop := min saved.scrollTop (s.rows - 1)
    { s with
      normalScreen := none
      lines := saved.lines
      nextLineIndex := saved.nextLineIndex
      cursorRow := min saved.cursorRow (s.rows - 1)
      cursorCol := min saved.cursorCol (s.cols - 1)
      savedCursor := saved.savedCursor
      currentStyle := saved.currentStyle
      modes := saved.modes
      scrollTop
      scrollBottom := max (min saved.scrollBottom s.rows) (scrollTop + 1) }
  | none => s.resetScreenBuffer

/-- One parameter of `set_private_modes`. -/
def setPrivateMode (param : ℕ) (enabled : Bool) : TerminalScreen :=
  if param = 1049 then if enabled then s.enterAlternateScreen else s.leaveAlternateScreen
  else { s with toRegisters := s.toRegisters.setPrivateMode param enabled }

def setPrivateModes (params : List (Option ℕ)) (enabled : Bool) : TerminalScreen :=
  (params.filterMap id).foldl (fun s param => s.setPrivateMode param enabled) s

/-- The body of `for row in row..row + count { visible_line_mut(row).clear_with_style(style) }` -/
def clearRows (style : CellStyle) : ℕ → ℕ → TerminalScreen → Option TerminalScreen
  | _, 0, s => some s
  | row, count + 1, s => do
    let s ← s.visibleLineMut row fun line => some (line.clearWithStyle style)
    clearRows style (row + 1) count s

/-- `line.cells[col] = styled_blank` for the columns of a range. -/
def blankCells (line : TerminalLine) (col count : ℕ) (style : CellStyle) : Option TerminalLine := do
  let cells ← fillCells line.cells (.styledBlank style) col count
  return { line with cells, touched := true }

def eraseLine (mode : ℕ) : Option TerminalScreen :=
  match mode with
  | 0 => do
    let t ← s.visibleLineMut s.cursorRow fun line =>
      blankCells line s.cursorCol (s.cols - s.cursorCol) s.currentStyle
    return { t with cursorCol := min s.cursorCol (s.cols - 1) }
  | 1 => do
    let cursorCol := min s.cursorCol (s.cols - 1)
    let t ← s.visibleLineMut s.cursorRow fun line =>
      blankCells line 0 (cursorCol + 1) s.currentStyle
    return { t with cursorCol }
  | 2 => s.visibleLineMut s.cursorRow fun line => some (line.clearWithStyle s.currentStyle)
  | _ => some s

def eraseDisplay (mode : ℕ) : Option TerminalScreen :=
  match mode with
  | 0 => do
    let t ← s.eraseLine 0
    t.clearRows s.currentStyle (t.cursorRow + 1) (t.rows - (t.cursorRow + 1))
  | 1 => do
    let t ← s.clearRows s.currentStyle 0 s.cursorRow
    t.eraseLine 1
  | 2 => some (if s.pendingHomeClearCut then s.clearScreenAndScrollback else s.clearScreen)
  | 3 => some s.clearCachedLines
  | _ => some s

end TerminalScreen

/-- The final bytes of a control sequence that are interpreted. -/
inductive CsiAction
  | cursorUp
  | cursorDown
  | cursorForward
  | cursorBack
  | cursorColumn
  | cursorPosition
  | eraseDisplay
  | eraseLine
  | sgr
  | scrollRegion
  | scrollUp
  | scrollDown
  | cursorLine
  | setMode
  | resetMode
  | other
deriving DecidableEq

def CsiAction.ofByte (byte : UInt8) : CsiAction :=
  match Char.ofNat byte.toNat with
  | 'A' => .cursorUp
  | 'B' => .cursorDown
  | 'C' => .cursorForward
  | 'D' => .cursorBack
  | 'G' => .cursorColumn
  | 'H' => .cursorPosition
  | 'f' => .cursorPosition
  | 'J' => .eraseDisplay
  | 'K' => .eraseLine
  | 'm' => .sgr
  | 'r' => .scrollRegion
  | 'S' => .scrollUp
  | 'T' => .scrollDown
  | 'd' => .cursorLine
  | 'h' => .setMode
  | 'l' => .resetMode
  | _ => .other

/-- The bytes that may follow an escape. -/
inductive EscapeAction
  | csi
  | osc
  | saveCursor
  | restoreCursor
  | keypadOn
  | keypadOff
  | reset
  | intermediate
  | other
deriving DecidableEq

def EscapeAction.ofByte (byte : UInt8) : EscapeAction :=
  match Char.ofNat byte.toNat with
  | '[' => .csi
  | ']' => .osc
  | '7' => .saveCursor
  | '8' => .restoreCursor
  | '=' => .keypadOn
  | '>' => .keypadOff
  | 'c' => .reset
  | _ => if inRange 0x20 0x2f byte then .intermediate else .other

/-- The bytes of plain text. -/
inductive GroundAction
  | escape
  | carriageReturn
  | lineFeed
  | backspace
  | tab
  | control
  | print
  | utf8
deriving DecidableEq

def GroundAction.ofByte (byte : UInt8) : GroundAction :=
  if byte = 0x1b then .escape
  else if byte = 0x0d then .carriageReturn
  else if byte = 0x0a then .lineFeed
  else if byte = 0x08 then .backspace
  else if byte = 0x09 then .tab
  else if inRange 0x00 0x1f byte || byte == 0x7f then .control
  else if inRange 0x20 0x7e byte then .print
  else .utf8

namespace TerminalScreen

variable (width : Char → Option (Fin 3)) (s : TerminalScreen)

/-- The first part of `print_char`: the cursor leaves a column where the character does not fit. -/
def wrapCursor (w : ℕ) : Option TerminalScreen :=
  if s.cols ≤ s.cursorCol ∨ (1 < w ∧ s.cols < s.cursorCol + w) then
    if s.modes.autoWrap then lineFeed { s with cursorCol := 0 }
    else some { s with cursorCol := s.cols - min w s.cols }
  else some s

def printChar (character : Char) : Option TerminalScreen :=
  let width := terminalCharacterWidth width character
  if width = 0 then some s
  else do
    let s ← s.wrapCursor width
    let t ← s.visibleLineMut s.cursorRow fun line =>
      line.printCell s.cursorCol width character s.currentStyle s.modes.insert
    return { t with
      cursorCol :=
        if s.modes.autoWrap then s.cursorCol + width else min (s.cursorCol + width) (s.cols - 1) }

/-- The loop over the characters that `push_utf8_byte` has decoded. -/
def printChars : List Char → TerminalScreen → Option TerminalScreen
  | [], s => some s
  | character :: rest, s => do
    let s ← s.printChar width character
    printChars rest s

def pushUtf8Byte (byte : UInt8) : Option TerminalScreen :=
  let utf8Pending := s.utf8Pending ++ [byte]
  match fromUtf8 utf8Pending with
  | .ok chars => printChars width chars { s with utf8Pending := [] }
  | .incomplete =>
    if utf8Pending.length ≤ 4 then some { s with utf8Pending }
    else printChar width { s with utf8Pending := [] } '\ufffd'
  | .invalid => printChar width { s with utf8Pending := [] } '\ufffd'

def flushInvalidUtf8 : Option TerminalScreen :=
  if s.utf8Pending = [] then some s else printChar width { s with utf8Pending := [] } '\ufffd'

/-- A byte beyond the limit is not recorded. -/
def pushControl (control : List UInt8) (byte : UInt8) : List UInt8 :=
  if control.length < maxPendingControlBytes then control ++ [byte] else control

def pushPendingControlByte (byte : UInt8) : TerminalScreen :=
  { s with pendingControl := pushControl s.pendingControl byte }

def clearPendingControl : TerminalScreen := { s with pendingControl := [] }

def dispatchCsi (isPrivate : Bool) (params : List (Option ℕ)) (action : CsiAction) :
    Option TerminalScreen :=
  let s := { s with requiresSnapshotRedraw := s.requiresSnapshotRedraw || action != CsiAction.sgr }
  let cut := { s with pendingHomeClearCut := false }
  match action with
  | .cursorUp => some { cut with cursorRow := s.cursorRow - paramOr params 0 1 }
  | .cursorDown => some { cut with cursorRow := min (s.cursorRow + paramOr params 0 1) (s.rows - 1) }
  | .cursorForward =>
    some { cut with cursorCol := min (s.cursorCol + paramOr params 0 1) (s.cols - 1) }
  | .cursorBack => some { cut with cursorCol := s.cursorCol - paramOr params 0 1 }
  | .cursorColumn => some { cut with cursorCol := min (oneBasedParam params 0) (s.cols - 1) }
  | .cursorPosition =>
    let cursorRow := s.cursorRowFromParam params 0
    let cursorCol := min (oneBasedParam params 1) (s.cols - 1)
    some { s with
      cursorRow, cursorCol, pendingHomeClearCut := decide (cursorRow = 0 ∧ cursorCol = 0) }
  | .eraseDisplay => do
    let s ← s.eraseDisplay (paramOr params 0 0)
    return { s with pendingHomeClearCut := false }
  | .eraseLine => cut.eraseLine (paramOr params 0 0)
  | .sgr => some { s with currentStyle := s.currentStyle.applySgr params }
  | .scrollRegion => some { cut with toRegisters := cut.toRegisters.setScrollRegion params }
  | .scrollUp => cut.scrollUpRegion (paramOr params 0 1)
  | .scrollDown => cut.scrollDown (paramOr params 0 1)
  | .cursorLine => some { cut with cursorRow := s.cursorRowFromParam params 0 }
  | .setMode =>
    if isPrivate then some (cut.setPrivateModes params true)
    else some { cut with toRegisters := cut.toRegisters.setPublicModes params true }
  | .resetMode =>
    if isPrivate then some (cut.setPrivateModes params false)
    else some { cut with toRegisters := cut.toRegisters.setPublicModes params false }
  | .other => some cut

def applyEscapeByte (byte : UInt8) : TerminalScreen :=
  match EscapeAction.ofByte byte with
  | .csi => { s with parser := .csi false [] none }
  | .osc => { s with parser := .osc }
  | .saveCursor =>
    clearPendingControl
      { s with
        pendingHomeClearCut := false, savedCursor := some (s.cursorRow, s.cursorCol)
        parser := .ground }
  | .restoreCursor =>
    clearPendingControl
      { s with
        pendingHomeClearCut := false
        toRegisters := Registers.restoreCursor { s.toRegisters with parser := .ground } }
  | .keypadOn =>
    clearPendingControl
      { s with
        pendingHomeClearCut := false, modes := { s.modes with applicationKeypad := true }
        parser := .ground }
  | .keypadOff =>
    clearPendingControl
      { s with
        pendingHomeClearCut := false, modes := { s.modes with applicationKeypad := false }
        parser := .ground }
  | .reset =>
    clearPendingControl
      { s.clearScreenAndScrollback with
        requiresSnapshotRedraw := true, pendingHomeClearCut := false
        cursorRow := 0, cursorCol := 0, savedCursor := none, currentStyle := {}, modes := {}
        parser := .ground }
  | .intermediate =>
    { s with
      pendingHomeClearCut := false, requiresSnapshotRedraw := true, parser := .escapeIntermediate }
  | .other => clearPendingControl { s with pendingHomeClearCut := false, parser := .ground }

def applyGroundByte (byte : UInt8) : Option TerminalScreen :=
  match GroundAction.ofByte byte with
  | .escape => do
    let s ← s.flushInvalidUtf8 width
    return { pushPendingControlByte { s with pendingControl := [] } byte with parser := .escape }
  | .carriageReturn => do
    let s ← s.flushInvalidUtf8 width
    return { s with pendingHomeClearCut := false, cursorCol := 0 }
  | .lineFeed => do
    let s ← s.flushInvalidUtf8 width
    let s ← lineFeed { s with pendingHomeClearCut := false }
    return { s with cursorCol := 0 }
  | .backspace => do
    let s ← s.flushInvalidUtf8 width
    return { s with
      pendingHomeClearCut := false, requiresSnapshotRedraw := true, cursorCol := s.cursorCol - 1 }
  | .tab => do
    let s ← s.flushInvalidUtf8 width
    return { s with
      pendingHomeClearCut := false, requiresSnapshotRedraw := true
      cursorCol := min ((s.cursorCol / 8 + 1) * 8) (s.cols - 1) }
  | .control => flushInvalidUtf8 width { s with pendingHomeClearCut := false }
  | .print => do
    let s ← s.flushInvalidUtf8 width
    printChar width { s with pendingHomeClearCut := false } (Char.ofNat byte.toNat)
  | .utf8 => pushUtf8Byte width { s with pendingHomeClearCut := false } byte

/-- `current.unwrap_or(0).saturating_mul(10).saturating_add(digit)` on `u16` -/
def pushDigit (current : Option ℕ) (byte : UInt8) : ℕ :=
  min (min (current.getD 0 * 10) 65535 + digitValue byte) 65535

def applyByte (byte : UInt8) : Option TerminalScreen :=
  let state := s.parser
  let s := { s with parser := .ground }
  match state with
  | .ground => s.applyGroundByte width byte
  | .escape => some ((s.pushPendingControlByte byte).applyEscapeByte byte)
  | .escapeIntermediate =>
    let s := s.pushPendingControlByte byte
    if inRange 0x20 0x2f byte then some { s with parser := .escapeIntermediate }
    else some { s.clearPendingControl with parser := .ground }
  | .osc =>
    let s := s.pushPendingControlByte byte
    if byte = 0x07 then some { s.clearPendingControl with parser := .ground }
    else if byte = 0x1b then some { s with parser := .oscEscape }
    else some { s with parser := .osc }
  | .oscEscape =>
    let s := s.pushPendingControlByte byte
    if byte = 0x5c then some { s.clearPendingControl with parser := .ground }
    else some { s with parser := .osc }
  | .csi isPrivate params current =>
    let s := s.pushPendingControlByte byte
    if byte = 0x3f then some { s with parser := .csi true params current }
    else if isDigit byte then
      some { s with parser := .csi isPrivate params (some (pushDigit current byte)) }
    else if byte = 0x3b then some { s with parser := .csi isPrivate (params ++ [current]) none }
    else if inRange 0x40 0x7e byte then
      dispatchCsi { s.clearPendingControl with parser := .ground } isPrivate (params ++ [current])
        (.ofByte byte)
    else some { s with parser := .csi isPrivate params current }

/-- `apply`, byte by byte. -/
def apply : TerminalScreen → List UInt8 → Option TerminalScreen
  | s, [] => some s
  | s, byte :: bytes => do
    let s ← s.applyByte width byte
    apply s bytes

end TerminalScreen

/-- The scroll region after a resize: a full-screen region follows the size, another is clamped. -/
def resizeScrollRegion (scrollTop scrollBottom oldRows rows : ℕ) : ℕ × ℕ :=
  if scrollTop = 0 ∧ scrollBottom = oldRows then (0, rows)
  else
    let scrollTop := min scrollTop (rows - 1)
    (scrollTop, max (min scrollBottom rows) (scrollTop + 1))

/-- `SavedScreen::resize` -/
def SavedScreen.resize (n : SavedScreen) (oldRows rows cols maxCachedLines : ℕ) : SavedScreen :=
  let resized := n.lines.map fun line => line.resize cols
  let missing := rows - resized.length
  let grown := resized ++
    (List.range missing).map fun i => .blank (min (n.nextLineIndex + i) (2 ^ 64 - 1)) cols false
  let region := resizeScrollRegion n.scrollTop n.scrollBottom oldRows rows
  { n with
    lines := grown.drop (grown.length - maxCachedLines)
    nextLineIndex := min (n.nextLineIndex + missing) (2 ^ 64 - 1)
    cursorRow := min n.cursorRow (rows - 1)
    cursorCol := min n.cursorCol (cols - 1)
    scrollTop := region.1
    scrollBottom := region.2 }

namespace TerminalScreen

variable (s : TerminalScreen)

/-- The first part of `resize`: the new size and the lines for it. -/
def resizeLines (rows cols : ℕ) : TerminalScreen :=
  let t : TerminalScreen :=
    { s with
      rows, cols, maxCachedLines := max s.maxCachedLines rows
      lines := s.lines.map fun line => line.resize cols }
  trimCachedLines ((fun t : TerminalScreen => t.pushBlankLineWithStyle false s.currentStyle)^[
    rows - t.lines.length] t)

/-- `resize`, of the screen in front and of the one that was put aside. -/
def resize (rows cols : UInt16) : TerminalScreen :=
  let rows := max rows.toNat 1
  let cols := max cols.toNat 1
  let t := s.resizeLines rows cols
  let region := resizeScrollRegion s.scrollTop s.scrollBottom s.rows rows
  { t with
    normalScreen := s.normalScreen.map fun n => n.resize s.rows rows cols t.maxCachedLines
    cursorRow := min s.cursorRow (rows - 1)
    cursorCol := min s.cursorCol (cols - 1)
    scrollTop := region.1
    scrollBottom := region.2 }

end TerminalScreen

end Termd.Screen
