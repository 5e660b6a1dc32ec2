import Termd.Library.Window
import Termd.Screen.Basic

/-!
# What a terminal shows

The abstract terminal: a grid of cells, the registers, and the normal screen while the alternate
one is shown. There is no scrollback, no record of which lines were touched and nothing that can
fail. Bytes are split into commands by a pure parser, and every command is a total function.

## Main definitions

* `View`, `SavedView`: the state of the abstract terminal
* `ParserState.next`: the parser, one byte at a time
* `View.exec`, `View.apply`: the commands and the byte stream
* `TerminalScreen.view`: what a screen cache shows
-/

namespace Termd.Screen

/-- The normal screen as it comes back when the alternate screen is left. -/
structure SavedView where
  grid : List (List TerminalCell)
  cursorRow : ℕ
  cursorCol : ℕ
  savedCursor : Option (ℕ × ℕ)
  currentStyle : CellStyle
  modes : TerminalModes
  scrollTop : ℕ
  scrollBottom : ℕ

structure View extends Registers where
  grid : List (List TerminalCell)
  normal : Option SavedView := none

/-- What a completed byte sequence asks for. -/
inductive Command
  | none
  | text (byte : UInt8)
  | escape (action : EscapeAction)
  | csi (isPrivate : Bool) (params : List (Option ℕ)) (action : CsiAction)
deriving DecidableEq

/-- The parser, one byte at a time. -/
def ParserState.next : ParserState → UInt8 → ParserState × Command
  | .ground, byte => (if byte = 0x1b then .escape else .ground, .text byte)
  | .escape, byte =>
    match EscapeAction.ofByte byte with
    | .csi => (.csi false [] none, .none)
    | .osc => (.osc, .none)
    | .intermediate => (.escapeIntermediate, .none)
    | action => (.ground, .escape action)
  | .escapeIntermediate, byte =>
    (if inRange 0x20 0x2f byte then .escapeIntermediate else .ground, .none)
  | .osc, byte =>
    (if byte = 0x07 then .ground else if byte = 0x1b then .oscEscape else .osc, .none)
  | .oscEscape, byte => (if byte = 0x5c then .ground else .osc, .none)
  | .csi isPrivate params current, byte =>
    if byte = 0x3f then (.csi true params current, .none)
    else if isDigit byte then
      (.csi isPrivate params (some (TerminalScreen.pushDigit current byte)), .none)
    else if byte = 0x3b then (.csi isPrivate (params ++ [current]) none, .none)
    else if inRange 0x40 0x7e byte then
      (.ground, .csi isPrivate (params ++ [current]) (.ofByte byte))
    else (.csi isPrivate params current, .none)

/-- A command is only issued where a sequence ends. -/
theorem ParserState.next_of_ne_ground {parser : ParserState} {byte : UInt8}
    (h : parser ≠ .ground) (h' : (parser.next byte).1 ≠ .ground) :
    (parser.next byte).2 = .none := by
  cases parser with
  | ground => exact absurd rfl h
  | escape =>
    rw [next] at h' ⊢
    split
    all_goals first | rfl | simp_all
  | escapeIntermediate => rfl
  | osc => rfl
  | oscEscape => rfl
  | csi isPrivate params current =>
    rw [next] at h' ⊢
    split_ifs at h' ⊢
    all_goals first | rfl | exact absurd rfl h'

/-- A public mode changes the modes and nothing else. -/
theorem Registers.exists_setPublicModes_eq (r : Registers) (params : List (Option ℕ)) (enabled : Bool) :
    ∃ modes, r.setPublicModes params enabled = { r with modes } := by
  rw [setPublicModes]
  generalize params.filterMap id = values
  induction values generalizing r with
  | nil => exact ⟨r.modes, rfl⟩
  | cons value values ih =>
    rw [List.foldl_cons]
    split
    · obtain ⟨modes, h⟩ := ih { r with modes := { r.modes with insert := enabled } }
      exact ⟨modes, h⟩
    · exact ih r

namespace View

variable (v : View)

def blankRow (style : CellStyle) : List TerminalCell := List.replicate v.cols (.styledBlank style)

def editRow (row : ℕ) (edit : List TerminalCell → List TerminalCell) : View :=
  { v with grid := v.grid.modify (min row (v.rows - 1)) edit }

def scrollUpOnce (top bottom : ℕ) (style : CellStyle) : View :=
  { v with grid := (v.grid.eraseIdx top).insertIdx (bottom - 1) (v.blankRow style) }

def scrollUpRegion (count : ℕ) : View :=
  let top := min v.scrollTop (v.rows - 1)
  let bottom := max (min v.scrollBottom v.rows) (top + 1)
  let style := v.currentStyle
  let v := (fun v : View => v.scrollUpOnce top bottom style)^[min count (bottom - top)] v
  { v with cursorRow := min v.cursorRow (v.rows - 1) }

def scrollDownOnce (top bottom : ℕ) (style : CellStyle) : View :=
  { v with grid := (v.grid.eraseIdx (bottom - 1)).insertIdx top (v.blankRow style) }

def scrollDown (count : ℕ) : View :=
  let top := min v.scrollTop (v.rows - 1)
  let bottom := max (min v.scrollBottom v.rows) (top + 1)
  let style := v.currentStyle
  let v := (fun v : View => v.scrollDownOnce top bottom style)^[min count (bottom - top)] v
  { v with cursorRow := min v.cursorRow (v.rows - 1) }

def lineFeed : View :=
  if v.cursorRow + 1 = v.scrollBottom ∨ v.rows ≤ v.cursorRow + 1 then v.scrollUpRegion 1
  else { v with cursorRow := v.cursorRow + 1 }

/-- Every visible cell becomes a blank of the current style. -/
def clear : View := { v with grid := List.replicate v.rows (v.blankRow v.currentStyle) }

def clearRow (row : ℕ) (style : CellStyle) : View := v.editRow row fun _ => v.blankRow style

def clearRows (style : CellStyle) : ℕ → ℕ → View → View
  | _, 0, v => v
  | row, count + 1, v => clearRows style (row + 1) count (v.clearRow row style)

def eraseLine (mode : ℕ) : View :=
  match mode with
  | 0 =>
    { v.editRow v.cursorRow fun cells => overwriteCells cells v.cursorCol
        (List.replicate (v.cols - v.cursorCol) (.styledBlank v.currentStyle)) with
      cursorCol := min v.cursorCol (v.cols - 1) }
  | 1 =>
    let cursorCol := min v.cursorCol (v.cols - 1)
    { v.editRow v.cursorRow fun cells => overwriteCells cells 0
        (List.replicate (cursorCol + 1) (.styledBlank v.currentStyle)) with
      cursorCol }
  | 2 => v.clearRow v.cursorRow v.currentStyle
  | _ => v

def eraseDisplay (mode : ℕ) : View :=
  match mode with
  | 0 =>
    let w := v.eraseLine 0
    w.clearRows v.currentStyle (w.cursorRow + 1) (w.rows - (w.cursorRow + 1))
  | 1 => (v.clearRows v.currentStyle 0 v.cursorRow).eraseLine 1
  | 2 => v.clear
  | 3 => { v.clear with cursorRow := 0, cursorCol := 0 }
  | _ => v

def resetScreenBuffer : View :=
  { v with
    grid := List.replicate v.rows (v.blankRow {})
    cursorRow := 0
    cursorCol := 0
    savedCursor := none
    currentStyle := {}
    modes := {}
    scrollTop := 0
    scrollBottom := v.rows }

def save : SavedView where
  grid := v.grid
  cursorRow := v.cursorRow
  cursorCol := min v.cursorCol (v.cols - 1)
  savedCursor := v.savedCursor
  currentStyle := v.currentStyle
  modes := v.modes
  scrollTop := v.scrollTop
  scrollBottom := v.scrollBottom

def enterAlternateScreen : View :=
  { v.resetScreenBuffer with
    currentStyle := v.currentStyle, modes := v.modes, normal := some (v.normal.getD v.save) }

def leaveAlternateScreen : View :=
  match v.normal with
  | some saved =>
    { v with
      normal := none
      grid := saved.grid
      cursorRow := saved.cursorRow
      cursorCol := saved.cursorCol
      savedCursor := saved.savedCursor
      currentStyle := saved.currentStyle
      modes := saved.modes
      scrollTop := saved.scrollTop
      scrollBottom := saved.scrollBottom }
  | none => v.resetScreenBuffer

def setPrivateMode (param : ℕ) (enabled : Bool) : View :=
  if param = 1049 then if enabled then v.enterAlternateScreen else v.leaveAlternateScreen
  else { v with toRegisters := v.toRegisters.setPrivateMode param enabled }

def setPrivateModes (params : List (Option ℕ)) (enabled : Bool) : View :=
  (params.filterMap id).foldl (fun v param => v.setPrivateMode param enabled) v

def dispatchCsi (isPrivate : Bool) (params : List (Option ℕ)) : CsiAction → View
  | .cursorUp => { v with cursorRow := v.cursorRow - paramOr params 0 1 }
  | .cursorDown => { v with cursorRow := min (v.cursorRow + paramOr params 0 1) (v.rows - 1) }
  | .cursorForward => { v with cursorCol := min (v.cursorCol + paramOr params 0 1) (v.cols - 1) }
  | .cursorBack => { v with cursorCol := v.cursorCol - paramOr params 0 1 }
  | .cursorColumn => { v with cursorCol := min (oneBasedParam params 0) (v.cols - 1) }
  | .cursorPosition =>
    { v with
      cursorRow := v.cursorRowFromParam params 0
      cursorCol := min (oneBasedParam params 1) (v.cols - 1) }
  | .eraseDisplay => v.eraseDisplay (paramOr params 0 0)
  | .eraseLine => v.eraseLine (paramOr params 0 0)
  | .sgr => { v with currentStyle := v.currentStyle.applySgr params }
  | .scrollRegion => { v with toRegisters := v.toRegisters.setScrollRegion params }
  | .scrollUp => v.scrollUpRegion (paramOr params 0 1)
  | .scrollDown => v.scrollDown (paramOr params 0 1)
  | .cursorLine => { v with cursorRow := v.cursorRowFromParam params 0 }
  | .setMode =>
    if isPrivate then v.setPrivateModes params true
    else { v with toRegisters := v.toRegisters.setPublicModes params true }
  | .resetMode =>
    if isPrivate then v.setPrivateModes params false
    else { v with toRegisters := v.toRegisters.setPublicModes params false }
  | .other => v

/-- The escape sequences that do something to the screen. -/
def dispatchEscape : EscapeAction → View
  | .saveCursor => { v with savedCursor := some (v.cursorRow, v.cursorCol) }
  | .restoreCursor => { v with toRegisters := v.toRegisters.restoreCursor }
  | .keypadOn => { v with modes := { v.modes with applicationKeypad := true } }
  | .keypadOff => { v with modes := { v.modes with applicationKeypad := false } }
  | .reset =>
    { v.clear with
      cursorRow := 0, cursorCol := 0, savedCursor := none, currentStyle := {}, modes := {} }
  | .csi | .osc | .intermediate | .other => v

section Fields

variable {v} {top bottom n : ℕ} {style : CellStyle}

theorem iterate_scrollUpOnce :
    (fun v : View => v.scrollUpOnce top bottom style)^[n] v =
      { v with
        grid := (fun grid => (grid.eraseIdx top).insertIdx (bottom - 1) (v.blankRow style))^[n]
          v.grid } := by
  induction n generalizing v with
  | zero => rfl
  | succ n ih =>
    rw [Function.iterate_succ_apply, ih]
    rfl

/-- Scrolling changes the grid and at most clamps the row of the cursor. -/
theorem exists_scrollUpRegion_eq (count : ℕ) :
    ∃ grid, v.scrollUpRegion count =
      { v with grid, cursorRow := min v.cursorRow (v.rows - 1) } := by
  simp only [scrollUpRegion, iterate_scrollUpOnce]
  exact ⟨_, rfl⟩

/-- A line feed changes the grid and the row of the cursor. -/
theorem exists_lineFeed_eq : ∃ grid row, v.lineFeed = { v with grid, cursorRow := row } := by
  rw [lineFeed]
  split
  · obtain ⟨grid, h⟩ := exists_scrollUpRegion_eq (v := v) 1
    exact ⟨grid, _, h⟩
  · exact ⟨v.grid, _, rfl⟩

end Fields

variable (width : Char → Option (Fin 3))

/-- The cursor moves to where a character of width `w` is printed. -/
def wrap (w : ℕ) : View :=
  if v.cols ≤ v.cursorCol ∨ (1 < w ∧ v.cols < v.cursorCol + w) then
    if v.modes.autoWrap then lineFeed { v with cursorCol := 0 }
    else { v with cursorCol := v.cols - min w v.cols }
  else v

/-- Wrapping changes the grid and the cursor. -/
theorem exists_wrap_eq (w : ℕ) :
    ∃ grid row col, v.wrap w = { v with grid, cursorRow := row, cursorCol := col } := by
  rw [wrap]
  split
  · split
    · obtain ⟨grid, row, h⟩ := exists_lineFeed_eq (v := { v with cursorCol := 0 })
      exact ⟨grid, row, 0, h⟩
    · exact ⟨v.grid, v.cursorRow, _, rfl⟩
  · exact ⟨v.grid, v.cursorRow, v.cursorCol, rfl⟩

variable {v} in
/-- After wrapping, the cursor is in a column where the character fits, or the character is wider
than the screen. -/
theorem wrap_cursorCol {w : ℕ} (hcols : 1 ≤ v.cols) (hw : 1 ≤ w) (hw' : w ≤ 2) :
    (v.wrap w).cursorCol < v.cols ∧ (v.wrap w).cursorCol + w ≤ v.cols + 1 := by
  rw [wrap]
  split
  · split
    · obtain ⟨grid, row, h⟩ := exists_lineFeed_eq (v := { v with cursorCol := 0 })
      rw [h]
      exact ⟨hcols, by change 0 + w ≤ _; omega⟩
    · change v.cols - min w v.cols < v.cols ∧ v.cols - min w v.cols + w ≤ v.cols + 1
      omega
  · omega

/-- A character of width `w` is put at the cursor. -/
def put (character : Char) (w : ℕ) : View :=
  { v.editRow v.cursorRow fun cells =>
      printCells v.modes.insert cells v.cursorCol w character v.currentStyle with
    cursorCol :=
      if v.modes.autoWrap then v.cursorCol + w else min (v.cursorCol + w) (v.cols - 1) }

def printChar (character : Char) : View :=
  let w := terminalCharacterWidth width character
  (v.wrap w).put character w

def flushInvalidUtf8 : View :=
  if v.utf8Pending = [] then v else printChar { v with utf8Pending := [] } width '\ufffd'

def pushUtf8Byte (byte : UInt8) : View :=
  let utf8Pending := v.utf8Pending ++ [byte]
  match fromUtf8 utf8Pending with
  | .ok chars => chars.foldl (fun v c => v.printChar width c) { v with utf8Pending := [] }
  | .incomplete =>
    if utf8Pending.length ≤ 4 then { v with utf8Pending }
    else printChar { v with utf8Pending := [] } width '\ufffd'
  | .invalid => printChar { v with utf8Pending := [] } width '\ufffd'

def applyText (byte : UInt8) : View :=
  match GroundAction.ofByte byte with
  | .escape => v.flushInvalidUtf8 width
  | .carriageReturn => { v.flushInvalidUtf8 width with cursorCol := 0 }
  | .lineFeed => { (v.flushInvalidUtf8 width).lineFeed with cursorCol := 0 }
  | .backspace =>
    { v.flushInvalidUtf8 width with cursorCol := (v.flushInvalidUtf8 width).cursorCol - 1 }
  | .tab =>
    let v := v.flushInvalidUtf8 width
    { v with cursorCol := min ((v.cursorCol / 8 + 1) * 8) (v.cols - 1) }
  | .control => v.flushInvalidUtf8 width
  | .print => (v.flushInvalidUtf8 width).printChar width (Char.ofNat byte.toNat)
  | .utf8 => v.pushUtf8Byte width byte

def exec : Command → View
  | .none => v
  | .text byte => v.applyText width byte
  | .escape action => v.dispatchEscape action
  | .csi isPrivate params action => v.dispatchCsi isPrivate params action

def setParser (parser : ParserState) : View := { v with parser }

def applyByte (byte : UInt8) : View :=
  (exec (v.setParser .ground) width (v.parser.next byte).2).setParser (v.parser.next byte).1

def apply (bytes : List UInt8) : View := bytes.foldl (fun v byte => v.applyByte width byte) v

@[simp] theorem apply_nil : v.apply width [] = v := rfl

theorem apply_cons (byte : UInt8) (bytes : List UInt8) :
    v.apply width (byte :: bytes) = (v.applyByte width byte).apply width bytes := rfl

theorem apply_append (bytes bytes' : List UInt8) :
    v.apply width (bytes ++ bytes') = (v.apply width bytes).apply width bytes' :=
  List.foldl_append

/-! ### What text can change -/

theorem exists_printChar_eq (c : Char) :
    ∃ grid row col, v.printChar width c = { v with grid, cursorRow := row, cursorCol := col } := by
  obtain ⟨grid, row, col, h⟩ := v.exists_wrap_eq (terminalCharacterWidth width c)
  simp only [printChar, h, put, editRow]
  exact ⟨_, _, _, rfl⟩

theorem exists_printChars_eq (chars : List Char) :
    ∃ grid row col, chars.foldl (fun v c => v.printChar width c) v =
      { v with grid, cursorRow := row, cursorCol := col } := by
  induction chars generalizing v with
  | nil => exact ⟨v.grid, v.cursorRow, v.cursorCol, rfl⟩
  | cons c chars ih =>
    obtain ⟨grid, row, col, h⟩ := v.exists_printChar_eq width c
    rw [List.foldl_cons, h]
    obtain ⟨grid', row', col', h'⟩ := ih { v with grid, cursorRow := row, cursorCol := col }
    exact ⟨grid', row', col', h'⟩

theorem exists_flushInvalidUtf8_eq :
    ∃ grid row col, v.flushInvalidUtf8 width =
      { v with grid, cursorRow := row, cursorCol := col, utf8Pending := [] } := by
  rw [flushInvalidUtf8]
  split
  case isTrue h => exact ⟨v.grid, v.cursorRow, v.cursorCol, by rw [← h]⟩
  case isFalse => exact exists_printChar_eq { v with utf8Pending := [] } width _

/-- Text moves the cursor, fills the grid and closes a UTF-8 sequence or takes it further. -/
theorem exists_applyText_eq (byte : UInt8) :
    ∃ grid row col utf8Pending, v.applyText width byte =
        { v with grid, cursorRow := row, cursorCol := col, utf8Pending } ∧
      (utf8Pending = [] ∨
        utf8Pending = v.utf8Pending ++ [byte] ∧ fromUtf8 utf8Pending = .incomplete) := by
  obtain ⟨grid, row, col, hflush⟩ := v.exists_flushInvalidUtf8_eq width
  rw [applyText]
  cases GroundAction.ofByte byte with
  | escape => exact ⟨grid, row, col, [], hflush, .inl rfl⟩
  | control => exact ⟨grid, row, col, [], hflush, .inl rfl⟩
  | carriageReturn => exact ⟨grid, row, 0, [], by simp only [hflush], .inl rfl⟩
  | backspace => exact ⟨grid, row, col - 1, [], by simp only [hflush], .inl rfl⟩
  | tab => exact ⟨grid, row, _, [], by simp only [hflush]; rfl, .inl rfl⟩
  | lineFeed =>
    simp only [hflush]
    obtain ⟨grid', row', h⟩ := exists_lineFeed_eq
      (v := { v with grid, cursorRow := row, cursorCol := col, utf8Pending := [] })
    exact ⟨grid', row', 0, [], by rw [h], .inl rfl⟩
  | print =>
    simp only [hflush]
    obtain ⟨grid', row', col', h⟩ := exists_printChar_eq
      { v with grid, cursorRow := row, cursorCol := col, utf8Pending := [] } width
        (Char.ofNat byte.toNat)
    exact ⟨grid', row', col', [], h, .inl rfl⟩
  | utf8 =>
    obtain ⟨grid', row', col', hreplace⟩ :=
      exists_printChar_eq { v with utf8Pending := [] } width '\ufffd'
    simp only [pushUtf8Byte]
    cases hdecode : fromUtf8 (v.utf8Pending ++ [byte]) with
    | ok chars =>
      obtain ⟨grid', row', col', h⟩ := exists_printChars_eq { v with utf8Pending := [] } width chars
      exact ⟨grid', row', col', [], h, .inl rfl⟩
    | invalid => exact ⟨grid', row', col', [], hreplace, .inl rfl⟩
    | incomplete =>
      dsimp only
      split
      · exact ⟨v.grid, v.cursorRow, v.cursorCol, _, rfl, .inr ⟨rfl, hdecode⟩⟩
      · exact ⟨grid', row', col', [], hreplace, .inl rfl⟩

variable {v}

theorem setParser_self {parser : ParserState} (h : v.parser = parser) : v.setParser parser = v := by
  subst h
  rfl

/-- Inside a control sequence only the parser moves. -/
theorem applyByte_of_none {byte : UInt8} (h : (v.parser.next byte).2 = .none) :
    v.applyByte width byte = v.setParser (v.parser.next byte).1 := by
  rw [applyByte, h]
  rfl

theorem applyByte_ground (h : v.parser = .ground) (byte : UInt8) :
    v.applyByte width byte =
      (v.applyText width byte).setParser (if byte = 0x1b then .escape else .ground) := by
  rw [applyByte, setParser_self h, h]
  rfl

theorem applyByte_text (h : v.parser = .ground) {byte : UInt8} (hb : byte ≠ 0x1b) :
    v.applyByte width byte = v.applyText width byte := by
  obtain ⟨grid, row, col, pending, htext, -⟩ := v.exists_applyText_eq width byte
  rw [applyByte_ground width h, if_neg hb]
  refine setParser_self ?_
  rw [htext]
  exact h

/-- A control sequence starts after open UTF-8 bytes were flushed, and has none inside. -/
theorem applyByte_idle {byte : UInt8} (h : v.parser ≠ .ground → v.utf8Pending = []) :
    (v.applyByte width byte).parser ≠ .ground → (v.applyByte width byte).utf8Pending = [] := by
  intro hparser
  by_cases hground : v.parser = .ground
  · rw [applyByte_ground width hground] at hparser ⊢
    by_cases hb : byte = 0x1b
    · obtain ⟨grid, row, col, hflush⟩ := v.exists_flushInvalidUtf8_eq width
      subst hb
      change (v.flushInvalidUtf8 width).utf8Pending = []
      rw [hflush]
    · rw [if_neg hb] at hparser
      exact absurd rfl hparser
  · have hnone : (v.parser.next byte).2 = .none := ParserState.next_of_ne_ground hground hparser
    rw [applyByte_of_none width hnone]
    exact h hground

/-! ### What control sequences cannot change -/

/-- The size and the state of the parser are the same. -/
structure SameFrame (v w : View) : Prop where
  rows_eq : w.rows = v.rows
  cols_eq : w.cols = v.cols
  parser_eq : w.parser = v.parser
  utf8_eq : w.utf8Pending = v.utf8Pending

theorem SameFrame.refl (v : View) : SameFrame v v := ⟨rfl, rfl, rfl, rfl⟩

theorem SameFrame.trans {u w : View} (h : SameFrame u v) (h' : SameFrame v w) : SameFrame u w :=
  ⟨h'.1.trans h.1, h'.2.trans h.2, h'.3.trans h.3, h'.4.trans h.4⟩

theorem SameFrame.iterate {f : View → View} (hf : ∀ v, SameFrame v (f v)) (n : ℕ) (v : View) :
    SameFrame v (f^[n] v) := by
  induction n generalizing v with
  | zero => exact .refl v
  | succ n ih => exact (hf v).trans (ih (f v))

theorem SameFrame.clearRows (style : CellStyle) (row count : ℕ) (v : View) :
    SameFrame v (v.clearRows style row count) := by
  induction count generalizing row v with
  | zero => exact .refl v
  | succ count ih =>
    have hrow : SameFrame v (v.clearRow row style) := ⟨rfl, rfl, rfl, rfl⟩
    exact hrow.trans (ih (row + 1) _)

theorem SameFrame.eraseLine (mode : ℕ) (v : View) : SameFrame v (v.eraseLine mode) := by
  rcases mode with - | - | - | mode <;> exact ⟨rfl, rfl, rfl, rfl⟩

theorem SameFrame.eraseDisplay (mode : ℕ) (v : View) : SameFrame v (v.eraseDisplay mode) := by
  rcases mode with - | - | - | - | mode
  · exact (SameFrame.eraseLine 0 v).trans (.clearRows ..)
  · exact SameFrame.trans (.clearRows ..) (.eraseLine 1 _)
  all_goals exact ⟨rfl, rfl, rfl, rfl⟩

theorem SameFrame.foldl {α : Type*} {f : View → α → View} (hf : ∀ v a, SameFrame v (f v a))
    (as : List α) (v : View) : SameFrame v (as.foldl f v) := by
  induction as generalizing v with
  | nil => exact .refl v
  | cons a as ih => exact (hf v a).trans (ih (f v a))

theorem SameFrame.setPrivateMode (param : ℕ) (enabled : Bool) (v : View) :
    SameFrame v (v.setPrivateMode param enabled) := by
  rw [View.setPrivateMode]
  split
  · split
    · exact ⟨rfl, rfl, rfl, rfl⟩
    · rw [leaveAlternateScreen]
      split <;> exact ⟨rfl, rfl, rfl, rfl⟩
  · simp only [Registers.setPrivateMode]
    split
    · exact ⟨rfl, rfl, rfl, rfl⟩
    · split_ifs <;> exact ⟨rfl, rfl, rfl, rfl⟩

theorem SameFrame.setPublicModes (params : List (Option ℕ)) (enabled : Bool) (v : View) :
    SameFrame v { v with toRegisters := v.toRegisters.setPublicModes params enabled } := by
  obtain ⟨modes, h⟩ := v.toRegisters.exists_setPublicModes_eq params enabled
  rw [h]
  exact ⟨rfl, rfl, rfl, rfl⟩

/-- **No control sequence** changes the size or the state of the parser. -/
theorem SameFrame.dispatchCsi (isPrivate : Bool) (params : List (Option ℕ)) (action : CsiAction)
    (v : View) : SameFrame v (v.dispatchCsi isPrivate params action) := by
  cases action with
  | eraseDisplay => exact .eraseDisplay ..
  | eraseLine => exact .eraseLine ..
  | scrollUp =>
    refine SameFrame.trans (.iterate ?_ _ v) ⟨rfl, rfl, rfl, rfl⟩
    exact fun v => ⟨rfl, rfl, rfl, rfl⟩
  | scrollDown =>
    refine SameFrame.trans (.iterate ?_ _ v) ⟨rfl, rfl, rfl, rfl⟩
    exact fun v => ⟨rfl, rfl, rfl, rfl⟩
  | setMode =>
    cases isPrivate with
    | true => exact .foldl (fun v param => .setPrivateMode param true v) _ v
    | false => exact .setPublicModes ..
  | resetMode =>
    cases isPrivate with
    | true => exact .foldl (fun v param => .setPrivateMode param false v) _ v
    | false => exact .setPublicModes ..
  | _ => exact ⟨rfl, rfl, rfl, rfl⟩

/-- **No byte** changes the size. -/
theorem apply_size (bytes : List UInt8) (v : View) :
    (v.apply width bytes).rows = v.rows ∧ (v.apply width bytes).cols = v.cols := by
  induction bytes generalizing v with
  | nil => exact ⟨rfl, rfl⟩
  | cons byte bytes ih =>
    have hstep : (v.applyByte width byte).rows = v.rows ∧ (v.applyByte width byte).cols = v.cols := by
      rw [applyByte]
      generalize (v.parser.next byte).2 = command
      cases command with
      | none => exact ⟨rfl, rfl⟩
      | text byte =>
        obtain ⟨grid, row, col, pending, heq, -⟩ := (v.setParser .ground).exists_applyText_eq width byte
        rw [exec, heq]
        exact ⟨rfl, rfl⟩
      | escape action =>
        cases action with
        | restoreCursor =>
          rw [exec, dispatchEscape, Registers.restoreCursor]
          split <;> exact ⟨rfl, rfl⟩
        | _ => exact ⟨rfl, rfl⟩
      | csi isPrivate params action =>
        have hsame := SameFrame.dispatchCsi isPrivate params action (v.setParser .ground)
        exact ⟨hsame.rows_eq, hsame.cols_eq⟩
    rw [apply_cons, ← hstep.1, ← hstep.2]
    exact ih _

end View

/-- The normal screen as it will be restored. -/
def SavedScreen.view (n : SavedScreen) (rows cols : ℕ) : SavedView where
  grid := (window rows n.lines).map TerminalLine.cells
  cursorRow := min n.cursorRow (rows - 1)
  cursorCol := min n.cursorCol (cols - 1)
  savedCursor := n.savedCursor
  currentStyle := n.currentStyle
  modes := n.modes
  scrollTop := min n.scrollTop (rows - 1)
  scrollBottom := max (min n.scrollBottom rows) (min n.scrollTop (rows - 1) + 1)

/-- What a screen cache shows. -/
def TerminalScreen.view (s : TerminalScreen) : View where
  toRegisters := s.toRegisters
  grid := (window s.rows s.lines).map TerminalLine.cells
  normal := s.normalScreen.map fun n => n.view s.rows s.cols

end Termd.Screen
