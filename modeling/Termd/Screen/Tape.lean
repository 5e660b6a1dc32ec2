import Termd.Screen.Sequences

/-!
# Writing rows

Text that only goes forward writes a tape: the rows that are done and the row that the cursor is
in. A terminal with a full scroll region shows the end of the tape, and blank rows below it as long
as the tape is shorter than the screen.

## Main definitions

* `View.OnTape done row`: the terminal shows the end of a tape
* `inked`: the characters of a row with the styles that they are read with
* `layout`: the cells of characters that are printed one after another

## Main results

* `View.OnTape.lineFeed`, `View.OnTape.printChar`: text goes forward on the tape
* `View.OnTape.apply_row`: a row that fits is laid out from the left
-/

namespace Termd.Screen

/-- Text and styles change the grid, the cursor and the style, and nothing else. -/
def View.Redraws (v w : View) : Prop :=
  ∃ grid row col style,
    w = { v with grid, cursorRow := row, cursorCol := col, currentStyle := style }

namespace View

variable {v w : View}

theorem Redraws.refl (v : View) : v.Redraws v :=
  ⟨v.grid, v.cursorRow, v.cursorCol, v.currentStyle, rfl⟩

theorem Redraws.trans {u : View} (h : u.Redraws v) (h' : v.Redraws w) : u.Redraws w := by
  obtain ⟨_, _, _, _, rfl⟩ := h
  obtain ⟨grid, row, col, style, rfl⟩ := h'
  exact ⟨grid, row, col, style, rfl⟩

theorem Redraws.rows_eq (h : v.Redraws w) : w.rows = v.rows := by
  obtain ⟨_, _, _, _, rfl⟩ := h
  rfl

theorem Redraws.cols_eq (h : v.Redraws w) : w.cols = v.cols := by
  obtain ⟨_, _, _, _, rfl⟩ := h
  rfl

theorem redraws_printChar (width : Char → Option (Fin 3)) (c : Char) :
    v.Redraws (v.printChar width c) := by
  obtain ⟨grid, row, col, heq⟩ := v.exists_printChar_eq width c
  exact ⟨grid, row, col, _, heq⟩

theorem redraws_lineBreak : v.Redraws v.lineBreak := by
  obtain ⟨grid, row, heq⟩ := exists_lineFeed_eq (v := { v with cursorCol := 0 })
  refine ⟨grid, row, 0, v.currentStyle, ?_⟩
  rw [lineBreak, heq]

/-- The screen shows the end of a tape whose last row, `row`, the cursor is in. -/
structure OnTape (v : View) (done : List (List TerminalCell)) (row : List TerminalCell) : Prop where
  one_le : 1 ≤ v.rows
  idle : v.Idle
  top_eq : v.scrollTop = 0
  bottom_eq : v.scrollBottom = v.rows
  grid_eq : v.grid = window (v.rows - 1) done ++
    row :: List.replicate (v.rows - 1 - done.length) (v.blankRow {})
  cursor_eq : v.cursorRow = (window (v.rows - 1) done).length

variable {done : List (List TerminalCell)} {row : List TerminalCell}

theorem OnTape.cursorRow_eq (h : v.OnTape done row) :
    v.cursorRow = min done.length (v.rows - 1) := by
  rw [h.cursor_eq, window, List.length_drop]
  omega

/-- The row of the cursor is the last row of the tape. -/
theorem OnTape.editRow (h : v.OnTape done row) (f : List TerminalCell → List TerminalCell) :
    (v.editRow v.cursorRow f).OnTape done (f row) := by
  have hcursor := h.cursorRow_eq
  have hrow : min v.cursorRow (v.rows - 1) = (window (v.rows - 1) done).length := by
    rw [← h.cursor_eq]
    omega
  refine ⟨h.one_le, ⟨h.idle.ground, h.idle.utf8⟩, h.top_eq, h.bottom_eq, ?_, h.cursor_eq⟩
  change v.grid.modify (min v.cursorRow (v.rows - 1)) f = _
  rw [hrow, h.grid_eq, List.modify_eq_take_cons_drop (by simp)]
  simp
  rfl

/-- The column and the style are not on the tape. -/
theorem OnTape.setCol (h : v.OnTape done row) (col : ℕ) :
    OnTape { v with cursorCol := col } done row :=
  ⟨h.one_le, ⟨h.idle.ground, h.idle.utf8⟩, h.top_eq, h.bottom_eq, h.grid_eq, h.cursor_eq⟩

theorem OnTape.setStyle (h : v.OnTape done row) (style : CellStyle) :
    OnTape { v with currentStyle := style } done row :=
  ⟨h.one_le, ⟨h.idle.ground, h.idle.utf8⟩, h.top_eq, h.bottom_eq, h.grid_eq, h.cursor_eq⟩

/-- **A line feed** starts a new row of the tape; it has the style of the cursor if the screen
scrolls. -/
theorem OnTape.lineFeed (h : v.OnTape done row) :
    v.lineFeed.OnTape (done ++ [row])
      (v.blankRow (if done.length + 1 < v.rows then {} else v.currentStyle)) := by
  have hone := h.one_le
  have hcursor := h.cursorRow_eq
  by_cases hroom : done.length + 1 < v.rows
  · -- the cursor moves into a blank row below
    have heq : v.lineFeed = { v with cursorRow := v.cursorRow + 1 } := by
      rw [View.lineFeed, if_neg]
      rw [h.bottom_eq]
      omega
    have hshort : window (v.rows - 1) done = done := by
      rw [window, Nat.sub_eq_zero_of_le (by omega), List.drop_zero]
    have hnext : window (v.rows - 1) (done ++ [row]) = done ++ [row] := by
      rw [window, Nat.sub_eq_zero_of_le (by simp; omega), List.drop_zero]
    rw [heq, if_pos hroom]
    refine ⟨hone, ⟨h.idle.ground, h.idle.utf8⟩, h.top_eq, h.bottom_eq, ?_, ?_⟩
    · change v.grid = window (v.rows - 1) (done ++ [row]) ++ v.blankRow {} ::
        List.replicate (v.rows - 1 - (done ++ [row]).length) (v.blankRow {})
      rw [h.grid_eq, hshort, hnext, List.append_assoc, List.singleton_append, ← List.replicate_succ]
      congr 3
      simp
      omega
    · change v.cursorRow + 1 = (window (v.rows - 1) (done ++ [row])).length
      rw [h.cursor_eq, hshort, hnext, List.length_append, List.length_singleton]
  · -- the screen scrolls
    have hlen : (window (v.rows - 1) done).length = v.rows - 1 := length_window (by omega)
    have hgrid : v.grid = window (v.rows - 1) done ++ [row] := by
      rw [h.grid_eq, show v.rows - 1 - done.length = 0 by omega, List.replicate_zero]
    have herase : v.grid.eraseIdx 0 = window (v.rows - 1) (done ++ [row]) := by
      rw [hgrid, List.eraseIdx_zero, window, window, List.length_append, List.length_singleton,
        ← List.drop_append_of_le_length (by omega), List.tail_drop]
      congr 1
      omega
    have hlen' : (window (v.rows - 1) (done ++ [row])).length = v.rows - 1 :=
      length_window (by simp; omega)
    have heq : v.lineFeed =
        { v with
          grid := (v.grid.eraseIdx 0).insertIdx (v.rows - 1) (v.blankRow v.currentStyle)
          cursorRow := min v.cursorRow (v.rows - 1) } := by
      have htop : min v.scrollTop (v.rows - 1) = 0 := by rw [h.top_eq, Nat.zero_min]
      have hbottom : max (min v.scrollBottom v.rows) (0 + 1) = v.rows := by
        rw [h.bottom_eq]
        omega
      rw [View.lineFeed, if_pos (by omega)]
      simp only [scrollUpRegion, htop, hbottom, Nat.sub_zero, Nat.min_eq_left hone]
      rfl
    rw [heq, if_neg hroom]
    refine ⟨hone, ⟨h.idle.ground, h.idle.utf8⟩, h.top_eq, h.bottom_eq, ?_, ?_⟩
    · change (v.grid.eraseIdx 0).insertIdx (v.rows - 1) (v.blankRow v.currentStyle) =
        window (v.rows - 1) (done ++ [row]) ++ _
      rw [herase, show v.rows - 1 - (done ++ [row]).length = 0 by simp; omega, List.replicate_zero]
      generalize window (v.rows - 1) (done ++ [row]) = shown at hlen' ⊢
      rw [← hlen']
      exact List.insertIdx_length_self
    · change min v.cursorRow (v.rows - 1) = (window (v.rows - 1) (done ++ [row])).length
      omega

theorem OnTape.lineBreak (h : v.OnTape done row) :
    v.lineBreak.OnTape (done ++ [row])
      (v.blankRow (if done.length + 1 < v.rows then {} else v.currentStyle)) :=
  (h.setCol 0).lineFeed.setCol 0

/-- Whatever is printed, the screen still shows the end of a tape. -/
theorem OnTape.exists_printChar (h : v.OnTape done row) (width : Char → Option (Fin 3)) (c : Char) :
    ∃ done' row', (v.printChar width c).OnTape done' row' ∧ done.length ≤ done'.length := by
  have hwrap : ∃ done' row', (v.wrap (terminalCharacterWidth width c)).OnTape done' row' ∧
      done.length ≤ done'.length := by
    rw [wrap]
    split
    · split
      · exact ⟨_, _, (h.setCol 0).lineFeed, by simp⟩
      · exact ⟨_, _, h.setCol _, le_rfl⟩
    · exact ⟨_, _, h, le_rfl⟩
  obtain ⟨done', row', htape, hle⟩ := hwrap
  exact ⟨done', _, (htape.editRow _).setCol _, hle⟩

end View

/-! ### The cells of a row -/

/-- The cells of characters that are printed one after another. -/
def layout (width : Char → Option (Fin 3)) (glyphs : List (Char × CellStyle)) : List TerminalCell :=
  glyphs.flatMap fun g => glyph (terminalCharacterWidth width g.1) g.1 g.2

/-- The writer believes that `active` is the style in force, and the style in force is `pen`: the
style that the next character of a row is read with. -/
def nextPen (pen active style : CellStyle) : CellStyle :=
  if style = active then pen else pen.afterSgr style (!active.isDefault)

/-- The characters of a row with the styles that they are read with, and the style at the end. -/
def inked (pen active : CellStyle) : List TerminalCell → List (Char × CellStyle) × CellStyle
  | [] => ([], if active.isDefault then pen else {})
  | cell :: rest =>
    if cell.wideContinuation then inked pen active rest
    else
      let pen := nextPen pen active cell.style
      let (glyphs, final) := inked pen cell.style rest
      ((cell.character, pen) :: glyphs, final)

theorem inked_cell (pen active : CellStyle) {cell : TerminalCell} (rest : List TerminalCell)
    (hcont : cell.wideContinuation = false) :
    inked pen active (cell :: rest) =
      ((cell.character, nextPen pen active cell.style) ::
        (inked (nextPen pen active cell.style) cell.style rest).1,
        (inked (nextPen pen active cell.style) cell.style rest).2) := by
  rw [inked, if_neg (by simp [hcont])]

/-- The characters of a row with their own styles. -/
def written (cells : List TerminalCell) : List (Char × CellStyle) :=
  (cells.filter fun cell => !cell.wideContinuation).map fun cell => (cell.character, cell.style)

theorem written_cell {cell : TerminalCell} (rest : List TerminalCell)
    (hcont : cell.wideContinuation = false) :
    written (cell :: rest) = (cell.character, cell.style) :: written rest := by
  simp [written, hcont]

theorem written_continuation {cell : TerminalCell} (rest : List TerminalCell)
    (hcont : cell.wideContinuation = true) : written (cell :: rest) = written rest := by
  simp [written, hcont]

theorem nextPen_self (active style : CellStyle) : nextPen active active style = style := by
  rw [nextPen]
  split
  case isTrue h => exact h.symm
  case isFalse h =>
    rw [CellStyle.afterSgr]
    split
    case isTrue hdefault => exact (of_decide_eq_true hdefault).symm
    case isFalse =>
      by_cases hactive : active.isDefault = true
      · obtain rfl : active = {} := of_decide_eq_true hactive
        simp [CellStyle.isDefault]
      · simp [hactive]

/-- The first character of a row: the writer believes that the default style is in force. -/
theorem nextPen_default (pen style : CellStyle) : nextPen pen {} style = pen.laid style := by
  rw [nextPen, CellStyle.laid, CellStyle.afterSgr]
  by_cases hstyle : style = {}
  · simp [hstyle, CellStyle.isDefault]
  · simp [hstyle, CellStyle.isDefault]

/-- **A writer that knows the style in force** reproduces the styles. -/
theorem inked_self (active : CellStyle) (cells : List TerminalCell) :
    inked active active cells = (written cells, {}) := by
  induction cells generalizing active with
  | nil =>
    rw [inked]
    split
    case isTrue h => rw [of_decide_eq_true h]; rfl
    case isFalse => rfl
  | cons cell rest ih =>
    by_cases hcont : cell.wideContinuation = true
    · rw [inked, if_pos hcont, written_continuation rest hcont]
      exact ih active
    · simp only [Bool.not_eq_true] at hcont
      rw [inked_cell _ _ _ hcont, written_cell rest hcont, nextPen_self, ih]

/-- The characters of a row do not depend on the style in force. -/
theorem length_layout_inked (width : Char → Option (Fin 3)) (pen active : CellStyle)
    (cells : List TerminalCell) :
    (layout width (inked pen active cells).1).length = (layout width (written cells)).length := by
  induction cells generalizing pen active with
  | nil => rfl
  | cons cell rest ih =>
    by_cases hcont : cell.wideContinuation = true
    · rw [inked, if_pos hcont, written_continuation rest hcont]
      exact ih pen active
    · simp only [Bool.not_eq_true] at hcont
      rw [inked_cell _ _ _ hcont, written_cell rest hcont]
      simp only [layout, List.flatMap_cons, List.length_append]
      rw [← layout, ← layout, ih]
      simp [glyph]

namespace View

variable {v w : View} {done : List (List TerminalCell)} {row : List TerminalCell}
variable (width : Char → Option (Fin 3))

/-- The row of the cursor starts with `cells` and is blank behind them, where the cursor is. -/
structure Filled (v : View) (done : List (List TerminalCell)) (cells : List TerminalCell) :
    Prop where
  tape : v.OnTape done (cells ++ List.replicate (v.cols - cells.length) .blank)
  le_cols : cells.length ≤ v.cols
  col_eq : cells.length < v.cols → v.cursorCol = cells.length

theorem length_glyph {w : ℕ} (hw : 0 < w) (c : Char) (style : CellStyle) :
    (glyph w c style).length = w := by
  simp [glyph]
  omega

theorem one_le_terminalCharacterWidth (c : Char) : 0 < terminalCharacterWidth width c :=
  Nat.le_max_right ..

/-- Into a blank rest of a row it makes no difference whether cells are inserted. -/
theorem printCells_append_blank (insert : Bool) {cells : List TerminalCell} {blanks w : ℕ}
    (hw : 0 < w) (hle : w ≤ blanks) (c : Char) (style : CellStyle) :
    printCells insert (cells ++ List.replicate blanks .blank) cells.length w c style =
      cells ++ glyph w c style ++ List.replicate (blanks - w) .blank := by
  have hlen := length_glyph hw c style
  have htake : (glyph w c style).take
      ((cells ++ List.replicate blanks TerminalCell.blank).length - cells.length) =
        glyph w c style :=
    List.take_of_length_le (by simp [hlen]; omega)
  simp only [printCells, htake]
  cases insert with
  | false => simp [overwriteCells, hlen]
  | true =>
    simp [insertCells, hlen]
    omega

/-- **A character that fits** is printed behind the others. -/
theorem Filled.printChar {cells : List TerminalCell} (h : v.Filled done cells) (c : Char)
    (hfit : cells.length + terminalCharacterWidth width c ≤ v.cols) :
    (v.printChar width c).Filled done
      (cells ++ glyph (terminalCharacterWidth width c) c v.currentStyle) := by
  have hw := one_le_terminalCharacterWidth width c
  generalize hwidth : terminalCharacterWidth width c = w at *
  have hcol : v.cursorCol = cells.length := h.col_eq (by omega)
  have hwrap : v.wrap w = v := by
    rw [wrap, if_neg]
    omega
  have hlen := length_glyph hw c v.currentStyle
  have hedit : (v.put c w).OnTape done (printCells v.modes.insert
      (cells ++ List.replicate (v.cols - cells.length) .blank) v.cursorCol w c v.currentStyle) :=
    (h.tape.editRow _).setCol _
  rw [View.printChar, hwidth]
  simp only [hwrap]
  refine ⟨?_, ?_, ?_⟩
  · rw [hcol, printCells_append_blank _ hw (by omega)] at hedit
    rw [List.length_append, hlen, Nat.sub_add_eq]
    exact hedit
  · rw [List.length_append, hlen]
    exact hfit
  · intro hlt
    rw [List.length_append, hlen] at hlt ⊢
    change (if v.modes.autoWrap then v.cursorCol + w else min (v.cursorCol + w) (v.cols - 1)) = _
    change _ < v.cols at hlt
    split <;> omega

theorem Filled.setStyle {cells : List TerminalCell} (h : v.Filled done cells) (style : CellStyle) :
    Filled { v with currentStyle := style } done cells :=
  ⟨h.tape.setStyle style, h.le_cols, h.col_eq⟩

theorem redraws_setStyle (style : CellStyle) : v.Redraws { v with currentStyle := style } :=
  ⟨v.grid, v.cursorRow, v.cursorCol, style, rfl⟩

theorem reads_nextPen (active style : CellStyle) :
    Reads width (if style = active then [] else style.sgrBytes (!active.isDefault))
      fun v => { v with currentStyle := nextPen v.currentStyle active style } := by
  split
  case isTrue heq =>
    refine (Reads.nil width).congr width fun v => ?_
    rw [nextPen, if_pos heq]
    rfl
  case isFalse hne =>
    refine (reads_sgrBytes width style _).congr width fun v => ?_
    rw [nextPen, if_neg hne]

theorem printChar_currentStyle (c : Char) : (v.printChar width c).currentStyle = v.currentStyle := by
  obtain ⟨grid, row, col, heq⟩ := v.exists_printChar_eq width c
  rw [heq]

/-- One cell of a row that is not a continuation. -/
theorem apply_cell (hv : v.Idle) {cell : TerminalCell} (hc : Printable cell.character)
    (hcont : cell.wideContinuation = false) (active : CellStyle) (rest : List TerminalCell) :
    v.apply width (cellsAnsiBytes active (cell :: rest)) =
      (printChar { v with currentStyle := nextPen v.currentStyle active cell.style } width
        cell.character).apply width (cellsAnsiBytes cell.style rest) := by
  have hread := (reads_nextPen width active cell.style).append width (reads_encodeUtf8 width hc)
  rw [cellsAnsiBytes, if_neg (by simp [hcont]), apply_append, hread.apply hv]
  rfl

/-- The end of a row. -/
theorem reads_rowEnd (active : CellStyle) :
    Reads width (cellsAnsiBytes active [])
      fun v => { v with currentStyle := if active.isDefault then v.currentStyle else {} } := by
  rw [cellsAnsiBytes]
  split
  case isTrue => exact Reads.nil width
  case isFalse => exact reads_sgrBytes width {} false

/-- **The cells of a row** are printed one after another, as long as they fit. -/
theorem Filled.apply_cells {cells src : List TerminalCell} (active : CellStyle)
    (h : v.Filled done cells) (hsrc : ∀ cell ∈ src, Printable cell.character)
    (hfit : cells.length + (layout width (inked v.currentStyle active src).1).length ≤ v.cols) :
    (v.apply width (cellsAnsiBytes active src)).Filled done
      (cells ++ layout width (inked v.currentStyle active src).1) := by
  induction src generalizing v cells active with
  | nil =>
    rw [(reads_rowEnd width active).apply h.tape.idle]
    simpa [inked, layout] using h.setStyle _
  | cons cell rest ih =>
    have hrest : ∀ cell ∈ rest, Printable cell.character :=
      fun c hc => hsrc c (List.mem_cons_of_mem _ hc)
    by_cases hcont : cell.wideContinuation = true
    · rw [cellsAnsiBytes, inked, if_pos hcont, if_pos hcont] at *
      exact ih active h hrest hfit
    · simp only [Bool.not_eq_true] at hcont
      rw [apply_cell width h.tape.idle (hsrc cell List.mem_cons_self) hcont]
      rw [inked_cell _ _ _ hcont] at hfit ⊢
      generalize hpen : nextPen v.currentStyle active cell.style = pen at hfit ⊢
      have hcons : layout width ((cell.character, pen) :: (inked pen cell.style rest).1) =
          glyph (terminalCharacterWidth width cell.character) cell.character pen ++
            layout width (inked pen cell.style rest).1 := rfl
      have hlen := length_glyph (one_le_terminalCharacterWidth width cell.character)
        cell.character pen
      rw [hcons, List.length_append, hlen] at hfit
      have hstyle := printChar_currentStyle (v := { v with currentStyle := pen }) width cell.character
      have hprint := (h.setStyle pen).printChar width cell.character
        (by change _ ≤ v.cols; omega)
      have hdone := ih cell.style hprint hrest (by
        rw [hstyle, List.length_append, hlen, (redraws_printChar width cell.character).cols_eq]
        change _ + (layout width (inked pen cell.style rest).1).length ≤ v.cols
        omega)
      rw [hstyle, List.append_assoc] at hdone
      exact hdone

/-- Whatever the cells of a row are, the screen shows the end of a tape when they are printed. -/
theorem OnTape.exists_apply_cells {src : List TerminalCell} (active : CellStyle)
    (h : v.OnTape done row) (hsrc : ∀ cell ∈ src, Printable cell.character) :
    ∃ done' row', (v.apply width (cellsAnsiBytes active src)).OnTape done' row' ∧
      done.length ≤ done'.length := by
  induction src generalizing v done row active with
  | nil =>
    rw [(reads_rowEnd width active).apply h.idle]
    exact ⟨done, row, h.setStyle _, le_rfl⟩
  | cons cell rest ih =>
    have hrest : ∀ cell ∈ rest, Printable cell.character :=
      fun c hc => hsrc c (List.mem_cons_of_mem _ hc)
    by_cases hcont : cell.wideContinuation = true
    · rw [cellsAnsiBytes, if_pos hcont]
      exact ih active h hrest
    · rw [apply_cell width h.idle (hsrc cell List.mem_cons_self) (by simpa using hcont)]
      obtain ⟨done₁, row₁, h₁, hle₁⟩ := (h.setStyle
        (nextPen v.currentStyle active cell.style)).exists_printChar width cell.character
      obtain ⟨done₂, row₂, h₂, hle₂⟩ := ih cell.style h₁ hrest
      exact ⟨done₂, row₂, h₂, hle₁.trans hle₂⟩

/-- Whether or not they fit, the cells of a row leave the style that `inked` gives. -/
theorem apply_cells_redraws (hv : v.Idle) {src : List TerminalCell} (active : CellStyle)
    (hsrc : ∀ cell ∈ src, Printable cell.character) :
    v.Redraws (v.apply width (cellsAnsiBytes active src)) ∧
      (v.apply width (cellsAnsiBytes active src)).currentStyle =
        (inked v.currentStyle active src).2 := by
  induction src generalizing v active with
  | nil =>
    rw [(reads_rowEnd width active).apply hv]
    exact ⟨redraws_setStyle _, rfl⟩
  | cons cell rest ih =>
    have hrest : ∀ cell ∈ rest, Printable cell.character :=
      fun c hc => hsrc c (List.mem_cons_of_mem _ hc)
    by_cases hcont : cell.wideContinuation = true
    · rw [cellsAnsiBytes, inked, if_pos hcont, if_pos hcont]
      exact ih hv active hrest
    · have hchar := hsrc cell List.mem_cons_self
      rw [apply_cell width hv hchar (by simpa using hcont),
        inked_cell _ _ _ (by simpa using hcont)]
      generalize nextPen v.currentStyle active cell.style = pen
      have hidle : Idle { v with currentStyle := pen } := ⟨hv.ground, hv.utf8⟩
      obtain ⟨hredraws, hstyle⟩ :=
        ih ((reads_encodeUtf8 width hchar) _ hidle).2 cell.style hrest
      refine ⟨(redraws_setStyle pen).trans ((redraws_printChar width _).trans hredraws), ?_⟩
      rw [hstyle, printChar_currentStyle]

end View

/-! ### Rows -/

/-- The cells of a line that are written. -/
def TerminalLine.shown (line : TerminalLine) : List TerminalCell := line.cells.take line.displayWidth

theorem rowAnsiBytes_eq (line : TerminalLine) : rowAnsiBytes line = cellsAnsiBytes {} line.shown := by
  rw [rowAnsiBytes, TerminalLine.shown]
  split
  case isTrue h => rw [h]; rfl
  case isFalse => rfl

/-- A row of the screen that starts with the given cells. -/
def padded (cols : ℕ) (cells : List TerminalCell) : List TerminalCell :=
  cells ++ List.replicate (cols - cells.length) .blank

/-- The rows that result when lines are read, and the style at the end. -/
def inkedRows (width : Char → Option (Fin 3)) (cols : ℕ) (pen : CellStyle) :
    List TerminalLine → List (List TerminalCell) × CellStyle
  | [] => ([], pen)
  | line :: lines =>
    let (glyphs, pen) := inked pen {} line.shown
    let (rows, pen) := inkedRows width cols pen lines
    (padded cols (layout width glyphs) :: rows, pen)

theorem inkedRows_default (width : Char → Option (Fin 3)) (cols : ℕ) (lines : List TerminalLine) :
    inkedRows width cols {} lines =
      (lines.map fun line => padded cols (layout width (written line.shown)), {}) := by
  induction lines with
  | nil => rfl
  | cons line lines ih => simp only [inkedRows, inked_self, ih, List.map_cons]

theorem length_inkedRows (width : Char → Option (Fin 3)) (cols : ℕ) (pen : CellStyle)
    (lines : List TerminalLine) : (inkedRows width cols pen lines).1.length = lines.length := by
  induction lines generalizing pen with
  | nil => rfl
  | cons line lines ih => simp only [inkedRows, List.length_cons, ih]

namespace View

variable {v w : View} {done : List (List TerminalCell)}
variable (width : Char → Option (Fin 3))

theorem printable_shown {line : TerminalLine} {cols : ℕ} (h : line.Sound cols) :
    ∀ cell ∈ line.shown, Printable cell.character :=
  fun cell hcell => h.printable cell (List.mem_of_mem_take hcell)

theorem rowsAnsiBytes_cons (line : TerminalLine) {lines : List TerminalLine} (h : lines ≠ []) :
    rowsAnsiBytes (line :: lines) =
      cellsAnsiBytes {} line.shown ++ ([0x0d, 0x0a] ++ rowsAnsiBytes lines) := by
  obtain ⟨line', lines, rfl⟩ := List.exists_cons_of_ne_nil h
  rw [rowsAnsiBytes, rowAnsiBytes_eq, List.append_assoc]
  simp

theorem rowsAnsiBytes_singleton (line : TerminalLine) :
    rowsAnsiBytes [line] = cellsAnsiBytes {} line.shown := by
  rw [rowsAnsiBytes, rowAnsiBytes_eq]

theorem lineBreak_currentStyle : v.lineBreak.currentStyle = v.currentStyle := by
  obtain ⟨grid, row, heq⟩ := exists_lineFeed_eq (v := { v with cursorCol := 0 })
  rw [lineBreak, heq]

theorem Redraws.idle (h : v.Redraws w) (hv : v.Idle) : w.Idle := by
  obtain ⟨_, _, _, _, rfl⟩ := h
  exact ⟨hv.ground, hv.utf8⟩

/-- The rows leave the style that `inkedRows` gives, and change only what is drawn. -/
theorem apply_rows_redraws (hv : v.Idle) {lines : List TerminalLine} {cols : ℕ}
    (hlines : ∀ line ∈ lines, line.Sound cols) :
    v.Redraws (v.apply width (rowsAnsiBytes lines)) ∧
      (v.apply width (rowsAnsiBytes lines)).currentStyle =
        (inkedRows width v.cols v.currentStyle lines).2 := by
  induction lines generalizing v with
  | nil => exact ⟨.refl v, rfl⟩
  | cons line lines ih =>
    obtain ⟨hredraws, hstyle⟩ := apply_cells_redraws width hv {}
      (printable_shown (hlines line List.mem_cons_self))
    by_cases hlast : lines = []
    · rw [hlast, rowsAnsiBytes_singleton]
      exact ⟨hredraws, hstyle⟩
    · obtain ⟨hrest, hstyle'⟩ := ih (v := (v.apply width (cellsAnsiBytes {} line.shown)).lineBreak)
        (redraws_lineBreak.idle (hredraws.idle hv)) fun l hl => hlines l (List.mem_cons_of_mem _ hl)
      rw [rowsAnsiBytes_cons line hlast, apply_append, apply_append,
        apply_lineBreak width (hredraws.idle hv)]
      refine ⟨hredraws.trans (redraws_lineBreak.trans hrest), ?_⟩
      rw [hstyle', lineBreak_currentStyle, redraws_lineBreak.cols_eq, hredraws.cols_eq, hstyle]
      rfl

/-- A new blank row. -/
theorem OnTape.filled {row : List TerminalCell} (h : v.OnTape done row) (hrow : row = v.blankRow {})
    (hcol : v.cursorCol = 0) : v.Filled done [] where
  tape := by
    subst hrow
    exact h
  le_cols := Nat.zero_le _
  col_eq _ := hcol

/-- After a line break the next row is blank, if no style is in force or nothing scrolls. -/
theorem OnTape.filled_lineBreak {row : List TerminalCell} (h : v.OnTape done row)
    (hroom : v.currentStyle = {} ∨ done.length + 1 < v.rows) :
    v.lineBreak.Filled (done ++ [row]) [] := by
  refine h.lineBreak.filled ?_ rfl
  have hstyle : (if done.length + 1 < v.rows then ({} : CellStyle) else v.currentStyle) = {} := by
    split
    · rfl
    · exact hroom.resolve_right ‹_›
  rw [hstyle, blankRow, blankRow, redraws_lineBreak.cols_eq]

/-- **Rows that fit** are laid out one after another on the tape. -/
theorem Filled.apply_rows {lines : List TerminalLine} (h : v.Filled done []) (hne : lines ≠ [])
    (hroom : v.currentStyle = {} ∨ done.length + lines.length ≤ v.rows)
    (hlines : ∀ line ∈ lines, line.Sound v.cols)
    (hfit : ∀ line ∈ lines, (layout width (written line.shown)).length ≤ v.cols) :
    ∃ init last, (inkedRows width v.cols v.currentStyle lines).1 = init ++ [last] ∧
      (v.apply width (rowsAnsiBytes lines)).OnTape (done ++ init) last := by
  induction lines generalizing v done with
  | nil => exact absurd rfl hne
  | cons line lines ih =>
    have hsrc := printable_shown (hlines line List.mem_cons_self)
    obtain ⟨hredraws, hstyle⟩ := apply_cells_redraws width h.tape.idle {} hsrc
    have hline := h.apply_cells width {} hsrc (by
      rw [length_layout_inked]
      simpa using hfit line List.mem_cons_self)
    rw [List.nil_append] at hline
    have htape := hline.tape
    rw [hredraws.cols_eq, ← padded] at htape
    by_cases hlast : lines = []
    · subst hlast
      refine ⟨[], _, rfl, ?_⟩
      rw [rowsAnsiBytes_singleton, List.append_nil]
      exact htape
    · have hpos := List.length_pos_iff.mpr hlast
      -- the style in force stays the default, or the rest has room
      have hroom' : (v.apply width (cellsAnsiBytes {} line.shown)).currentStyle = {} ∨
          done.length + 1 + lines.length ≤ v.rows := by
        rw [List.length_cons] at hroom
        refine hroom.imp (fun hdefault => ?_) fun hle => by omega
        rw [hstyle, hdefault, inked_self]
      have hnext := htape.filled_lineBreak (hroom'.imp id fun hle => by
        rw [hredraws.rows_eq]
        omega)
      have hcols := (hredraws.trans redraws_lineBreak).cols_eq
      have hrows := (hredraws.trans redraws_lineBreak).rows_eq
      obtain ⟨init, last, hinit, hdone⟩ := ih hnext hlast
        (by
          rw [lineBreak_currentStyle, hrows, List.length_append, List.length_singleton]
          exact hroom')
        (fun l hl => hcols ▸ hlines l (List.mem_cons_of_mem _ hl))
        (fun l hl => hcols ▸ hfit l (List.mem_cons_of_mem _ hl))
      rw [rowsAnsiBytes_cons line hlast, apply_append, apply_append,
        apply_lineBreak width (hredraws.idle h.tape.idle)]
      rw [lineBreak_currentStyle, hcols, hstyle] at hinit
      refine ⟨padded v.cols (layout width (inked v.currentStyle {} line.shown).1) :: init, last, ?_, ?_⟩
      · rw [List.cons_append, ← hinit]
        rfl
      · rw [List.append_assoc, List.singleton_append] at hdone
        exact hdone

/-- Rows that will be scrolled out may be anything. -/
theorem Filled.exists_apply_rows (pre : List TerminalLine) {lines : List TerminalLine} (h : v.Filled done [])
    (hne : lines ≠ []) (hdefault : v.currentStyle = {})
    (hlines : ∀ line ∈ pre ++ lines, line.Sound v.cols)
    (hfit : ∀ line ∈ lines, (layout width (written line.shown)).length ≤ v.cols) :
    ∃ done' init last, (inkedRows width v.cols {} lines).1 = init ++ [last] ∧
      (v.apply width (rowsAnsiBytes (pre ++ lines))).OnTape (done' ++ init) last := by
  induction pre generalizing v done with
  | nil =>
    obtain ⟨init, last, hinit, htape⟩ := h.apply_rows width hne (.inl hdefault) hlines hfit
    rw [hdefault] at hinit
    exact ⟨done, init, last, hinit, htape⟩
  | cons line pre ih =>
    have hsrc := printable_shown (hlines line List.mem_cons_self)
    obtain ⟨hredraws, hstyle⟩ := apply_cells_redraws width h.tape.idle {} hsrc
    obtain ⟨done₁, row₁, htape, -⟩ := h.tape.exists_apply_cells width {} hsrc
    rw [hdefault, inked_self] at hstyle
    have hcols := (hredraws.trans redraws_lineBreak).cols_eq
    obtain ⟨done', init, last, hinit, hdone⟩ := ih (htape.filled_lineBreak (.inl hstyle))
      (lineBreak_currentStyle.trans hstyle)
      (fun l hl => hcols ▸ hlines l (List.mem_cons_of_mem _ hl)) fun l hl => hcols ▸ hfit l hl
    rw [List.cons_append, rowsAnsiBytes_cons line (by simp [hne]), apply_append, apply_append,
      apply_lineBreak width (hredraws.idle h.tape.idle)]
    exact ⟨done', init, last, hcols ▸ hinit, hdone⟩

theorem OnTape.grid_of_length_le {row : List TerminalCell} (h : v.OnTape done row)
    (hle : done.length + 1 ≤ v.rows) :
    v.grid = (done ++ [row]) ++ List.replicate (v.rows - (done.length + 1)) (v.blankRow {}) := by
  rw [h.grid_eq, window, Nat.sub_eq_zero_of_le (by omega), List.drop_zero, List.append_assoc,
    List.singleton_append, Nat.sub_sub, Nat.add_comm 1]

theorem OnTape.grid_of_length_eq {pre init : List (List TerminalCell)} {row : List TerminalCell}
    (h : v.OnTape (pre ++ init) row) (heq : init.length + 1 = v.rows) : v.grid = init ++ [row] := by
  rw [h.grid_eq, window_append (by omega), show v.rows - 1 - (pre ++ init).length = 0 by simp; omega,
    List.replicate_zero]

/-- **The rows of a snapshot**, read on a blank screen: the last of them are shown. -/
theorem Filled.grid_apply_rows (lines : List TerminalLine) (h : v.Filled [] [])
    (hroom : v.currentStyle = {} ∨ lines.length ≤ v.rows)
    (hlines : ∀ line ∈ lines, line.Sound v.cols)
    (hfit : ∀ line ∈ window v.rows lines, (layout width (written line.shown)).length ≤ v.cols) :
    (v.apply width (rowsAnsiBytes lines)).grid =
      (inkedRows width v.cols v.currentStyle (window v.rows lines)).1 ++
        List.replicate (v.rows - lines.length) (v.blankRow {}) := by
  have hone := h.tape.one_le
  have hrows := (apply_rows_redraws width h.tape.idle hlines).1.rows_eq
  have hblank : (v.apply width (rowsAnsiBytes lines)).blankRow {} = v.blankRow {} := by
    rw [blankRow, blankRow, (apply_rows_redraws width h.tape.idle hlines).1.cols_eq]
  by_cases hne : lines = []
  · subst hne
    have hgrid : v.grid = [v.blankRow {}] ++ List.replicate (v.rows - 1) (v.blankRow {}) :=
      h.tape.grid_of_length_le hone
    have hblanks : v.blankRow {} :: List.replicate (v.rows - 1) (v.blankRow {}) =
        List.replicate v.rows (v.blankRow {}) := by
      rw [← List.replicate_succ, Nat.sub_add_cancel hone]
    simpa [rowsAnsiBytes, window, inkedRows, hblanks] using hgrid
  · by_cases hshort : lines.length ≤ v.rows
    · -- everything that was written is shown
      have hwindow : window v.rows lines = lines := by
        rw [window, Nat.sub_eq_zero_of_le hshort, List.drop_zero]
      rw [hwindow] at hfit ⊢
      obtain ⟨init, last, hinit, htape⟩ := h.apply_rows width hne (by simpa using hroom) hlines hfit
      have hlen := length_inkedRows width v.cols v.currentStyle lines
      rw [hinit, List.length_append, List.length_singleton] at hlen
      rw [List.nil_append] at htape
      rw [htape.grid_of_length_le (by omega), hblank, hinit, hlen, hrows]
    · -- the rows before the last ones are scrolled out
      have hdefault := hroom.resolve_right hshort
      obtain ⟨pre, hlines_eq, -⟩ := exists_append_window (l := lines) (Nat.le_of_not_le hshort)
      have hlen := length_window (l := lines) (Nat.le_of_not_le hshort)
      obtain ⟨done', init, last, hinit, htape⟩ := h.exists_apply_rows width pre
        (List.ne_nil_of_length_pos (by omega)) hdefault (by rwa [← hlines_eq]) hfit
      have hlen' := length_inkedRows width v.cols {} (window v.rows lines)
      rw [hinit, List.length_append, List.length_singleton] at hlen'
      rw [← hlines_eq] at htape
      rw [htape.grid_of_length_eq (by omega), hdefault, hinit,
        show v.rows - lines.length = 0 by omega, List.replicate_zero, List.append_nil]

end View

end Termd.Screen
