import Termd.Library.Ensures
import Termd.Library.Window
import Termd.Screen.Style

/-!
# Cells and lines

A line is a row of cells. Code that indexes a line panics outside of it, so the operations on the
cells of a line are partial; on a line of the right width none of them is.

## Main definitions

* `TerminalCell`, `TerminalLine`: the cells and lines of the screen cache
* `TerminalLine.Sound cols line`: the line has `cols` cells, and every character can be printed
* `overwriteCells`, `insertCells`: what printing does to a row of cells

## Main results

* `fillCells_spec`, `insertBlankCells_spec`: the two loops over cells
* `TerminalLine.printCell_spec`: printing into a line does not panic and gives the new cells
-/

namespace Termd.Screen

structure TerminalCell where
  character : Char
  style : CellStyle
  wideContinuation : Bool
deriving DecidableEq

namespace TerminalCell

def styledBlank (style : CellStyle) : TerminalCell := ⟨' ', style, false⟩

def blank : TerminalCell := styledBlank {}

/-- The cell that the right half of a wide character occupies. -/
def wideContinuationCell (style : CellStyle) : TerminalCell := ⟨' ', style, true⟩

def isBlankDefault (cell : TerminalCell) : Bool :=
  cell.character == ' ' && cell.style.isDefault && !cell.wideContinuation

end TerminalCell

structure TerminalLine where
  index : ℕ
  cells : List TerminalCell
  touched : Bool
deriving DecidableEq

/-- `line.cells[col] = cell` -/
def setCell (cells : List TerminalCell) (col : ℕ) (cell : TerminalCell) :
    Option (List TerminalCell) :=
  if col < cells.length then some (cells.set col cell) else none

/-- `for col in col..col + count { line.cells[col] = cell }` -/
def fillCells (cells : List TerminalCell) (cell : TerminalCell) :
    ℕ → ℕ → Option (List TerminalCell)
  | _, 0 => some cells
  | col, count + 1 => do
    let cells ← setCell cells col cell
    fillCells cells cell (col + 1) count

/-- `for index in (first..first + count).rev() { line.cells[index] = line.cells[index - shift] }` -/
def shiftCells (cells : List TerminalCell) (shift first : ℕ) : ℕ → Option (List TerminalCell)
  | 0 => some cells
  | count + 1 => do
    let cell ← cells[first + count - shift]?
    let cells ← setCell cells (first + count) cell
    shiftCells cells shift first count

/-- `insert_blank_cells` -/
def insertBlankCells (cells : List TerminalCell) (cursorCol width : ℕ) (style : CellStyle) :
    Option (List TerminalCell) :=
  if cells.length ≤ cursorCol ∨ width = 0 then some cells
  else do
    let shift := min width (cells.length - cursorCol)
    let cells ← shiftCells cells shift (cursorCol + shift) (cells.length - (cursorCol + shift))
    fillCells cells (.styledBlank style) cursorCol shift

namespace TerminalLine

def blank (index cols : ℕ) (touched : Bool) : TerminalLine :=
  ⟨index, List.replicate cols .blank, touched⟩

/-- `Vec::resize`: cells are cut off or blank cells added. -/
def resize (line : TerminalLine) (cols : ℕ) : TerminalLine :=
  { line with
    cells := line.cells.take cols ++ List.replicate (cols - line.cells.length) .blank }

def clearWithStyle (line : TerminalLine) (style : CellStyle) : TerminalLine :=
  { line with cells := line.cells.map fun _ => .styledBlank style, touched := true }

def isBlank (line : TerminalLine) : Bool := line.cells.all TerminalCell.isBlankDefault

/-- The number of cells up to the last one that shows something. -/
def displayWidth (line : TerminalLine) : ℕ :=
  match rposition (fun cell => cell.character != ' ' || !cell.style.isDefault ||
      cell.wideContinuation) line.cells with
  | some index => index + 1
  | none => 0

/-- The continuation cells of a character that starts at `cursorCol`. -/
def continueCells (cells : List TerminalCell) (cursorCol : ℕ) : ℕ → ℕ → Option (List TerminalCell)
  | _, 0 => some cells
  | offset, count + 1 =>
    if cursorCol + offset < cells.length then do
      let first ← cells[cursorCol]?
      let cells ← setCell cells (cursorCol + offset) (.wideContinuationCell first.style)
      continueCells cells cursorCol (offset + 1) count
    else continueCells cells cursorCol (offset + 1) count

/-- The part of `print_char` that works on one line. -/
def printCell (line : TerminalLine) (cursorCol width : ℕ) (character : Char) (style : CellStyle)
    (insert : Bool) : Option TerminalLine := do
  let cells ← if insert then insertBlankCells line.cells cursorCol width style
    else some line.cells
  let cells ← setCell cells cursorCol ⟨character, style, false⟩
  let cells ← continueCells cells cursorCol 1 (width - 1)
  return { line with cells, touched := true }

end TerminalLine

/-! ### What the loops do -/

section Cells

variable {cells : List TerminalCell}

/-- The cells of a character. -/
def glyph (width : ℕ) (character : Char) (style : CellStyle) : List TerminalCell :=
  ⟨character, style, false⟩ :: List.replicate (width - 1) (.wideContinuationCell style)

/-- New cells take the place of old ones. -/
def overwriteCells (cells : List TerminalCell) (col : ℕ) (new : List TerminalCell) :
    List TerminalCell :=
  cells.take col ++ new ++ cells.drop (col + new.length)

/-- New cells push the old ones to the right, and as many fall off. -/
def insertCells (cells : List TerminalCell) (col : ℕ) (new : List TerminalCell) :
    List TerminalCell :=
  cells.take col ++ new ++ (cells.drop col).take (cells.length - (col + new.length))

@[simp] theorem overwriteCells_nil (col : ℕ) : overwriteCells cells col [] = cells := by
  simp [overwriteCells]

/-- Writing one cell and then those behind it writes them all. -/
theorem overwriteCells_set {col : ℕ} (cell : TerminalCell) (new : List TerminalCell)
    (h : col < cells.length) :
    overwriteCells (cells.set col cell) (col + 1) new = overwriteCells cells col (cell :: new) := by
  simp only [overwriteCells, List.length_cons]
  rw [List.take_add_one, List.take_set_of_le (Nat.le_refl _), List.drop_set_of_lt (by omega),
    List.getElem?_set_self h]
  simp [Nat.add_assoc, Nat.add_comm 1]

theorem length_overwriteCells {col : ℕ} {new : List TerminalCell}
    (h : col + new.length ≤ cells.length) : (overwriteCells cells col new).length = cells.length := by
  simp [overwriteCells]
  omega

theorem length_insertCells {col : ℕ} {new : List TerminalCell}
    (h : col + new.length ≤ cells.length) : (insertCells cells col new).length = cells.length := by
  simp [insertCells]
  omega

/-- Cells that were inserted and overwritten again leave no trace. -/
theorem overwriteCells_insertCells {col : ℕ} {new new' : List TerminalCell}
    (hcol : col ≤ cells.length) (h : new.length = new'.length) :
    overwriteCells (insertCells cells col new) col new' = insertCells cells col new' := by
  have hlen : (cells.take col).length = col := by
    simp
    omega
  simp only [overwriteCells, insertCells, h]
  rw [List.drop_left' (by simp [h]; omega), List.append_assoc (cells.take col) new,
    List.take_left' hlen]

theorem fillCells_spec (cell : TerminalCell) {col count : ℕ} (h : col + count ≤ cells.length) :
    fillCells cells cell col count = some (overwriteCells cells col (List.replicate count cell)) := by
  induction count generalizing cells col with
  | zero => simp [fillCells]
  | succ count ih =>
    have hcol : col < cells.length := by omega
    have hset : setCell cells col cell = some (cells.set col cell) := if_pos hcol
    simp only [fillCells, hset, Option.bind_eq_bind, Option.bind_some]
    rw [ih (by rw [List.length_set]; omega), overwriteCells_set _ _ hcol, List.replicate_succ]

theorem shiftCells_spec {shift first count : ℕ} (hs : shift ≤ first)
    (h : first + count ≤ cells.length) :
    shiftCells cells shift first count =
      some (overwriteCells cells first ((cells.drop (first - shift)).take count)) := by
  induction count generalizing cells with
  | zero => simp [shiftCells, overwriteCells]
  | succ count ih =>
    have hlt : first + count < cells.length := by omega
    have hsrc : first + count - shift < cells.length := by omega
    simp only [shiftCells, List.getElem?_eq_getElem hsrc, setCell, if_pos hlt, Option.bind_eq_bind,
      Option.bind_some]
    rw [ih (by rw [List.length_set]; omega)]
    congr 1
    -- the cell that was written lies behind everything the remaining rounds read
    have hread : ((cells.set (first + count) cells[first + count - shift]).drop
        (first - shift)).take count = (cells.drop (first - shift)).take count := by
      rw [List.take_drop, List.take_set_of_le (by omega), ← List.take_drop]
    have hlen : ((cells.drop (first - shift)).take count).length = count := by
      simp
      omega
    have htake : (cells.drop (first - shift)).take (count + 1) =
        (cells.drop (first - shift)).take count ++ [cells[first + count - shift]] := by
      rw [List.take_add_one, List.getElem?_drop, show first - shift + count = first + count - shift
        by omega, List.getElem?_eq_getElem hsrc]
      rfl
    rw [hread, htake]
    simp only [overwriteCells, List.length_append, hlen, List.length_singleton]
    rw [List.take_set_of_le (by omega), List.drop_set, if_neg (by omega), Nat.sub_self,
      List.drop_eq_getElem_cons hlt]
    simp [Nat.add_assoc]

/-- Insertion of blank cells. -/
theorem insertBlankCells_spec {col width : ℕ} (style : CellStyle) (hcol : col < cells.length)
    (hw : 0 < width) :
    insertBlankCells cells col width style =
      some (insertCells cells col
        (List.replicate (min width (cells.length - col)) (.styledBlank style))) := by
  have hshift : min width (cells.length - col) ≤ cells.length - col := Nat.min_le_right ..
  generalize hk : min width (cells.length - col) = shift at *
  rw [insertBlankCells, if_neg (by omega)]
  simp only [hk, Option.bind_eq_bind]
  rw [shiftCells_spec (by omega) (by omega), Option.bind_some, Nat.add_sub_cancel]
  have hlen : ((cells.drop col).take (cells.length - (col + shift))).length =
      cells.length - (col + shift) := by
    simp
    omega
  rw [fillCells_spec _ (by simp [overwriteCells]; omega)]
  congr 1
  simp only [overwriteCells, insertCells, List.length_replicate, hlen]
  have h1 : (cells.take (col + shift)).take col = cells.take col := by
    rw [List.take_take, Nat.min_eq_left (by omega)]
  rw [List.drop_eq_nil_of_le (show cells.length ≤ col + shift + (cells.length - (col + shift)) by omega),
    List.append_nil, List.take_append_of_le_length (by simp; omega), h1,
    List.drop_append_of_le_length (by simp; omega), List.drop_of_length_le (by simp)]
  rfl

theorem continueCells_spec {col : ℕ} {style : CellStyle} {c : Char} {offset count : ℕ}
    (h : cells[col]? = some ⟨c, style, false⟩) (ho : 0 < offset) :
    TerminalLine.continueCells cells col offset count =
      some (overwriteCells cells (col + offset)
        (List.replicate (min count (cells.length - (col + offset)))
          (.wideContinuationCell style))) := by
  induction count generalizing cells offset with
  | zero => simp [TerminalLine.continueCells]
  | succ count ih =>
    rw [TerminalLine.continueCells]
    split
    case isTrue hlt =>
      simp only [h, setCell, if_pos hlt, Option.bind_eq_bind, Option.bind_some]
      rw [ih (by rw [List.getElem?_set_ne (by omega), h]) (by omega), ← Nat.add_assoc,
        overwriteCells_set _ _ hlt, ← List.replicate_succ, List.length_set]
      congr 3
      omega
    case isFalse hge =>
      -- the character is cut off at the right edge
      rw [ih h (by omega), Nat.sub_eq_zero_of_le (by omega), Nat.sub_eq_zero_of_le (by omega)]
      simp

/-- What printing a character does to the cells of a line. -/
def printCells (insert : Bool) (cells : List TerminalCell) (col width : ℕ) (character : Char)
    (style : CellStyle) : List TerminalCell :=
  let new := (glyph width character style).take (cells.length - col)
  if insert then insertCells cells col new else overwriteCells cells col new

theorem length_take_glyph {width n : ℕ} (character : Char) (style : CellStyle) (hw : 0 < width) :
    ((glyph width character style).take n).length = min width n := by
  simp [glyph]
  omega

theorem setCell_continueCells {col w : ℕ} (c : Char) (style : CellStyle)
    (hcol : col < cells.length) :
    ((setCell cells col ⟨c, style, false⟩).bind fun cells =>
      TerminalLine.continueCells cells col 1 (w - 1)) =
        some (overwriteCells cells col ((glyph w c style).take (cells.length - col))) := by
  obtain ⟨n, hn⟩ : ∃ n, cells.length - col = n + 1 := ⟨cells.length - col - 1, by omega⟩
  rw [setCell, if_pos hcol, Option.bind_some,
    continueCells_spec (List.getElem?_set_self hcol) (by omega), overwriteCells_set _ _ hcol]
  rw [hn, glyph, List.take_succ_cons, List.take_replicate, List.length_set, Nat.min_comm]
  congr 5
  omega

/-- **Printing into a line** writes the cells of the character and does not panic. -/
theorem printCell_spec {line : TerminalLine} {col width : ℕ} (c : Char) (style : CellStyle)
    (insert : Bool) (hcol : col < line.cells.length) (hw : 0 < width) :
    line.printCell col width c style insert =
      some { line with cells := printCells insert line.cells col width c style, touched := true } := by
  cases insert with
  | false =>
    have h := setCell_continueCells (w := width) c style hcol
    simp only [TerminalLine.printCell, printCells, Bool.false_eq_true, if_false,
      Option.bind_eq_bind, Option.bind_some]
    rw [← Option.bind_assoc, h]
    rfl
  | true =>
    have hlen : (insertCells line.cells col (List.replicate (min width (line.cells.length - col))
        (.styledBlank style))).length = line.cells.length :=
      length_insertCells (by simp; omega)
    have h := setCell_continueCells (w := width) c style (by rw [hlen]; exact hcol)
    simp only [TerminalLine.printCell, printCells, if_true, insertBlankCells_spec style hcol hw,
      Option.bind_eq_bind, Option.bind_some]
    rw [← Option.bind_assoc, h, hlen]
    simp only [Option.bind_some]
    rw [overwriteCells_insertCells hcol.le (by simp [length_take_glyph c style hw])]
    rfl

end Cells

/-! ### Sound lines -/

/-- A character that stands for itself in a byte stream: neither a control character nor DEL. -/
def Printable (c : Char) : Prop := 0x20 ≤ c.toNat ∧ c.toNat ≠ 0x7f

instance (c : Char) : Decidable (Printable c) := inferInstanceAs (Decidable (_ ∧ _))

/-- A row of `cols` cells with characters that can be printed. -/
structure CellsSound (cols : ℕ) (cells : List TerminalCell) : Prop where
  length_eq : cells.length = cols
  printable : ∀ cell ∈ cells, Printable cell.character

def TerminalLine.Sound (cols : ℕ) (line : TerminalLine) : Prop := CellsSound cols line.cells

section Sound

variable {cols : ℕ} {cells : List TerminalCell}

theorem printable_space : Printable ' ' := by decide

theorem CellsSound.replicate_styledBlank (cols : ℕ) (style : CellStyle) :
    CellsSound cols (List.replicate cols (.styledBlank style)) where
  length_eq := List.length_replicate
  printable cell h := by
    rw [List.eq_of_mem_replicate h]
    exact printable_space

theorem CellsSound.resize (h : ∀ cell ∈ cells, Printable cell.character) :
    CellsSound cols (cells.take cols ++ List.replicate (cols - cells.length) .blank) where
  length_eq := by
    simp
    omega
  printable cell hc := by
    rcases List.mem_append.mp hc with hc | hc
    · exact h cell (List.mem_of_mem_take hc)
    · rw [List.eq_of_mem_replicate hc]
      exact printable_space

theorem CellsSound.overwrite (h : CellsSound cols cells) {col : ℕ} {new : List TerminalCell}
    (hnew : ∀ cell ∈ new, Printable cell.character) (hlen : col + new.length ≤ cols) :
    CellsSound cols (overwriteCells cells col new) where
  length_eq := by rw [length_overwriteCells (by rw [h.length_eq]; exact hlen), h.length_eq]
  printable cell hc := by
    simp only [overwriteCells, List.mem_append] at hc
    rcases hc with (hc | hc) | hc
    · exact h.printable cell (List.mem_of_mem_take hc)
    · exact hnew cell hc
    · exact h.printable cell (List.mem_of_mem_drop hc)

theorem CellsSound.insert (h : CellsSound cols cells) {col : ℕ} {new : List TerminalCell}
    (hnew : ∀ cell ∈ new, Printable cell.character) (hlen : col + new.length ≤ cols) :
    CellsSound cols (insertCells cells col new) where
  length_eq := by rw [length_insertCells (by rw [h.length_eq]; exact hlen), h.length_eq]
  printable cell hc := by
    simp only [insertCells, List.mem_append] at hc
    rcases hc with (hc | hc) | hc
    · exact h.printable cell (List.mem_of_mem_take hc)
    · exact hnew cell hc
    · exact h.printable cell (List.mem_of_mem_drop (List.mem_of_mem_take hc))

theorem printable_of_mem_glyph {width : ℕ} {c : Char} {style : CellStyle} (hc : Printable c)
    {cell : TerminalCell} (h : cell ∈ glyph width c style) : Printable cell.character := by
  rcases List.mem_cons.mp h with rfl | h
  · exact hc
  · rw [List.eq_of_mem_replicate h]
    exact printable_space

theorem CellsSound.print (h : CellsSound cols cells) (insert : Bool) {col width : ℕ} {c : Char}
    (style : CellStyle) (hc : Printable c) (hcol : col < cols) (hw : 0 < width) :
    CellsSound cols (printCells insert cells col width c style) := by
  have hnew : ∀ cell ∈ (glyph width c style).take (cells.length - col),
      Printable cell.character :=
    fun cell hcell => printable_of_mem_glyph hc (List.mem_of_mem_take hcell)
  have hlen : col + ((glyph width c style).take (cells.length - col)).length ≤ cols := by
    rw [length_take_glyph c style hw, h.length_eq]
    omega
  cases insert with
  | false => exact h.overwrite hnew hlen
  | true => exact h.insert hnew hlen

end Sound

end Termd.Screen
