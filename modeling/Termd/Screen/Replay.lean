import Termd.Screen.Snapshot
import Termd.Screen.Tape

/-!
# Replaying a snapshot

A snapshot that is read on a new screen of the same size draws the normal screen, switches to the
alternate screen if that one is in front, draws it, and opens the sequence that was unfinished.
What results is given in closed form, as long as no row is wider than the screen.

## Main definitions

* `writtenLines`: the lines that are written
* `View.restored n`: a blank screen that has read the bytes for `n`
* `TerminalScreen.replayed`: a new screen that has read the snapshot

## Main results

* `View.apply_snapshotStateBytes`: the bytes of one screen
* `TerminalScreen.apply_snapshotBytes`: the whole snapshot
-/

namespace Termd.Screen

/-- The lines of `snapshot_line_bounds_for`. -/
def writtenLines (lines : List TerminalLine) (rows : ℕ) : List TerminalLine :=
  match snapshotLineBounds lines rows with
  | none => []
  | some (start, stop) => (lines.drop start).take (stop - start)

theorem mem_of_mem_writtenLines {lines : List TerminalLine} {rows : ℕ} {line : TerminalLine}
    (h : line ∈ writtenLines lines rows) : line ∈ lines := by
  rw [writtenLines] at h
  split at h
  · exact absurd h List.not_mem_nil
  · exact List.mem_of_mem_drop (List.mem_of_mem_take h)

/-- A screen without scrollback writes no more lines than it shows. -/
theorem length_writtenLines_le {lines : List TerminalLine} {rows : ℕ} (h : lines.length ≤ rows) :
    (writtenLines lines rows).length ≤ rows := by
  rw [writtenLines]
  split
  · exact Nat.zero_le _
  · rw [List.length_take, List.length_drop]
    omega

theorem snapshotStateBytes_eq (n : SavedScreen) (rows cols : ℕ) :
    snapshotStateBytes n rows cols =
      rowsAnsiBytes (writtenLines n.lines rows) ++ View.stateBytes n rows cols := by
  simp only [snapshotStateBytes, View.stateBytes, writtenLines, List.append_assoc]
  cases snapshotLineBounds n.lines rows <;> rfl

namespace View

variable (width : Char → Option (Fin 3)) {v : View} {n : SavedScreen}

/-- The rows that a blank screen shows after it has read the lines, and the style in force. -/
def drawn (v : View) (lines : List TerminalLine) : List (List TerminalCell) × CellStyle :=
  let written := writtenLines lines v.rows
  let (rows, pen) := inkedRows width v.cols v.currentStyle (window v.rows written)
  (rows ++ List.replicate (v.rows - written.length) (v.blankRow {}), pen)

/-- A blank screen that has read the bytes for `n`. -/
def restored (v : View) (n : SavedScreen) : View :=
  { v with
    grid := (v.drawn width n.lines).1
    modes := n.modes.over v.modes
    scrollTop := n.scrollTop
    scrollBottom := n.scrollBottom
    savedCursor := n.savedCursorAfter v.rows v.cols v.savedCursor
    cursorRow := n.addressed n.cursorRow
    cursorCol := min n.cursorCol (v.cols - 1)
    currentStyle := (v.drawn width n.lines).2.laid n.currentStyle }

/-- No row that stays on the screen is wider than the screen. -/
def Fits (lines : List TerminalLine) (rows cols : ℕ) : Prop :=
  ∀ line ∈ window rows (writtenLines lines rows), (layout width (written line.shown)).length ≤ cols

/-- The size of the terminal is that of a PTY. -/
structure Sized (v : View) : Prop where
  one_le_rows : 1 ≤ v.rows
  rows_le : v.rows ≤ 65535
  one_le_cols : 1 ≤ v.cols
  cols_le : v.cols ≤ 65535

/-- **The bytes of one screen**, read on a blank screen. -/
theorem apply_snapshotStateBytes (h : v.Filled [] []) (hv : v.Sized) {maxLines : ℕ}
    (hn : n.Sound v.rows v.cols maxLines)
    (hroom : v.currentStyle = {} ∨ n.lines.length ≤ v.rows)
    (hfit : Fits width n.lines v.rows v.cols) :
    v.apply width (snapshotStateBytes n v.rows v.cols) = v.restored width n := by
  have hroom' : v.currentStyle = {} ∨ (writtenLines n.lines v.rows).length ≤ v.rows :=
    hroom.imp id length_writtenLines_le
  have hlines : ∀ line ∈ writtenLines n.lines v.rows, line.Sound v.cols :=
    fun line hline => hn.lines_sound line (mem_of_mem_writtenLines hline)
  obtain ⟨hredraws, hstyle⟩ := apply_rows_redraws width h.tape.idle hlines
  have hgrid := h.grid_apply_rows width _ hroom' hlines hfit
  -- the style at the end does not depend on rows that are scrolled out
  have hpen : (inkedRows width v.cols v.currentStyle (writtenLines n.lines v.rows)).2 =
      (v.drawn width n.lines).2 := by
    rw [drawn]
    rcases hroom' with hdefault | hle
    · rw [hdefault, inkedRows_default, inkedRows_default]
    · rw [window, Nat.sub_eq_zero_of_le hle, List.drop_zero]
  rw [hpen] at hstyle
  rw [snapshotStateBytes_eq, apply_append]
  obtain ⟨grid, row, col, style, heq⟩ := hredraws
  rw [heq] at hgrid hstyle ⊢
  dsimp only at hgrid hstyle
  have hstate := apply_stateBytes (n := n)
    (v := { v with grid, cursorRow := row, cursorCol := col, currentStyle := style }) width
    ⟨h.tape.idle.ground, h.tape.idle.utf8⟩ hv.one_le_rows hv.rows_le hv.one_le_cols hv.cols_le
    hn.scroll_lt hn.scroll_le hn.cursorRow_lt
  dsimp only at hstate
  rw [hstate, hgrid, hstyle]
  rfl

/-! ### Blank screens -/

theorem filled_of_blank (hrows : 1 ≤ v.rows) (hidle : v.Idle) (htop : v.scrollTop = 0)
    (hbottom : v.scrollBottom = v.rows) (hgrid : v.grid = List.replicate v.rows (v.blankRow {}))
    (hrow : v.cursorRow = 0) (hcol : v.cursorCol = 0) : v.Filled [] [] := by
  refine OnTape.filled ⟨hrows, hidle, htop, hbottom, ?_, ?_⟩ rfl hcol
  · rw [hgrid, window, List.drop_nil, List.nil_append, ← List.replicate_succ, List.length_nil,
      Nat.sub_zero, Nat.sub_add_cancel hrows]
  · rw [hrow, window, List.drop_nil, List.length_nil]

/-- The alternate screen is blank when it is entered. -/
theorem enterAlternateScreen_filled (hrows : 1 ≤ v.rows) (hidle : v.Idle) :
    v.enterAlternateScreen.Filled [] [] :=
  filled_of_blank hrows ⟨hidle.ground, hidle.utf8⟩ rfl rfl rfl rfl rfl

/-- A screen that nothing was written to. -/
structure Blank (v : View) : Prop where
  filled : v.Filled [] []
  sized : v.Sized
  style_eq : v.currentStyle = {}
  modes_eq : v.modes = {}
  savedCursor_eq : v.savedCursor = none
  normal_eq : v.normal = none

theorem Blank.eq_default (h : v.Blank) :
    v = { v with
      cursorRow := 0, cursorCol := 0, savedCursor := none, currentStyle := {}, modes := {}
      utf8Pending := [], scrollTop := 0, scrollBottom := v.rows } := by
  have htape := h.filled.tape
  have hrow : v.cursorRow = 0 := by rw [htape.cursorRow_eq, List.length_nil, Nat.zero_min]
  have hcol : v.cursorCol = 0 := h.filled.col_eq h.sized.one_le_cols
  obtain ⟨⟨_, _, _, _, _, _, _, _, _, _, _⟩, _, _⟩ := v
  simp only [View.mk.injEq, Registers.mk.injEq, true_and, and_true]
  exact ⟨hrow, hcol, h.savedCursor_eq, h.style_eq, h.modes_eq, htape.idle.utf8, htape.top_eq,
    htape.bottom_eq⟩

end View

namespace TerminalScreen

variable (width : Char → Option (Fin 3)) {s : TerminalScreen}

theorem new_blank (rows cols : UInt16) : (new rows cols).view.Blank := by
  have hrows := rows.toNat_lt
  have hcols := cols.toNat_lt
  have hsized : (new rows cols).view.Sized := by
    constructor
    all_goals simp [view, new, withMaxCachedLines]
    all_goals omega
  refine ⟨View.filled_of_blank hsized.one_le_rows ⟨rfl, rfl⟩ rfl rfl ?_ rfl rfl, hsized, rfl, rfl, rfl,
    rfl⟩
  change (window _ _).map TerminalLine.cells = List.replicate (max rows.toNat 1)
    (List.replicate (max cols.toNat 1) TerminalCell.blank)
  simp only [new, withMaxCachedLines]
  rw [window_of_length (by simp), List.map_map, List.eq_replicate_iff]
  refine ⟨by simp, fun row hrow => ?_⟩
  obtain ⟨index, -, rfl⟩ := List.mem_map.mp hrow
  rfl

theorem Sound.save (h : s.Sound) : s.save.Sound s.rows s.cols s.maxLines where
  rows_le_lines := h.rows_le_lines
  lines_le := h.lines_le
  lines_sound := h.lines_sound
  cursorRow_lt := h.registers.cursorRow_lt
  cursorCol_le := h.registers.cursorCol_le
  scroll_lt := h.registers.scroll_lt
  scroll_le := h.registers.scroll_le

/-- The alternate screen has no scrollback. -/
theorem Sound.length_lines (h : s.Sound) {n : SavedScreen} (hn : s.normalScreen = some n) :
    s.lines.length ≤ s.rows := by
  have hle := h.lines_le
  rwa [maxLines, hn] at hle

/-- The screen that the one in front is drawn on: the alternate screen is entered after the normal
one was drawn. -/
def backdrop (s : TerminalScreen) (v : View) : View :=
  match s.normalScreen with
  | some n => (v.restored width n).enterAlternateScreen
  | none => v

/-- A screen that has read the snapshot of `s`. -/
def replayed (s : TerminalScreen) (v : View) : View :=
  { (s.backdrop width v).restored width s.save with
    parser := .after s.pendingControl, utf8Pending := s.utf8Pending }

/-- The unfinished sequence is opened again. -/
theorem apply_pending (h : s.Tracked) {v : View} (hv : v.Idle) :
    v.apply width (s.pendingControl ++ s.utf8Pending) =
      { v with parser := .after s.pendingControl, utf8Pending := s.utf8Pending } := by
  have hutf := h.steady.sound.registers
  rw [View.apply_append, View.apply_control width h.tracks hv.ground hv.utf8]
  by_cases hparser : s.parser = .ground
  · -- no control sequence, maybe a UTF-8 character
    have hcontrol : s.pendingControl = [] := Tracks.control_eq_nil (hparser ▸ h.tracks)
    rw [hcontrol]
    exact View.apply_waiting width h.waiting hutf.utf8_le hutf.utf8_high rfl hv.utf8
  · rw [h.steady.idle hparser, View.apply_nil, ← hv.utf8]
    rfl

/-- Both screens are drawn without a row that is too wide. -/
structure Fits (s : TerminalScreen) : Prop where
  front : View.Fits width s.lines s.rows s.cols
  normal : ∀ n, s.normalScreen = some n → View.Fits width n.lines s.rows s.cols

theorem restored_idle {v : View} (h : v.Idle) (n : SavedScreen) : (v.restored width n).Idle :=
  ⟨h.ground, h.utf8⟩

/-- A screen that is as good as new is restored by doing nothing. -/
theorem restored_of_unused {v : View} (hv : v.Blank) (hrows : v.rows = s.rows)
    (hstate : s.needsStateRestore = false) (hlines : snapshotLineBounds s.lines s.rows = none) :
    v.restored width s.save = v := by
  simp only [needsStateRestore, Bool.or_eq_false_iff, bne_eq_false_iff_eq, Bool.not_eq_false',
    Option.isSome_eq_false_iff, Option.isNone_iff_eq_none] at hstate
  obtain ⟨⟨⟨⟨⟨⟨hrow, hcol⟩, hsaved⟩, hstyle⟩, hmodes⟩, htop⟩, hbottom⟩ := hstate
  have hwritten : writtenLines s.lines v.rows = [] := by rw [writtenLines, hrows, hlines]
  have hdrawn : v.drawn width s.lines = (v.grid, {}) := by
    have hgrid := hv.filled.grid_apply_rows width [] (.inl hv.style_eq) (by simp)
      (by simp [window])
    simp only [View.drawn, hwritten, ← hgrid]
    simp [rowsAnsiBytes, window, inkedRows, hv.style_eq]
  simp only [View.restored, save, hdrawn, hrow, hcol, hsaved, htop, hbottom, hmodes,
    of_decide_eq_true hstyle]
  rw [← hrows, hv.savedCursor_eq, hv.modes_eq, Nat.zero_min, hv.filled.tape.idle.utf8]
  exact hv.eq_default.symm

/-- On such a screen only an unfinished sequence is left to restore. -/
theorem replayed_of_unused {v : View} (hv : v.Blank) (hrows : v.rows = s.rows)
    (hnormal : s.normalScreen = none) (hstate : s.needsStateRestore = false)
    (hlines : snapshotLineBounds s.lines s.rows = none) :
    s.replayed width v =
      { v with parser := .after s.pendingControl, utf8Pending := s.utf8Pending } := by
  have hback : s.backdrop width v = v := by rw [backdrop, hnormal]
  rw [replayed, hback, restored_of_unused width hv hrows hstate hlines]

/-- The normal screen is drawn and put aside. -/
theorem apply_normal (h : s.Tracked) {v : View} (hv : v.Blank) (hrows : v.rows = s.rows)
    (hcols : v.cols = s.cols) (hfit : s.Fits width) :
    v.apply width (match s.normalScreen with
        | some normal => snapshotStateBytes normal s.rows s.cols ++ csiBytes true [1049] 0x68
        | none => []) = s.backdrop width v := by
  rw [backdrop]
  cases hnormal : s.normalScreen with
  | none => rfl
  | some n =>
    have hn := h.steady.sound.normal_sound n hnormal
    have hdraw := View.apply_snapshotStateBytes (n := n) width hv.filled hv.sized
      (hrows ▸ hcols ▸ hn) (.inl hv.style_eq) (hrows ▸ hcols ▸ hfit.normal n hnormal)
    dsimp only
    rw [View.apply_append, ← hrows, ← hcols, hdraw]
    exact (View.reads_privateMode width 1049 (by omega) true).apply
      (restored_idle width hv.filled.tape.idle n)

/-- **The snapshot**, read on a blank screen of the same size. -/
theorem apply_snapshotBytes (h : s.Tracked) {v : View} (hv : v.Blank) (hrows : v.rows = s.rows)
    (hcols : v.cols = s.cols) (hfit : s.Fits width) :
    v.apply width s.snapshotBytes = s.replayed width v := by
  have hsound := h.steady.sound
  have hidle := hv.filled.tape.idle
  rw [snapshotBytes]
  split
  case isTrue hunused =>
    obtain ⟨hnormal, hcontrol, hutf, hstate, hlines⟩ := hunused
    rw [replayed_of_unused width hv hrows (Option.isNone_iff_eq_none.mp hnormal) hstate hlines,
      List.isEmpty_iff.mp hcontrol, List.isEmpty_iff.mp hutf, View.apply_nil]
    change v = { v with parser := .ground, utf8Pending := [] }
    rw [← hidle.utf8]
    exact (View.setParser_self hidle.ground).symm
  case isFalse =>
    have hback := apply_normal width h hv hrows hcols hfit
    have hfilled : (s.backdrop width v).Filled [] [] ∧ (s.backdrop width v).rows = s.rows ∧
        (s.backdrop width v).cols = s.cols ∧
        ((s.backdrop width v).currentStyle = {} ∨ s.lines.length ≤ s.rows) := by
      rw [backdrop]
      cases hnormal : s.normalScreen with
      | none => exact ⟨hv.filled, hrows, hcols, .inl hv.style_eq⟩
      | some n =>
        exact ⟨View.enterAlternateScreen_filled hv.sized.one_le_rows (restored_idle width hidle n),
          hrows, hcols, .inr (hsound.length_lines hnormal)⟩
    obtain ⟨hblank, hrows', hcols', hroom⟩ := hfilled
    have hsized : (s.backdrop width v).Sized :=
      ⟨hrows' ▸ hsound.registers.one_le_rows, hrows' ▸ hsound.registers.rows_le,
        hcols' ▸ hsound.registers.one_le_cols, hcols' ▸ hsound.registers.cols_le⟩
    have hfront := View.apply_snapshotStateBytes (n := s.save) width hblank hsized
      (by rw [hrows', hcols']; exact hsound.save) (by rw [hrows']; exact hroom)
      (by rw [hrows', hcols']; exact hfit.front)
    rw [hrows', hcols'] at hfront
    rw [List.append_assoc, List.append_assoc, View.apply_append]
    refine (congrArg (fun w : View => w.apply width _) hback).trans ?_
    rw [View.apply_append, hfront]
    exact apply_pending width h (restored_idle width hblank.tape.idle _)

end TerminalScreen

end Termd.Screen
