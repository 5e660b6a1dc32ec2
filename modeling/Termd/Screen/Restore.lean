import Termd.Screen.Replay

/-!
# When a snapshot restores the screen

A screen that is rebuilt from its snapshot is the screen that the snapshot was taken of, for every
later byte, if the snapshot can say what there is to say: the rows that it shows are whole
characters and are the visible ones, no cursor waits beyond the last column, origin mode does not
shift a row, and what is drawn on the alternate screen is not coloured by the normal one.

## Main definitions

* `Whole`, `RowsRestorable`: what rows can be written
* `TerminalScreen.Restorable`: what screens can be written
* `TerminalScreen.shown`: what a user sees

## Main results

* `TerminalScreen.replayed_eq_view`: the snapshot of a restorable screen restores what it shows
-/

namespace Termd.Screen

/-- A row of whole characters: each is followed by its own continuation cells and there are no
others. -/
def Whole (width : Char → Option (Fin 3)) (cells : List TerminalCell) : Prop :=
  layout width (written cells) = cells

instance (width : Char → Option (Fin 3)) (cells : List TerminalCell) :
    Decidable (Whole width cells) := inferInstanceAs (Decidable (_ = _))

/-- The rows that the snapshot shows are whole, and are the visible rows. -/
@[mk_iff] structure RowsRestorable (width : Char → Option (Fin 3)) (lines : List TerminalLine)
    (rows cols : ℕ) : Prop where
  whole : ∀ line ∈ window rows (writtenLines lines rows), Whole width line.shown
  aligned : (window rows (writtenLines lines rows)).map TerminalLine.cells ++
      List.replicate (rows - (writtenLines lines rows).length) (List.replicate cols .blank) =
    (window rows lines).map TerminalLine.cells

instance (width : Char → Option (Fin 3)) (lines : List TerminalLine) (rows cols : ℕ) :
    Decidable (RowsRestorable width lines rows cols) :=
  decidable_of_iff _ (rowsRestorable_iff width lines rows cols).symm

/-- The first style that is written: of the first cell, or of the cursor if no cell is written. -/
def firstStyle (lines : List TerminalLine) (current : CellStyle) : CellStyle :=
  match lines.findSome? fun line => line.shown.head? with
  | some cell => cell.style
  | none => current

/-- What the normal screen and the alternate one have to satisfy alike. -/
@[mk_iff] structure SavedScreen.Restorable (width : Char → Option (Fin 3)) (n : SavedScreen)
    (rows cols : ℕ) : Prop where
  lines : RowsRestorable width n.lines rows cols
  cursorRow_eq : n.addressed n.cursorRow = n.cursorRow
  savedCursor_eq : ∀ saved ∈ n.savedCursor,
    saved.1 < rows ∧ saved.2 < cols ∧ n.addressed saved.1 = saved.1

instance (width : Char → Option (Fin 3)) (n : SavedScreen) (rows cols : ℕ) :
    Decidable (n.Restorable width rows cols) :=
  decidable_of_iff _ (n.restorable_iff width rows cols).symm

/-- **The screens that a snapshot restores.** -/
@[mk_iff] structure TerminalScreen.Restorable (width : Char → Option (Fin 3)) (s : TerminalScreen) : Prop where
  front : s.save.Restorable width s.rows s.cols
  cursorCol_lt : s.cursorCol < s.cols
  parser_eq : ParserState.after s.pendingControl = s.parser
  normal : ∀ n ∈ s.normalScreen, n.Restorable width s.rows s.cols
  mouse_subset : ∀ n ∈ s.normalScreen, n.modes.mouseModes ⊆ s.modes.mouseModes
  style_eq : ∀ n ∈ s.normalScreen,
    n.currentStyle.laid (firstStyle (writtenLines s.lines s.rows) s.currentStyle) =
      firstStyle (writtenLines s.lines s.rows) s.currentStyle

instance (width : Char → Option (Fin 3)) (s : TerminalScreen) : Decidable (s.Restorable width) :=
  decidable_of_iff _ (s.restorable_iff width).symm

/-! ### Rows -/

@[simp] theorem CellStyle.laid_default (style : CellStyle) : laid {} style = style := by
  rw [laid]
  split
  case isTrue h => exact (of_decide_eq_true h).symm
  case isFalse => exact overlay_default style

theorem TerminalLine.isBlankDefault_of_mem_drop {line : TerminalLine} {cell : TerminalCell}
    (h : cell ∈ line.cells.drop line.displayWidth) : cell = .blank := by
  have hplain : (cell.character != ' ' || !cell.style.isDefault || cell.wideContinuation) = false := by
    rw [displayWidth] at h
    split at h
    case h_1 index hindex =>
      obtain ⟨-, -, -, hrest⟩ := rposition_eq_some hindex
      exact hrest cell h
    case h_2 hnone => exact rposition_eq_none_iff.mp hnone cell (List.mem_of_mem_drop h)
  simp only [Bool.or_eq_false_iff, bne_eq_false_iff_eq, Bool.not_eq_false'] at hplain
  obtain ⟨⟨hchar, hstyle⟩, hcont⟩ := hplain
  obtain ⟨character, style, continuation⟩ := cell
  obtain rfl : style = {} := of_decide_eq_true hstyle
  simp only at hchar hcont
  rw [hchar, hcont]
  rfl

/-- The cells that are not written are those that a row is filled up with. -/
theorem TerminalLine.padded_shown {line : TerminalLine} {cols : ℕ} (h : line.Sound cols) :
    padded cols line.shown = line.cells := by
  have hdrop : line.cells.drop line.displayWidth =
      List.replicate (cols - line.shown.length) .blank := by
    rw [List.eq_replicate_iff]
    refine ⟨?_, fun cell hcell => isBlankDefault_of_mem_drop hcell⟩
    rw [List.length_drop, shown, List.length_take, h.length_eq]
    omega
  rw [padded, ← hdrop, shown, List.take_append_drop]

theorem Whole.head_eq {width : Char → Option (Fin 3)} {cell : TerminalCell}
    {rest : List TerminalCell} (h : Whole width (cell :: rest)) : cell.wideContinuation = false := by
  by_contra hcont
  rw [Bool.not_eq_false] at hcont
  rw [Whole] at h
  -- the first cell of a layout is never a continuation
  cases hwritten : written (cell :: rest) with
  | nil =>
    rw [hwritten] at h
    exact absurd h (by simp [layout])
  | cons g gs =>
    rw [hwritten, layout, List.flatMap_cons, glyph, List.cons_append] at h
    rw [← (List.cons.inj h).1] at hcont
    exact absurd hcont (by simp)

theorem firstStyle_cons_nil {line : TerminalLine} (h : line.shown = []) (lines : List TerminalLine)
    (current : CellStyle) : firstStyle (line :: lines) current = firstStyle lines current := by
  simp [firstStyle, h]

theorem firstStyle_cons {line : TerminalLine} {cell : TerminalCell} {rest : List TerminalCell}
    (h : line.shown = cell :: rest) (lines : List TerminalLine) (current : CellStyle) :
    firstStyle (line :: lines) current = cell.style := by
  simp [firstStyle, h]

/-- **Once the first style comes out right** all later ones do, and so does the style at the end. -/
theorem inkedRows_of_laid (width : Char → Option (Fin 3)) (cols : ℕ) {pen current : CellStyle}
    {lines : List TerminalLine}
    (hstart : ∀ line ∈ lines, ∀ cell rest, line.shown = cell :: rest → cell.wideContinuation = false)
    (hpen : pen.laid (firstStyle lines current) = firstStyle lines current) :
    (inkedRows width cols pen lines).1 =
        lines.map (fun line => padded cols (layout width (written line.shown))) ∧
      (inkedRows width cols pen lines).2.laid current = current := by
  induction lines with
  | nil => exact ⟨rfl, hpen⟩
  | cons line lines ih =>
    cases hshown : line.shown with
    | nil =>
      rw [firstStyle_cons_nil hshown] at hpen
      have hinked : inked pen {} line.shown = ([], pen) := by rw [hshown]; rfl
      obtain ⟨hrows, hstyle⟩ := ih (fun l hl => hstart l (List.mem_cons_of_mem _ hl)) hpen
      have hwritten : written line.shown = [] := by rw [hshown]; rfl
      simp only [inkedRows, hinked, hrows, hwritten, List.map_cons]
      exact ⟨trivial, hstyle⟩
    | cons cell rest =>
      rw [firstStyle_cons hshown] at hpen
      have hcont := hstart line List.mem_cons_self cell rest hshown
      have hinked : inked pen {} line.shown = (written line.shown, {}) := by
        rw [hshown, inked_cell _ _ _ hcont, nextPen_default, hpen, inked_self,
          written_cell rest hcont]
      simp only [inkedRows, hinked, inkedRows_default, List.map_cons, CellStyle.laid_default]
      exact ⟨trivial, trivial⟩

section Screens

variable (width : Char → Option (Fin 3))

theorem RowsRestorable.fits {lines : List TerminalLine} {rows cols : ℕ}
    (h : RowsRestorable width lines rows cols) (hlines : ∀ line ∈ lines, line.Sound cols) :
    View.Fits width lines rows cols := by
  intro line hline
  have hlen := (hlines line (mem_of_mem_writtenLines (mem_of_mem_window hline))).length_eq
  rw [h.whole line hline, TerminalLine.shown, List.length_take]
  omega

/-- The rows come out as they were, if the first style does. -/
theorem View.drawn_of_restorable {v : View} (lines : List TerminalLine) (current : CellStyle)
    (h : RowsRestorable width lines v.rows v.cols) (hlines : ∀ line ∈ lines, line.Sound v.cols)
    (hpen : v.currentStyle.laid (firstStyle (window v.rows (writtenLines lines v.rows)) current) =
      firstStyle (window v.rows (writtenLines lines v.rows)) current) :
    (v.drawn width lines).1 = (window v.rows lines).map TerminalLine.cells ∧
      (v.drawn width lines).2.laid current = current := by
  obtain ⟨hrows, hstyle⟩ := inkedRows_of_laid width v.cols (fun line hline cell rest hshown => by
    have hwhole := h.whole line hline
    rw [hshown] at hwhole
    exact hwhole.head_eq) hpen
  refine ⟨?_, hstyle⟩
  rw [← h.aligned, drawn]
  simp only [hrows]
  congr 1
  refine List.map_congr_left fun line hline => ?_
  rw [h.whole line hline]
  exact TerminalLine.padded_shown (hlines line (mem_of_mem_writtenLines (mem_of_mem_window hline)))

theorem SavedScreen.Restorable.savedCursorAfter_eq {n : SavedScreen} {rows cols : ℕ}
    (h : n.Restorable width rows cols) : n.savedCursorAfter rows cols none = n.savedCursor := by
  rw [savedCursorAfter]
  cases hsaved : n.savedCursor with
  | none => rfl
  | some saved =>
    obtain ⟨row, col⟩ := saved
    obtain ⟨hrow, hcol, heq⟩ := h.savedCursor_eq (row, col) hsaved
    dsimp only
    rw [Nat.min_eq_left (by omega), Nat.min_eq_left (by omega), heq]

/-- Mouse modes that are on in the normal screen as well come out right. -/
theorem TerminalModes.over_eq {modes before : TerminalModes}
    (h : before.mouseModes ⊆ modes.mouseModes) : modes.over before = modes := by
  rw [TerminalModes.over, Finset.union_eq_right.mpr h]

/-- **The normal screen**, drawn and put aside, is the one that was put aside. -/
theorem View.save_restored {v : View} (hv : v.Blank) {n : SavedScreen} {maxLines : ℕ}
    (hn : n.Sound v.rows v.cols maxLines) (h : n.Restorable width v.rows v.cols) :
    (v.restored width n).save = n.view v.rows v.cols ∧
      (v.restored width n).currentStyle = n.currentStyle ∧
      (v.restored width n).modes = n.modes := by
  have hlt := hn.scroll_lt
  have hle := hn.scroll_le
  have hrow := hn.cursorRow_lt
  obtain ⟨hgrid, hstyle⟩ := View.drawn_of_restorable (v := v) width
    n.lines n.currentStyle h.lines hn.lines_sound (by rw [hv.style_eq, CellStyle.laid_default])
  have hmodes : n.modes.over v.modes = n.modes := TerminalModes.over_eq (by simp [hv.modes_eq])
  refine ⟨?_, hstyle, hmodes⟩
  simp only [save, restored, SavedScreen.view, SavedView.mk.injEq]
  refine ⟨hgrid, ?_, ?_, ?_, hstyle, hmodes, ?_, ?_⟩
  · rw [h.cursorRow_eq]
    omega
  · omega
  · rw [hv.savedCursor_eq]
    exact h.savedCursorAfter_eq
  · omega
  · omega

namespace TerminalScreen

variable {s : TerminalScreen}

theorem Restorable.fits (h : s.Restorable width) (hs : s.Sound) : s.Fits width where
  front := h.front.lines.fits width hs.lines_sound
  normal n hn := (h.normal n hn).lines.fits width (hs.normal_sound n hn).lines_sound

/-- **The snapshot of a restorable screen** restores what the screen shows. -/
theorem replayed_eq_view (h : s.Tracked) (hr : s.Restorable width) {v : View} (hv : v.Blank)
    (hrows : v.rows = s.rows) (hcols : v.cols = s.cols) : s.replayed width v = s.view := by
  have hsound := h.steady.sound
  have hcol := hr.cursorCol_lt
  -- the screen that the front is drawn on
  obtain ⟨hback_rows, hback_cols, hback_saved, hback_normal, hback_mouse, hback_style⟩ :
      (s.backdrop width v).rows = s.rows ∧ (s.backdrop width v).cols = s.cols ∧
      (s.backdrop width v).savedCursor = none ∧
      (s.backdrop width v).normal = s.view.normal ∧
      (s.backdrop width v).modes.mouseModes ⊆ s.modes.mouseModes ∧
      (s.backdrop width v).currentStyle.laid
          (firstStyle (window s.rows (writtenLines s.lines s.rows)) s.currentStyle) =
        firstStyle (window s.rows (writtenLines s.lines s.rows)) s.currentStyle := by
    rw [backdrop, view]
    cases hnormal : s.normalScreen with
    | none =>
      refine ⟨hrows, hcols, hv.savedCursor_eq, hv.normal_eq, ?_, ?_⟩
      · simp [hv.modes_eq]
      · rw [hv.style_eq, CellStyle.laid_default]
    | some n =>
      have hn := hsound.normal_sound n hnormal
      obtain ⟨hsave, hstyle, hmodes⟩ := View.save_restored width hv (n := n)
        (hrows ▸ hcols ▸ hn) (hrows ▸ hcols ▸ hr.normal n hnormal)
      have hwindow : window s.rows (writtenLines s.lines s.rows) = writtenLines s.lines s.rows := by
        rw [window, Nat.sub_eq_zero_of_le (length_writtenLines_le (hsound.length_lines hnormal)),
          List.drop_zero]
      refine ⟨hrows, hcols, rfl, ?_, ?_, ?_⟩
      · change some ((v.restored width n).normal.getD (v.restored width n).save) = _
        rw [show (v.restored width n).normal = none from hv.normal_eq, hsave, hrows, hcols]
        rfl
      · change (v.restored width n).modes.mouseModes ⊆ _
        rw [hmodes]
        exact hr.mouse_subset n hnormal
      · change (v.restored width n).currentStyle.laid _ = _
        rw [hstyle, hwindow]
        exact hr.style_eq n hnormal
  obtain ⟨hgrid, hstyle⟩ := View.drawn_of_restorable (v := s.backdrop width v) width
    s.lines s.currentStyle
    (by rw [hback_rows, hback_cols]; exact hr.front.lines)
    (by rw [hback_cols]; exact hsound.lines_sound) (by rw [hback_rows]; exact hback_style)
  have hsaved := hr.front.savedCursorAfter_eq
  have hrow : s.save.addressed s.save.cursorRow = s.cursorRow := hr.front.cursorRow_eq
  have hmodes : s.save.modes.over (s.backdrop width v).modes = s.modes :=
    TerminalModes.over_eq hback_mouse
  have hcol' : min s.save.cursorCol (s.cols - 1) = s.cursorCol :=
    Nat.min_eq_left (by change s.cursorCol ≤ _; omega)
  rw [replayed, View.restored, hback_normal, hback_rows, hback_cols, hback_saved, hsaved, hrow,
    hmodes, hcol', hr.parser_eq, show s.save.lines = s.lines from rfl, hgrid, hback_rows]
  rw [show s.save.currentStyle = s.currentStyle from rfl, hstyle]
  rfl

end TerminalScreen

end Screens

/-! ### Resuming from a snapshot -/

/-- What a user sees, and where later output will go. -/
structure Shown where
  rows : List (List TerminalCell)
  cursorRow : ℕ
  cursorCol : ℕ
  currentStyle : CellStyle
  modes : TerminalModes
  scrollTop : ℕ
  scrollBottom : ℕ
  savedCursor : Option (ℕ × ℕ)
deriving DecidableEq

def View.shown (v : View) : Shown where
  rows := v.grid
  cursorRow := v.cursorRow
  cursorCol := v.cursorCol
  currentStyle := v.currentStyle
  modes := v.modes
  scrollTop := v.scrollTop
  scrollBottom := v.scrollBottom
  savedCursor := v.savedCursor

def TerminalScreen.shown (s : TerminalScreen) : Shown := s.view.shown

namespace TerminalScreen

variable (width : Char → Option (Fin 3)) (rows cols : UInt16)

/-- A screen reads `bytes`, a second one reads its snapshot, and both read `tail`. -/
def resume (bytes tail : List UInt8) : Option (Shown × Shown) := do
  let live ← (new rows cols).apply width bytes
  let copy ← (new rows cols).apply width live.snapshotBytes
  let live ← live.apply width tail
  let copy ← copy.apply width tail
  return (live.shown, copy.shown)

/-- The second screen ends up as the first one. -/
def Resumes (bytes tail : List UInt8) : Prop :=
  ∃ shown, resume width rows cols bytes tail = some (shown, shown)

/-- A screen keeps its size. -/
theorem view_size_of_apply {bytes : List UInt8} {s : TerminalScreen}
    (h : (new rows cols).apply width bytes = some s) :
    s.Tracked ∧ (new rows cols).view.rows = s.rows ∧ (new rows cols).view.cols = s.cols := by
  obtain ⟨t, ht, htracked, hview⟩ := apply_tracked width (new_tracked rows cols) bytes
  obtain rfl : t = s := Option.some.inj (ht.symm.trans h)
  obtain ⟨hrows, hcols⟩ := View.apply_size width bytes (new rows cols).view
  rw [← hview] at hrows hcols
  exact ⟨htracked, hrows.symm, hcols.symm⟩

/-- **A snapshot of a restorable screen stands for the screen**: whatever follows, the screen and
its copy show the same. -/
theorem resumes_of_restorable {bytes : List UInt8} {s : TerminalScreen}
    (hs : (new rows cols).apply width bytes = some s) (h : s.Restorable width)
    (tail : List UInt8) : Resumes width rows cols bytes tail := by
  obtain ⟨htracked, hrows, hcols⟩ := view_size_of_apply width rows cols hs
  have hblank := new_blank rows cols
  obtain ⟨copy, hcopy, hcopy_tracked, hcopy_view⟩ :=
    apply_tracked width (new_tracked rows cols) s.snapshotBytes
  have hsame : copy.view = s.view := by
    rw [hcopy_view, apply_snapshotBytes width htracked hblank hrows hcols
      (h.fits width htracked.steady.sound), replayed_eq_view width htracked h hblank hrows hcols]
  obtain ⟨live', hlive', -, hlive_view⟩ := apply_tracked width htracked tail
  obtain ⟨copy', hcopy', -, hcopy_view'⟩ := apply_tracked width hcopy_tracked tail
  refine ⟨live'.shown, ?_⟩
  have hshown : copy'.shown = live'.shown := by
    rw [shown, shown, hcopy_view', hlive_view, hsame]
  simp [resume, hs, hcopy, hlive', hcopy', hshown]

/-- A bold character on the normal screen, and a wide one in the same style on the alternate screen
that is then left. -/
theorem resumes_on_alternate_screen :
    Resumes (fun c => if c.toNat < 0x80 then some 1 else some 2) 2 4
      [0x1b, 0x5b, 0x31, 0x6d, 0x61, 0x1b, 0x5b, 0x3f, 0x31, 0x30, 0x34, 0x39, 0x68, 0x62,
        0xe5, 0xad, 0x97]
      [0x1b, 0x5b, 0x3f, 0x31, 0x30, 0x34, 0x39, 0x6c, 0x63] :=
  resumes_of_restorable _ 2 4 (Option.some_get (by decide +kernel)).symm (by decide +kernel) _

/-- A character that is printed after the last column was filled: the screen goes to the next line,
its copy overwrites the last column. -/
theorem not_resumes_at_pending_wrap :
    ¬∀ (width : Char → Option (Fin 3)) (rows cols : UInt16) (bytes tail : List UInt8),
      1 ≤ rows → 1 ≤ cols → Resumes width rows cols bytes tail := by
  intro h
  obtain ⟨shown, hshown⟩ := h (fun _ => some 1) 1 2 [0x61, 0x62] [0x63] (by decide) (by decide)
  have hdiffer : (resume (fun _ => some 1) 1 2 [0x61, 0x62] [0x63]).map
      (fun both => decide (both.1 = both.2)) = some false := by decide +kernel
  rw [hshown] at hdiffer
  simp at hdiffer

end TerminalScreen

end Termd.Screen
