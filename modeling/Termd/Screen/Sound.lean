import Termd.Screen.View

/-!
# Soundness of the screen cache

A sound screen has the lines and the bounds that the code relies on. Every operation on a sound
screen succeeds, its result is sound, and what it shows is what the abstract terminal makes of
what was shown before.

## Main definitions

* `TerminalScreen.Sound`: the safety invariant
* `Refines s v t`: `t` is a sound screen that shows `v`, with the parser bytes of `s`

## Main results

* `TerminalScreen.visibleLineMut_spec`, `TerminalScreen.insertVisibleLine_spec`: the two ways
  in which lines change
* `TerminalScreen.printChar_spec`, `TerminalScreen.eraseDisplay_spec`: printing and erasing
-/

namespace Termd.Screen

structure Registers.Sound (r : Registers) : Prop where
  one_le_rows : 1 ≤ r.rows
  rows_le : r.rows ≤ 65535
  one_le_cols : 1 ≤ r.cols
  cols_le : r.cols ≤ 65535
  cursorRow_lt : r.cursorRow < r.rows
  cursorCol_le : r.cursorCol ≤ r.cols + 1
  scroll_lt : r.scrollTop < r.scrollBottom
  scroll_le : r.scrollBottom ≤ r.rows
  utf8_le : r.utf8Pending.length ≤ 4
  utf8_high : ∀ byte ∈ r.utf8Pending, 0x80 ≤ byte.toNat

/-- The normal screen that was put aside, for a screen of the given size. -/
structure SavedScreen.Sound (n : SavedScreen) (rows cols maxCachedLines : ℕ) : Prop where
  rows_le_lines : rows ≤ n.lines.length
  lines_le : n.lines.length ≤ maxCachedLines
  lines_sound : ∀ line ∈ n.lines, line.Sound cols
  cursorRow_lt : n.cursorRow < rows
  cursorCol_le : n.cursorCol ≤ cols + 1
  scroll_lt : n.scrollTop < n.scrollBottom
  scroll_le : n.scrollBottom ≤ rows

/-- **The safety invariant** of the screen cache. -/
structure TerminalScreen.Sound (s : TerminalScreen) : Prop where
  registers : s.toRegisters.Sound
  rows_le_max : s.rows ≤ s.maxCachedLines
  rows_le_lines : s.rows ≤ s.lines.length
  lines_le : s.lines.length ≤ s.maxLines
  lines_sound : ∀ line ∈ s.lines, line.Sound s.cols
  normal_sound : ∀ n, s.normalScreen = some n → n.Sound s.rows s.cols s.maxCachedLines
  control_le : s.pendingControl.length ≤ maxPendingControlBytes

/-- A sound screen that shows `v` and still holds the pending bytes of `s`. -/
structure Refines (s : TerminalScreen) (v : View) (t : TerminalScreen) : Prop where
  sound : t.Sound
  view_eq : t.view = v
  control_eq : t.pendingControl = s.pendingControl
  cut_eq : t.pendingHomeClearCut = s.pendingHomeClearCut

theorem Refines.trans {s t u : TerminalScreen} {v w : View} (h : Refines s v t)
    (h' : Refines t w u) : Refines s w u where
  sound := h'.sound
  view_eq := h'.view_eq
  control_eq := h'.control_eq.trans h.control_eq
  cut_eq := h'.cut_eq.trans h.cut_eq

theorem Refines.congr {s t : TerminalScreen} {v w : View} (h : Refines s v t) (hvw : v = w) :
    Refines s w t := hvw ▸ h

/-- The rule of composition for operations that refine their abstract counterparts. -/
theorem Refines.andThen {s t : TerminalScreen} {v w : View} {r : Option TerminalScreen}
    (h : Refines s v t) (hr : Ensures r (Refines t w)) : Ensures r (Refines s w) :=
  hr.mono fun _ h' => h.trans h'

/-- The rule of conditionals: both sides take the same branch. -/
theorem Ensures.refines_ite {s : TerminalScreen} {c c' : Prop} [Decidable c] [Decidable c']
    (hc : c ↔ c') {r r' : Option TerminalScreen} {v v' : View}
    (h : c → Ensures r (Refines s v)) (h' : ¬c → Ensures r' (Refines s v')) :
    Ensures (if c then r else r') (Refines s (if c' then v else v')) := by
  by_cases hcase : c
  · rw [if_pos hcase, if_pos (hc.mp hcase)]
    exact h hcase
  · rw [if_neg hcase, if_neg fun hcase' => hcase (hc.mpr hcase')]
    exact h' hcase

namespace TerminalScreen

variable {s : TerminalScreen}

@[simp] theorem view_toRegisters (s : TerminalScreen) : s.view.toRegisters = s.toRegisters := rfl

theorem Sound.rows_le_maxLines (h : s.Sound) : s.rows ≤ s.maxLines := by
  have := h.rows_le_max
  rw [maxLines]
  split <;> omega

theorem Sound.refl (h : s.Sound) : Refines s s.view s := ⟨h, rfl, rfl, rfl⟩

/-- Only the lines change. -/
theorem Sound.refines_lines (h : s.Sound) (lines : List TerminalLine) (nextLineIndex : ℕ)
    (hrows : s.rows ≤ lines.length) (hle : lines.length ≤ s.maxLines)
    (hlines : ∀ line ∈ lines, line.Sound s.cols) :
    Refines s { s.view with grid := (window s.rows lines).map TerminalLine.cells }
      { s with lines, nextLineIndex } where
  sound := { h with rows_le_lines := hrows, lines_le := hle, lines_sound := hlines }
  view_eq := rfl
  control_eq := rfl
  cut_eq := rfl

/-- Only the registers change, and the size does not. -/
theorem Sound.refines_registers (h : s.Sound) {r : Registers} (hr : r.Sound)
    (hrows : r.rows = s.rows) (hcols : r.cols = s.cols) :
    Refines s { s.view with toRegisters := r } { s with toRegisters := r } where
  sound := by
    constructor
    · exact hr
    · exact hrows ▸ h.rows_le_max
    · exact hrows ▸ h.rows_le_lines
    · have := h.lines_le
      simp only [maxLines] at this ⊢
      rwa [hrows]
    · exact hcols ▸ h.lines_sound
    · exact hrows ▸ hcols ▸ h.normal_sound
    · exact h.control_le
  view_eq := by
    simp only [view, hrows, hcols]
  control_eq := rfl
  cut_eq := rfl

theorem Sound.refines_cursorCol (h : s.Sound) {col : ℕ} (hcol : col ≤ s.cols + 1) :
    Refines s { s.view with cursorCol := col } { s with cursorCol := col } :=
  h.refines_registers { h.registers with cursorCol_le := hcol } rfl rfl

theorem Sound.refines_cursor (h : s.Sound) {row col : ℕ} (hrow : row < s.rows)
    (hcol : col ≤ s.cols + 1) :
    Refines s { s.view with cursorRow := row, cursorCol := col }
      { s with cursorRow := row, cursorCol := col } :=
  h.refines_registers { h.registers with cursorRow_lt := hrow, cursorCol_le := hcol } rfl rfl

theorem Sound.refines_cursorRow (h : s.Sound) {row : ℕ} (hrow : row < s.rows) :
    Refines s { s.view with cursorRow := row } { s with cursorRow := row } :=
  h.refines_registers { h.registers with cursorRow_lt := hrow } rfl rfl

/-- **Editing one visible line**: the line exists, and the row it shows is edited. -/
theorem visibleLineMut_spec (h : s.Sound) (row : ℕ) {edit : TerminalLine → Option TerminalLine}
    {f : List TerminalCell → List TerminalCell}
    (hedit : ∀ line : TerminalLine, line.Sound s.cols →
      Ensures (edit line) fun line' => line'.Sound s.cols ∧ line'.cells = f line.cells) :
    Ensures (s.visibleLineMut row edit) (Refines s (s.view.editRow row f)) := by
  have hrows := h.registers.one_le_rows
  have hlen := h.rows_le_lines
  generalize hi : min row (s.rows - 1) = i
  have hlt : s.lines.length - s.rows + i < s.lines.length := by omega
  simp only [visibleLineMut, visibleStart, hi, List.getElem?_eq_getElem hlt, Option.bind_eq_bind,
    Option.bind_some]
  refine (hedit _ (h.lines_sound _ (List.getElem_mem hlt))).bind fun line' ⟨hsound, hcells⟩ => ?_
  refine .some ?_
  have href := h.refines_lines (s.lines.set (s.lines.length - s.rows + i) line') s.nextLineIndex
    (by simpa using hlen)
    (by simpa using h.lines_le) fun line hline => by
      rcases List.mem_or_eq_of_mem_set hline with hline | rfl
      · exact h.lines_sound line hline
      · exact hsound
  have hget : (window s.rows s.lines)[i]? = some s.lines[s.lines.length - s.rows + i] := by
    rw [window, List.getElem?_drop, List.getElem?_eq_getElem hlt]
  have hgrid : (window s.rows (s.lines.set (s.lines.length - s.rows + i) line')).map
      TerminalLine.cells = s.view.grid.modify (min row (s.rows - 1)) f := by
    rw [window_set hlen, hi]
    exact map_set_eq_modify hget hcells
  exact { href with view_eq := congrArg (fun grid => { s.view with grid }) hgrid }

/-- Trimming drops lines that are not visible. -/
theorem window_trim {lines : List TerminalLine} (h : s.Sound) (hrows : s.rows ≤ lines.length) :
    window s.rows (lines.drop (lines.length - s.maxLines)) = window s.rows lines := by
  have := h.rows_le_maxLines
  exact window_drop (by omega)

/-- New lines take the place of the old ones, which are trimmed. -/
theorem Sound.refines_trimmed (h : s.Sound) (lines : List TerminalLine) (nextLineIndex : ℕ)
    (hrows : s.rows ≤ lines.length) (hlines : ∀ line ∈ lines, line.Sound s.cols) :
    Refines s { s.view with grid := (window s.rows lines).map TerminalLine.cells }
      (trimCachedLines { s with lines, nextLineIndex }) := by
  have hmax := h.rows_le_maxLines
  have href := h.refines_lines (lines.drop (lines.length - s.maxLines)) nextLineIndex
    (by rw [List.length_drop]; omega) (by rw [List.length_drop]; omega)
    fun line hline => hlines line (List.mem_of_mem_drop hline)
  rw [window_trim h hrows] at href
  exact href

/-- **Inserting a line**: it is in bounds, and every line stays sound. -/
theorem insertVisibleLine_spec (h : s.Sound) {lines : List TerminalLine}
    (hlines : ∀ line ∈ lines, line.Sound s.cols) {index : ℕ} (hindex : index ≤ lines.length)
    (hrows : s.rows ≤ lines.length + 1) (style : CellStyle) {grid : List (List TerminalCell)}
    (hgrid : ∀ line : TerminalLine, line.cells = List.replicate s.cols (.styledBlank style) →
      (window s.rows (lines.insertIdx index line)).map TerminalLine.cells = grid) :
    Ensures (insertVisibleLine { s with lines } index style) (Refines s { s.view with grid }) := by
  have hinsert (line : TerminalLine) : insertLine lines index line = some (lines.insertIdx index line) :=
    if_pos hindex
  simp only [insertVisibleLine, Nat.min_eq_left hindex, hinsert, Option.bind_eq_bind,
    Option.bind_some]
  refine .some ?_
  have href := h.refines_trimmed (lines.insertIdx index
      ⟨s.nextLineIndex, List.replicate s.cols (.styledBlank style), true⟩)
    (nextIndex s.nextLineIndex)
    (by rwa [List.length_insertIdx_of_le_length hindex]) fun line hline => by
      rcases List.eq_or_mem_of_mem_insertIdx hline with rfl | hline
      · exact CellsSound.replicate_styledBlank s.cols style
      · exact hlines line hline
  rw [hgrid _ rfl] at href
  exact href

/-! ### Scrolling -/

/-- A visible line is removed, and a blank one comes in elsewhere. -/
theorem moveVisibleLine_spec (h : s.Sound) {i j : ℕ} (hi : i < s.rows) (hj : j < s.rows)
    (style : CellStyle) :
    Ensures (insertVisibleLine { s with lines := s.lines.eraseIdx (s.visibleStart + i) }
        (s.visibleStart + j) style)
      (Refines s { s.view with
        grid := (s.view.grid.eraseIdx i).insertIdx j (s.view.blankRow style) }) := by
  have hlen := h.rows_le_lines
  have herase : (s.lines.eraseIdx (s.visibleStart + i)).length = s.lines.length - 1 :=
    List.length_eraseIdx_of_lt (by rw [visibleStart]; omega)
  refine insertVisibleLine_spec h
    (fun line hline => h.lines_sound line (List.mem_of_mem_eraseIdx hline))
    (by rw [herase, visibleStart]; omega) (by omega) style fun line hline => ?_
  rw [visibleStart, window_eraseIdx_insertIdx hlen hi hj, List.map_insertIdx, ← List.eraseIdx_map,
    hline]
  rfl

theorem scrollUpOnce_spec (h : s.Sound) {top bottom : ℕ} (htop : top < bottom)
    (hbottom : bottom ≤ s.rows) (style : CellStyle) :
    Ensures (s.scrollUpOnce top bottom style) (Refines s (s.view.scrollUpOnce top bottom style)) := by
  have hlen := h.rows_le_lines
  rw [scrollUpOnce]
  refine .ite (fun hc => ?_) fun _ => ?_
  · obtain ⟨-, rfl⟩ := hc
    -- the insertion pushes the first visible line into the scrollback
    refine insertVisibleLine_spec h h.lines_sound (by rw [visibleStart]; omega) (by omega) style
      fun line hline => ?_
    rw [visibleStart, window_insertIdx hlen htop hbottom, List.map_insertIdx, ← List.eraseIdx_map,
      hline]
    rfl
  · rw [Nat.add_sub_assoc (by omega)]
    exact moveVisibleLine_spec h (by omega) (by omega) style

theorem scrollDownOnce_spec (h : s.Sound) {top bottom : ℕ} (htop : top < bottom)
    (hbottom : bottom ≤ s.rows) (style : CellStyle) :
    Ensures (s.scrollDownOnce top bottom style)
      (Refines s (s.view.scrollDownOnce top bottom style)) := by
  rw [scrollDownOnce, Nat.add_sub_assoc (by omega)]
  exact moveVisibleLine_spec h (by omega) (by omega) style

/-- A loop refines the iteration of what its body refines. -/
theorem iterM_spec {body : TerminalScreen → Option TerminalScreen} {f : View → View}
    (hf : ∀ v, (f v).rows = v.rows) {rows : ℕ}
    (hbody : ∀ t : TerminalScreen, t.Sound → t.rows = rows → Ensures (body t) (Refines t (f t.view)))
    (n : ℕ) (h : s.Sound) (hs : s.rows = rows) :
    Ensures (iterM body n s) (Refines s (f^[n] s.view)) := by
  -- the view reached so far, from which the rounds left lead to the view at the end
  refine (Ensures.iterM (I := fun k t => ∃ v, Refines s v t ∧ v.rows = rows ∧
    f^[k] v = f^[n] s.view) (fun k t => ?_) ⟨s.view, h.refl, hs, rfl⟩).mono ?_
  · rintro ⟨v, ht, hv, hk⟩
    obtain rfl := ht.view_eq
    refine (ht.andThen (hbody t ht.sound hv)).mono fun u hu => ⟨f t.view, hu, ?_, ?_⟩
    · rw [hf, hv]
    · rwa [Function.iterate_succ_apply] at hk
  · rintro t ⟨v, ht, -, hv⟩
    rwa [← hv]

/-- The loop of a scroll command and the clamping of the cursor after it. -/
theorem scrollLoop_spec {body : TerminalScreen → Option TerminalScreen} {f : View → View}
    (hf : ∀ v, (f v).rows = v.rows)
    (hbody : ∀ t : TerminalScreen, t.Sound → t.rows = s.rows →
      Ensures (body t) (Refines t (f t.view)))
    (n : ℕ) (h : s.Sound) :
    Ensures ((iterM body n s).bind fun t => some { t with cursorRow := min t.cursorRow (t.rows - 1) })
      (Refines s
        { f^[n] s.view with cursorRow := min (f^[n] s.view).cursorRow ((f^[n] s.view).rows - 1) }) := by
  refine (iterM_spec hf hbody n h rfl).bind fun t ht => ht.andThen (.some ?_)
  rw [← ht.view_eq]
  exact ht.sound.refines_cursorRow ((Nat.min_le_left ..).trans_lt ht.sound.registers.cursorRow_lt)

theorem scrollUpRegion_spec (h : s.Sound) (count : ℕ) :
    Ensures (s.scrollUpRegion count) (Refines s (s.view.scrollUpRegion count)) := by
  have hlt := h.registers.scroll_lt
  have hle := h.registers.scroll_le
  refine scrollLoop_spec ?_ (fun t ht hrows => ?_) _ h
  · exact fun v => rfl
  · exact scrollUpOnce_spec ht (by omega) (by omega) s.currentStyle

theorem scrollDown_spec (h : s.Sound) (count : ℕ) :
    Ensures (s.scrollDown count) (Refines s (s.view.scrollDown count)) := by
  have hlt := h.registers.scroll_lt
  have hle := h.registers.scroll_le
  refine scrollLoop_spec ?_ (fun t ht hrows => ?_) _ h
  · exact fun v => rfl
  · exact scrollDownOnce_spec ht (by omega) (by omega) s.currentStyle

theorem touchLine_spec (h : s.Sound) (row : ℕ) :
    Ensures (s.visibleLineMut row fun line => some { line with touched := true })
      (Refines s s.view) := by
  have hspec : Ensures (s.visibleLineMut row fun line => some { line with touched := true })
      (Refines s (s.view.editRow row id)) :=
    visibleLineMut_spec h row fun line hline => ⟨{ line with touched := true }, rfl, hline, rfl⟩
  refine hspec.mono fun t ht => ht.congr ?_
  simp only [View.editRow, List.modify_id]

theorem lineFeed_spec (h : s.Sound) : Ensures s.lineFeed (Refines s s.view.lineFeed) := by
  refine Ensures.refines_ite Iff.rfl (fun _ => scrollUpRegion_spec h 1) fun hc => ?_
  have hmoved := h.refines_cursorRow (show s.cursorRow + 1 < s.rows by omega)
  exact hmoved.andThen (touchLine_spec hmoved.sound (s.cursorRow + 1))

/-! ### Printing -/

theorem one_le_terminalCharacterWidth (width : Char → Option (Fin 3)) (c : Char) :
    1 ≤ terminalCharacterWidth width c := Nat.le_max_right ..

theorem terminalCharacterWidth_le (width : Char → Option (Fin 3)) (c : Char) :
    terminalCharacterWidth width c ≤ 2 := by
  rw [terminalCharacterWidth]
  cases width c with
  | none => simp
  | some w =>
    have := w.isLt
    simp
    omega

theorem wrapCursor_spec (h : s.Sound) (w : ℕ) :
    Ensures (s.wrapCursor w) (Refines s (s.view.wrap w)) := by
  refine Ensures.refines_ite Iff.rfl (fun _ => ?_) fun _ => .some h.refl
  refine Ensures.refines_ite Iff.rfl (fun _ => ?_) fun _ => .some ?_
  · have hmoved := h.refines_cursorCol (Nat.zero_le _)
    exact hmoved.andThen (lineFeed_spec hmoved.sound)
  · exact h.refines_cursorCol ((Nat.sub_le ..).trans (Nat.le_succ _))

/-- **Printing a character** does not panic and shows what the abstract terminal shows. -/
theorem printChar_spec (width : Char → Option (Fin 3)) (h : s.Sound) {c : Char}
    (hc : Printable c) : Ensures (s.printChar width c) (Refines s (s.view.printChar width c)) := by
  have hw := one_le_terminalCharacterWidth width c
  have hw' := terminalCharacterWidth_le width c
  rw [printChar, View.printChar, if_neg (by omega)]
  generalize terminalCharacterWidth width c = w at *
  refine (wrapCursor_spec h w).bind fun t ht => ht.andThen ?_
  have hcols : t.cols = s.cols := by
    obtain ⟨grid, row, col, hwrap⟩ := s.view.exists_wrap_eq w
    exact congrArg (fun v => v.cols) (ht.view_eq.trans hwrap)
  have hcol : t.cursorCol < t.cols ∧ t.cursorCol + w ≤ t.cols + 1 := by
    rw [hcols, show t.cursorCol = (s.view.wrap w).cursorCol by rw [← ht.view_eq]; rfl]
    exact View.wrap_cursorCol h.registers.one_le_cols hw hw'
  rw [← ht.view_eq]
  refine (visibleLineMut_spec ht.sound t.cursorRow (f := fun cells =>
    printCells t.modes.insert cells t.cursorCol w c t.currentStyle) fun line hline => ?_).bind
      fun u hu => hu.andThen (.some ?_)
  · refine ⟨_, printCell_spec c t.currentStyle t.modes.insert ?_ hw, ?_, rfl⟩
    · exact hline.length_eq ▸ hcol.1
    · exact hline.print t.modes.insert t.currentStyle hc hcol.1 hw
  · have hreg : u.toRegisters = t.toRegisters := congrArg View.toRegisters hu.view_eq
    refine (hu.sound.refines_cursorCol ?_).congr ?_
    · rw [hreg]
      split <;> omega
    · rw [hu.view_eq]
      rfl

/-! ### Erasing -/

theorem map_clear_cells {line : TerminalLine} {cols : ℕ} (hline : line.Sound cols)
    (style : CellStyle) :
    (line.clearWithStyle style).cells = List.replicate cols (.styledBlank style) := by
  rw [← hline.length_eq]
  exact List.map_const' ..

theorem clearRow_spec (h : s.Sound) (row : ℕ) (style : CellStyle) :
    Ensures (s.visibleLineMut row fun line => some (line.clearWithStyle style))
      (Refines s (s.view.clearRow row style)) := by
  refine visibleLineMut_spec h row fun line hline => ⟨_, rfl, ?_, map_clear_cells hline style⟩
  rw [TerminalLine.Sound, map_clear_cells hline]
  exact CellsSound.replicate_styledBlank s.cols style

theorem clearRows_spec (h : s.Sound) (style : CellStyle) (row count : ℕ) :
    Ensures (s.clearRows style row count) (Refines s (s.view.clearRows style row count)) := by
  induction count generalizing s row with
  | zero => exact .some h.refl
  | succ count ih =>
    refine (clearRow_spec h row style).bind fun t ht => ht.andThen ?_
    have hrest := ih ht.sound (row + 1)
    rwa [ht.view_eq] at hrest

theorem blankCells_spec {line : TerminalLine} {cols col count : ℕ} (hline : line.Sound cols)
    (style : CellStyle) (h : count = 0 ∨ col + count ≤ cols) :
    Ensures (blankCells line col count style) fun line' => line'.Sound cols ∧
      line'.cells = overwriteCells line.cells col (List.replicate count (.styledBlank style)) := by
  have hlen : line.cells.length = cols := hline.length_eq
  rcases h with rfl | h
  · refine ⟨_, rfl, hline, ?_⟩
    rw [List.replicate_zero, overwriteCells_nil]
  · rw [blankCells, fillCells_spec _ (by omega)]
    refine ⟨_, rfl, hline.overwrite (fun cell hcell => ?_) (by simpa using h), rfl⟩
    rw [List.eq_of_mem_replicate hcell]
    exact printable_space

theorem blankRange_spec (h : s.Sound) (row : ℕ) {col count : ℕ} (style : CellStyle)
    (hrange : count = 0 ∨ col + count ≤ s.cols) :
    Ensures (s.visibleLineMut row fun line => blankCells line col count style)
      (Refines s (s.view.editRow row fun cells =>
        overwriteCells cells col (List.replicate count (.styledBlank style)))) :=
  visibleLineMut_spec h row
    (f := fun cells => overwriteCells cells col (List.replicate count (.styledBlank style)))
    fun _ hline => blankCells_spec hline style hrange

theorem blankToCol_spec (h : s.Sound) (row : ℕ) {col count cursorCol : ℕ} (style : CellStyle)
    (hrange : count = 0 ∨ col + count ≤ s.cols) (hcol : cursorCol ≤ s.cols + 1) :
    Ensures ((s.visibleLineMut row fun line => blankCells line col count style).bind
        fun t => some { t with cursorCol })
      (Refines s { s.view.editRow row fun cells =>
        overwriteCells cells col (List.replicate count (.styledBlank style)) with cursorCol }) := by
  refine (blankRange_spec h row style hrange).bind fun t ht => ht.andThen (.some ?_)
  have hreg : t.toRegisters = s.toRegisters := congrArg View.toRegisters ht.view_eq
  refine (ht.sound.refines_cursorCol (by rw [hreg]; exact hcol)).congr ?_
  rw [ht.view_eq]

theorem eraseLine_spec (h : s.Sound) (mode : ℕ) :
    Ensures (s.eraseLine mode) (Refines s (s.view.eraseLine mode)) := by
  have hcols := h.registers.one_le_cols
  rcases mode with - | - | - | mode
  · exact blankToCol_spec h s.cursorRow s.currentStyle (by omega) (by omega)
  · exact blankToCol_spec h s.cursorRow s.currentStyle (by omega) (by omega)
  · exact clearRow_spec h s.cursorRow s.currentStyle
  · exact .some h.refl

theorem map_cells_eq_replicate {lines : List TerminalLine} (cells : List TerminalCell)
    (h : ∀ line ∈ lines, line.cells = cells) :
    lines.map TerminalLine.cells = List.replicate lines.length cells := by
  rw [List.eq_replicate_iff]
  refine ⟨List.length_map .., fun row hrow => ?_⟩
  obtain ⟨line, hline, rfl⟩ := List.mem_map.mp hrow
  exact h line hline

theorem clearScreen_spec (h : s.Sound) : Refines s s.view.clear s.clearScreen := by
  have hlen := h.rows_le_lines
  have hwindow : window s.rows s.clearScreen.lines =
      (window s.rows s.lines).map fun line => line.clearWithStyle s.currentStyle :=
    window_append (by rw [List.length_map]; exact length_window hlen)
  have hsound : ∀ line ∈ s.clearScreen.lines, line.Sound s.cols := by
    intro line hline
    rcases List.mem_append.mp hline with hline | hline
    · exact h.lines_sound line (List.mem_of_mem_take hline)
    · obtain ⟨old, hold, rfl⟩ := List.mem_map.mp hline
      rw [TerminalLine.Sound, map_clear_cells (h.lines_sound old (List.mem_of_mem_drop hold))]
      exact CellsSound.replicate_styledBlank s.cols s.currentStyle
  have hlength : s.clearScreen.lines.length = s.lines.length := by
    simp [clearScreen, visibleStart]
  have href := h.refines_lines _ s.nextLineIndex (hlength ▸ hlen) (hlength ▸ h.lines_le) hsound
  refine href.congr ?_
  rw [hwindow, map_cells_eq_replicate (s.view.blankRow s.currentStyle),
    List.length_map, length_window hlen]
  · rfl
  · intro line hline
    obtain ⟨old, hold, rfl⟩ := List.mem_map.mp hline
    exact map_clear_cells (h.lines_sound old (mem_of_mem_window hold)) s.currentStyle

/-- Pushing blank lines up to the limit. -/
theorem exists_iterate_push_eq (touched : Bool) (style : CellStyle) (n : ℕ) (t : TerminalScreen)
    (h : t.lines.length + n ≤ t.maxLines) :
    ∃ lines nextLineIndex,
      (fun t : TerminalScreen => t.pushBlankLineWithStyle touched style)^[n] t =
        { t with lines := t.lines ++ lines, nextLineIndex } ∧
      lines.length = n ∧
      ∀ line ∈ lines, line.cells = List.replicate t.cols (.styledBlank style) := by
  induction n generalizing t with
  | zero => exact ⟨[], t.nextLineIndex, by simp, rfl, by simp⟩
  | succ n ih =>
    have hpush : t.pushBlankLineWithStyle touched style =
        { t with
          lines := t.lines ++ [⟨t.nextLineIndex, List.replicate t.cols (.styledBlank style), touched⟩]
          nextLineIndex := nextIndex t.nextLineIndex } := by
      have hmax : t.lines.length + 1 - t.maxLines = 0 := by omega
      simp only [pushBlankLineWithStyle, trimCachedLines, List.length_append, List.length_singleton]
      change { t with
        lines := List.drop (t.lines.length + 1 - t.maxLines) _, nextLineIndex := _ } = _
      rw [hmax, List.drop_zero]
    obtain ⟨lines, index, heq, hlen, hcells⟩ := ih (t.pushBlankLineWithStyle touched style) (by
      rw [hpush]
      change (t.lines ++ [_]).length + n ≤ t.maxLines
      rw [List.length_append, List.length_singleton]
      omega)
    rw [hpush] at hcells
    refine ⟨⟨t.nextLineIndex, List.replicate t.cols (.styledBlank style), touched⟩ :: lines, index,
      ?_, by rw [List.length_cons, hlen], ?_⟩
    · rw [Function.iterate_succ_apply, heq, hpush]
      simp only [List.append_assoc, List.singleton_append]
    · intro line hline
      rcases List.mem_cons.mp hline with rfl | hline
      · rfl
      · exact hcells line hline

theorem refill_spec (h : s.Sound) (touched : Bool) : Refines s s.view.clear (s.refill touched) := by
  have hmax := h.rows_le_maxLines
  obtain ⟨lines, index, heq, hlen, hcells⟩ := exists_iterate_push_eq touched s.currentStyle s.rows
    { s with lines := [] } (by simpa [maxLines] using hmax)
  rw [refill, heq]
  have href := h.refines_lines lines index (by omega) (by omega) fun line hline => by
    rw [TerminalLine.Sound, hcells line hline]
    exact CellsSound.replicate_styledBlank s.cols s.currentStyle
  refine href.congr ?_
  rw [window_of_length hlen, map_cells_eq_replicate _ hcells, hlen]
  rfl

/-- The lines are replaced and the cursor is moved. -/
theorem refill_cursor_spec (h : s.Sound) (touched : Bool) {row col : ℕ} (hrow : row < s.rows)
    (hcol : col ≤ s.cols + 1) :
    Refines s { s.view.clear with cursorRow := row, cursorCol := col }
      { s.refill touched with cursorRow := row, cursorCol := col } := by
  have href := refill_spec h touched
  have hreg : (s.refill touched).toRegisters = s.toRegisters :=
    congrArg View.toRegisters href.view_eq
  refine href.trans ((href.sound.refines_cursor (hreg ▸ hrow) (hreg ▸ hcol)).congr ?_)
  rw [href.view_eq]

/-- **Erasing the display.** The home-and-clear shortcut rebuilds the lines and clamps the cursor,
which is in the home position then. -/
theorem eraseDisplay_spec (h : s.Sound)
    (hcut : s.pendingHomeClearCut = true → s.cursorRow = 0 ∧ s.cursorCol = 0) (mode : ℕ) :
    Ensures (s.eraseDisplay mode) (Refines s (s.view.eraseDisplay mode)) := by
  have hrow := h.registers.cursorRow_lt
  have hcol := h.registers.cursorCol_le
  rcases mode with - | - | - | - | mode
  · refine (eraseLine_spec h 0).bind fun t ht => ht.andThen ?_
    have hrows := clearRows_spec ht.sound s.currentStyle (t.cursorRow + 1)
      (t.rows - (t.cursorRow + 1))
    rw [View.eraseDisplay, ← ht.view_eq]
    exact hrows
  · refine (clearRows_spec h s.currentStyle 0 s.cursorRow).bind fun t ht => ht.andThen ?_
    have hline := eraseLine_spec ht.sound 1
    rw [ht.view_eq] at hline
    exact hline
  · refine .some ?_
    by_cases hflag : s.pendingHomeClearCut = true
    · rw [if_pos hflag]
      obtain ⟨hrow0, hcol0⟩ := hcut hflag
      refine (refill_cursor_spec h true (by omega) (by omega)).congr ?_
      rw [show min s.cursorRow (s.rows - 1) = s.cursorRow by omega,
        show min s.cursorCol (s.cols - 1) = s.cursorCol by omega]
      rfl
    · rw [if_neg hflag]
      exact clearScreen_spec h
  · exact .some (refill_cursor_spec h false h.registers.one_le_rows (Nat.zero_le _))
  · exact .some h.refl

end TerminalScreen

end Termd.Screen
